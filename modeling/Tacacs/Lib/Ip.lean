import Tacacs.Lib.Text

/-!
# IP addresses as text

`net.IP` is a slice of 4 or of 16 bytes, and an IPv4 address can be either: `To4` and `Equal`
identify the two. `String` prints IPv4 in dotted decimal and IPv6 in groups, with the longest run
of zeros left out. What a protocol of lines needs of the text is that it is short and that no
separator stands in it (`isIPChar_of_mem_ipString`, `length_ipString_le`).
-/

set_option autoImplicit false

namespace GoNet

open GoSem GoText

/-! ## The two forms of an IPv4 address -/

def v4InV6Prefix : Bytes := List.replicate 10 0 ++ [0xff, 0xff]

/-- `IP.To4`; `none` is nil. -/
def to4 (ip : Bytes) : Option Bytes :=
  if ip.length = 4 then some ip
  else if ip.length = 16 ∧ ip.take 12 = v4InV6Prefix then some (ip.drop 12)
  else none

/-- `IP.Equal`. -/
def equal (ip x : Bytes) : Bool :=
  if ip.length = x.length then ip = x
  else if ip.length = 4 ∧ x.length = 16 then x.take 12 = v4InV6Prefix ∧ ip = x.drop 12
  else if ip.length = 16 ∧ x.length = 4 then ip.take 12 = v4InV6Prefix ∧ ip.drop 12 = x
  else false

theorem to4_four {ip : Bytes} (h : ip.length = 4) : to4 ip = some ip := if_pos h

theorem to4_mapped {ip : Bytes} (h : ip.length = 16) (hmapped : ip.take 12 = v4InV6Prefix) :
    to4 ip = some (ip.drop 12) := by
  rw [to4, if_neg (by omega), if_pos ⟨h, hmapped⟩]

theorem to4_eq_of_equal {ip x : Bytes} (h : equal ip x) : to4 ip = to4 x := by
  unfold equal at h
  split at h
  · rw [of_decide_eq_true h]
  · split at h
    · next hlen =>
      obtain ⟨hmapped, hip⟩ := of_decide_eq_true h
      rw [to4_four hlen.1, to4_mapped hlen.2 hmapped, hip]
    · split at h
      · next hlen =>
        obtain ⟨hmapped, hx⟩ := of_decide_eq_true h
        rw [to4_mapped hlen.1 hmapped, to4_four hlen.2, hx]
      · cases h

/-! ## Printing -/

def hexDigit (n : Nat) : UInt8 := if n < 10 then byteOf (0x30 + n) else byteOf (0x57 + n)

/-- A 16-bit number in hexadecimal, without leading zeros. -/
def hex (x : Nat) : Bytes :=
  (if x ≥ 0x1000 then [hexDigit ((x >>> 12) % 16)] else []) ++
  (if x ≥ 0x100 then [hexDigit ((x >>> 8) % 16)] else []) ++
  (if x ≥ 0x10 then [hexDigit ((x >>> 4) % 16)] else []) ++ [hexDigit (x % 16)]

/-- The groups of an IPv6 address. -/
def groups : Bytes → List Nat
  | hi :: lo :: rest => be16 hi lo :: groups rest
  | _ => []

def runLength : Option (Nat × Nat) → Nat
  | some (start, stop) => stop - start
  | none => 0

/-- One turn of the search: the run of zeros from `i` on, if it is longer than what was found. -/
def longerRun (gs : List Nat) (run : Option (Nat × Nat)) (i : Nat) : Option (Nat × Nat) :=
  let l := ((gs.drop i).takeWhile (· == 0)).length
  if l ≥ 2 ∧ l > runLength run then some (i, i + l) else run

/-- Where the longest run of at least two zeros begins and ends; the first one of that length. -/
def zeroRun (gs : List Nat) : Option (Nat × Nat) :=
  (List.range gs.length).foldl (longerRun gs) none

def joinGroups (gs : List Nat) : Bytes := [0x3a].intercalate (gs.map hex)

def ipv6String (gs : List Nat) : Bytes :=
  match zeroRun gs with
  | none => joinGroups gs
  | some (start, stop) => joinGroups (gs.take start) ++ [0x3a, 0x3a] ++ joinGroups (gs.drop stop)

/-- The text of an address of 4 or 16 bytes. -/
def addrString (ip : Bytes) : Bytes :=
  match to4 ip with
  | some p4 => [0x2e].intercalate (p4.map fun b => decimal b.toNat)
  | none => ipv6String (groups ip)

/-- `hexString`: two digits a byte. -/
def hexString (bs : Bytes) : Bytes :=
  bs.flatMap fun b => [hexDigit (b.toNat / 16), hexDigit (b.toNat % 16)]

/-- `IP.String`; what is no address is printed as `<nil>`, or in hexadecimal after a `?`. -/
def ipString (ip : Bytes) : Bytes :=
  if ip.length = 4 ∨ ip.length = 16 then addrString ip
  else if ip = [] then [0x3c, 0x6e, 0x69, 0x6c, 0x3e]
  else 0x3f :: hexString ip

example : ipString [192, 0, 2, 1] = "192.0.2.1".toList.map fun c => byteOf c.toNat := by decide

example : ipString ([0x20, 0x01, 0x0d, 0xb8] ++ List.replicate 11 0 ++ [1])
    = "2001:db8::1".toList.map fun c => byteOf c.toNat := by decide

/-! ## What the text is made of -/

/-- Digits, the letters `a` to `f`, the full stop and the colon. -/
def isIPChar (b : UInt8) : Bool :=
  isDigit b || (0x61 ≤ b && b ≤ 0x66) || b == 0x2e || b == 0x3a

theorem isIPChar_hexDigit (n : Nat) : isIPChar (hexDigit (n % 16)) := by
  have hall : ∀ k < 16, isIPChar (hexDigit k) := by decide
  exact hall (n % 16) (Nat.mod_lt n (by decide))

theorem isIPChar_of_isDigit {b : UInt8} (h : isDigit b) : isIPChar b := by
  simp [isIPChar, h]

theorem isIPChar_of_mem_hex {x : Nat} {b : UInt8} (h : b ∈ hex x) : isIPChar b := by
  simp only [hex, List.mem_append, List.mem_ite_nil_right, List.mem_singleton] at h
  rcases h with ((⟨-, rfl⟩ | ⟨-, rfl⟩) | ⟨-, rfl⟩) | rfl
  all_goals exact isIPChar_hexDigit _

theorem length_hex_le (x : Nat) : (hex x).length ≤ 4 := by
  unfold hex
  split <;> split <;> split <;> simp

theorem isIPChar_of_mem_joinGroups {gs : List Nat} {b : UInt8} (h : b ∈ joinGroups gs) :
    isIPChar b := by
  rcases mem_intercalate h with rfl | ⟨w, hw, hb⟩
  · decide
  · obtain ⟨x, -, rfl⟩ := List.mem_map.mp hw
    exact isIPChar_of_mem_hex hb

theorem length_joinGroups_le (gs : List Nat) : (joinGroups gs).length ≤ gs.length * 5 - 1 := by
  by_cases hgs : gs = []
  · subst hgs
    simp [joinGroups]
  · have hwords : ∀ w ∈ gs.map hex, w.length ≤ 4 := by
      intro w hw
      obtain ⟨x, -, rfl⟩ := List.mem_map.mp hw
      exact length_hex_le x
    have hlt := length_intercalate_lt 0x3a hwords (by simpa using hgs)
    rw [List.length_map] at hlt
    exact Nat.le_pred_of_lt hlt

/-- A run that is left out has at least two groups, all of them there. -/
theorem zeroRun_bounds {gs : List Nat} {start stop : Nat} (h : zeroRun gs = some (start, stop)) :
    start + 2 ≤ stop ∧ stop ≤ gs.length := by
  have hfold : ∀ (is : List Nat) (run : Option (Nat × Nat)),
      (∀ s e, run = some (s, e) → s + 2 ≤ e ∧ e ≤ gs.length) →
      ∀ s e, is.foldl (longerRun gs) run = some (s, e) → s + 2 ≤ e ∧ e ≤ gs.length := by
    intro is
    induction is with
    | nil => exact fun run hrun s e h => hrun s e h
    | cons i is ih =>
      intro run hrun
      refine ih _ ?_
      intro s e hse
      have hzeros := (List.takeWhile_sublist (· == 0) (l := gs.drop i)).length_le
      rw [List.length_drop] at hzeros
      unfold longerRun at hse
      dsimp only at hse
      by_cases hl : ((gs.drop i).takeWhile (· == 0)).length ≥ 2 ∧
          ((gs.drop i).takeWhile (· == 0)).length > runLength run
      · rw [if_pos hl] at hse
        obtain ⟨rfl, rfl⟩ := Prod.mk.inj (Option.some.inj hse)
        omega
      · rw [if_neg hl] at hse
        exact hrun s e hse
  exact hfold (List.range gs.length) none (by simp) start stop h

theorem isIPChar_of_mem_ipv6String {gs : List Nat} {b : UInt8} (h : b ∈ ipv6String gs) :
    isIPChar b := by
  unfold ipv6String at h
  split at h
  · exact isIPChar_of_mem_joinGroups h
  · rcases List.mem_append.mp h with h | h
    · rcases List.mem_append.mp h with h | h
      · exact isIPChar_of_mem_joinGroups h
      · simp only [List.mem_cons, List.not_mem_nil, or_false, or_self] at h
        subst h
        decide
    · exact isIPChar_of_mem_joinGroups h

theorem length_ipv6String_le {gs : List Nat} (hgs : gs.length = 8) :
    (ipv6String gs).length ≤ 39 := by
  unfold ipv6String
  split
  · have hle := length_joinGroups_le gs
    omega
  · next start stop hrun =>
    have hbounds := zeroRun_bounds hrun
    have hleft := length_joinGroups_le (gs.take start)
    have hright := length_joinGroups_le (gs.drop stop)
    rw [List.length_take] at hleft
    rw [List.length_drop] at hright
    rw [List.length_append, List.length_append]
    simp only [List.length_cons, List.length_nil]
    omega

theorem length_groups : ∀ ip : Bytes, (groups ip).length = ip.length / 2
  | [] => rfl
  | [_] => by simp [groups]
  | _ :: _ :: rest => by
      rw [groups, List.length_cons, length_groups rest, List.length_cons, List.length_cons]
      omega

theorem length_to4 {ip p4 : Bytes} (h : to4 ip = some p4) : p4.length = 4 := by
  unfold to4 at h
  split at h
  · next hlen => exact Option.some.inj h ▸ hlen
  · split at h
    · next hlen =>
      rw [← Option.some.inj h, List.length_drop, hlen.1]
    · cases h

theorem ipString_eq {ip : Bytes} (h : ip.length = 4 ∨ ip.length = 16) :
    ipString ip = addrString ip := if_pos h

theorem isIPChar_of_mem_ipString {ip : Bytes} (hip : ip.length = 4 ∨ ip.length = 16) {b : UInt8}
    (h : b ∈ ipString ip) : isIPChar b := by
  rw [ipString_eq hip] at h
  unfold addrString at h
  split at h
  · rcases mem_intercalate h with rfl | ⟨w, hw, hb⟩
    · decide
    · obtain ⟨x, -, rfl⟩ := List.mem_map.mp hw
      exact isIPChar_of_isDigit (isDigit_of_mem_decimal hb)
  · exact isIPChar_of_mem_ipv6String h

theorem not_mem_ipString {b : UInt8} (hb : isIPChar b = false) {ip : Bytes}
    (hip : ip.length = 4 ∨ ip.length = 16) : b ∉ ipString ip := by
  intro h
  rw [isIPChar_of_mem_ipString hip h] at hb
  cases hb

theorem length_ipString_le {ip : Bytes} (h : ip.length = 4 ∨ ip.length = 16) :
    (ipString ip).length ≤ 39 := by
  rw [ipString_eq h]
  unfold addrString
  split
  · next p4 hp4 =>
    have hlen := length_to4 hp4
    have hwords : ∀ w ∈ p4.map fun b => decimal b.toNat, w.length ≤ 3 := by
      intro w hw
      obtain ⟨x, -, rfl⟩ := List.mem_map.mp hw
      exact length_decimal_le (by decide) (x.toNat_lt.trans (by decide))
    have hne : p4.map (fun b => decimal b.toNat) ≠ [] := by
      intro hnil
      rw [List.map_eq_nil_iff.mp hnil] at hlen
      cases hlen
    have hlt := length_intercalate_lt 0x2e hwords hne
    rw [List.length_map, hlen] at hlt
    omega
  · next hnone =>
    have h16 : ip.length = 16 := by
      rcases h with h | h
      · simp [to4, h] at hnone
      · exact h
    exact length_ipv6String_le (by rw [length_groups, h16])

end GoNet
