import Tacacs.Lib.Go

/-!
# Text as bytes

What `fmt`, `strconv` and `strings` do to the few texts a protocol of lines needs: numbers in
decimal, fields between separators, and space around a text.

A separator that cannot stand in what follows it marks one place (`append_cons_inj`), and digits
are never separators; the round trips of formatted lines are these two facts over and over.
-/

set_option autoImplicit false

namespace GoText

open GoSem

/-! ## Decimal numbers -/

/-- `%d` of a number that is not negative. -/
def decimal (n : Nat) : Bytes := (Nat.toDigits 10 n).map fun c => UInt8.ofNat c.toNat

def isDigit (b : UInt8) : Bool := 0x30 ≤ b && b ≤ 0x39

/-- The number that digits stand for. -/
def value (ds : Bytes) : Nat := ds.foldl (fun n b => 10 * n + (b.toNat - 0x30)) 0

theorem isDigit_iff {b : UInt8} : isDigit b ↔ 0x30 ≤ b.toNat ∧ b.toNat ≤ 0x39 := by
  simp [isDigit, UInt8.le_iff_toNat_le]

/-- A digit is one byte, the same as a character and as a byte. -/
theorem toNat_ofNat_of_isDigit {c : Char} (h : c.isDigit) :
    (UInt8.ofNat c.toNat).toNat = c.toNat ∧ 0x30 ≤ c.toNat ∧ c.toNat ≤ 0x39 := by
  simp only [Char.isDigit, Bool.and_eq_true, decide_eq_true_eq, ge_iff_le,
    UInt32.le_iff_toNat_le] at h
  have hc : 48 ≤ c.toNat ∧ c.toNat ≤ 57 := h
  refine ⟨?_, hc.1, hc.2⟩
  rw [UInt8.toNat_ofNat']
  omega

theorem isDigit_of_mem_decimal {n : Nat} {b : UInt8} (h : b ∈ decimal n) : isDigit b := by
  obtain ⟨c, hc, rfl⟩ := List.mem_map.mp h
  obtain ⟨hnat, hlow, hhigh⟩ :=
    toNat_ofNat_of_isDigit (Nat.isDigit_of_mem_toDigits (by decide) (by decide) hc)
  exact isDigit_iff.mpr ⟨by omega, by omega⟩

theorem not_mem_decimal {b : UInt8} (hb : isDigit b = false) (n : Nat) : b ∉ decimal n := by
  intro h
  rw [isDigit_of_mem_decimal h] at hb
  exact absurd hb (by decide)

theorem decimal_ne_nil (n : Nat) : decimal n ≠ [] := by
  simp [decimal, Nat.toDigits_ne_nil]

theorem length_decimal_le {n k : Nat} (hk : 0 < k) (h : n < 10 ^ k) : (decimal n).length ≤ k := by
  rw [decimal, List.length_map]
  exact (Nat.length_toDigits_le_iff (by decide) hk).mpr h

theorem value_decimal (n : Nat) : value (decimal n) = n := by
  -- the two folds agree digit by digit
  have hfold : ∀ (cs : List Char) (acc : Nat), (∀ c ∈ cs, c.isDigit) →
      (cs.map fun c => UInt8.ofNat c.toNat).foldl (fun n b => 10 * n + (b.toNat - 0x30)) acc =
        Nat.ofDigitChars 10 cs acc := by
    intro cs
    induction cs with
    | nil => intro acc _; rfl
    | cons c cs ih =>
      intro acc hcs
      have hc := toNat_ofNat_of_isDigit (hcs c (List.mem_cons_self ..))
      rw [List.map_cons, List.foldl_cons, ih _ fun d hd => hcs d (List.mem_cons_of_mem c hd), hc.1]
      rfl
  rw [value, decimal, hfold _ 0 fun c hc => Nat.isDigit_of_mem_toDigits (by decide) (by decide) hc]
  exact Nat.ofDigitChars_ten_toDigits

theorem decimal_inj {m n : Nat} : decimal m = decimal n ↔ m = n := by
  constructor
  · intro h
    rw [← value_decimal m, h, value_decimal]
  · rintro rfl
    rfl

/-- Digits, and at least one of them. -/
def digits? (ds : Bytes) : Option Nat :=
  if ds ≠ [] ∧ ds.all isDigit then some (value ds) else none

/-- `strconv.Atoi` with an `int` of 64 bits; `none` is any of its errors. -/
def atoi : Bytes → Option Int
  | 0x2d :: ds => (digits? ds).bind fun n => if n ≤ 2 ^ 63 then some (-(n : Int)) else none
  | 0x2b :: ds => (digits? ds).bind fun n => if n < 2 ^ 63 then some (n : Int) else none
  | ds => (digits? ds).bind fun n => if n < 2 ^ 63 then some (n : Int) else none

/-- `%d` of an `int`. -/
def decimalInt (i : Int) : Bytes := if i < 0 then 0x2d :: decimal i.natAbs else decimal i.natAbs

theorem decimalInt_of_pos {n : Int} (h : 0 < n) : decimalInt n = decimal n.natAbs :=
  if_neg (Int.not_lt.mpr (Int.le_of_lt h))

theorem digits?_decimal (n : Nat) : digits? (decimal n) = some n := by
  have hall : (decimal n).all isDigit := List.all_eq_true.mpr fun b hb => isDigit_of_mem_decimal hb
  rw [digits?, if_pos ⟨decimal_ne_nil n, hall⟩, value_decimal]

theorem atoi_decimal {n : Nat} (h : n < 2 ^ 63) : atoi (decimal n) = some (n : Int) := by
  have hdigits : ((digits? (decimal n)).bind fun n => if n < 2 ^ 63 then some (n : Int) else none) =
      some (n : Int) := by
    rw [digits?_decimal, Option.bind_some, if_pos h]
  unfold atoi
  split
  · next ds hds =>
    exact absurd (hds ▸ List.mem_cons_self ..) (not_mem_decimal (b := 0x2d) (by decide) n)
  · next ds hds =>
    exact absurd (hds ▸ List.mem_cons_self ..) (not_mem_decimal (b := 0x2b) (by decide) n)
  · exact hdigits

/-! ## Hexadecimal digits -/

/-- `"0123456789abcdef"[n]`. -/
def hexDigit (n : Nat) : UInt8 := UInt8.ofNat (if n < 10 then 0x30 + n else 0x57 + n)

/-- The number a digit stands for, in either case. -/
def hexValue (b : UInt8) : Option Nat :=
  if 0x30 ≤ b ∧ b ≤ 0x39 then some (b.toNat - 0x30)
  else if 0x61 ≤ b ∧ b ≤ 0x66 then some (b.toNat - 0x57)
  else if 0x41 ≤ b ∧ b ≤ 0x46 then some (b.toNat - 0x37)
  else none

theorem hexValue_hexDigit {n : Nat} (h : n < 16) : hexValue (hexDigit n) = some n := by
  decide +revert

/-! ## Separators -/

/-- The last separator of a text is where a part without separators begins. -/
theorem append_cons_inj {α : Type} {sep : α} {a b u v : List α} (hu : sep ∉ u) (hv : sep ∉ v) :
    a ++ sep :: u = b ++ sep :: v ↔ a = b ∧ u = v := by
  constructor
  · intro h
    rcases List.append_eq_append_iff.mp h with ⟨w, hb, hw⟩ | ⟨w, ha, hw⟩
    · cases w with
      | nil => simp_all
      | cons x w =>
        obtain ⟨-, rfl⟩ := List.cons.inj hw
        exact absurd (by simp) hu
    · cases w with
      | nil => simp_all
      | cons x w =>
        obtain ⟨-, rfl⟩ := List.cons.inj hw
        exact absurd (by simp) hv
  · rintro ⟨rfl, rfl⟩
    rfl

/-- The first separator of a text is where a part without separators ends. -/
theorem append_cons_inj_left {α : Type} {sep : α} {a b u v : List α} (ha : sep ∉ a)
    (hb : sep ∉ b) : a ++ sep :: u = b ++ sep :: v ↔ a = b ∧ u = v := by
  have hrev : a ++ sep :: u = b ++ sep :: v ↔
      u.reverse ++ sep :: a.reverse = v.reverse ++ sep :: b.reverse := by
    rw [← List.reverse_inj]
    simp
  rw [hrev, append_cons_inj (by simpa using ha) (by simpa using hb), List.reverse_inj,
    List.reverse_inj, and_comm]

/-- A text is cut in one place into a part that does not end in a digit and digits. -/
theorem append_digits_inj {a b u v : Bytes} (ha : ∀ x ∈ a.getLast?, isDigit x = false)
    (hb : ∀ x ∈ b.getLast?, isDigit x = false) (hu : ∀ x ∈ u, isDigit x)
    (hv : ∀ x ∈ v, isDigit x) : a ++ u = b ++ v ↔ a = b ∧ u = v := by
  -- what one part has more than the other are digits, and it ends in them
  have hmore : ∀ {c w t : Bytes}, (∀ x ∈ (c ++ w).getLast?, isDigit x = false) →
      (∀ x ∈ w ++ t, isDigit x) → w = [] := by
    intro c w t hlast hdigits
    by_contra hw
    have hend : (c ++ w).getLast? = some (w.getLast hw) := by
      rw [List.getLast?_append_of_ne_nil c hw, List.getLast?_eq_some_getLast hw]
    have hx := hlast _ hend
    rw [hdigits _ (List.mem_append_left t (List.getLast_mem hw))] at hx
    exact absurd hx (by decide)
  constructor
  · intro h
    rcases List.append_eq_append_iff.mp h with ⟨w, rfl, rfl⟩ | ⟨w, rfl, rfl⟩
    · simp [hmore hb hu]
    · simp [hmore ha hv]
  · rintro ⟨rfl, rfl⟩
    rfl

theorem mem_intercalate {α : Type} {sep x : α} {ws : List (List α)}
    (h : x ∈ [sep].intercalate ws) : x = sep ∨ ∃ w ∈ ws, x ∈ w := by
  induction ws with
  | nil => simp at h
  | cons w ws ih =>
    by_cases hws : ws = []
    · subst hws
      rw [List.intercalate_singleton] at h
      exact Or.inr ⟨w, List.mem_cons_self .., h⟩
    · rw [List.intercalate_cons_of_ne_nil hws, List.mem_append, List.mem_append,
        List.mem_singleton] at h
      rcases h with (h | h) | h
      · exact Or.inr ⟨w, List.mem_cons_self .., h⟩
      · exact Or.inl h
      · rcases ih h with h | ⟨v, hv, hx⟩
        · exact Or.inl h
        · exact Or.inr ⟨v, List.mem_cons_of_mem w hv, hx⟩

/-- Words of at most `k` letters, each counted with a separator after it. -/
theorem length_intercalate_lt {α : Type} (sep : α) {ws : List (List α)} {k : Nat}
    (h : ∀ w ∈ ws, w.length ≤ k) (hne : ws ≠ []) :
    ([sep].intercalate ws).length < ws.length * (k + 1) := by
  induction ws with
  | nil => exact absurd rfl hne
  | cons w ws ih =>
    have hw := h w (List.mem_cons_self ..)
    rw [List.length_cons, Nat.succ_mul]
    by_cases hws : ws = []
    · subst hws
      rw [List.intercalate_singleton]
      omega
    · have hrest := ih (fun v hv => h v (List.mem_cons_of_mem w hv)) hws
      rw [List.intercalate_cons_of_ne_nil hws, List.length_append, List.length_append,
        List.length_singleton]
      omega

/-! ## White space -/

/-- The characters of `unicode.IsSpace`, in UTF-8. -/
def spaces : List Bytes :=
  [[0x09], [0x0a], [0x0b], [0x0c], [0x0d], [0x20], [0xc2, 0x85], [0xc2, 0xa0], [0xe1, 0x9a, 0x80],
    [0xe2, 0x80, 0x80], [0xe2, 0x80, 0x81], [0xe2, 0x80, 0x82], [0xe2, 0x80, 0x83],
    [0xe2, 0x80, 0x84], [0xe2, 0x80, 0x85], [0xe2, 0x80, 0x86], [0xe2, 0x80, 0x87],
    [0xe2, 0x80, 0x88], [0xe2, 0x80, 0x89], [0xe2, 0x80, 0x8a], [0xe2, 0x80, 0xa8],
    [0xe2, 0x80, 0xa9], [0xe2, 0x80, 0xaf], [0xe2, 0x81, 0x9f], [0xe3, 0x80, 0x80]]

/-- Take words off the front as long as there are any; each takes at least one byte, and `fuel`
    is the number of bytes. -/
def dropWords (words : List Bytes) : Nat → Bytes → Bytes
  | 0, s => s
  | fuel + 1, s =>
      match words.find? fun w => w.isPrefixOf s with
      | some w => dropWords words fuel (s.drop w.length)
      | none => s

/-- `strings.TrimSpace`. -/
def trimSpace (s : Bytes) : Bytes :=
  let s := dropWords spaces s.length s
  (dropWords (spaces.map List.reverse) s.length s.reverse).reverse

example : trimSpace [0x20, 0xc2, 0xa0, 0x41, 0x20, 0x42, 0x0a] = [0x41, 0x20, 0x42] := by decide

end GoText
