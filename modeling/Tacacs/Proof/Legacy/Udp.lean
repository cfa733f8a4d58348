import Tacacs.Legacy.Udp
import Tacacs.Lib.Format

/-!
# The datagrams of original TACACS

Every byte string that is long enough is a datagram, and the packet it decodes to has all of it:
`unmarshalBinary` realises the format of a fixed header followed by data (`UDPSimple.realises`,
`UDPExtended.realises`). It does not look at the version, so the version is no part of the format.

`User` and `Password` cut the data at one place, the length of the user name, so that the length
of the password is carried and never used.
-/

set_option autoImplicit false

namespace Tacacs
namespace Proof
namespace Legacy

open GoSem Wire
open Tacacs.Legacy

/-! ## User and password -/

theorem userOf_eq (userLen : UInt8) (data : Bytes) :
    userOf userLen data = .ok (data.take userLen.toNat) := by
  unfold userOf
  dsimp only
  split
  · next h =>
    rw [List.take_of_length_le (by omega)]
    exact slice_eq [] [] (by simp) rfl (by simp)
  · next h =>
    have hlen : (data.take userLen.toNat).length = userLen.toNat :=
      List.length_take_of_le (by omega)
    exact slice_eq [] (data.drop userLen.toNat) (by simp) rfl (by omega)

theorem passwordOf_eq (userLen : UInt8) (data : Bytes) :
    passwordOf userLen data = .ok (data.drop userLen.toNat) := by
  unfold passwordOf
  dsimp only
  split
  · next h => rw [List.drop_of_length_le (by omega)]
  · next h =>
    have hlen : (data.take userLen.toNat).length = userLen.toNat :=
      List.length_take_of_le (by omega)
    refine slice_eq (data.take userLen.toNat) [] (by simp) hlen.symm ?_
    rw [List.length_drop]
    omega

/-! ## The two forms on the wire -/

namespace UDPSimple

def header (p : UDPSimple) : Bytes :=
  [p.version, p.type] ++ be16Bytes p.nonce ++ [p.userLenOrResponse, p.pwLenOrReason]

theorem length_header (p : UDPSimple) : (header p).length = udpHeaderLenSimple := rfl

def bytes (p : UDPSimple) : Bytes := header p ++ p.data

theorem unmarshal_bytes (p : UDPSimple) : UDPSimple.unmarshalBinary (bytes p) = .ok p := by
  have hlen : ¬ (bytes p).length < udpHeaderLenSimple := by
    simp [bytes, header, be16Bytes, udpHeaderLenSimple]
  have hnonce : (slice (bytes p) 2 4 : Go GoError Bytes) = .ok (be16Bytes p.nonce) :=
    slice_append_left rfl p.data
  have hdata : (slice (bytes p) 6 (bytes p).length : Go GoError Bytes) = .ok p.data :=
    slice_append_right p.data rfl rfl
  have h0 : (byteAt (bytes p) 0 : Go GoError UInt8) = .ok p.version := rfl
  have h1 : (byteAt (bytes p) 1 : Go GoError UInt8) = .ok p.type := rfl
  have h4 : (byteAt (bytes p) 4 : Go GoError UInt8) = .ok p.userLenOrResponse := rfl
  have h5 : (byteAt (bytes p) 5 : Go GoError UInt8) = .ok p.pwLenOrReason := rfl
  rw [UDPSimple.unmarshalBinary, if_neg hlen]
  simp only [h0, h1, hnonce, h4, h5, hdata, ok_bind, uint16At_be16Bytes]
  rfl

theorem exists_bytes {b : Bytes} (h : udpHeaderLenSimple ≤ b.length) : ∃ p, b = bytes p := by
  obtain ⟨head, data, rfl, hhead⟩ := exists_split b 6 h
  match head, hhead with
  | [version, type, n0, n1, userLen, pwLen], _ =>
    obtain ⟨nonce, hnonce⟩ := exists_be16Bytes (s := [n0, n1]) rfl
    refine ⟨⟨version, type, nonce, userLen, pwLen, data⟩, ?_⟩
    rw [bytes, header, ← hnonce]
    rfl

theorem marshal_bytes {p : UDPSimple} (h : p.version = udpVersionSimple) :
    p.marshalBinary = .ok (bytes p) := by
  rw [UDPSimple.marshalBinary, if_neg (not_not.mpr h), stores_bind_stores, stores_bind_stores]
  · exact stores_copyAt (header p) p.data rfl rfl
  all_goals rfl

/-- The format of the datagrams that are decoded. -/
def format : Format UDPSimple where
  Fits _ := True
  bytes := bytes

theorem realises : Realises format (fun p => .ok (bytes p)) UDPSimple.unmarshalBinary := by
  refine Realises.of_cases (fun p => Or.inl ⟨trivial, rfl⟩) (fun p _ => unmarshal_bytes p) ?_
  intro b
  by_cases hlen : b.length < udpHeaderLenSimple
  · exact Or.inr ⟨_, if_pos hlen⟩
  · obtain ⟨p, rfl⟩ := exists_bytes (Nat.not_lt.mp hlen)
    exact Or.inl ⟨p, trivial, rfl⟩

end UDPSimple

namespace UDPExtended

def header (p : UDPExtended) : Bytes :=
  [p.version, p.type] ++ (be16Bytes p.nonce ++ ([p.userLen, p.pwLen, p.response, p.reason] ++
    (be32Bytes p.result1 ++ (p.destHost.bytes ++ (be16Bytes p.destPort ++ (be16Bytes p.line ++
      (be32Bytes p.result2 ++ be16Bytes p.result3)))))))

theorem length_header (p : UDPExtended) : (header p).length = udpHeaderLenExtended := rfl

def bytes (p : UDPExtended) : Bytes := header p ++ p.data

theorem quadAt_bytes (q : Quad) : quadAt q.bytes = .ok q := rfl

theorem unmarshal_bytes (p : UDPExtended) : UDPExtended.unmarshalBinary (bytes p) = .ok p := by
  have hlen : ¬ (bytes p).length < udpHeaderLenExtended := by
    have hle : (header p).length ≤ (bytes p).length := by simp [bytes]
    exact Nat.not_lt.mpr hle
  have hcut : ∀ {lo hi : Nat} {s : Bytes},
      (slice (header p) lo hi : Go GoError Bytes) = .ok s →
        (slice (bytes p) lo hi : Go GoError Bytes) = .ok s := fun h => slice_append_left h p.data
  have hnonce : (slice (bytes p) 2 4 : Go GoError Bytes) = .ok (be16Bytes p.nonce) := hcut rfl
  have hresult1 : (slice (bytes p) 8 12 : Go GoError Bytes) = .ok (be32Bytes p.result1) := hcut rfl
  have hhost : (slice (bytes p) 12 16 : Go GoError Bytes) = .ok p.destHost.bytes := hcut rfl
  have hport : (slice (bytes p) 16 18 : Go GoError Bytes) = .ok (be16Bytes p.destPort) := hcut rfl
  have hline : (slice (bytes p) 18 20 : Go GoError Bytes) = .ok (be16Bytes p.line) := hcut rfl
  have hresult2 : (slice (bytes p) 20 24 : Go GoError Bytes) = .ok (be32Bytes p.result2) :=
    hcut rfl
  have hresult3 : (slice (bytes p) 24 26 : Go GoError Bytes) = .ok (be16Bytes p.result3) :=
    hcut rfl
  have hdata : (slice (bytes p) 26 (bytes p).length : Go GoError Bytes) = .ok p.data :=
    slice_append_right p.data rfl rfl
  have h0 : (byteAt (bytes p) 0 : Go GoError UInt8) = .ok p.version := rfl
  have h1 : (byteAt (bytes p) 1 : Go GoError UInt8) = .ok p.type := rfl
  have h4 : (byteAt (bytes p) 4 : Go GoError UInt8) = .ok p.userLen := rfl
  have h5 : (byteAt (bytes p) 5 : Go GoError UInt8) = .ok p.pwLen := rfl
  have h6 : (byteAt (bytes p) 6 : Go GoError UInt8) = .ok p.response := rfl
  have h7 : (byteAt (bytes p) 7 : Go GoError UInt8) = .ok p.reason := rfl
  rw [UDPExtended.unmarshalBinary, if_neg hlen]
  simp only [h0, h1, hnonce, h4, h5, h6, h7, hresult1, hhost, hport, hline, hresult2, hresult3,
    hdata, ok_bind, uint16At_be16Bytes, uint32At_be32Bytes, quadAt_bytes]
  rfl

theorem exists_bytes {b : Bytes} (h : udpHeaderLenExtended ≤ b.length) : ∃ p, b = bytes p := by
  -- the header field by field, from the left
  obtain ⟨head, data, rfl, hhead⟩ := exists_split b 26 h
  obtain ⟨labels, head, rfl, hlabels, hhead⟩ := exists_split_add (m := 2) (n := 24) hhead
  obtain ⟨nonce, head, rfl, hnonce, hhead⟩ := exists_split_add (m := 2) (n := 22) hhead
  obtain ⟨lens, head, rfl, hlens, hhead⟩ := exists_split_add (m := 4) (n := 18) hhead
  obtain ⟨result1, head, rfl, hresult1, hhead⟩ := exists_split_add (m := 4) (n := 14) hhead
  obtain ⟨host, head, rfl, hhost, hhead⟩ := exists_split_add (m := 4) (n := 10) hhead
  obtain ⟨port, head, rfl, hport, hhead⟩ := exists_split_add (m := 2) (n := 8) hhead
  obtain ⟨line, head, rfl, hline, hhead⟩ := exists_split_add (m := 2) (n := 6) hhead
  obtain ⟨result2, result3, rfl, hresult2, hresult3⟩ :=
    exists_split_add (m := 4) (n := 2) hhead
  obtain ⟨nonce, rfl⟩ := exists_be16Bytes hnonce
  obtain ⟨result1, rfl⟩ := exists_be32Bytes hresult1
  obtain ⟨port, rfl⟩ := exists_be16Bytes hport
  obtain ⟨line, rfl⟩ := exists_be16Bytes hline
  obtain ⟨result2, rfl⟩ := exists_be32Bytes hresult2
  obtain ⟨result3, rfl⟩ := exists_be16Bytes hresult3
  match labels, hlabels, lens, hlens, host, hhost with
  | [version, type], _, [userLen, pwLen, response, reason], _, [b0, b1, b2, b3], _ =>
    refine ⟨⟨version, type, nonce, userLen, pwLen, response, reason, result1, ⟨b0, b1, b2, b3⟩,
      port, line, result2, result3, data⟩, ?_⟩
    simp [bytes, header, Quad.bytes]

theorem marshal_bytes {p : UDPExtended} (h : p.version = udpVersionExtended) :
    p.marshalBinary = .ok (bytes p) := by
  rw [UDPExtended.marshalBinary, if_neg (not_not.mpr h)]
  -- nine writes side by side are one write of the header
  rw [stores_bind_stores, stores_bind_stores, stores_bind_stores, stores_bind_stores,
    stores_bind_stores, stores_bind_stores, stores_bind_stores, stores_bind_stores]
  · exact stores_copyAt (header p) p.data rfl rfl
  all_goals rfl

def format : Format UDPExtended where
  Fits _ := True
  bytes := bytes

theorem realises : Realises format (fun p => .ok (bytes p)) UDPExtended.unmarshalBinary := by
  refine Realises.of_cases (fun p => Or.inl ⟨trivial, rfl⟩) (fun p _ => unmarshal_bytes p) ?_
  intro b
  by_cases hlen : b.length < udpHeaderLenExtended
  · exact Or.inr ⟨_, if_pos hlen⟩
  · obtain ⟨p, rfl⟩ := exists_bytes (Nat.not_lt.mp hlen)
    exact Or.inl ⟨p, trivial, rfl⟩

end UDPExtended

/-! ## Round trips

The encoders insist on the version of their form, the decoders do not; a byte string that begins
with the version is therefore what its packet is encoded to. -/

theorem udp_roundTrip :
    (∀ p : UDPSimple, p.version = udpVersionSimple →
      ∃ b, p.marshalBinary = .ok b ∧ UDPSimple.unmarshalBinary b = .ok p) ∧
    (∀ p : UDPExtended, p.version = udpVersionExtended →
      ∃ b, p.marshalBinary = .ok b ∧ UDPExtended.unmarshalBinary b = .ok p) ∧
    (∀ b : Bytes, udpHeaderLenSimple ≤ b.length → b[0]? = some udpVersionSimple →
      ∃ p, UDPSimple.unmarshalBinary b = .ok p ∧ p.marshalBinary = .ok b) ∧
    (∀ b : Bytes, udpHeaderLenExtended ≤ b.length → b[0]? = some udpVersionExtended →
      ∃ p, UDPExtended.unmarshalBinary b = .ok p ∧ p.marshalBinary = .ok b) := by
  refine ⟨?_, ?_, ?_, ?_⟩
  · intro p hversion
    exact ⟨_, UDPSimple.marshal_bytes hversion, UDPSimple.unmarshal_bytes p⟩
  · intro p hversion
    exact ⟨_, UDPExtended.marshal_bytes hversion, UDPExtended.unmarshal_bytes p⟩
  · intro b hlen hfirst
    obtain ⟨p, rfl⟩ := UDPSimple.exists_bytes hlen
    have hversion : p.version = udpVersionSimple := Option.some.inj hfirst
    exact ⟨p, UDPSimple.unmarshal_bytes p, UDPSimple.marshal_bytes hversion⟩
  · intro b hlen hfirst
    obtain ⟨p, rfl⟩ := UDPExtended.exists_bytes hlen
    have hversion : p.version = udpVersionExtended := Option.some.inj hfirst
    exact ⟨p, UDPExtended.unmarshal_bytes p, UDPExtended.marshal_bytes hversion⟩

/-- A login in the simple form and a connection request in the extended form, and the same bytes
    read and written again. -/
theorem udp_roundTrip_login :
    let p : UDPSimple := ⟨0, 1, 0x1234, 5, 6, lit "alicesecret"⟩
    let b := [0, 1, 0x12, 0x34, 5, 6] ++ lit "alicesecret"
    let q : UDPExtended :=
      ⟨128, 5, 0xabcd, 2, 2, 0, 0, 0x11111111, ⟨192, 0, 2, 1⟩, 23, 5, 0x22222222, 0x3333,
        lit "abpw"⟩
    let c := [128, 5, 0xab, 0xcd, 2, 2, 0, 0, 0x11, 0x11, 0x11, 0x11, 192, 0, 2, 1, 0, 23, 0, 5,
      0x22, 0x22, 0x22, 0x22, 0x33, 0x33] ++ lit "abpw"
    (∃ d, p.marshalBinary = .ok d ∧ UDPSimple.unmarshalBinary d = .ok p) ∧
      (∃ d, q.marshalBinary = .ok d ∧ UDPExtended.unmarshalBinary d = .ok q) ∧
      (∃ r, UDPSimple.unmarshalBinary b = .ok r ∧ r.marshalBinary = .ok b) ∧
      ∃ r, UDPExtended.unmarshalBinary c = .ok r ∧ r.marshalBinary = .ok c :=
  ⟨udp_roundTrip.1 _ rfl, udp_roundTrip.2.1 _ rfl, udp_roundTrip.2.2.1 _ (by decide) rfl,
    udp_roundTrip.2.2.2 _ (by decide) rfl⟩

/-! ## Credentials -/

/-- The user is the first `userLen` bytes of the data, and the password the next `pwLen`. -/
def SplitByLengths (userLen pwLen : UInt8) (data : Bytes) (user password : Go GoError GoString) :
    Prop :=
  user = .ok (data.take userLen.toNat) ∧
    password = .ok ((data.drop userLen.toNat).take pwLen.toNat)

/-- The password is all that follows the user. So the data is split by the lengths exactly if
    nothing follows what they cover, and of two data that agree on that both have the same user,
    but the same password only if they agree altogether. -/
theorem split_iff {userLen pwLen : UInt8} {data data' : Bytes}
    (hlen : userLen.toNat + pwLen.toNat ≤ data.length)
    (hsame : data'.take (userLen.toNat + pwLen.toNat) =
      data.take (userLen.toNat + pwLen.toNat)) :
    userOf userLen data = .ok (data.take userLen.toNat) ∧
      passwordOf userLen data = .ok (data.drop userLen.toNat) ∧
      (SplitByLengths userLen pwLen data (userOf userLen data) (passwordOf userLen data) ↔
        data.length = userLen.toNat + pwLen.toNat) ∧
      userOf userLen data' = userOf userLen data ∧
      (passwordOf userLen data' = passwordOf userLen data ↔ data' = data) := by
  -- the user is in the part that the two agree on
  have huser : data'.take userLen.toNat = data.take userLen.toNat := by
    have h := congrArg (List.take userLen.toNat) hsame
    rwa [List.take_take, List.take_take, Nat.min_eq_left (Nat.le_add_right _ _)] at h
  simp only [SplitByLengths, userOf_eq, passwordOf_eq, Except.ok.injEq, true_and, huser]
  constructor
  · constructor
    · intro hexact
      have h := congrArg List.length hexact
      rw [List.length_take, List.length_drop] at h
      omega
    · intro h
      rw [List.take_of_length_le]
      rw [List.length_drop]
      omega
  · constructor
    · intro hpassword
      rw [← List.take_append_drop userLen.toNat data', huser, hpassword, List.take_append_drop]
    · intro h
      rw [h]

/-- Two byte strings that agree up to a place after the header agree in the header, and in the
    data up to that place. -/
theorem take_header {head head' data data' : Bytes} {n k : Nat} (hhead : head.length = n)
    (hhead' : head'.length = n)
    (h : (head' ++ data').take (n + k) = (head ++ data).take (n + k)) :
    head' = head ∧ data'.take k = data.take k := by
  rw [← hhead, List.take_length_add_append, hhead, ← hhead', List.take_length_add_append] at h
  exact List.append_inj h (hhead'.trans hhead.symm)

/-- The user is cut by its declared length and the password is all that follows: what the declared
    lengths say exactly if nothing follows the password. What comes after it changes the password,
    and never the user. -/
theorem credentials_iff (b b' : Bytes) :
    (∀ p p' : UDPSimple,
      UDPSimple.unmarshalBinary b = .ok p → UDPSimple.unmarshalBinary b' = .ok p' →
      let n := p.userLenOrResponse.toNat + p.pwLenOrReason.toNat
      n ≤ p.data.length →
      b'.take (udpHeaderLenSimple + n) = b.take (udpHeaderLenSimple + n) →
      p.user = .ok (p.data.take p.userLenOrResponse.toNat) ∧
      p.password = .ok (p.data.drop p.userLenOrResponse.toNat) ∧
      (SplitByLengths p.userLenOrResponse p.pwLenOrReason p.data p.user p.password ↔
        p.data.length = n) ∧
      p'.user = p.user ∧ (p'.password = p.password ↔ p'.data = p.data)) ∧
    (∀ p p' : UDPExtended,
      UDPExtended.unmarshalBinary b = .ok p → UDPExtended.unmarshalBinary b' = .ok p' →
      let n := p.userLen.toNat + p.pwLen.toNat
      n ≤ p.data.length →
      b'.take (udpHeaderLenExtended + n) = b.take (udpHeaderLenExtended + n) →
      p.user = .ok (p.data.take p.userLen.toNat) ∧
      p.password = .ok (p.data.drop p.userLen.toNat) ∧
      (SplitByLengths p.userLen p.pwLen p.data p.user p.password ↔ p.data.length = n) ∧
      p'.user = p.user ∧ (p'.password = p.password ↔ p'.data = p.data)) := by
  constructor
  · intro p p' hp hp' n hn hsame
    obtain ⟨-, rfl⟩ := (UDPSimple.realises.decode_iff b p).mp hp
    obtain ⟨-, rfl⟩ := (UDPSimple.realises.decode_iff b' p').mp hp'
    obtain ⟨hheader, hdata⟩ :=
      take_header (UDPSimple.length_header p) (UDPSimple.length_header p') hsame
    have huser : p'.userLenOrResponse = p.userLenOrResponse :=
      Option.some.inj (congrArg (fun l : Bytes => l[4]?) hheader)
    simp only [UDPSimple.user, UDPSimple.password, huser]
    exact split_iff hn hdata
  · intro p p' hp hp' n hn hsame
    obtain ⟨-, rfl⟩ := (UDPExtended.realises.decode_iff b p).mp hp
    obtain ⟨-, rfl⟩ := (UDPExtended.realises.decode_iff b' p').mp hp'
    obtain ⟨hheader, hdata⟩ :=
      take_header (UDPExtended.length_header p) (UDPExtended.length_header p') hsame
    have huser : p'.userLen = p.userLen :=
      Option.some.inj (congrArg (fun l : Bytes => l[4]?) hheader)
    simp only [UDPExtended.user, UDPExtended.password, huser]
    exact split_iff hn hdata

/-- A login of alice, with nothing after the password and with a zero byte, in both forms. -/
theorem credentials_iff_login :
    let p : UDPSimple := ⟨0, 1, 0, 5, 3, lit "alicepw1"⟩
    let p' : UDPSimple := ⟨0, 1, 0, 5, 3, lit "alicepw1" ++ [0]⟩
    let q : UDPExtended := ⟨128, 1, 0, 5, 3, 0, 0, 0, ⟨0, 0, 0, 0⟩, 0, 0, 0, 0, lit "alicepw1"⟩
    let q' : UDPExtended :=
      ⟨128, 1, 0, 5, 3, 0, 0, 0, ⟨0, 0, 0, 0⟩, 0, 0, 0, 0, lit "alicepw1" ++ [0]⟩
    (SplitByLengths 5 3 p.data p.user p.password ∧ p'.user = p.user ∧
        p'.password ≠ p.password) ∧
      (SplitByLengths 5 3 q.data q.user q.password ∧ q'.user = q.user ∧
        q'.password ≠ q.password) := by
  intro p p' q q'
  obtain ⟨-, -, hp, hpuser, hppassword⟩ := (credentials_iff (UDPSimple.bytes p)
    (UDPSimple.bytes p')).1 p p' (UDPSimple.unmarshal_bytes p) (UDPSimple.unmarshal_bytes p')
    (by decide) (by decide)
  obtain ⟨-, -, hq, hquser, hqpassword⟩ := (credentials_iff (UDPExtended.bytes q)
    (UDPExtended.bytes q')).2 q q' (UDPExtended.unmarshal_bytes q) (UDPExtended.unmarshal_bytes q')
    (by decide) (by decide)
  exact ⟨⟨hp.mpr rfl, hpuser, fun h => absurd (hppassword.mp h) (by decide)⟩,
    hq.mpr rfl, hquser, fun h => absurd (hqpassword.mp h) (by decide)⟩

/-- One byte of user name, one of password and one more: the password has both. -/
theorem credentials_trailing :
    let p : UDPSimple := ⟨0, 1, 0, 1, 1, lit "abc"⟩
    UDPSimple.unmarshalBinary ([0, 1, 0, 0, 1, 1] ++ lit "abc") = .ok p ∧
      p.user = .ok (lit "a") ∧ p.password = .ok (lit "bc") ∧
      ¬ SplitByLengths p.userLenOrResponse p.pwLenOrReason p.data p.user p.password := by
  refine ⟨rfl, rfl, rfl, ?_⟩
  rintro ⟨-, hpassword⟩
  exact absurd hpassword (by decide)

end Legacy
end Proof
end Tacacs
