import Tacacs.Lib.Go

/-!
# Wire formats

A `Format` says, without any code, what a wire format is: which values it can carry, and the
one byte string that carries each of them. An encoder and a decoder `Realise` a format when
each of them, seen as a relation between values and byte strings, **is** that format.

Everything one wants to know about the pair follows from there and is proved here once:
what encodes, that decoding undoes encoding, that the decoder accepts nothing but the image of
the encoder, and that it never reads two byte strings as the same value.
-/

set_option autoImplicit false

namespace Wire

open GoSem

/-- A format: the values it can carry, and the bytes of each. -/
structure Format (α : Type) where
  Fits : α → Prop
  bytes : α → Bytes

/-- `x` is carried as `b`. -/
def Format.Carries {α : Type} (F : Format α) (x : α) (b : Bytes) : Prop :=
  F.Fits x ∧ F.bytes x = b

/-- The encoder and the decoder are the format, read in the two directions, and neither of
    them ever leaves its buffer. -/
structure Realises {ε α : Type} (F : Format α) (encode : α → Go ε Bytes)
    (decode : Bytes → Go ε α) : Prop where
  encode_iff : ∀ x b, encode x = .ok b ↔ F.Carries x b
  decode_iff : ∀ b x, decode b = .ok x ↔ F.Carries x b
  encode_safe : ∀ x, encode x ≠ .error .panic
  decode_safe : ∀ b, decode b ≠ .error .panic

section Laws

variable {ε α : Type} {F : Format α} {encode : α → Go ε Bytes} {decode : Bytes → Go ε α}

/-- How a pair is shown to realise a format: the encoder decides what fits, the decoder reads
    the bytes of what fits, and whatever it does not refuse **is** the bytes of something. -/
theorem Realises.of_cases (henc : ∀ x, Decides (F.Fits x) (encode x) (F.bytes x))
    (hread : ∀ x, F.Fits x → decode (F.bytes x) = .ok x)
    (hcases : ∀ b, (∃ x, F.Carries x b) ∨ ∃ e, decode b = fail e) :
    Realises F encode decode where
  encode_iff x b := by
    rcases henc x with ⟨hf, he⟩ | ⟨hf, e, he⟩
    · rw [he]
      exact ⟨fun h => ⟨hf, Except.ok.inj h⟩, fun h => by rw [h.2]⟩
    · rw [he]
      exact ⟨fun h => absurd h (fail_ne_ok e b), fun h => absurd h.1 hf⟩
  decode_iff b x := by
    rcases hcases b with ⟨y, hy, rfl⟩ | ⟨e, he⟩
    · rw [hread y hy]
      constructor
      · intro h
        rw [← Except.ok.inj h]
        exact ⟨hy, rfl⟩
      · rintro ⟨hx, hb⟩
        rw [← hread y hy, ← hb, hread x hx]
    · rw [he]
      constructor
      · exact fun h => absurd h (fail_ne_ok e x)
      · rintro ⟨hx, rfl⟩
        rw [hread x hx] at he
        exact absurd he.symm (fail_ne_ok e x)
  encode_safe x := by
    rcases henc x with ⟨_, he⟩ | ⟨_, e, he⟩ <;> rw [he] <;> simp [fail]
  decode_safe b := by
    rcases hcases b with ⟨y, hy, rfl⟩ | ⟨e, he⟩
    · rw [hread y hy]; simp
    · rw [he]; simp [fail]

/-- What is not refused **is** the bytes of something. -/
theorem Realises.decode_cases (h : Realises F encode decode) (b : Bytes) :
    (∃ x, F.bytes x = b ∧ decode b = .ok x) ∨ ∃ e, decode b = fail e := by
  cases hb : decode b with
  | ok x => exact Or.inl ⟨x, ((h.decode_iff b x).mp hb).2, rfl⟩
  | error f =>
    cases f with
    | err e => exact Or.inr ⟨e, rfl⟩
    | panic => exact absurd hb (h.decode_safe b)

/-- What can be encoded is what fits. -/
theorem Realises.encodes_iff (h : Realises F encode decode) (x : α) :
    (∃ b, encode x = .ok b) ↔ F.Fits x := by
  constructor
  · rintro ⟨b, hb⟩
    exact ((h.encode_iff x b).mp hb).1
  · intro hf
    exact ⟨F.bytes x, (h.encode_iff x _).mpr ⟨hf, rfl⟩⟩

theorem Realises.decode_encode (h : Realises F encode decode) {x : α} {b : Bytes}
    (hb : encode x = .ok b) : decode b = .ok x :=
  (h.decode_iff b x).mpr ((h.encode_iff x b).mp hb)

theorem Realises.encode_decode (h : Realises F encode decode) {x : α} {b : Bytes}
    (hx : decode b = .ok x) : encode x = .ok b :=
  (h.encode_iff x b).mpr ((h.decode_iff b x).mp hx)

/-- Two byte strings that decode to the same value are the same byte string. -/
theorem Realises.decode_injective (h : Realises F encode decode) {x : α} {b b' : Bytes}
    (hb : decode b = .ok x) (hb' : decode b' = .ok x) : b = b' := by
  rw [← ((h.decode_iff b x).mp hb).2, ← ((h.decode_iff b' x).mp hb').2]

end Laws

/-! ## The two laws of a codec, as one statement each -/

/-- Exactly the values that fit are encoded, and decoding gives each of them back. -/
def RoundTrips {ε α : Type} (Fits : α → Prop) (encode : α → Go ε Bytes)
    (decode : Bytes → Go ε α) : Prop :=
  ∀ x, ((∃ b, encode x = .ok b) ↔ Fits x) ∧ ∀ b, encode x = .ok b → decode b = .ok x

/-- The decoder accepts only what the encoder writes, and no two byte strings as one value. -/
def AcceptsOnlyImage {ε α : Type} (encode : α → Go ε Bytes) (decode : Bytes → Go ε α) : Prop :=
  (∀ b x, decode b = .ok x → encode x = .ok b) ∧
    ∀ b b' x, decode b = .ok x → decode b' = .ok x → b = b'

theorem Realises.roundTrips {ε α : Type} {F : Format α} {encode : α → Go ε Bytes}
    {decode : Bytes → Go ε α} (h : Realises F encode decode) :
    RoundTrips F.Fits encode decode :=
  fun x => ⟨h.encodes_iff x, fun _ hb => h.decode_encode hb⟩

theorem Realises.acceptsOnlyImage {ε α : Type} {F : Format α} {encode : α → Go ε Bytes}
    {decode : Bytes → Go ε α} (h : Realises F encode decode) :
    AcceptsOnlyImage encode decode :=
  ⟨fun _ _ hx => h.encode_decode hx, fun _ _ _ hb hb' => h.decode_injective hb hb'⟩

end Wire
