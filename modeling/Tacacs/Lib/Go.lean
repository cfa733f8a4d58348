import Mathlib.Data.Nat.Bitwise
import Mathlib.Data.List.Basic

/-!
# Go byte buffers, with their faults

A Go function that works on a `[]byte` can end in three ways: it returns, it reports an
error, or it indexes out of range and panics. `Go ε α` keeps the three apart, so that a
statement about a decoder can say "never panics" and mean it.

The second half is the one idea the encoders rest on: a buffer made by `make([]byte, n)`
and written left to right is always **a written prefix followed by zeros** (`filled`), and
each write moves the boundary. An encoder is then a chain of `_filled` rewrites, and what is
left at the end is the concatenation of what was written.
-/

set_option autoImplicit false

namespace GoSem

/-- A `[]byte`, or the bytes of a `string`. -/
abbrev Bytes := List UInt8

/-- Why a Go function did not return a value. -/
inductive Fault (ε : Type) where
  | err (e : ε)
  | panic
deriving DecidableEq, Repr

abbrev Go (ε α : Type) := Except (Fault ε) α

def fail {ε α : Type} (e : ε) : Go ε α := .error (.err e)

section Bind

variable {ε α β : Type}

@[simp] theorem ok_bind (a : α) (f : α → Go ε β) : ((Except.ok a : Go ε α) >>= f) = f a := rfl

@[simp] theorem error_bind (x : Fault ε) (f : α → Go ε β) :
    ((Except.error x : Go ε α) >>= f) = .error x := rfl

@[simp] theorem fail_bind (e : ε) (f : α → Go ε β) : ((fail e : Go ε α) >>= f) = fail e := rfl

@[simp] theorem fail_ne_ok (e : ε) (a : α) : (fail e : Go ε α) ≠ .ok a := by simp [fail]

theorem fail_ne_panic (e : ε) : (fail e : Go ε α) ≠ .error .panic := by simp [fail]

theorem bind_eq_ok {x : Except ε α} {f : α → Except ε β} {b : β} :
    (x >>= f) = .ok b ↔ ∃ a, x = .ok a ∧ f a = .ok b := by
  cases x with
  | ok a => simp [bind, Except.bind]
  | error e => simp [bind, Except.bind]

theorem bind_ne_panic {x : Go ε α} {f : α → Go ε β} (hx : x ≠ .error .panic)
    (hf : ∀ a, x = .ok a → f a ≠ .error .panic) : (x >>= f) ≠ .error .panic := by
  cases x with
  | ok a => exact hf a rfl
  | error e => exact fun h => hx (congrArg Except.error (Except.error.inj h))

/-- `x` returns `a` exactly when `P` holds, and reports an error otherwise. The shape of a
    function that checks its input and then cannot fail. -/
def Decides (P : Prop) (x : Go ε α) (a : α) : Prop :=
  (P ∧ x = .ok a) ∨ (¬P ∧ ∃ e, x = fail e)

theorem Decides.of_if {P : Prop} [Decidable P] {e : ε} {a : α} :
    Decides (¬P) (if P then fail e else .ok a) a := by
  by_cases h : P
  · exact Or.inr ⟨fun hn => hn h, e, if_pos h⟩
  · exact Or.inl ⟨h, if_neg h⟩

/-- Two checks in a row decide the conjunction. -/
theorem Decides.bind {P Q : Prop} {x : Go ε α} {f : α → Go ε β} {a : α} {b : β}
    (hx : Decides P x a) (hf : P → Decides Q (f a) b) : Decides (P ∧ Q) (x >>= f) b := by
  rcases hx with ⟨hp, rfl⟩ | ⟨hp, e, rfl⟩
  · rcases hf hp with ⟨hq, h⟩ | ⟨hq, e, h⟩
    · exact Or.inl ⟨⟨hp, hq⟩, h⟩
    · exact Or.inr ⟨fun hpq => hq hpq.2, e, h⟩
  · exact Or.inr ⟨fun hpq => hp hpq.1, e, rfl⟩

/-- After the last check nothing can go wrong. -/
theorem Decides.andThen {P : Prop} {x : Go ε α} {f : α → Go ε β} {a : α} {b : β}
    (hx : Decides P x a) (hf : P → f a = .ok b) : Decides P (x >>= f) b := by
  rcases hx with ⟨hp, rfl⟩ | ⟨hp, e, rfl⟩
  · exact Or.inl ⟨hp, hf hp⟩
  · exact Or.inr ⟨hp, e, rfl⟩

end Bind

/-! ## Bytes of an integer -/

/-- `byte(n)` for a non-negative `int`: the low eight bits. -/
def byteOf (n : Nat) : UInt8 := UInt8.ofNat n

/-- `int(hi)<<8 | int(lo)`. -/
def be16 (hi lo : UInt8) : Nat := hi.toNat <<< 8 ||| lo.toNat

theorem be16_eq (hi lo : UInt8) : be16 hi lo = hi.toNat * 256 + lo.toNat := by
  have hlt : lo.toNat < 2 ^ 8 := lo.toNat_lt
  rw [be16, ← Nat.shiftLeft_add_eq_or_of_lt hlt, Nat.shiftLeft_eq]

theorem be16_le (hi lo : UInt8) : be16 hi lo ≤ 0xffff := by
  have h1 := hi.toNat_lt
  have h2 := lo.toNat_lt
  rw [be16_eq]
  omega

theorem toNat_byteOf {n : Nat} (h : n ≤ 0xff) : (byteOf n).toNat = n := by
  simp only [byteOf, UInt8.toNat_ofNat']
  omega

@[simp] theorem byteOf_toNat (b : UInt8) : byteOf b.toNat = b := by simp [byteOf]

theorem be16_byteOf {n : Nat} (h : n ≤ 0xffff) : be16 (byteOf (n >>> 8)) (byteOf n) = n := by
  rw [be16_eq]
  simp only [byteOf, UInt8.toNat_ofNat', Nat.shiftRight_eq_div_pow]
  omega

@[simp] theorem byteOf_be16_shiftRight (hi lo : UInt8) : byteOf (be16 hi lo >>> 8) = hi := by
  have h1 := hi.toNat_lt
  have h2 := lo.toNat_lt
  apply UInt8.toNat_inj.mp
  simp only [be16_eq, byteOf, UInt8.toNat_ofNat', Nat.shiftRight_eq_div_pow]
  omega

@[simp] theorem byteOf_be16 (hi lo : UInt8) : byteOf (be16 hi lo) = lo := by
  have h2 := lo.toNat_lt
  apply UInt8.toNat_inj.mp
  simp only [be16_eq, byteOf, UInt8.toNat_ofNat']
  omega

/-- The two bytes `binary.BigEndian.PutUint16` stores. -/
def be16Bytes (v : UInt16) : Bytes := [byteOf (v.toNat >>> 8), byteOf v.toNat]

theorem exists_be16Bytes {s : Bytes} (h : s.length = 2) : ∃ v, s = be16Bytes v := by
  obtain ⟨hi, lo, rfl⟩ := List.length_eq_two.mp h
  have hle := be16_le hi lo
  have hv : (UInt16.ofNat (be16 hi lo)).toNat = be16 hi lo := by
    rw [UInt16.toNat_ofNat']
    omega
  exact ⟨UInt16.ofNat (be16 hi lo), by simp [be16Bytes, hv]⟩

theorem or_shiftLeft {x y k : Nat} (h : x < 2 ^ k) : x ||| y <<< k = x + y * 2 ^ k := by
  rw [Nat.or_comm, ← Nat.shiftLeft_add_eq_or_of_lt h, Nat.shiftLeft_eq, Nat.add_comm]

/-- What `binary.BigEndian.Uint32` computes from four bytes. -/
def be32 (a b c d : UInt8) : UInt32 :=
  d.toUInt32 ||| c.toUInt32 <<< 8 ||| b.toUInt32 <<< 16 ||| a.toUInt32 <<< 24

/-- The four bytes `binary.BigEndian.PutUint32` stores. -/
def be32Bytes (v : UInt32) : Bytes :=
  [(v >>> 24).toUInt8, (v >>> 16).toUInt8, (v >>> 8).toUInt8, v.toUInt8]

theorem toNat_be32 (a b c d : UInt8) :
    (be32 a b c d).toNat = d.toNat + c.toNat * 2 ^ 8 + b.toNat * 2 ^ 16 + a.toNat * 2 ^ 24 := by
  have ha := a.toNat_lt
  have hb := b.toNat_lt
  have hc := c.toNat_lt
  have hd := d.toNat_lt
  have hfit : ∀ {x k : Nat}, x * 2 ^ k < 2 ^ 32 → x <<< k % 2 ^ 32 = x <<< k := by
    intro x k h
    exact Nat.mod_eq_of_lt (by rwa [Nat.shiftLeft_eq])
  simp only [be32, UInt32.toNat_or, UInt32.toNat_shiftLeft, UInt8.toNat_toUInt32,
    UInt32.reduceToNat, Nat.reduceMod]
  rw [hfit (by omega), hfit (by omega), hfit (by omega)]
  -- the bytes do not overlap, so each `|` is an addition, from the lowest byte upwards
  have h1 : d.toNat ||| c.toNat <<< 8 = d.toNat + c.toNat * 2 ^ 8 := or_shiftLeft (by omega)
  have h2 : d.toNat + c.toNat * 2 ^ 8 ||| b.toNat <<< 16
      = d.toNat + c.toNat * 2 ^ 8 + b.toNat * 2 ^ 16 := or_shiftLeft (by omega)
  rw [h1, h2]
  exact or_shiftLeft (by omega)

theorem be32_be32Bytes (v : UInt32) :
    be32 (v >>> 24).toUInt8 (v >>> 16).toUInt8 (v >>> 8).toUInt8 v.toUInt8 = v := by
  have hv := v.toNat_lt
  apply UInt32.toNat_inj.mp
  rw [toNat_be32]
  simp only [UInt32.toNat_toUInt8, UInt32.toNat_shiftRight, UInt32.reduceToNat, Nat.reduceMod,
    Nat.shiftRight_eq_div_pow]
  omega

theorem exists_be32Bytes {s : Bytes} (h : s.length = 4) : ∃ v, s = be32Bytes v := by
  match s, h with
  | [a, b, c, d], _ =>
    have ha := a.toNat_lt
    have hb := b.toNat_lt
    have hc := c.toNat_lt
    have hd := d.toNat_lt
    refine ⟨be32 a b c d, ?_⟩
    simp only [be32Bytes, List.cons.injEq, and_true, ← UInt8.toNat_inj, UInt32.toNat_toUInt8,
      UInt32.toNat_shiftRight, toNat_be32, UInt32.reduceToNat, Nat.reduceMod,
      Nat.shiftRight_eq_div_pow]
    omega

/-! ## Reading -/

section Read

variable {ε : Type}

/-- `b[i]`. -/
def byteAt (b : Bytes) (i : Nat) : Go ε UInt8 :=
  match b[i]? with
  | some x => .ok x
  | none => .error .panic

/-- `b[lo:hi]`. Go allows `hi` up to the capacity; here it must stay within the length. -/
def slice (b : Bytes) (lo hi : Nat) : Go ε Bytes :=
  if lo ≤ hi ∧ hi ≤ b.length then .ok ((b.drop lo).take (hi - lo)) else .error .panic

/-- `binary.BigEndian.Uint32(b)`. -/
def uint32At (b : Bytes) : Go ε UInt32 := do
  return be32 (← byteAt b 0) (← byteAt b 1) (← byteAt b 2) (← byteAt b 3)

theorem uint32At_be32Bytes (v : UInt32) : (uint32At (be32Bytes v) : Go ε UInt32) = .ok v :=
  congrArg Except.ok (be32_be32Bytes v)

/-- `binary.BigEndian.Uint16(b)`. -/
def uint16At (b : Bytes) : Go ε UInt16 := do
  return UInt16.ofNat (be16 (← byteAt b 0) (← byteAt b 1))

theorem uint16At_be16Bytes (v : UInt16) : (uint16At (be16Bytes v) : Go ε UInt16) = .ok v := by
  have hv : v.toNat ≤ 0xffff := Nat.le_of_lt_succ v.toNat_lt
  have hle := be16_byteOf hv
  have hread : (uint16At (be16Bytes v) : Go ε UInt16) =
      .ok (UInt16.ofNat (be16 (byteOf (v.toNat >>> 8)) (byteOf v.toNat))) := rfl
  rw [hread, hle, UInt16.ofNat_toNat]

/-- The bytes of a fixed part written out, one index at a time. -/
@[simp] theorem byteAt_cons_append_zero (x : UInt8) (fixed rest : Bytes) :
    (byteAt (x :: fixed ++ rest) 0 : Go ε UInt8) = .ok x := rfl

@[simp] theorem byteAt_cons_append_succ (x : UInt8) (fixed rest : Bytes) (i : Nat) :
    (byteAt (x :: fixed ++ rest) (i + 1) : Go ε UInt8) = byteAt (fixed ++ rest) i := rfl

theorem byteAt_of_getElem? {fixed rest : Bytes} {i : Nat} {x : UInt8}
    (h : fixed[i]? = some x) : (byteAt (fixed ++ rest) i : Go ε UInt8) = .ok x := by
  obtain ⟨hi, _⟩ := List.getElem?_eq_some_iff.mp h
  rw [byteAt, List.getElem?_append_left hi, h]

theorem byteAt_ne_panic {b : Bytes} {i : Nat} (h : i < b.length) :
    (byteAt b i : Go ε UInt8) ≠ .error .panic := by
  simp [byteAt, List.getElem?_eq_getElem h]

theorem slice_ok {b : Bytes} {lo hi : Nat} (hlo : lo ≤ hi) (hhi : hi ≤ b.length) :
    (slice b lo hi : Go ε Bytes) = .ok ((b.drop lo).take (hi - lo)) := if_pos ⟨hlo, hhi⟩

/-- A slice of the buffer is in range, and has the length that its bounds say. -/
theorem slice_bind_ne_panic {α : Type} {b : Bytes} {lo hi : Nat} {f : Bytes → Go ε α}
    (hlo : lo ≤ hi) (hhi : hi ≤ b.length)
    (hf : ∀ s : Bytes, s.length = hi - lo → f s ≠ .error .panic) :
    (slice b lo hi >>= f) ≠ .error .panic := by
  rw [slice_ok hlo hhi, ok_bind]
  refine hf _ ?_
  rw [List.length_take, List.length_drop]
  omega

theorem uint32At_ne_panic {b : Bytes} (h : b.length = 4) :
    (uint32At b : Go ε UInt32) ≠ .error .panic := by
  obtain ⟨v, rfl⟩ := exists_be32Bytes h
  rw [uint32At_be32Bytes]
  simp

/-- The byte at `x` of a buffer that is known to hold `x` there. -/
theorem byteAt_eq (pre : Bytes) {x : UInt8} (post : Bytes) {b : Bytes} {i : Nat}
    (hb : b = pre ++ x :: post) (hi : i = pre.length) : (byteAt b i : Go ε UInt8) = .ok x := by
  subst hb hi
  simp [byteAt]

/-- The slice at `s` of a buffer that is known to hold `s` there. -/
theorem slice_eq (pre : Bytes) {s : Bytes} (post : Bytes) {b : Bytes} {lo hi : Nat}
    (hb : b = pre ++ (s ++ post)) (hlo : lo = pre.length) (hhi : hi = lo + s.length) :
    (slice b lo hi : Go ε Bytes) = .ok s := by
  subst hb hlo hhi
  have hle : pre.length ≤ pre.length + s.length ∧
      pre.length + s.length ≤ (pre ++ (s ++ post)).length := by
    simp only [List.length_append]
    omega
  rw [slice, if_pos hle]
  simp

/-- What is cut out of a fixed part does not depend on what follows it. -/
theorem slice_append_left {fixed s : Bytes} {lo hi : Nat}
    (h : (slice fixed lo hi : Go ε Bytes) = .ok s) (rest : Bytes) :
    (slice (fixed ++ rest) lo hi : Go ε Bytes) = .ok s := by
  unfold slice at h ⊢
  split at h
  · next hb =>
    have hlen : fixed.length ≤ (fixed ++ rest).length := by simp
    rw [if_pos ⟨hb.1, hb.2.trans hlen⟩, ← h, List.drop_append_of_le_length (hb.1.trans hb.2),
      List.take_append_of_le_length (by rw [List.length_drop]; omega)]
  · cases h

/-- `b[lo:]`, where the first part ends at `lo`. -/
theorem slice_append_right {fixed : Bytes} (rest : Bytes) {lo hi : Nat} (hlo : lo = fixed.length)
    (hhi : hi = (fixed ++ rest).length) :
    (slice (fixed ++ rest) lo hi : Go ε Bytes) = .ok rest :=
  slice_eq fixed [] (by simp) hlo (by simp [hlo, hhi])

/-- Two fields that follow each other, cut one after the other. -/
theorem slice_two {α : Type} (pre s t post : Bytes) {b : Bytes} {lo : Nat}
    (hb : b = pre ++ (s ++ (t ++ post))) (hlo : lo = pre.length)
    (k : Bytes → Bytes → Go ε α) :
    (slice b lo (lo + s.length) >>= fun x =>
      slice b (lo + s.length) (lo + s.length + t.length) >>= fun y => k x y) = k s t := by
  rw [slice_eq pre (t ++ post) hb hlo rfl, ok_bind,
    slice_eq (pre ++ s) post (by simp [hb]) (by simp [hlo]) rfl, ok_bind]

end Read

/-! ## Writing

`filled pre n` is a buffer whose first `pre.length` bytes are written and whose last `n` are
still the zeros `make` put there. -/

section Write

variable {ε : Type}

/-- `make([]byte, n)`. -/
def make (n : Nat) : Bytes := List.replicate n 0

/-- `b[i] = x`. -/
def store (b : Bytes) (i : Nat) (x : UInt8) : Go ε Bytes :=
  if i < b.length then .ok (b.set i x) else .error .panic

/-- `b[i] = x₀; b[i+1] = x₁; …`, one store after the other. -/
def stores (b : Bytes) (i : Nat) : List UInt8 → Go ε Bytes
  | [] => .ok b
  | x :: xs => do
      let b ← store b i x
      stores b (i + 1) xs

/-- `copy(b[pos:], s)`: the buffer after it and the number of bytes copied. -/
def copyAt (b : Bytes) (pos : Nat) (s : Bytes) : Go ε (Bytes × Nat) :=
  if pos ≤ b.length then
    let n := min (b.length - pos) s.length
    .ok (b.take pos ++ s.take n ++ b.drop (pos + n), n)
  else .error .panic

/-- `pos += copy(b[pos:], s₀); pos += copy(b[pos:], s₁); …`. -/
def copies (b : Bytes) (pos : Nat) : List Bytes → Go ε (Bytes × Nat)
  | [] => .ok (b, pos)
  | s :: ss => do
      let (b, n) ← copyAt b pos s
      copies b (pos + n) ss

def filled (pre : Bytes) (n : Nat) : Bytes := pre ++ List.replicate n 0

@[simp] theorem filled_zero (pre : Bytes) : filled pre 0 = pre := by simp [filled]

@[simp] theorem length_filled (pre : Bytes) (n : Nat) :
    (filled pre n).length = pre.length + n := by simp [filled]

theorem store_filled (pre : Bytes) (n : Nat) (x : UInt8) :
    (store (filled pre (n + 1)) pre.length x : Go ε Bytes) = .ok (filled (pre ++ [x]) n) := by
  rw [store, if_pos (by simp)]
  simp [filled, List.replicate_succ, List.set_append_right]

theorem stores_filled (xs : List UInt8) : ∀ (pre : Bytes) (n : Nat) {i : Nat},
    i = pre.length →
    (stores (filled pre (xs.length + n)) i xs : Go ε Bytes) = .ok (filled (pre ++ xs) n) := by
  induction xs with
  | nil => intro pre n i _; simp [stores]
  | cons x xs ih =>
    intro pre n i hi
    subst hi
    have hn : (x :: xs).length + n = (xs.length + n) + 1 := by
      simp only [List.length_cons]
      omega
    rw [stores, hn, store_filled, ok_bind, ih (pre ++ [x]) n (by simp)]
    simp

theorem copyAt_filled (pre s : Bytes) (n : Nat) {pos : Nat} (hp : pos = pre.length) :
    (copyAt (filled pre (s.length + n)) pos s : Go ε (Bytes × Nat))
      = .ok (filled (pre ++ s) n, s.length) := by
  subst hp
  have hmin : min ((filled pre (s.length + n)).length - pre.length) s.length = s.length := by
    simp only [length_filled]
    omega
  rw [copyAt, if_pos (by simp), hmin]
  simp [filled, List.drop_append]

theorem copies_filled (ss : List Bytes) : ∀ (pre : Bytes) (n : Nat) {pos : Nat},
    pos = pre.length →
    (copies (filled pre (ss.flatten.length + n)) pos ss : Go ε (Bytes × Nat))
      = .ok (filled (pre ++ ss.flatten) n, pre.length + ss.flatten.length) := by
  induction ss with
  | nil => intro pre n pos hp; subst hp; simp [copies]
  | cons s ss ih =>
    intro pre n pos hp
    have hn : (s :: ss).flatten.length + n = s.length + (ss.flatten.length + n) := by
      simp only [List.flatten_cons, List.length_append]
      omega
    rw [copies, hn, copyAt_filled pre s _ hp, ok_bind]
    dsimp only
    rw [ih (pre ++ s) n (by simp [hp])]
    simp [Nat.add_assoc]

/-- A buffer of the right size, filled with a fixed part and then with fields. -/
theorem stores_copies (fixed : Bytes) (ss : List Bytes) {n pos : Nat}
    (hn : n = fixed.length + ss.flatten.length) (hp : pos = fixed.length) :
    (do let b ← stores (make n) 0 fixed
        let (b, _) ← copies b pos ss
        return b : Go ε Bytes) = .ok (fixed ++ ss.flatten) := by
  have hs : (stores (make n) 0 fixed : Go ε Bytes)
      = .ok (filled fixed (ss.flatten.length + 0)) := by
    rw [hn]
    exact stores_filled fixed [] (ss.flatten.length + 0) rfl
  rw [hs, ok_bind, copies_filled ss fixed 0 hp, ok_bind]
  exact congrArg Except.ok (filled_zero _)

theorem stores_append (xs ys : List UInt8) : ∀ (b : Bytes) (i : Nat),
    (stores b i (xs ++ ys) : Go ε Bytes) =
      stores b i xs >>= fun b => stores b (i + xs.length) ys := by
  induction xs with
  | nil => intro b i; rfl
  | cons x xs ih =>
    intro b i
    rw [List.cons_append, stores, stores, bind_assoc]
    refine bind_congr fun b => ?_
    rw [ih, List.length_cons, Nat.add_right_comm, Nat.add_assoc]

/-- Two writes side by side are one. -/
theorem stores_bind_stores {α : Type} (xs ys : List UInt8) {b : Bytes} {i j : Nat}
    (hj : j = i + xs.length) (k : Bytes → Go ε α) :
    (do let b ← stores b i xs
        let b ← stores b j ys
        k b) = stores b i (xs ++ ys) >>= k := by
  subst hj
  rw [stores_append, bind_assoc]

/-- A buffer of the right size, filled with a fixed part and then with one field. -/
theorem stores_copyAt (fixed s : Bytes) {n pos : Nat} (hn : n = fixed.length + s.length)
    (hp : pos = fixed.length) :
    (do let b ← stores (make n) 0 fixed
        let (b, _) ← copyAt b pos s
        return b : Go ε Bytes) = .ok (fixed ++ s) := by
  have hs : (stores (make n) 0 fixed : Go ε Bytes) = .ok (filled fixed (s.length + 0)) := by
    rw [hn]
    exact stores_filled fixed [] (s.length + 0) rfl
  rw [hs, ok_bind, copyAt_filled fixed s 0 hp, ok_bind]
  exact congrArg Except.ok (filled_zero _)

end Write

/-! ## Cutting a buffer -/

/-- A buffer with at least `n` bytes is its first `n` bytes and a rest. -/
theorem exists_split (l : Bytes) (n : Nat) (h : n ≤ l.length) :
    ∃ a b, l = a ++ b ∧ a.length = n :=
  ⟨l.take n, l.drop n, (List.take_append_drop n l).symm, List.length_take_of_le h⟩

theorem exists_split_add {l : Bytes} {m n : Nat} (h : l.length = m + n) :
    ∃ a b, l = a ++ b ∧ a.length = m ∧ b.length = n := by
  obtain ⟨a, b, rfl, ha⟩ := exists_split l m (by omega)
  rw [List.length_append] at h
  exact ⟨a, b, rfl, ha, by omega⟩

end GoSem
