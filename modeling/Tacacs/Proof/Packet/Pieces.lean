import Tacacs.Lib.Format
import Tacacs.Packet.Body

/-!
# The pieces every body is made of

The length checks, the argument-length vector and the argument data, each with the one fact
the seven bodies need about it. The vector has two encoders in the source (`encodeArgLengths`
and the loop `AuthorReply` inlines) and two decoders; here all four are brought down to the
same bytes, `lengthBytes args`.
-/

set_option autoImplicit false

namespace Tacacs
namespace Proof
namespace Packet

open GoSem Wire
open Tacacs.Packet

/-! ## The checks -/

theorem checkByteLen_decides (v : Nat) : Decides (v ≤ 0xff) (checkByteLen v) () := by
  have h := Decides.of_if (P := v > 0xff) (a := ())
    (e := validationError "field" "length exceeds single byte" .invalidLength)
  rwa [not_lt] at h

theorem checkU16Len_decides (v : Nat) : Decides (v ≤ 0xffff) (checkU16Len v) () := by
  have h := Decides.of_if (P := v > 0xffff) (a := ())
    (e := validationError "field" "length exceeds 16 bits" .invalidLength)
  rwa [not_lt] at h

theorem checkArgCount_decides (n : Nat) : Decides (n ≤ 0xff) (checkArgCount n) () := by
  have h := Decides.of_if (P := n > 0xff) (a := ())
    (e := validationError "arg_cnt" "exceeds 255" .tooManyArguments)
  rwa [not_lt] at h

/-- Every argument fits its length byte. -/
def ArgsFit (args : List GoString) : Prop := ∀ a ∈ args, a.length ≤ 0xff

theorem checkArgLens_decides (args : List GoString) :
    Decides (ArgsFit args) (checkArgLens args) () := by
  induction args with
  | nil => exact Or.inl ⟨fun _ h => absurd h (by simp), rfl⟩
  | cons a args ih =>
    have h : Decides (a.length ≤ 0xff ∧ ArgsFit args) (checkArgLens (a :: args)) () :=
      (checkByteLen_decides a.length).bind (f := fun _ => checkArgLens args) (fun _ => ih)
    have hiff : a.length ≤ 0xff ∧ ArgsFit args ↔ ArgsFit (a :: args) := by simp [ArgsFit]
    rwa [hiff] at h

/-! ## The argument-length vector -/

/-- One length byte an argument. -/
def lengthBytes (args : List GoString) : Bytes := args.map fun a => byteOf a.length

@[simp] theorem length_lengthBytes (args : List GoString) :
    (lengthBytes args).length = args.length := by simp [lengthBytes]

theorem encodeArgLengthBytes_filled (args : List GoString) :
    ∀ (pre : Bytes) (n : Nat) {pos : Nat}, ArgsFit args → pos = pre.length →
      encodeArgLengthBytes (filled pre (args.length + n)) pos args
        = .ok (filled (pre ++ lengthBytes args) n, pre.length + args.length) := by
  induction args with
  | nil => intro pre n pos _ hp; subst hp; simp [encodeArgLengthBytes, lengthBytes]
  | cons a args ih =>
    intro pre n pos hfit hp
    subst hp
    have hfit' : ArgsFit args := fun x hx => hfit x (List.mem_cons_of_mem _ hx)
    have hn : (a :: args).length + n = (args.length + n) + 1 := by
      simp only [List.length_cons]
      omega
    have hchk : checkByteLen a.length = .ok () := by
      rcases checkByteLen_decides a.length with ⟨_, h⟩ | ⟨h, _⟩
      · exact h
      · exact absurd (hfit a List.mem_cons_self) h
    rw [encodeArgLengthBytes, hchk, ok_bind, hn, store_filled, ok_bind,
      ih (pre ++ [byteOf a.length]) n hfit' (by simp)]
    simp [lengthBytes]
    omega

/-- `encodeArgLengths` writes the count and the vector. -/
theorem encodeArgLengths_filled (args : List GoString) (pre : Bytes) (n : Nat) {pos : Nat}
    (hcount : args.length ≤ 0xff) (hfit : ArgsFit args) (hp : pos = pre.length) :
    encodeArgLengths (filled pre (1 + args.length + n)) pos args
      = .ok (filled (pre ++ byteOf args.length :: lengthBytes args) n,
          pre.length + 1 + args.length) := by
  subst hp
  have hchk : checkArgCount args.length = .ok () := by
    rcases checkArgCount_decides args.length with ⟨_, h⟩ | ⟨h, _⟩
    · exact h
    · exact absurd hcount h
  have hn : 1 + args.length + n = (args.length + n) + 1 := by omega
  rw [encodeArgLengths, hchk, ok_bind, hn, store_filled, ok_bind,
    encodeArgLengthBytes_filled args (pre ++ [byteOf args.length]) n hfit (by simp)]
  simp

/-- The encoders of the two requests: fixed part, count and vector, fields, arguments. -/
theorem stores_argLengths_copies (fixed : Bytes) (fields args : List GoString) {n pos : Nat}
    (hcount : args.length ≤ 0xff) (hfit : ArgsFit args)
    (hn : n = fixed.length + (1 + args.length + (fields.flatten.length + args.flatten.length)))
    (hp : pos = fixed.length) :
    (do let b ← stores (make n) 0 fixed
        let (b, pos) ← encodeArgLengths b pos args
        let (b, pos) ← copies b pos fields
        let (b, _) ← copies b pos args
        return b)
      = .ok (fixed ++ byteOf args.length :: (lengthBytes args ++
          (fields.flatten ++ args.flatten))) := by
  have hs : (stores (make n) 0 fixed : Go GoError Bytes) = .ok (filled fixed
      (1 + args.length + (fields.flatten.length + (args.flatten.length + 0)))) := by
    rw [hn]
    exact stores_filled fixed [] _ rfl
  rw [hs, ok_bind, encodeArgLengths_filled args fixed _ hcount hfit hp, ok_bind]
  dsimp only
  rw [copies_filled fields _ (args.flatten.length + 0) (by simp; omega), ok_bind]
  dsimp only
  rw [copies_filled args _ 0 (by simp; omega), ok_bind]
  simp [pure, Except.pure]

/-- The encoder of the authorization reply, which stores the vector by itself. -/
theorem stores_vector_copies (fixed : Bytes) (fields args : List GoString) {n pos : Nat}
    (hn : n = fixed.length + (args.length + (fields.flatten.length + args.flatten.length)))
    (hp : pos = fixed.length) :
    (do let b ← stores (make n) 0 fixed
        let b ← stores b pos (lengthBytes args)
        let (b, pos) ← copies b (pos + args.length) fields
        let (b, _) ← copies b pos args
        return b : Go GoError Bytes)
      = .ok (fixed ++ (lengthBytes args ++ (fields.flatten ++ args.flatten))) := by
  have hs : (stores (make n) 0 fixed : Go GoError Bytes) = .ok (filled fixed
      ((lengthBytes args).length + (fields.flatten.length + (args.flatten.length + 0)))) := by
    rw [hn, length_lengthBytes]
    exact stores_filled fixed [] _ rfl
  rw [hs, ok_bind, stores_filled (lengthBytes args) fixed _ hp, ok_bind,
    copies_filled fields _ (args.flatten.length + 0) (by simp [hp]), ok_bind]
  dsimp only
  rw [copies_filled args _ 0 (by simp; omega), ok_bind]
  simp [pure, Except.pure]

theorem readLengths_eq (lens : Bytes) : ∀ (pre post : Bytes) {data : Bytes} {pos : Nat},
    data = pre ++ (lens ++ post) → pos = pre.length →
      readLengths data pos lens.length = .ok (lens.map UInt8.toNat, pos + lens.length) := by
  induction lens with
  | nil => intro pre post data pos _ _; simp [readLengths]
  | cons l lens ih =>
    intro pre post data pos hd hp
    have hbyte : (byteAt data pos : Go GoError UInt8) = .ok l :=
      byteAt_eq pre (lens ++ post) hd hp
    have hrest : readLengths data (pos + 1) lens.length
        = .ok (lens.map UInt8.toNat, pos + 1 + lens.length) :=
      ih (pre ++ [l]) post (by simp [hd]) (by simp [hp])
    rw [List.length_cons, readLengths, hbyte, ok_bind, hrest, ok_bind]
    simp only [List.map_cons]
    congr 2
    omega

/-- `decodeArgLengths` on a buffer that holds a count and as many length bytes. -/
theorem decodeArgLengths_eq {data pre lens post : Bytes} {n : UInt8} {pos : Nat}
    (hd : data = pre ++ n :: (lens ++ post)) (hp : pos = pre.length)
    (hn : n.toNat = lens.length) :
    decodeArgLengths data pos = .ok (lens.map UInt8.toNat, pos + 1 + lens.length) := by
  have hlen : data.length = pre.length + 1 + lens.length + post.length := by
    rw [hd]
    simp only [List.length_append, List.length_cons]
    omega
  have hbyte : (byteAt data pos : Go GoError UInt8) = .ok n :=
    byteAt_eq pre (lens ++ post) hd hp
  rw [decodeArgLengths, if_neg (by omega), hbyte, ok_bind, if_neg (by omega), hn]
  exact readLengths_eq lens (pre ++ [n]) post (by simp [hd]) (by simp [hp])

/-- A vector the buffer is too short for. -/
theorem decodeArgLengths_short {data pre post : Bytes} {n : UInt8} {pos : Nat}
    (hd : data = pre ++ n :: post) (hp : pos = pre.length) (hn : post.length < n.toNat) :
    decodeArgLengths data pos
      = fail (validationError "arg_lengths" "short buffer" .invalidPacket) := by
  have hlen : data.length = pre.length + 1 + post.length := by
    rw [hd]
    simp only [List.length_append, List.length_cons]
    omega
  have hbyte : (byteAt data pos : Go GoError UInt8) = .ok n := byteAt_eq pre post hd hp
  rw [decodeArgLengths, if_neg (by omega), hbyte, ok_bind, if_pos (by omega)]

/-! ## The argument data -/

theorem readArgs_eq (args : List GoString) : ∀ (pre : Bytes) {data : Bytes} {pos : Nat},
    data = pre ++ args.flatten → pos = pre.length →
      readArgs data pos (args.map List.length) = .ok args := by
  induction args with
  | nil => intro pre data pos _ _; rfl
  | cons a args ih =>
    intro pre data pos hd hp
    have hs : (slice data pos (pos + a.length) : Go GoError Bytes) = .ok a :=
      slice_eq pre args.flatten (by simp [hd]) hp rfl
    have hrest : readArgs data (pos + a.length) (args.map List.length) = .ok args :=
      ih (pre ++ a) (by simp [hd]) (by simp [hp])
    rw [List.map_cons, readArgs, hs, ok_bind, hrest, ok_bind]
    rfl

/-- Bytes as many as a list of lengths says can be cut into pieces of these lengths. -/
theorem exists_flatten : ∀ (ls : List Nat) (b : Bytes), b.length = ls.sum →
    ∃ args : List GoString, b = args.flatten ∧ args.map List.length = ls := by
  intro ls
  induction ls with
  | nil =>
    intro b hb
    exact ⟨[], List.length_eq_zero_iff.mp hb, rfl⟩
  | cons l ls ih =>
    intro b hb
    rw [List.sum_cons] at hb
    obtain ⟨a, rest, rfl, ha, hrest⟩ := exists_split_add hb
    obtain ⟨args, rfl, hargs⟩ := ih rest hrest
    exact ⟨a :: args, rfl, by rw [List.map_cons, ha, hargs]⟩

/-- The lengths read from a vector are the lengths the vector was written for. -/
theorem map_toNat_lengthBytes {args : List GoString} (hfit : ArgsFit args) :
    (lengthBytes args).map UInt8.toNat = args.map List.length := by
  rw [lengthBytes, List.map_map]
  exact List.map_congr_left fun a ha => toNat_byteOf (hfit a ha)

/-- Pieces of the lengths a vector announces have that vector. -/
theorem lengthBytes_of_map {args : List GoString} {lens : Bytes}
    (h : args.map List.length = lens.map UInt8.toNat) :
    lengthBytes args = lens ∧ ArgsFit args ∧ args.length = lens.length := by
  have hbytes : lengthBytes args = lens := by
    have hcomp : lengthBytes args = (args.map List.length).map byteOf := by
      rw [lengthBytes, List.map_map]; rfl
    rw [hcomp, h, List.map_map]
    simp [Function.comp_def]
  refine ⟨hbytes, ?_, ?_⟩
  · intro a ha
    have hmem : a.length ∈ lens.map UInt8.toNat := h ▸ List.mem_map_of_mem ha
    obtain ⟨l, _, hl⟩ := List.mem_map.mp hmem
    have := l.toNat_lt
    omega
  · have := congrArg List.length h
    simpa using this

/-! ## The two requests, from `arg_cnt` on -/

/-- What follows the fixed part of a request. -/
def requestTail (user port remAddr : GoString) (args : List GoString) : Bytes :=
  byteOf args.length :: (lengthBytes args ++ ([user, port, remAddr].flatten ++ args.flatten))

def RequestFits (user port remAddr : GoString) (args : List GoString) : Prop :=
  user.length ≤ 0xff ∧ port.length ≤ 0xff ∧ remAddr.length ≤ 0xff ∧ ArgsFit args ∧
    args.length ≤ 0xff

theorem marshalRequest_decides (fixed : Bytes) (user port remAddr : GoString)
    (args : List GoString) :
    Decides (RequestFits user port remAddr args) (marshalRequest fixed user port remAddr args)
      (fixed ++ requestTail user port remAddr args) := by
  refine (checkByteLen_decides _).bind fun _ => (checkByteLen_decides _).bind fun _ =>
    (checkByteLen_decides _).bind fun _ => (checkArgLens_decides args).bind fun hfit =>
    (checkArgCount_decides _).andThen fun hcount => ?_
  exact stores_argLengths_copies fixed [user, port, remAddr] args hcount hfit
    (by simp; omega) rfl

theorem unmarshalRequestTail_eq (field : String) (fixed : Bytes) {user port remAddr : GoString}
    {args : List GoString} (hf : RequestFits user port remAddr args) {data : Bytes} {pos : Nat}
    (hd : data = fixed ++ requestTail user port remAddr args) (hp : pos = fixed.length) :
    unmarshalRequestTail field data pos (byteOf user.length) (byteOf port.length)
      (byteOf remAddr.length) = .ok (user, port, remAddr, args) := by
  obtain ⟨hu, hpt, hr, hfit, hcount⟩ := hf
  have hvec : decodeArgLengths data pos
      = .ok (args.map List.length, pos + 1 + args.length) := by
    rw [← map_toNat_lengthBytes hfit, ← length_lengthBytes args]
    exact decodeArgLengths_eq hd hp (by rw [toNat_byteOf hcount, length_lengthBytes])
  have hlen : data.length = pos + 1 + args.length + user.length + port.length +
      remAddr.length + (args.map List.length).sum := by
    rw [hd, hp]
    simp [requestTail]
    omega
  -- Everything before `user`, so that the three fields are cut from known places.
  obtain ⟨pre, hpre⟩ : ∃ pre, pre = fixed ++ byteOf args.length :: lengthBytes args := ⟨_, rfl⟩
  have hsplit : data = pre ++ (user ++ (port ++ (remAddr ++ args.flatten))) := by
    rw [hd, hpre]
    simp [requestTail]
  have hprelen : pos + 1 + args.length = pre.length := by
    rw [hpre, hp]
    simp
    omega
  simp only [unmarshalRequestTail, hvec, ok_bind, toNat_byteOf hu, toNat_byteOf hpt,
    toNat_byteOf hr]
  rw [if_neg (by omega), slice_two pre user port (remAddr ++ args.flatten) hsplit hprelen,
    slice_eq (pre ++ (user ++ port)) args.flatten (by simp [hsplit])
      (by simp [hprelen]; omega) rfl, ok_bind,
    readArgs_eq args (pre ++ (user ++ (port ++ remAddr))) (by simp [hsplit])
      (by simp [hprelen]; omega), ok_bind]
  rfl

/-- A buffer the tail decoder does not refuse is a tail. -/
theorem unmarshalRequestTail_cases (field : String) (fixed rest : Bytes) (n ul pl rl : UInt8)
    {data : Bytes} {pos : Nat} (hd : data = fixed ++ n :: rest) (hp : pos = fixed.length) :
    (∃ user port remAddr args, RequestFits user port remAddr args ∧
      user.length = ul.toNat ∧ port.length = pl.toNat ∧ remAddr.length = rl.toNat ∧
      n :: rest = requestTail user port remAddr args) ∨
    ∃ e, unmarshalRequestTail field data pos ul pl rl = fail e := by
  by_cases hshort : rest.length < n.toNat
  · refine Or.inr ⟨validationError "arg_lengths" "short buffer" .invalidPacket, ?_⟩
    rw [unmarshalRequestTail, decodeArgLengths_short hd hp hshort, fail_bind]
  obtain ⟨lens, rest, rfl, hn⟩ := exists_split rest n.toNat (by omega)
  have hvec := decodeArgLengths_eq hd hp hn.symm
  by_cases hsum : rest.length
      = ul.toNat + (pl.toNat + (rl.toNat + (lens.map UInt8.toNat).sum))
  · obtain ⟨user, rest, rfl, hu, hsum⟩ := exists_split_add hsum
    obtain ⟨port, rest, rfl, hpt, hsum⟩ := exists_split_add hsum
    obtain ⟨remAddr, rest, rfl, hr, hsum⟩ := exists_split_add hsum
    obtain ⟨args, rfl, hargs⟩ := exists_flatten _ rest hsum
    obtain ⟨hvecs, hfit, hcount⟩ := lengthBytes_of_map hargs
    have hnc : n = byteOf args.length := by rw [hcount, hn, byteOf_toNat]
    refine Or.inl ⟨user, port, remAddr, args, ⟨?_, ?_, ?_, hfit, ?_⟩, hu, hpt, hr, ?_⟩
    · exact hu ▸ Nat.le_of_lt_succ ul.toNat_lt
    · exact hpt ▸ Nat.le_of_lt_succ pl.toNat_lt
    · exact hr ▸ Nat.le_of_lt_succ rl.toNat_lt
    · exact hcount ▸ hn ▸ Nat.le_of_lt_succ n.toNat_lt
    · simp [requestTail, hvecs, hnc]
  · refine Or.inr ⟨validationError field "length mismatch" .invalidLength, ?_⟩
    have hlen : data.length = pos + 1 + lens.length + rest.length := by
      rw [hd, hp]
      simp
      omega
    rw [unmarshalRequestTail, hvec, ok_bind]
    exact if_pos (by omega)

end Packet
end Proof
end Tacacs
