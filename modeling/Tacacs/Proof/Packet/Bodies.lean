import Tacacs.Proof.Packet.Pieces

/-!
# The seven bodies realise their formats

For each body: the format (what fits, and which bytes), that the encoder decides it, that the
decoder reads it back, and that a buffer the decoder does not refuse is the bytes of a value.
`Realises.of_cases` turns the three into everything else, and the two theorems at the end state
it for the whole body format at once.

The decoders are never followed through a success on an arbitrary buffer. When the length test
passes, the buffer is cut into pieces and **recognised** as the bytes of a value; what the
decoder answers there is then already known.
-/

set_option autoImplicit false

namespace Tacacs
namespace Proof
namespace Packet

open GoSem Wire
open Tacacs.Packet

/-! ## Authentication START -/

/-- The eight bytes before the fields of a START. -/
def authenStartFixed (a : AuthenStart) : Bytes :=
  [a.action, a.privLvl, a.type, a.service, byteOf a.user.length, byteOf a.port.length,
    byteOf a.remAddr.length, byteOf a.data.length]

def authenStartFormat : Format AuthenStart where
  Fits a := a.user.length ≤ 0xff ∧ a.port.length ≤ 0xff ∧ a.remAddr.length ≤ 0xff ∧
    a.data.length ≤ 0xff
  bytes a := authenStartFixed a ++ [a.user, a.port, a.remAddr, a.data].flatten

theorem authenStart_marshal (a : AuthenStart) :
    Decides (authenStartFormat.Fits a) a.marshalBinary (authenStartFormat.bytes a) := by
  refine (checkByteLen_decides _).bind fun _ => (checkByteLen_decides _).bind fun _ =>
    (checkByteLen_decides _).bind fun _ => (checkByteLen_decides _).andThen fun _ => ?_
  exact stores_copies (authenStartFixed a) [a.user, a.port, a.remAddr, a.data]
    (by simp [authenStartFixed]; omega) rfl

theorem authenStart_unmarshal (a : AuthenStart) (hf : authenStartFormat.Fits a) :
    AuthenStart.unmarshalBinary (authenStartFormat.bytes a) = .ok a := by
  obtain ⟨hu, hp, hr, hd⟩ := hf
  simp only [AuthenStart.unmarshalBinary, authenStartFormat, authenStartFixed,
    byteAt_cons_append_succ, byteAt_cons_append_zero, ok_bind, toNat_byteOf hu,
    toNat_byteOf hp, toNat_byteOf hr, toNat_byteOf hd]
  rw [if_neg (by simp), if_neg (by simp; omega),
    slice_two (authenStartFixed a) a.user a.port (a.remAddr ++ a.data)
      (by simp [authenStartFixed]) (by rfl),
    slice_two (authenStartFixed a ++ (a.user ++ a.port)) a.remAddr a.data []
      (by simp [authenStartFixed]) (by simp [authenStartFixed]; omega)]
  rfl

theorem authenStart_unmarshal_cases (b : Bytes) :
    (∃ a, authenStartFormat.Carries a b) ∨ ∃ e, AuthenStart.unmarshalBinary b = fail e := by
  by_cases hlen : b.length < 8
  · exact Or.inr ⟨_, if_pos hlen⟩
  obtain ⟨fixed, rest, rfl, hfixed⟩ := exists_split b 8 (by omega)
  match fixed, hfixed with
  | [d0, d1, d2, d3, ul, pl, rl, dl], _ =>
    by_cases hsum : rest.length = ul.toNat + (pl.toNat + (rl.toNat + dl.toNat))
    · obtain ⟨user, rest, rfl, hu, hsum⟩ := exists_split_add hsum
      obtain ⟨port, rest, rfl, hp, hsum⟩ := exists_split_add hsum
      obtain ⟨remAddr, data, rfl, hr, hd⟩ := exists_split_add hsum
      refine Or.inl ⟨⟨d0, d1, d2, d3, user, port, remAddr, data⟩, ⟨?_, ?_, ?_, ?_⟩, ?_⟩
      · exact hu ▸ Nat.le_of_lt_succ ul.toNat_lt
      · exact hp ▸ Nat.le_of_lt_succ pl.toNat_lt
      · exact hr ▸ Nat.le_of_lt_succ rl.toNat_lt
      · exact hd ▸ Nat.le_of_lt_succ dl.toNat_lt
      · simp [authenStartFormat, authenStartFixed, hu, hp, hr, hd]
    · refine Or.inr ⟨validationError "authen_start" "length mismatch" .invalidLength, ?_⟩
      simp only [AuthenStart.unmarshalBinary, byteAt_cons_append_succ, byteAt_cons_append_zero,
        ok_bind]
      rw [if_neg hlen, if_pos (by simp; omega)]

theorem authenStart_realises :
    Realises authenStartFormat AuthenStart.marshalBinary AuthenStart.unmarshalBinary :=
  .of_cases authenStart_marshal authenStart_unmarshal authenStart_unmarshal_cases

/-! ## The three bodies with two 16-bit fields -/

def authenContinueFixed (a : AuthenContinue) : Bytes :=
  [byteOf (a.userMsg.length >>> 8), byteOf a.userMsg.length, byteOf (a.data.length >>> 8),
    byteOf a.data.length, a.flags]

def authenContinueFormat : Format AuthenContinue where
  Fits a := a.userMsg.length ≤ 0xffff ∧ a.data.length ≤ 0xffff
  bytes a := authenContinueFixed a ++ [a.userMsg, a.data].flatten

theorem authenContinue_marshal (a : AuthenContinue) :
    Decides (authenContinueFormat.Fits a) a.marshalBinary (authenContinueFormat.bytes a) := by
  refine (checkU16Len_decides _).bind fun _ => (checkU16Len_decides _).andThen fun _ => ?_
  exact stores_copies (authenContinueFixed a) [a.userMsg, a.data]
    (by simp [authenContinueFixed]; omega) rfl

theorem authenContinue_unmarshal (a : AuthenContinue) (hf : authenContinueFormat.Fits a) :
    AuthenContinue.unmarshalBinary (authenContinueFormat.bytes a) = .ok a := by
  obtain ⟨hm, hd⟩ := hf
  simp only [AuthenContinue.unmarshalBinary, authenContinueFormat, authenContinueFixed,
    byteAt_cons_append_succ, byteAt_cons_append_zero, ok_bind, be16_byteOf hm, be16_byteOf hd]
  rw [if_neg (by simp), if_neg (by simp; omega),
    slice_two (authenContinueFixed a) a.userMsg a.data [] (by simp [authenContinueFixed]) (by rfl)]
  rfl

theorem authenContinue_unmarshal_cases (b : Bytes) :
    (∃ a, authenContinueFormat.Carries a b) ∨ ∃ e, AuthenContinue.unmarshalBinary b = fail e := by
  by_cases hlen : b.length < 5
  · exact Or.inr ⟨_, if_pos hlen⟩
  obtain ⟨fixed, rest, rfl, hfixed⟩ := exists_split b 5 (by omega)
  match fixed, hfixed with
  | [mh, ml, dh, dl, flags], _ =>
    by_cases hsum : rest.length = be16 mh ml + be16 dh dl
    · obtain ⟨msg, data, rfl, hm, hd⟩ := exists_split_add hsum
      refine Or.inl ⟨⟨msg, data, flags⟩, ⟨hm ▸ be16_le mh ml, hd ▸ be16_le dh dl⟩, ?_⟩
      simp [authenContinueFormat, authenContinueFixed, hm, hd]
    · refine Or.inr ⟨validationError "authen_continue" "length mismatch" .invalidLength, ?_⟩
      simp only [AuthenContinue.unmarshalBinary, byteAt_cons_append_succ, byteAt_cons_append_zero,
        ok_bind]
      rw [if_neg hlen, if_pos (by simp; omega)]

theorem authenContinue_realises :
    Realises authenContinueFormat AuthenContinue.marshalBinary AuthenContinue.unmarshalBinary :=
  .of_cases authenContinue_marshal authenContinue_unmarshal authenContinue_unmarshal_cases

def authenReplyFixed (a : AuthenReply) : Bytes :=
  [a.status, a.flags, byteOf (a.serverMsg.length >>> 8), byteOf a.serverMsg.length,
    byteOf (a.data.length >>> 8), byteOf a.data.length]

def authenReplyFormat : Format AuthenReply where
  Fits a := a.serverMsg.length ≤ 0xffff ∧ a.data.length ≤ 0xffff
  bytes a := authenReplyFixed a ++ [a.serverMsg, a.data].flatten

theorem authenReply_marshal (a : AuthenReply) :
    Decides (authenReplyFormat.Fits a) a.marshalBinary (authenReplyFormat.bytes a) := by
  refine (checkU16Len_decides _).bind fun _ => (checkU16Len_decides _).andThen fun _ => ?_
  exact stores_copies (authenReplyFixed a) [a.serverMsg, a.data]
    (by simp [authenReplyFixed]; omega) rfl

theorem authenReply_unmarshal (a : AuthenReply) (hf : authenReplyFormat.Fits a) :
    AuthenReply.unmarshalBinary (authenReplyFormat.bytes a) = .ok a := by
  obtain ⟨hm, hd⟩ := hf
  simp only [AuthenReply.unmarshalBinary, authenReplyFormat, authenReplyFixed,
    byteAt_cons_append_succ, byteAt_cons_append_zero, ok_bind, be16_byteOf hm, be16_byteOf hd]
  rw [if_neg (by simp), if_neg (by simp; omega),
    slice_two (authenReplyFixed a) a.serverMsg a.data [] (by simp [authenReplyFixed]) (by rfl)]
  rfl

theorem authenReply_unmarshal_cases (b : Bytes) :
    (∃ a, authenReplyFormat.Carries a b) ∨ ∃ e, AuthenReply.unmarshalBinary b = fail e := by
  by_cases hlen : b.length < 6
  · exact Or.inr ⟨_, if_pos hlen⟩
  obtain ⟨fixed, rest, rfl, hfixed⟩ := exists_split b 6 (by omega)
  match fixed, hfixed with
  | [status, flags, mh, ml, dh, dl], _ =>
    by_cases hsum : rest.length = be16 mh ml + be16 dh dl
    · obtain ⟨msg, data, rfl, hm, hd⟩ := exists_split_add hsum
      refine Or.inl ⟨⟨status, flags, msg, data⟩, ⟨hm ▸ be16_le mh ml, hd ▸ be16_le dh dl⟩, ?_⟩
      simp [authenReplyFormat, authenReplyFixed, hm, hd]
    · refine Or.inr ⟨validationError "authen_reply" "length mismatch" .invalidLength, ?_⟩
      simp only [AuthenReply.unmarshalBinary, byteAt_cons_append_succ, byteAt_cons_append_zero,
        ok_bind]
      rw [if_neg hlen, if_pos (by simp; omega)]

theorem authenReply_realises :
    Realises authenReplyFormat AuthenReply.marshalBinary AuthenReply.unmarshalBinary :=
  .of_cases authenReply_marshal authenReply_unmarshal authenReply_unmarshal_cases

def acctReplyFixed (a : AcctReply) : Bytes :=
  [byteOf (a.serverMsg.length >>> 8), byteOf a.serverMsg.length,
    byteOf (a.data.length >>> 8), byteOf a.data.length, a.status]

def acctReplyFormat : Format AcctReply where
  Fits a := a.serverMsg.length ≤ 0xffff ∧ a.data.length ≤ 0xffff
  bytes a := acctReplyFixed a ++ [a.serverMsg, a.data].flatten

theorem acctReply_marshal (a : AcctReply) :
    Decides (acctReplyFormat.Fits a) a.marshalBinary (acctReplyFormat.bytes a) := by
  refine (checkU16Len_decides _).bind fun _ => (checkU16Len_decides _).andThen fun _ => ?_
  exact stores_copies (acctReplyFixed a) [a.serverMsg, a.data] (by simp [acctReplyFixed]; omega) rfl

theorem acctReply_unmarshal (a : AcctReply) (hf : acctReplyFormat.Fits a) :
    AcctReply.unmarshalBinary (acctReplyFormat.bytes a) = .ok a := by
  obtain ⟨hm, hd⟩ := hf
  simp only [AcctReply.unmarshalBinary, acctReplyFormat, acctReplyFixed, byteAt_cons_append_succ,
    byteAt_cons_append_zero, ok_bind, be16_byteOf hm, be16_byteOf hd]
  rw [if_neg (by simp), if_neg (by simp; omega),
    slice_two (acctReplyFixed a) a.serverMsg a.data [] (by simp [acctReplyFixed]) (by rfl)]
  rfl

theorem acctReply_unmarshal_cases (b : Bytes) :
    (∃ a, acctReplyFormat.Carries a b) ∨ ∃ e, AcctReply.unmarshalBinary b = fail e := by
  by_cases hlen : b.length < 5
  · exact Or.inr ⟨_, if_pos hlen⟩
  obtain ⟨fixed, rest, rfl, hfixed⟩ := exists_split b 5 (by omega)
  match fixed, hfixed with
  | [mh, ml, dh, dl, status], _ =>
    by_cases hsum : rest.length = be16 mh ml + be16 dh dl
    · obtain ⟨msg, data, rfl, hm, hd⟩ := exists_split_add hsum
      refine Or.inl ⟨⟨status, msg, data⟩, ⟨hm ▸ be16_le mh ml, hd ▸ be16_le dh dl⟩, ?_⟩
      simp [acctReplyFormat, acctReplyFixed, hm, hd]
    · refine Or.inr ⟨validationError "acct_reply" "length mismatch" .invalidLength, ?_⟩
      simp only [AcctReply.unmarshalBinary, byteAt_cons_append_succ, byteAt_cons_append_zero,
        ok_bind]
      rw [if_neg hlen, if_pos (by simp; omega)]

theorem acctReply_realises :
    Realises acctReplyFormat AcctReply.marshalBinary AcctReply.unmarshalBinary :=
  .of_cases acctReply_marshal acctReply_unmarshal acctReply_unmarshal_cases

/-! ## The two requests -/

def authorRequestFixed (a : AuthorRequest) : Bytes :=
  [a.method, a.privLvl, a.type, a.service, byteOf a.user.length, byteOf a.port.length,
    byteOf a.remAddr.length]

def authorRequestFormat : Format AuthorRequest where
  Fits a := RequestFits a.user a.port a.remAddr a.args
  bytes a := authorRequestFixed a ++ requestTail a.user a.port a.remAddr a.args

theorem authorRequest_marshal (a : AuthorRequest) :
    Decides (authorRequestFormat.Fits a) a.marshalBinary (authorRequestFormat.bytes a) :=
  marshalRequest_decides (authorRequestFixed a) a.user a.port a.remAddr a.args

theorem authorRequest_unmarshal (a : AuthorRequest) (hf : authorRequestFormat.Fits a) :
    AuthorRequest.unmarshalBinary (authorRequestFormat.bytes a) = .ok a := by
  have htail : unmarshalRequestTail "author_request" (authorRequestFormat.bytes a) 7
      (byteOf a.user.length) (byteOf a.port.length) (byteOf a.remAddr.length)
        = .ok (a.user, a.port, a.remAddr, a.args) :=
    unmarshalRequestTail_eq _ (authorRequestFixed a) hf rfl rfl
  have hlen : ¬(authorRequestFormat.bytes a).length < 8 := by
    simp [authorRequestFormat, authorRequestFixed, requestTail]
  rw [AuthorRequest.unmarshalBinary, if_neg hlen]
  simp only [authorRequestFormat, authorRequestFixed, byteAt_cons_append_succ,
    byteAt_cons_append_zero, ok_bind] at htail ⊢
  rw [htail, ok_bind]
  rfl

theorem authorRequest_unmarshal_cases (b : Bytes) :
    (∃ a, authorRequestFormat.Carries a b) ∨ ∃ e, AuthorRequest.unmarshalBinary b = fail e := by
  by_cases hlen : b.length < 8
  · exact Or.inr ⟨_, if_pos hlen⟩
  obtain ⟨fixed, rest, rfl, hfixed⟩ := exists_split b 7 (by omega)
  match fixed, hfixed, rest with
  | [d0, d1, d2, d3, ul, pl, rl], _, [] => exact absurd (by simp) hlen
  | [d0, d1, d2, d3, ul, pl, rl], _, n :: rest =>
    rcases unmarshalRequestTail_cases "author_request" [d0, d1, d2, d3, ul, pl, rl] rest
        n ul pl rl rfl rfl
      with ⟨user, port, remAddr, args, hf, hu, hp, hr, htail⟩ | ⟨e, he⟩
    · refine Or.inl ⟨⟨d0, d1, d2, d3, user, port, remAddr, args⟩, hf, ?_⟩
      simp [authorRequestFormat, authorRequestFixed, hu, hp, hr, htail]
    · refine Or.inr ⟨e, ?_⟩
      simp only [List.length_cons, List.length_nil] at he
      rw [AuthorRequest.unmarshalBinary, if_neg hlen]
      simp only [byteAt_cons_append_succ, byteAt_cons_append_zero, ok_bind, he, fail_bind]

theorem authorRequest_realises :
    Realises authorRequestFormat AuthorRequest.marshalBinary AuthorRequest.unmarshalBinary :=
  .of_cases authorRequest_marshal authorRequest_unmarshal authorRequest_unmarshal_cases

def acctRequestFixed (a : AcctRequest) : Bytes :=
  [a.flags, a.method, a.privLvl, a.type, a.service, byteOf a.user.length,
    byteOf a.port.length, byteOf a.remAddr.length]

def acctRequestFormat : Format AcctRequest where
  Fits a := RequestFits a.user a.port a.remAddr a.args
  bytes a := acctRequestFixed a ++ requestTail a.user a.port a.remAddr a.args

theorem acctRequest_marshal (a : AcctRequest) :
    Decides (acctRequestFormat.Fits a) a.marshalBinary (acctRequestFormat.bytes a) :=
  marshalRequest_decides (acctRequestFixed a) a.user a.port a.remAddr a.args

theorem acctRequest_unmarshal (a : AcctRequest) (hf : acctRequestFormat.Fits a) :
    AcctRequest.unmarshalBinary (acctRequestFormat.bytes a) = .ok a := by
  have htail : unmarshalRequestTail "acct_request" (acctRequestFormat.bytes a) 8
      (byteOf a.user.length) (byteOf a.port.length) (byteOf a.remAddr.length)
        = .ok (a.user, a.port, a.remAddr, a.args) :=
    unmarshalRequestTail_eq _ (acctRequestFixed a) hf rfl rfl
  have hlen : ¬(acctRequestFormat.bytes a).length < 9 := by
    simp [acctRequestFormat, acctRequestFixed, requestTail]
  rw [AcctRequest.unmarshalBinary, if_neg hlen]
  simp only [acctRequestFormat, acctRequestFixed, byteAt_cons_append_succ, byteAt_cons_append_zero,
    ok_bind] at htail ⊢
  rw [htail, ok_bind]
  rfl

theorem acctRequest_unmarshal_cases (b : Bytes) :
    (∃ a, acctRequestFormat.Carries a b) ∨ ∃ e, AcctRequest.unmarshalBinary b = fail e := by
  by_cases hlen : b.length < 9
  · exact Or.inr ⟨_, if_pos hlen⟩
  obtain ⟨fixed, rest, rfl, hfixed⟩ := exists_split b 8 (by omega)
  match fixed, hfixed, rest with
  | [d0, d1, d2, d3, d4, ul, pl, rl], _, [] => exact absurd (by simp) hlen
  | [d0, d1, d2, d3, d4, ul, pl, rl], _, n :: rest =>
    rcases unmarshalRequestTail_cases "acct_request" [d0, d1, d2, d3, d4, ul, pl, rl] rest
        n ul pl rl rfl rfl
      with ⟨user, port, remAddr, args, hf, hu, hp, hr, htail⟩ | ⟨e, he⟩
    · refine Or.inl ⟨⟨d0, d1, d2, d3, d4, user, port, remAddr, args⟩, hf, ?_⟩
      simp [acctRequestFormat, acctRequestFixed, hu, hp, hr, htail]
    · refine Or.inr ⟨e, ?_⟩
      simp only [List.length_cons, List.length_nil] at he
      rw [AcctRequest.unmarshalBinary, if_neg hlen]
      simp only [byteAt_cons_append_succ, byteAt_cons_append_zero, ok_bind, he, fail_bind]

theorem acctRequest_realises :
    Realises acctRequestFormat AcctRequest.marshalBinary AcctRequest.unmarshalBinary :=
  .of_cases acctRequest_marshal acctRequest_unmarshal acctRequest_unmarshal_cases

/-! ## Authorization REPLY

Its `arg_cnt` is in the fixed part and its vector is written and read by inlined loops, so it
does not go through the request lemmas; the vector itself is the same. -/

def authorReplyFixed (a : AuthorReply) : Bytes :=
  [a.status, byteOf a.args.length, byteOf (a.serverMsg.length >>> 8), byteOf a.serverMsg.length,
    byteOf (a.data.length >>> 8), byteOf a.data.length]

def authorReplyFormat : Format AuthorReply where
  Fits a := a.serverMsg.length ≤ 0xffff ∧ a.data.length ≤ 0xffff ∧ ArgsFit a.args ∧
    a.args.length ≤ 0xff
  bytes a := authorReplyFixed a ++ (lengthBytes a.args ++
    ([a.serverMsg, a.data].flatten ++ a.args.flatten))

theorem authorReply_marshal (a : AuthorReply) :
    Decides (authorReplyFormat.Fits a) a.marshalBinary (authorReplyFormat.bytes a) := by
  refine (checkU16Len_decides _).bind fun _ => (checkU16Len_decides _).bind fun _ =>
    (checkArgLens_decides _).bind fun _ => (checkArgCount_decides _).andThen fun _ => ?_
  exact stores_vector_copies (authorReplyFixed a) [a.serverMsg, a.data] a.args
    (by simp [authorReplyFixed]; omega) rfl

theorem authorReply_unmarshal (a : AuthorReply) (hf : authorReplyFormat.Fits a) :
    AuthorReply.unmarshalBinary (authorReplyFormat.bytes a) = .ok a := by
  obtain ⟨hm, hd, hfit, hcount⟩ := hf
  have hvec : readLengths (authorReplyFormat.bytes a) 6 a.args.length
      = .ok (a.args.map List.length, 6 + a.args.length) := by
    rw [← map_toNat_lengthBytes hfit, ← length_lengthBytes a.args]
    exact readLengths_eq (lengthBytes a.args) (authorReplyFixed a) _ rfl rfl
  have hlen : (authorReplyFormat.bytes a).length = 6 + a.args.length + a.serverMsg.length +
      a.data.length + (a.args.map List.length).sum := by
    simp [authorReplyFormat, authorReplyFixed]
    omega
  obtain ⟨pre, hpre⟩ : ∃ pre, pre = authorReplyFixed a ++ lengthBytes a.args := ⟨_, rfl⟩
  have hsplit : authorReplyFormat.bytes a
      = pre ++ (a.serverMsg ++ (a.data ++ a.args.flatten)) := by
    rw [hpre]
    simp [authorReplyFormat]
  have hprelen : 6 + a.args.length = pre.length := by
    rw [hpre]
    simp [authorReplyFixed]
    omega
  have hbyte : ∀ i x, (authorReplyFixed a)[i]? = some x →
      (byteAt (authorReplyFormat.bytes a) i : Go GoError UInt8) = .ok x :=
    fun i x hx => byteAt_of_getElem? hx
  rw [AuthorReply.unmarshalBinary, if_neg (by omega), hbyte 0 _ rfl, hbyte 1 _ rfl,
    hbyte 2 _ rfl, hbyte 3 _ rfl, hbyte 4 _ rfl, hbyte 5 _ rfl]
  simp only [ok_bind, toNat_byteOf hcount, be16_byteOf hm, be16_byteOf hd, hvec]
  rw [if_neg (by omega), if_neg (by omega),
    slice_two pre a.serverMsg a.data a.args.flatten hsplit hprelen,
    readArgs_eq a.args (pre ++ (a.serverMsg ++ a.data)) (by simp [hsplit])
      (by simp [hprelen]; omega), ok_bind]
  rfl

theorem authorReply_unmarshal_cases (b : Bytes) :
    (∃ a, authorReplyFormat.Carries a b) ∨ ∃ e, AuthorReply.unmarshalBinary b = fail e := by
  by_cases hlen : b.length < 6
  · exact Or.inr ⟨_, if_pos hlen⟩
  obtain ⟨fixed, rest, rfl, hfixed⟩ := exists_split b 6 (by omega)
  match fixed, hfixed with
  | [status, n, mh, ml, dh, dl], _ =>
    by_cases hshort : rest.length < n.toNat
    · refine Or.inr ⟨validationError "author_reply" "arg lengths short" .invalidPacket, ?_⟩
      simp only [AuthorReply.unmarshalBinary, byteAt_cons_append_succ, byteAt_cons_append_zero,
        ok_bind]
      rw [if_neg hlen, if_pos (by simp; omega)]
    obtain ⟨lens, rest, rfl, hn⟩ := exists_split rest n.toNat (by omega)
    by_cases hsum : rest.length = be16 mh ml + (be16 dh dl + (lens.map UInt8.toNat).sum)
    · obtain ⟨msg, rest, rfl, hm, hsum⟩ := exists_split_add hsum
      obtain ⟨data, rest, rfl, hd, hsum⟩ := exists_split_add hsum
      obtain ⟨args, rfl, hargs⟩ := exists_flatten _ rest hsum
      obtain ⟨hvecs, hfit, hcount⟩ := lengthBytes_of_map hargs
      refine Or.inl ⟨⟨status, msg, data, args⟩,
        ⟨hm ▸ be16_le mh ml, hd ▸ be16_le dh dl, hfit, ?_⟩, ?_⟩
      · exact hcount ▸ hn ▸ Nat.le_of_lt_succ n.toNat_lt
      · simp [authorReplyFormat, authorReplyFixed, hm, hd, hvecs, hcount, hn]
    · have hvec : readLengths ([status, n, mh, ml, dh, dl] ++ (lens ++ rest)) 6 n.toNat
          = .ok (lens.map UInt8.toNat, 6 + lens.length) := by
        rw [← hn]
        exact readLengths_eq lens [status, n, mh, ml, dh, dl] rest rfl rfl
      refine Or.inr ⟨validationError "author_reply" "length mismatch" .invalidLength, ?_⟩
      rw [AuthorReply.unmarshalBinary, if_neg hlen]
      simp only [byteAt_cons_append_succ, byteAt_cons_append_zero, ok_bind, hvec]
      rw [if_neg (by simp; omega), if_pos (by simp; omega)]

theorem authorReply_realises :
    Realises authorReplyFormat AuthorReply.marshalBinary AuthorReply.unmarshalBinary :=
  .of_cases authorReply_marshal authorReply_unmarshal authorReply_unmarshal_cases

/-! ## The whole body format -/

/-- **Decoding undoes encoding**, for each of the seven bodies: exactly the values whose fields
    fit their length bytes are encoded, and each is decoded back to itself. -/
theorem bodies_roundTrip :
    RoundTrips (fun a : AuthenStart => a.user.length ≤ 255 ∧ a.port.length ≤ 255 ∧
        a.remAddr.length ≤ 255 ∧ a.data.length ≤ 255)
      AuthenStart.marshalBinary AuthenStart.unmarshalBinary ∧
    RoundTrips (fun a : AuthenContinue => a.userMsg.length ≤ 65535 ∧ a.data.length ≤ 65535)
      AuthenContinue.marshalBinary AuthenContinue.unmarshalBinary ∧
    RoundTrips (fun a : AuthenReply => a.serverMsg.length ≤ 65535 ∧ a.data.length ≤ 65535)
      AuthenReply.marshalBinary AuthenReply.unmarshalBinary ∧
    RoundTrips (fun a : AuthorRequest => a.user.length ≤ 255 ∧ a.port.length ≤ 255 ∧
        a.remAddr.length ≤ 255 ∧ (∀ arg ∈ a.args, arg.length ≤ 255) ∧ a.args.length ≤ 255)
      AuthorRequest.marshalBinary AuthorRequest.unmarshalBinary ∧
    RoundTrips (fun a : AuthorReply => a.serverMsg.length ≤ 65535 ∧ a.data.length ≤ 65535 ∧
        (∀ arg ∈ a.args, arg.length ≤ 255) ∧ a.args.length ≤ 255)
      AuthorReply.marshalBinary AuthorReply.unmarshalBinary ∧
    RoundTrips (fun a : AcctRequest => a.user.length ≤ 255 ∧ a.port.length ≤ 255 ∧
        a.remAddr.length ≤ 255 ∧ (∀ arg ∈ a.args, arg.length ≤ 255) ∧ a.args.length ≤ 255)
      AcctRequest.marshalBinary AcctRequest.unmarshalBinary ∧
    RoundTrips (fun a : AcctReply => a.serverMsg.length ≤ 65535 ∧ a.data.length ≤ 65535)
      AcctReply.marshalBinary AcctReply.unmarshalBinary :=
  ⟨authenStart_realises.roundTrips, authenContinue_realises.roundTrips,
    authenReply_realises.roundTrips, authorRequest_realises.roundTrips,
    authorReply_realises.roundTrips, acctRequest_realises.roundTrips,
    acctReply_realises.roundTrips⟩

/-- **Each decoder accepts exactly the image of its encoder**, so nothing trails, nothing
    overlaps and no two byte strings are one body. -/
theorem bodies_acceptOnlyImage :
    AcceptsOnlyImage AuthenStart.marshalBinary AuthenStart.unmarshalBinary ∧
    AcceptsOnlyImage AuthenContinue.marshalBinary AuthenContinue.unmarshalBinary ∧
    AcceptsOnlyImage AuthenReply.marshalBinary AuthenReply.unmarshalBinary ∧
    AcceptsOnlyImage AuthorRequest.marshalBinary AuthorRequest.unmarshalBinary ∧
    AcceptsOnlyImage AuthorReply.marshalBinary AuthorReply.unmarshalBinary ∧
    AcceptsOnlyImage AcctRequest.marshalBinary AcctRequest.unmarshalBinary ∧
    AcceptsOnlyImage AcctReply.marshalBinary AcctReply.unmarshalBinary :=
  ⟨authenStart_realises.acceptsOnlyImage, authenContinue_realises.acceptsOnlyImage,
    authenReply_realises.acceptsOnlyImage, authorRequest_realises.acceptsOnlyImage,
    authorReply_realises.acceptsOnlyImage, acctRequest_realises.acceptsOnlyImage,
    acctReply_realises.acceptsOnlyImage⟩

example : AuthorReply.marshalBinary ⟨0x01, lit "ok", [], [lit "a=b"]⟩
    = .ok ([0x01, 1, 0, 2, 0, 0, 3] ++ lit "ok" ++ lit "a=b") := by decide

end Packet
end Proof
end Tacacs
