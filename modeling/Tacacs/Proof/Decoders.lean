import Tacacs.Proof.Legacy.Udp
import Tacacs.Proof.Packet.Bodies
import Tacacs.Proof.Proxy
import Tacacs.Protocol

/-!
# The decoders of untrusted bytes

A decoder that never leaves its buffer, and whose variable fields tile what follows the fixed
part of it: `Tiles`. For the bodies this is what realising their formats says; the others are
short enough to be gone through access by access.
-/

set_option autoImplicit false

namespace Tacacs
namespace Proof
namespace Decoders

open GoSem Wire
open Tacacs.Packet Tacacs.Legacy Tacacs.Protocol Tacacs.Proxy
open Tacacs.Proof.Packet
open Tacacs.Transport (readFull)

/-- No access is out of range, and on success the fields are consecutive slices from `headLen`
    to the end of the input. -/
structure Tiles {α : Type} (decode : Bytes → Go GoError α) (headLen : α → Nat)
    (fields : α → List Bytes) : Prop where
  safe : ∀ b, decode b ≠ .error .panic
  cut : ∀ b a, decode b = .ok a → ∃ head, b = head ++ (fields a).flatten ∧ head.length = headLen a

section Tiles

variable {α : Type} {decode : Bytes → Go GoError α} {headLen : α → Nat} {fields : α → List Bytes}

theorem Tiles.of_realises {F : Format α} {encode : α → Go GoError Bytes}
    (h : Realises F encode decode)
    (hbytes : ∀ a, ∃ head, F.bytes a = head ++ (fields a).flatten ∧ head.length = headLen a) :
    Tiles decode headLen fields where
  safe := h.decode_safe
  cut b a hb := by
    obtain ⟨-, rfl⟩ := (h.decode_iff b a).mp hb
    exact hbytes a

theorem Tiles.of_cases
    (h : ∀ b, (∃ a head, decode b = .ok a ∧ b = head ++ (fields a).flatten ∧
      head.length = headLen a) ∨ ∃ e, decode b = fail e) : Tiles decode headLen fields where
  safe b := by
    rcases h b with ⟨a, head, ha, -⟩ | ⟨e, he⟩
    · rw [ha]
      simp
    · rw [he]
      exact fail_ne_panic e
  cut b a hb := by
    rcases h b with ⟨a', head, ha, hcut⟩ | ⟨e, he⟩
    · obtain rfl : a' = a := Except.ok.inj (ha.symm.trans hb)
      exact ⟨head, hcut⟩
    · exact absurd (he.symm.trans hb) (fail_ne_ok e a)

end Tiles

/-! ## The header of a packet -/

theorem header_safe (b : Bytes) : Header.unmarshalBinary b ≠ .error .panic := by
  unfold Header.unmarshalBinary
  split
  · exact fail_ne_panic _
  · next hlen =>
    have hb : 12 ≤ b.length := Nat.not_lt.mp hlen
    refine bind_ne_panic (byteAt_ne_panic (by omega)) fun version _ => ?_
    split
    · exact fail_ne_panic _
    · refine bind_ne_panic (byteAt_ne_panic (by omega)) fun _ _ => ?_
      refine bind_ne_panic (byteAt_ne_panic (by omega)) fun _ _ => ?_
      refine bind_ne_panic (byteAt_ne_panic (by omega)) fun _ _ => ?_
      refine slice_bind_ne_panic (by omega) (by omega) fun id hid => ?_
      refine bind_ne_panic (uint32At_ne_panic hid) fun _ _ => ?_
      refine slice_bind_ne_panic (by omega) hb fun len hlen => ?_
      exact bind_ne_panic (uint32At_ne_panic hlen) fun _ _ => by simp [pure, Except.pure]

/-! ## Challenges and responses -/

/-- An id, a challenge of `n` bytes and a response, cut out one after the other. -/
theorem cut_challenge {b : Bytes} {id : UInt8} {challenge response : Bytes} {n : Nat}
    (hb : b = id :: (challenge ++ response)) (hn : challenge.length = n) :
    (byteAt b 0 : Go GoError UInt8) = .ok id ∧
      (slice b 1 (1 + n) : Go GoError Bytes) = .ok challenge ∧
      (slice b (1 + n) b.length : Go GoError Bytes) = .ok response := by
  subst hb
  refine ⟨rfl, slice_eq [id] response rfl rfl (by rw [hn]), ?_⟩
  refine slice_eq (id :: challenge) [] (by simp) ?_ ?_
  · rw [List.length_cons, hn, Nat.add_comm]
  · rw [List.length_cons, List.length_append]
    omega

/-- A string of `1 + n + m` bytes is an id, a challenge and a response. -/
theorem exists_challenge {b : Bytes} {n m : Nat} (h : b.length = 1 + n + m) :
    ∃ id challenge response, b = id :: (challenge ++ response) ∧ challenge.length = n ∧
      response.length = m := by
  cases b with
  | nil => simp at h; omega
  | cons id rest =>
    have hrest : rest.length = n + m := by
      rw [List.length_cons] at h
      omega
    obtain ⟨challenge, response, rfl, hc, hr⟩ := exists_split_add hrest
    exact ⟨id, challenge, response, rfl, hc, hr⟩

theorem chap_tiles : Tiles parseCHAPData (fun _ => 1) fun d => [d.challenge, d.response] := by
  refine Tiles.of_cases fun b => ?_
  by_cases hlen : b.length < 1 + minCHAPChallenge + chapResponseLen
  · exact Or.inr ⟨_, if_pos hlen⟩
  · have hle : 25 ≤ b.length := Nat.not_lt.mp hlen
    have hsum : b.length = 1 + (b.length - 1 - chapResponseLen) + chapResponseLen := by
      rw [chapResponseLen]
      omega
    obtain ⟨id, challenge, response, hb, hc, -⟩ := exists_challenge hsum
    have hmin : ¬ b.length - 1 - chapResponseLen < minCHAPChallenge := by
      rw [chapResponseLen, minCHAPChallenge]
      omega
    obtain ⟨hid, hchallenge, hresponse⟩ := cut_challenge hb hc
    refine Or.inl ⟨⟨id, challenge, response⟩, [id], ?_, by simp [hb], rfl⟩
    rw [parseCHAPData, if_neg hlen, hid, ok_bind]
    dsimp only
    rw [if_neg hmin, hchallenge, ok_bind, hresponse, ok_bind]
    rfl

theorem fixedChallenge_tiles (field reason : String) (n : Nat) :
    Tiles (parseFixedChallenge field reason n) (fun _ => 1) fun d => [d.challenge, d.response] := by
  refine Tiles.of_cases fun b => ?_
  by_cases hlen : b.length = 1 + n + mschapResponseLen
  · obtain ⟨id, challenge, response, hb, hc, -⟩ := exists_challenge hlen
    obtain ⟨hid, hchallenge, hresponse⟩ := cut_challenge hb hc
    refine Or.inl ⟨⟨id, challenge, response⟩, [id], ?_, by simp [hb], rfl⟩
    rw [parseFixedChallenge, if_neg (not_not_intro hlen), hid, ok_bind, hchallenge, ok_bind,
      hresponse, ok_bind]
    rfl
  · exact Or.inr ⟨_, if_pos hlen⟩

/-! ## Datagrams -/

/-- A datagram decoded and asked for its credentials. -/
def simpleCredentials (b : Bytes) : Go GoError (GoString × GoString) := do
  let p ← UDPSimple.unmarshalBinary b
  return (← p.user, ← p.password)

def extendedCredentials (b : Bytes) : Go GoError (GoString × GoString) := do
  let p ← UDPExtended.unmarshalBinary b
  return (← p.user, ← p.password)

/-- The two forms: a header of a fixed length, and data that is cut in two. -/
theorem Tiles.of_credentials {π : Type} {decode : Bytes → Go GoError π} {userLen : π → UInt8}
    {header data : π → Bytes} {n : Nat} (hlen : ∀ p, (header p).length = n)
    (hcases : ∀ b, (∃ p, header p ++ data p = b ∧ decode b = .ok p) ∨ ∃ e, decode b = fail e) :
    Tiles (fun b => do
      let p ← decode b
      return (← userOf (userLen p) (data p), ← passwordOf (userLen p) (data p)))
      (fun _ => n) fun c => [c.1, c.2] := by
  refine Tiles.of_cases fun b => ?_
  rcases hcases b with ⟨p, rfl, hp⟩ | ⟨e, he⟩
  · refine Or.inl ⟨((data p).take (userLen p).toNat, (data p).drop (userLen p).toNat), header p,
      ?_, by simp, hlen p⟩
    rw [hp, ok_bind, Legacy.userOf_eq, ok_bind, Legacy.passwordOf_eq, ok_bind]
    rfl
  · exact Or.inr ⟨e, by rw [he, fail_bind]⟩

theorem simpleCredentials_tiles :
    Tiles simpleCredentials (fun _ => udpHeaderLenSimple) fun c => [c.1, c.2] :=
  .of_credentials Legacy.UDPSimple.length_header Legacy.UDPSimple.realises.decode_cases

theorem extendedCredentials_tiles :
    Tiles extendedCredentials (fun _ => udpHeaderLenExtended) fun c => [c.1, c.2] :=
  .of_credentials Legacy.UDPExtended.length_header Legacy.UDPExtended.realises.decode_cases

/-! ## Version 2 of the PROXY header -/

theorem checkSig_safe {hdr : Bytes} {i : Nat} {sig : Bytes} (h : i + sig.length ≤ hdr.length) :
    checkSig hdr i sig ≠ .error .panic := by
  induction sig generalizing i with
  | nil => simp [checkSig]
  | cons s sig ih =>
    rw [List.length_cons] at h
    refine bind_ne_panic (byteAt_ne_panic (by omega)) fun b _ => ?_
    split
    · exact fail_ne_panic _
    · exact ih (by omega)

/-- The fixed part: 14 bytes and the length of the block. -/
theorem parseFixed_safe {head : Bytes} (hhead : head.length = 14) (addrLen : UInt16) :
    parseFixed (head ++ be16Bytes addrLen) ≠ .error .panic ∧
      ∀ cmd family len, parseFixed (head ++ be16Bytes addrLen) = .ok (cmd, family, len) →
        len = addrLen := by
  have hlen : (head ++ be16Bytes addrLen).length = 16 := by
    rw [List.length_append, hhead]
    rfl
  have hslice : (slice (head ++ be16Bytes addrLen) 14 16 : Go GoError Bytes) =
      .ok (be16Bytes addrLen) := slice_append_right _ hhead.symm hlen.symm
  have hsig : checkSig (head ++ be16Bytes addrLen) 0 v2Sig ≠ .error .panic :=
    checkSig_safe (by rw [hlen]; decide)
  have h13 : (byteAt (head ++ be16Bytes addrLen) 13 : Go GoError UInt8) ≠ .error .panic :=
    byteAt_ne_panic (by omega)
  have h12 : (byteAt (head ++ be16Bytes addrLen) 12 : Go GoError UInt8) ≠ .error .panic :=
    byteAt_ne_panic (by omega)
  constructor
  · refine bind_ne_panic hsig fun _ _ => bind_ne_panic h12 fun verCmd _ => ?_
    split
    · exact fail_ne_panic _
    · dsimp only
      split
      · exact fail_ne_panic _
      · refine bind_ne_panic h13 fun _ _ => ?_
        rw [hslice, ok_bind, uint16At_be16Bytes]
        simp [pure, Except.pure]
  · intro cmd family len h
    rw [parseFixed] at h
    obtain ⟨-, -, h⟩ := bind_eq_ok.mp h
    obtain ⟨verCmd, -, h⟩ := bind_eq_ok.mp h
    split at h
    · exact absurd h (fail_ne_ok _ _)
    · dsimp only at h
      split at h
      · exact absurd h (fail_ne_ok _ _)
      · obtain ⟨famProto, -, h⟩ := bind_eq_ok.mp h
        rw [hslice, ok_bind, uint16At_be16Bytes, ok_bind] at h
        exact (Prod.mk.inj (Prod.mk.inj (Except.ok.inj h)).2).2.symm

/-- A block that is long enough for addresses of `n` bytes. -/
theorem slices_cases {block : Bytes} {n lo hi : Nat} (hlen : 2 * n + 4 ≤ block.length)
    (hlo : lo = 2 * n) (hhi : hi = lo + 2) :
    ∃ src dst sport dport tlvs, block = Proxy.endpoints src dst sport dport ++ tlvs ∧
      src.length = dst.length ∧
      (do let ip ← slice block 0 n
          let port ← uint16At (← slice block lo hi)
          return { ip, port := port.toNat } : Go GoError TCPAddr) =
        .ok { ip := src, port := sport.toNat } := by
  obtain ⟨src, dst, sport, dport, tlvs, rfl, hsrc, hdst⟩ := Proxy.exists_endpoints hlen
  exact ⟨src, dst, sport, dport, tlvs, rfl, hsrc.trans hdst.symm,
    Proxy.slices_endpoints hsrc hdst sport dport tlvs hlo hhi⟩

theorem parseBlock_cases (cmd family : UInt8) (block : Bytes) :
    (∃ src dst sport dport tlvs, block = Proxy.endpoints src dst sport dport ++ tlvs ∧
      src.length = dst.length ∧
      parseBlock cmd family block = .ok { ip := src, port := sport.toNat }) ∨
    ∃ e, parseBlock cmd family block = fail e := by
  unfold parseBlock
  split
  · exact Or.inr ⟨_, rfl⟩
  · split
    · split
      · exact Or.inr ⟨_, rfl⟩
      · next hlen => exact Or.inl (slices_cases (n := 4) (Nat.not_lt.mp hlen) rfl rfl)
    · split
      · split
        · exact Or.inr ⟨_, rfl⟩
        · next hlen => exact Or.inl (slices_cases (n := 16) (Nat.not_lt.mp hlen) rfl rfl)
      · exact Or.inr ⟨_, rfl⟩

theorem readFull_cases (n : Nat) (r : Bytes) :
    (∃ s rest, r = s ++ rest ∧ s.length = n ∧ readFull n r = (.ok s, rest)) ∨
      ∃ e, readFull n r = (fail e, []) := by
  unfold readFull
  split
  · next h =>
    exact Or.inl ⟨r.take n, r.drop n, (List.take_append_drop n r).symm,
      List.length_take_of_le h, rfl⟩
  · split
    · exact Or.inr ⟨_, rfl⟩
    · exact Or.inr ⟨_, rfl⟩

/-- What `readHeaderV2` makes of a stream: it answers with an error, or with the first and the
    third of the four fields that the block of the advertised length begins with. -/
theorem readHeaderV2_cases (r : Bytes) :
    (∃ head addrLen src dst sport dport tlvs rest,
      r = head ++ be16Bytes addrLen ++ (Proxy.endpoints src dst sport dport ++ tlvs) ++ rest ∧
        head.length = 14 ∧
        addrLen.toNat = (Proxy.endpoints src dst sport dport ++ tlvs).length ∧
        src.length = dst.length ∧
        readHeaderV2 r = (.ok { ip := src, port := sport.toNat }, rest)) ∨
    ∃ e rest, readHeaderV2 r = (fail e, rest) := by
  rcases readFull_cases v2HeaderLen r with ⟨hdr, rest, rfl, hhdr, hread⟩ | ⟨e, hread⟩
  · obtain ⟨head, len, rfl, hhead, hlen⟩ := exists_split_add (m := 14) (n := 2) hhdr
    obtain ⟨addrLen, rfl⟩ := exists_be16Bytes hlen
    obtain ⟨hsafe, hadv⟩ := parseFixed_safe hhead addrLen
    rw [readHeaderV2, hread]
    dsimp only
    cases hfixed : parseFixed (head ++ be16Bytes addrLen) with
    | error f =>
      cases f with
      | err e => exact Or.inr ⟨e, rest, rfl⟩
      | panic => exact absurd hfixed hsafe
    | ok parsed =>
      obtain ⟨cmd, family, len⟩ := parsed
      obtain rfl := hadv cmd family len hfixed
      dsimp only
      rcases readFull_cases len.toNat rest with ⟨block, rest, rfl, hblock, hread⟩ | ⟨e, hread⟩
      · rw [hread]
        dsimp only
        rcases parseBlock_cases cmd family block with
          ⟨src, dst, sport, dport, tlvs, rfl, heq, hparse⟩ | ⟨e, hparse⟩
        · rw [hparse]
          exact Or.inl ⟨head, len, src, dst, sport, dport, tlvs, rest, by simp, hhead, hblock.symm,
            heq, rfl⟩
        · rw [hparse]
          exact Or.inr ⟨e, rest, rfl⟩
      · rw [hread]
        exact Or.inr ⟨e, [], rfl⟩
  · rw [readHeaderV2, hread]
    exact Or.inr ⟨e, [], rfl⟩

/-! ## All of them -/

theorem authenStart_tiles :
    Tiles AuthenStart.unmarshalBinary (fun _ => 8) fun a => [a.user, a.port, a.remAddr, a.data] :=
  .of_realises authenStart_realises fun a => ⟨authenStartFixed a, rfl, rfl⟩

theorem authenContinue_tiles :
    Tiles AuthenContinue.unmarshalBinary (fun _ => 5) fun a => [a.userMsg, a.data] :=
  .of_realises authenContinue_realises fun a => ⟨authenContinueFixed a, rfl, rfl⟩

theorem authenReply_tiles :
    Tiles AuthenReply.unmarshalBinary (fun _ => 6) fun a => [a.serverMsg, a.data] :=
  .of_realises authenReply_realises fun a => ⟨authenReplyFixed a, rfl, rfl⟩

theorem acctReply_tiles :
    Tiles AcctReply.unmarshalBinary (fun _ => 5) fun a => [a.serverMsg, a.data] :=
  .of_realises acctReply_realises fun a => ⟨acctReplyFixed a, rfl, rfl⟩

/-- The fields of a request follow the vector of the lengths of its arguments. -/
theorem requestTail_eq (fixed user port remAddr : Bytes) (args : List GoString) :
    fixed ++ requestTail user port remAddr args =
      (fixed ++ byteOf args.length :: lengthBytes args) ++
        ([user, port, remAddr] ++ args).flatten := by
  simp [requestTail]

theorem authorRequest_tiles :
    Tiles AuthorRequest.unmarshalBinary (fun a => 8 + a.args.length)
      fun a => [a.user, a.port, a.remAddr] ++ a.args :=
  .of_realises authorRequest_realises fun a =>
    ⟨_, requestTail_eq (authorRequestFixed a) a.user a.port a.remAddr a.args, by
      simp [authorRequestFixed]
      omega⟩

theorem acctRequest_tiles :
    Tiles AcctRequest.unmarshalBinary (fun a => 9 + a.args.length)
      fun a => [a.user, a.port, a.remAddr] ++ a.args :=
  .of_realises acctRequest_realises fun a =>
    ⟨_, requestTail_eq (acctRequestFixed a) a.user a.port a.remAddr a.args, by
      simp [acctRequestFixed]
      omega⟩

theorem authorReply_tiles :
    Tiles AuthorReply.unmarshalBinary (fun a => 6 + a.args.length)
      fun a => [a.serverMsg, a.data] ++ a.args :=
  .of_realises authorReply_realises fun a =>
    ⟨authorReplyFixed a ++ lengthBytes a.args, by simp [authorReplyFormat], by
      simp [authorReplyFixed]
      omega⟩

/-- No decoder leaves its buffer, and the variable fields of what is decoded are consecutive
    slices up to the end of the input; in a PROXY header, up to the end of the part of the block
    that is interpreted. -/
theorem decoders_safe :
    (∀ b, Header.unmarshalBinary b ≠ .error .panic) ∧
    Tiles AuthenStart.unmarshalBinary (fun _ => 8)
      (fun a => [a.user, a.port, a.remAddr, a.data]) ∧
    Tiles AuthenContinue.unmarshalBinary (fun _ => 5) (fun a => [a.userMsg, a.data]) ∧
    Tiles AuthenReply.unmarshalBinary (fun _ => 6) (fun a => [a.serverMsg, a.data]) ∧
    Tiles AuthorRequest.unmarshalBinary (fun a => 8 + a.args.length)
      (fun a => [a.user, a.port, a.remAddr] ++ a.args) ∧
    Tiles AuthorReply.unmarshalBinary (fun a => 6 + a.args.length)
      (fun a => [a.serverMsg, a.data] ++ a.args) ∧
    Tiles AcctRequest.unmarshalBinary (fun a => 9 + a.args.length)
      (fun a => [a.user, a.port, a.remAddr] ++ a.args) ∧
    Tiles AcctReply.unmarshalBinary (fun _ => 5) (fun a => [a.serverMsg, a.data]) ∧
    Tiles parseCHAPData (fun _ => 1) (fun d => [d.challenge, d.response]) ∧
    Tiles parseMSCHAPData (fun _ => 1) (fun d => [d.challenge, d.response]) ∧
    Tiles parseMSCHAPv2Data (fun _ => 1) (fun d => [d.challenge, d.response]) ∧
    Tiles simpleCredentials (fun _ => udpHeaderLenSimple) (fun c => [c.1, c.2]) ∧
    Tiles extendedCredentials (fun _ => udpHeaderLenExtended) (fun c => [c.1, c.2]) ∧
    ∀ r, (readHeaderV2 r).1 ≠ .error .panic ∧
      ∀ a rest, readHeaderV2 r = (.ok a, rest) →
        ∃ head addrLen src dst sport dport tlvs,
          r = head ++ be16Bytes addrLen ++ (Proxy.endpoints src dst sport dport ++ tlvs) ++ rest ∧
            head.length = 14 ∧
            addrLen.toNat = (Proxy.endpoints src dst sport dport ++ tlvs).length ∧
            src.length = dst.length ∧ a = { ip := src, port := sport.toNat } := by
  refine ⟨header_safe, authenStart_tiles, authenContinue_tiles, authenReply_tiles,
    authorRequest_tiles, authorReply_tiles, acctRequest_tiles, acctReply_tiles, chap_tiles,
    fixedChallenge_tiles _ _ _, fixedChallenge_tiles _ _ _, simpleCredentials_tiles,
    extendedCredentials_tiles, fun r => ?_⟩
  rcases readHeaderV2_cases r with
    ⟨head, addrLen, src, dst, sport, dport, tlvs, rest, hr, hhead, hlen, heq, hread⟩ |
      ⟨e, rest, hread⟩
  · rw [hread]
    refine ⟨by simp, fun a rest' h => ?_⟩
    obtain ⟨ha, rfl⟩ := Prod.mk.inj h
    exact ⟨head, addrLen, src, dst, sport, dport, tlvs, hr, hhead, hlen, heq,
      (Except.ok.inj ha).symm⟩
  · rw [hread]
    exact ⟨fail_ne_panic e, fun a rest' h => absurd (Prod.mk.inj h).1 (fail_ne_ok e a)⟩

end Decoders
end Proof
end Tacacs
