import Mathlib.Algebra.Order.BigOperators.Group.List
import Mathlib.Algebra.Order.Ring.Nat
import Tacacs.Lib.Frames
import Tacacs.Proof.Packet.Bodies
import Tacacs.Proof.Transport

/-!
# Streams of packets

`Conn.WritePacket` writes a frame and `Conn.ReadPacket` is a reader of frames (`Lib/Frames`), so
a connection delivers what was written on it, in order, and a connection that breaks off
delivers the packets that were complete and no part of the next.

The reader also bounds the length of a body, which the encoders do not: the last section says
which encodings it lets through.
-/

set_option autoImplicit false

namespace Tacacs
namespace Proof
namespace Transport

open GoSem Frames Tacacs.Packet Tacacs.Crypto Tacacs.Transport
open Tacacs.Proof.Packet

/-! ## One read -/

/-- How a read ends when the stream ends first. -/
def CutShort (e : Fault GoError) : Prop := e = .err .eof ∨ e = .err .unexpectedEOF

theorem readFull_short {n : Nat} {r : Bytes} (h : r.length < n) :
    ∃ e, CutShort e ∧ readFull n r = (.error e, []) := by
  unfold readFull
  rw [if_neg (Nat.not_le_of_lt h)]
  by_cases hr : r = []
  · rw [if_pos hr]
    exact ⟨_, Or.inl rfl, rfl⟩
  · rw [if_neg hr]
    exact ⟨_, Or.inr rfl, rfl⟩

theorem readFull_length {n : Nat} {r s rest : Bytes} (h : readFull n r = (.ok s, rest)) :
    rest.length + n = r.length := by
  unfold readFull at h
  split at h
  · next hle =>
    cases h
    rw [List.length_drop]
    omega
  · split at h <;> cases h

theorem readHeader_length {r rest : Bytes} {hdr : Header} (h : readHeader r = (.ok hdr, rest)) :
    rest.length + headerLength = r.length := by
  unfold readHeader at h
  split at h
  · cases h
  · next hfull =>
    split at h
    · cases h
    · split at h <;> cases h
      exact readFull_length hfull

theorem readBody_length {hdr : Header} {r body rest : Bytes}
    (h : readBody hdr r = (.ok body, rest)) : rest.length ≤ r.length := by
  unfold readBody at h
  split at h
  · cases h
    exact Nat.le_refl _
  · exact Nat.le.intro (readFull_length h)

theorem conn_readPacket_length {md5 : Md5} {c : Conn} {r rest : Bytes} {p : Pkt}
    (h : c.readPacket md5 r = (.ok p, rest)) : rest.length < r.length := by
  unfold Conn.readPacket at h
  split at h
  · cases h
  · next hdr r' hh =>
    have hlt : r'.length < r.length := by
      rw [← readHeader_length hh]
      exact Nat.lt_add_of_pos_right (by decide)
    split at h
    · cases h
    · next hb => split at h <;> cases h <;> exact Nat.lt_of_le_of_lt (readBody_length hb) hlt

/-- `Conn.ReadPacket`, called again and again. -/
def reader (md5 : Md5) (c : Conn) : Reader UInt8 (Fault GoError) Pkt where
  read := c.readPacket md5
  consumes := conn_readPacket_length

/-! ## One packet is a frame -/

/-- What `Conn.WritePacket` writes for a packet. -/
def frame (md5 : Md5) (c : Conn) (p : Pkt) : Bytes :=
  headerBytes (arriving c p.hdr p.body) ++ onTheWire md5 c p.hdr p.body

/-- A packet as the other end reads it. -/
def delivered (c : Conn) (p : Pkt) : Pkt := ⟨arriving c p.hdr p.body, p.body⟩

/-- What both ends accept: a version byte the reader knows, and a body within the bound. -/
def Sendable (p : Pkt) : Prop :=
  Version.valid p.hdr.version = true ∧ p.body.length ≤ maxPacketSize

instance (p : Pkt) : Decidable (Sendable p) := inferInstanceAs (Decidable (_ ∧ _))

theorem toNat_length_arriving {c : Conn} {p : Pkt} (h : p.body.length ≤ maxPacketSize) :
    (arriving c p.hdr p.body).length.toNat = p.body.length := by
  show (UInt32.ofNat p.body.length).toNat = p.body.length
  rw [UInt32.toNat_ofNat']
  exact Nat.mod_eq_of_lt (Nat.lt_of_le_of_lt h (by decide))

section Frame

variable {md5 : Md5} {c c' : Conn} (hmode : c'.mode = c.mode) (hsecret : c'.secret = c.secret)

include hmode hsecret in
theorem readPacket_frame {p : Pkt} (hp : Sendable p) (rest : Bytes) :
    c'.readPacket md5 (frame md5 c p ++ rest) = (.ok (delivered c p), rest) := by
  obtain ⟨b, hb, hread⟩ := readPacket_writePacket md5 hmode hsecret hp.1 hp.2 rest
  rw [conn_writePacket] at hb
  cases hb
  exact hread

/-- A frame cut in its header or in its body. -/
theorem readPacket_cut {p : Pkt} (hp : Sendable p) {g : Bytes} (hg : g <+: frame md5 c p)
    (hne : g ≠ frame md5 c p) : ∃ e, CutShort e ∧ c'.readPacket md5 g = (.error e, []) := by
  obtain ⟨tail, htail⟩ := hg
  unfold Conn.readPacket
  by_cases hlen : g.length < headerLength
  · obtain ⟨e, he, hread⟩ := readFull_short hlen
    refine ⟨e, he, ?_⟩
    unfold readHeader
    rw [hread]
  · -- the header is whole, and what is missing is of the body
    obtain ⟨g', rfl⟩ : headerBytes (arriving c p.hdr p.body) <+: g :=
      List.prefix_of_prefix_length_le (List.prefix_append _ _) ⟨tail, htail⟩
        (Nat.le_of_not_lt hlen)
    have hl := toNat_length_arriving (c := c) hp.2
    have hbody : g' ++ tail = onTheWire md5 c p.hdr p.body := by
      rw [List.append_assoc] at htail
      exact List.append_cancel_left htail
    have hshort : g'.length < p.body.length := by
      rw [← length_onTheWire md5 c p.hdr p.body, ← hbody, List.length_append]
      refine Nat.lt_add_of_pos_right (List.length_pos_iff.mpr ?_)
      rintro rfl
      exact hne (by rw [← htail, List.append_nil])
    obtain ⟨e, he, hread⟩ := readFull_short (hl.symm ▸ hshort)
    refine ⟨e, he, ?_⟩
    have hv : Version.valid (arriving c p.hdr p.body).version = true := hp.1
    rw [readHeader_append hv (hl.symm ▸ hp.2)]
    dsimp only
    have h0 : (arriving c p.hdr p.body).length ≠ 0 := by
      intro h0
      rw [h0] at hl
      exact absurd hshort (by rw [← hl]; exact Nat.not_lt_zero _)
    unfold readBody
    rw [if_neg h0, hread]

include hmode hsecret in
theorem frame_isFrame {p : Pkt} (hp : Sendable p) :
    Frame (reader md5 c') CutShort (frame md5 c p) (delivered c p) where
  whole rest := by
    dsimp only [reader]
    exact readPacket_frame hmode hsecret hp rest
  cut g hg hne := by
    dsimp only [reader]
    exact readPacket_cut hp hg hne

end Frame

/-! ## Many packets -/

/-- The packets written one after the other. -/
def writeAll (md5 : Md5) (c : Conn) : List Pkt → Go GoError Bytes
  | [] => .ok []
  | p :: ps => do
      let b ← c.writePacket md5 p.hdr p.body
      let bs ← writeAll md5 c ps
      return b ++ bs

theorem writeAll_eq (md5 : Md5) (c : Conn) (ps : List Pkt) :
    writeAll md5 c ps = .ok (ps.map (frame md5 c)).flatten := by
  induction ps with
  | nil => rfl
  | cons p ps ih =>
    rw [writeAll, conn_writePacket, ok_bind, ih]
    rfl

theorem readAll_nil (md5 : Md5) (c : Conn) :
    (reader md5 c).readAll [] = ⟨[], .err .eof, []⟩ :=
  readAll_error rfl

theorem frames_of_sendable (md5 : Md5) {c c' : Conn} (hmode : c'.mode = c.mode)
    (hsecret : c'.secret = c.secret) {ps : List Pkt} (hps : ∀ p ∈ ps, Sendable p) :
    List.Forall₂ (Frame (reader md5 c') CutShort) (ps.map (frame md5 c))
      (ps.map (delivered c)) := by
  rw [List.forall₂_map_left_iff, List.forall₂_map_right_iff, List.forall₂_same]
  exact fun p hp => frame_isFrame hmode hsecret (hps p hp)

/-- What is read of the packets written on a connection. -/
theorem readAll_written (md5 : Md5) {c c' : Conn} (hmode : c'.mode = c.mode)
    (hsecret : c'.secret = c.secret) {ps : List Pkt} (hps : ∀ p ∈ ps, Sendable p) :
    (reader md5 c').readAll (ps.map (frame md5 c)).flatten
      = ⟨ps.map (delivered c), .err .eof, []⟩ := by
  have hall := readAll_frames (frames_of_sendable md5 hmode hsecret hps) []
  rw [List.append_nil, readAll_nil, List.append_nil] at hall
  exact hall

/-- **A stream of packets arrives as it was sent.** Whatever packets one end writes, the other
    end reads the same packets in the same order, bodies in the clear, and then the end of the
    stream. If the stream breaks off, what is read is the packets it holds whole, and then an
    error: never a part of the next packet. -/
theorem stream_roundTrip (md5 : Md5) (c c' : Conn) (hmode : c'.mode = c.mode)
    (hsecret : c'.secret = c.secret) (ps : List Pkt)
    (hps : ∀ p ∈ ps, Version.valid p.hdr.version = true ∧ p.body.length ≤ maxPacketSize) :
    ∃ s, writeAll md5 c ps = .ok s ∧
      (reader md5 c').readAll s
        = ⟨ps.map fun p => ⟨arriving c p.hdr p.body, p.body⟩, .err .eof, []⟩ ∧
      ∀ t, t <+: s → t ≠ s → ∃ k < ps.length, ∃ whole next,
        writeAll md5 c (ps.take k) = .ok whole ∧ whole <+: t ∧
        writeAll md5 c (ps.take (k + 1)) = .ok next ∧ ¬next <+: t ∧
        ((reader md5 c').readAll t).values
          = (ps.take k).map (fun p => ⟨arriving c p.hdr p.body, p.body⟩) ∧
        CutShort ((reader md5 c').readAll t).error ∧ ((reader md5 c').readAll t).rest = [] := by
  refine ⟨_, writeAll_eq md5 c ps, readAll_written md5 hmode hsecret hps, ?_⟩
  intro t ht hne
  obtain ⟨k, hk, hle, hlt, hvals, hend⟩ :=
    readAll_cut (frames_of_sendable md5 hmode hsecret hps) ht hne
  rw [List.length_map] at hk
  rw [← List.map_take] at hle hlt hvals
  refine ⟨k, hk, _, _, writeAll_eq md5 c _, ?_, writeAll_eq md5 c _, ?_, hvals, hend⟩
  · refine List.prefix_of_prefix_length_le ?_ ht hle
    rw [List.map_take]
    exact ⟨_, by rw [← List.flatten_append, List.take_append_drop]⟩
  · exact fun hpre => absurd hpre.length_le (Nat.not_le_of_lt hlt)

/-- Two packets on a TLS connection, one of them without a body. -/
theorem stream_roundTrip_two :
    let c : Conn := ⟨.tls, [], []⟩
    let p : Pkt := ⟨{ version := 0xc0, type := 1, seqNo := 1, flags := 0, sessionID := 7 }, []⟩
    let q : Pkt := ⟨{ version := 0xc1, type := 1, seqNo := 3, flags := 4, sessionID := 7 }, [1, 2]⟩
    ∃ s, writeAll default c [p, q] = .ok s ∧
      (reader default c).readAll s
        = ⟨[⟨arriving c p.hdr p.body, []⟩, ⟨arriving c q.hdr q.body, [1, 2]⟩], .err .eof, []⟩ :=
  let c : Conn := ⟨.tls, [], []⟩
  let p : Pkt := ⟨{ version := 0xc0, type := 1, seqNo := 1, flags := 0, sessionID := 7 }, []⟩
  let q : Pkt := ⟨{ version := 0xc1, type := 1, seqNo := 3, flags := 4, sessionID := 7 }, [1, 2]⟩
  have ⟨s, hs, hread, _⟩ := stream_roundTrip default c c rfl rfl [p, q] (by decide)
  ⟨s, hs, hread⟩

/-! ## Which encodings the reader accepts

The encoders bound each field by the width of its length, the reader bounds their sum. -/

/-- The values that `encode` encodes give packets of `size` bytes, of which the reader accepts
    those within the bound and refuses the others. -/
def AcceptedWithin {α : Type} (hdr : Header) (encode : α → Go GoError Bytes) (size : α → Nat) :
    Prop :=
  ∀ a body, encode a = .ok body → body.length = size a ∧
    ∃ b, Tacacs.Transport.writePacket hdr body = .ok b ∧
      if size a ≤ maxPacketSize then
        readHeader b = (.ok { hdr with length := UInt32.ofNat (size a) }, body) ∧
        readPacket b = (.ok ⟨{ hdr with length := UInt32.ofNat (size a) }, body⟩, [])
      else readHeader b = (fail tooLong, body) ∧ readPacket b = (fail tooLong, body)

theorem writePacket_eq (hdr : Header) (body : Bytes) :
    Tacacs.Transport.writePacket hdr body
      = .ok (headerBytes { hdr with length := UInt32.ofNat body.length } ++ body) := by
  unfold Tacacs.Transport.writePacket
  rw [header_marshalBinary, ok_bind]
  by_cases h0 : body.length = 0
  · rw [if_pos h0, List.length_eq_zero_iff.mp h0, List.append_nil]
    rfl
  · rw [if_neg h0]
    rfl

theorem readPacket_of_header_ok {r rest body : Bytes} {hdr : Header}
    (hh : readHeader r = (.ok hdr, body ++ rest)) (hl : hdr.length.toNat = body.length) :
    readPacket r = (.ok ⟨hdr, body⟩, rest) := by
  unfold readPacket
  rw [hh]
  dsimp only
  rw [readBody_append hl]

theorem readPacket_of_header_error {r rest : Bytes} {e : Fault GoError}
    (hh : readHeader r = (.error e, rest)) : readPacket r = (.error e, rest) := by
  unfold readPacket
  rw [hh]

/-- A format whose encodings have a length that fits the header. -/
theorem acceptedWithin {α : Type} {F : Wire.Format α} {encode : α → Go GoError Bytes}
    {decode : Bytes → Go GoError α} (h : Wire.Realises F encode decode) {size : α → Nat}
    (hsize : ∀ a, F.Fits a → (F.bytes a).length = size a ∧ size a < 2 ^ 32) {hdr : Header}
    (hv : Version.valid hdr.version = true) : AcceptedWithin hdr encode size := by
  intro a body henc
  obtain ⟨hfit, rfl⟩ := (h.encode_iff a body).mp henc
  obtain ⟨hlen, hlt⟩ := hsize a hfit
  have hnat : (UInt32.ofNat (size a)).toNat = size a := by
    rw [UInt32.toNat_ofNat']
    exact Nat.mod_eq_of_lt hlt
  have hv' : Version.valid ({ hdr with length := UInt32.ofNat (size a) } : Header).version = true :=
    hv
  refine ⟨hlen, _, writePacket_eq hdr _, ?_⟩
  rw [hlen]
  have hread := readHeader_headerBytes hv' (F.bytes a)
  simp only [hnat] at hread
  by_cases hle : size a ≤ maxPacketSize
  · rw [if_pos hle]
    rw [if_neg (Nat.not_lt_of_le hle)] at hread
    refine ⟨hread, readPacket_of_header_ok ?_ (hnat.trans hlen.symm)⟩
    rw [List.append_nil]
    exact hread
  · rw [if_neg hle]
    rw [if_pos (Nat.lt_of_not_le hle)] at hread
    exact ⟨hread, readPacket_of_header_error hread⟩

/-- The argument vector of a body that encodes is bounded on its own. -/
theorem length_flatten_le {args : List GoString} (h : ArgsFit args) :
    args.flatten.length ≤ args.length * 0xff := by
  rw [List.length_flatten, ← List.length_map List.length]
  refine List.sum_le_card_nsmul _ _ fun n hn => ?_
  obtain ⟨a, ha, rfl⟩ := List.mem_map.mp hn
  exact h a ha

theorem length_requestTail (user port remAddr : GoString) (args : List GoString) :
    (requestTail user port remAddr args).length = 1 + args.length + user.length + port.length +
      remAddr.length + args.flatten.length := by
  simp only [requestTail, List.length_cons, List.length_append, length_lengthBytes,
    List.flatten_cons, List.flatten_nil, List.append_nil]
  omega

theorem length_authenStart_bytes (a : AuthenStart) : (authenStartFormat.bytes a).length
    = 8 + a.user.length + a.port.length + a.remAddr.length + a.data.length := by
  simp only [authenStartFormat, authenStartFixed, List.length_append, List.length_cons,
    List.length_nil, List.flatten_cons, List.flatten_nil]
  omega

theorem length_authenContinue_bytes (a : AuthenContinue) :
    (authenContinueFormat.bytes a).length = 5 + a.userMsg.length + a.data.length := by
  simp only [authenContinueFormat, authenContinueFixed, List.length_append, List.length_cons,
    List.length_nil, List.flatten_cons, List.flatten_nil]
  omega

theorem length_authenReply_bytes (a : AuthenReply) :
    (authenReplyFormat.bytes a).length = 6 + a.serverMsg.length + a.data.length := by
  simp only [authenReplyFormat, authenReplyFixed, List.length_append, List.length_cons,
    List.length_nil, List.flatten_cons, List.flatten_nil]
  omega

/-- A START is short whatever it holds. -/
theorem authenStart_bytes_le {a : AuthenStart} (h : authenStartFormat.Fits a) :
    (authenStartFormat.bytes a).length ≤ 1028 := by
  obtain ⟨hu, hp, hr, hd⟩ := h
  rw [length_authenStart_bytes]
  omega

theorem authenReply_accepted {hdr : Header} (hv : Version.valid hdr.version = true) :
    AcceptedWithin hdr AuthenReply.marshalBinary
      (fun a => 6 + a.serverMsg.length + a.data.length) := by
  refine acceptedWithin authenReply_realises ?_ hv
  rintro a ⟨hm, hd⟩
  refine ⟨length_authenReply_bytes a, ?_⟩
  omega

/-- **An encoding is received if and only if it is within `MaxPacketSize`.** The length of an
    encoding, for each body, and what a reader makes of the packet that carries it. A START is
    always within the bound; of the other bodies some values encode and are not received. -/
theorem encoding_received_iff (hdr : Header) (hv : Version.valid hdr.version = true) :
    AcceptedWithin hdr AuthenStart.marshalBinary
      (fun a => 8 + a.user.length + a.port.length + a.remAddr.length + a.data.length) ∧
    (∀ (a : AuthenStart) body, a.marshalBinary = .ok body → body.length ≤ 1028) ∧
    AcceptedWithin hdr AuthenContinue.marshalBinary
      (fun a => 5 + a.userMsg.length + a.data.length) ∧
    AcceptedWithin hdr AuthenReply.marshalBinary
      (fun a => 6 + a.serverMsg.length + a.data.length) ∧
    AcceptedWithin hdr AuthorRequest.marshalBinary
      (fun a => 8 + a.args.length + a.user.length + a.port.length + a.remAddr.length +
        a.args.flatten.length) ∧
    AcceptedWithin hdr AuthorReply.marshalBinary
      (fun a => 6 + a.args.length + a.serverMsg.length + a.data.length + a.args.flatten.length) ∧
    AcceptedWithin hdr AcctRequest.marshalBinary
      (fun a => 9 + a.args.length + a.user.length + a.port.length + a.remAddr.length +
        a.args.flatten.length) ∧
    AcceptedWithin hdr AcctReply.marshalBinary
      (fun a => 5 + a.serverMsg.length + a.data.length) := by
  refine ⟨acceptedWithin authenStart_realises ?_ hv, ?_,
    acceptedWithin authenContinue_realises ?_ hv, authenReply_accepted hv,
    acceptedWithin authorRequest_realises ?_ hv, acceptedWithin authorReply_realises ?_ hv,
    acceptedWithin acctRequest_realises ?_ hv, acceptedWithin acctReply_realises ?_ hv⟩
  · intro a hfit
    have hle := authenStart_bytes_le hfit
    rw [length_authenStart_bytes] at hle
    exact ⟨length_authenStart_bytes a, Nat.lt_of_le_of_lt hle (by decide)⟩
  · intro a body henc
    obtain ⟨hfit, rfl⟩ := (authenStart_realises.encode_iff a body).mp henc
    exact authenStart_bytes_le hfit
  · rintro a ⟨hm, hd⟩
    refine ⟨length_authenContinue_bytes a, ?_⟩
    omega
  · rintro a ⟨hu, hp, hr, hargs, hn⟩
    have hvec := length_flatten_le hargs
    simp only [authorRequestFormat, authorRequestFixed, List.length_append, List.length_cons,
      List.length_nil, length_requestTail]
    omega
  · rintro a ⟨hm, hd, hargs, hn⟩
    have hvec := length_flatten_le hargs
    simp only [authorReplyFormat, authorReplyFixed, List.length_append, List.length_cons,
      List.length_nil, List.flatten_cons, List.flatten_nil, length_lengthBytes]
    omega
  · rintro a ⟨hu, hp, hr, hargs, hn⟩
    have hvec := length_flatten_le hargs
    simp only [acctRequestFormat, acctRequestFixed, List.length_append, List.length_cons,
      List.length_nil, length_requestTail]
    omega
  · rintro a ⟨hm, hd⟩
    simp only [acctReplyFormat, acctReplyFixed, List.length_append, List.length_cons,
      List.length_nil, List.flatten_cons, List.flatten_nil]
    omega

theorem encoding_received_versionDefault :
    AcceptedWithin { version := 0xc0, type := 1, seqNo := 1, flags := 0, sessionID := 7 }
      AuthenStart.marshalBinary
      (fun a => 8 + a.user.length + a.port.length + a.remAddr.length + a.data.length) :=
  (encoding_received_iff _ rfl).1

/-- An authentication REPLY with a message of 65535 bytes encodes, and its packet is refused. -/
theorem encoding_refused :
    ∃ body b, AuthenReply.marshalBinary ⟨0x02, 0, List.replicate 65535 0x61, []⟩ = .ok body ∧
      Tacacs.Transport.writePacket
        { version := 0xc0, type := 1, seqNo := 2, flags := 0, sessionID := 7 } body = .ok b ∧
      readHeader b = (fail tooLong, body) ∧ readPacket b = (fail tooLong, body) := by
  have hmsg : (List.replicate 65535 (0x61 : UInt8)).length = 65535 := List.length_replicate
  generalize List.replicate 65535 (0x61 : UInt8) = msg at hmsg
  obtain ⟨body, hbody⟩ := (authenReply_realises.encodes_iff ⟨0x02, 0, msg, []⟩).mpr
    ⟨Nat.le_of_eq hmsg, Nat.zero_le _⟩
  have hv : Version.valid (Header.mk 0xc0 1 2 0 7 0).version = true := rfl
  obtain ⟨_, b, hb, hread⟩ := authenReply_accepted hv _ body hbody
  have hlong : ¬6 + msg.length + 0 ≤ maxPacketSize := by
    rw [hmsg]
    decide
  exact ⟨body, b, hbody, hb, Eq.mp (if_neg hlong) hread⟩

end Transport
end Proof
end Tacacs
