import Tacacs.Transport
import Tacacs.Proof.Pad

/-!
# One packet, there and back

What `Conn.WritePacket` puts on the wire, `Conn.ReadPacket` takes off it, for any body that the
length check lets through, with the rest of the stream left as it was. Under legacy the body
goes through the pad twice, and the second time undoes the first.
-/

set_option autoImplicit false

namespace Tacacs
namespace Proof
namespace Transport

open GoSem Tacacs.Crypto Tacacs.Transport
open Tacacs.Packet (Header)
open Tacacs.Proof.Pad (length_xorPad xorPad_xorPad)

/-! ## The header -/

def headerBytes (hdr : Header) : Bytes :=
  [hdr.version, hdr.type, hdr.seqNo, hdr.flags] ++ be32Bytes hdr.sessionID ++
    be32Bytes hdr.length

theorem header_marshalBinary (hdr : Header) : hdr.marshalBinary = .ok (headerBytes hdr) := by
  let labels := [hdr.version, hdr.type, hdr.seqNo, hdr.flags]
  have h1 : (stores (make headerLength) 0 labels : Go GoError Bytes) = .ok (filled labels 8) :=
    stores_filled labels [] 8 rfl
  have h2 : (stores (filled labels 8) 4 (be32Bytes hdr.sessionID) : Go GoError Bytes)
      = .ok (filled (labels ++ be32Bytes hdr.sessionID) 4) :=
    stores_filled (be32Bytes hdr.sessionID) labels 4 rfl
  have h3 : (stores (filled (labels ++ be32Bytes hdr.sessionID) 4) 8 (be32Bytes hdr.length) :
      Go GoError Bytes) = .ok (filled (headerBytes hdr) 0) :=
    stores_filled (be32Bytes hdr.length) (labels ++ be32Bytes hdr.sessionID) 0 rfl
  unfold Header.marshalBinary
  dsimp only
  rw [h1, ok_bind, h2, ok_bind, h3, filled_zero]

theorem header_unmarshalBinary {hdr : Header} (hv : Version.valid hdr.version = true) :
    Header.unmarshalBinary (headerBytes hdr) = .ok hdr := by
  have h0 : (byteAt (headerBytes hdr) 0 : Go GoError UInt8) = .ok hdr.version := rfl
  have h1 : (byteAt (headerBytes hdr) 1 : Go GoError UInt8) = .ok hdr.type := rfl
  have h2 : (byteAt (headerBytes hdr) 2 : Go GoError UInt8) = .ok hdr.seqNo := rfl
  have h3 : (byteAt (headerBytes hdr) 3 : Go GoError UInt8) = .ok hdr.flags := rfl
  have hid : (slice (headerBytes hdr) 4 8 : Go GoError Bytes) = .ok (be32Bytes hdr.sessionID) :=
    rfl
  have hlen : (slice (headerBytes hdr) 8 12 : Go GoError Bytes) = .ok (be32Bytes hdr.length) :=
    rfl
  have hsize : ¬(headerBytes hdr).length < headerLength := Nat.lt_irrefl 12
  unfold Header.unmarshalBinary
  rw [if_neg hsize, h0, ok_bind, hv, if_neg (by simp), h1, ok_bind, h2, ok_bind, h3, ok_bind, hid,
    ok_bind, uint32At_be32Bytes, ok_bind, hlen, ok_bind, uint32At_be32Bytes, ok_bind]
  rfl

/-! ## Reading what was written -/

theorem readFull_append {s : Bytes} (rest : Bytes) :
    readFull s.length (s ++ rest) = (.ok s, rest) := by
  unfold readFull
  rw [if_pos (by rw [List.length_append]; omega), List.take_left, List.drop_left]

/-- What the reader answers to a header whose length is out of bounds. -/
def tooLong : GoError := validationError "length" "exceeds max packet size" .invalidLength

theorem readHeader_headerBytes {hdr : Header} (hv : Version.valid hdr.version = true)
    (rest : Bytes) :
    readHeader (headerBytes hdr ++ rest)
      = (if hdr.length.toNat > maxPacketSize then fail tooLong else .ok hdr, rest) := by
  unfold readHeader
  rw [show headerLength = (headerBytes hdr).length from rfl, readFull_append]
  dsimp only
  rw [header_unmarshalBinary hv]
  dsimp only
  split <;> rfl

theorem readHeader_append {hdr : Header} (hv : Version.valid hdr.version = true)
    (hl : hdr.length.toNat ≤ maxPacketSize) (rest : Bytes) :
    readHeader (headerBytes hdr ++ rest) = (.ok hdr, rest) := by
  rw [readHeader_headerBytes hv, if_neg (Nat.not_lt_of_le hl)]

/-- What the reader answers to a version it does not know. -/
def unknownVersion : GoError :=
  validationError "version" "unsupported version byte" .unsupportedVersion

theorem readHeader_unknownVersion {hdr : Header} (hv : Version.valid hdr.version = false)
    (rest : Bytes) : readHeader (headerBytes hdr ++ rest) = (fail unknownVersion, rest) := by
  have h0 : (byteAt (headerBytes hdr) 0 : Go GoError UInt8) = .ok hdr.version := rfl
  have hsize : ¬(headerBytes hdr).length < headerLength := Nat.lt_irrefl 12
  unfold readHeader
  rw [show headerLength = (headerBytes hdr).length from rfl, readFull_append]
  dsimp only
  unfold Header.unmarshalBinary
  rw [if_neg hsize, h0, ok_bind, hv]
  rfl

theorem readBody_append {hdr : Header} {body : Bytes} (h : hdr.length.toNat = body.length)
    (rest : Bytes) : readBody hdr (body ++ rest) = (.ok body, rest) := by
  unfold readBody
  by_cases h0 : hdr.length = 0
  · rw [if_pos h0]
    have hnil : body = [] := by
      rw [h0] at h
      exact List.length_eq_zero_iff.mp h.symm
    rw [hnil, List.nil_append]
  · rw [if_neg h0, h, readFull_append]

/-- The clear body of a packet whose body on the wire is `wire`. -/
def clearBody (md5 : Md5) (c : Conn) (hdr : Header) (wire : Bytes) : Bytes :=
  if c.mode = .legacy ∧ HeaderFlags.has hdr.flags flagUnencrypted = false ∧ wire.length > 0
  then deobfuscateInPlace md5 wire c.secret hdr.sessionID hdr.version hdr.seqNo else wire

/-- What `Conn.ReadPacket` makes of a packet: its version and its length decide. -/
theorem readPacket_headerBytes (md5 : Md5) (c : Conn) (hdr : Header) {wire : Bytes}
    (hlen : hdr.length.toNat = wire.length) (rest : Bytes) :
    c.readPacket md5 (headerBytes hdr ++ (wire ++ rest)) =
      if Version.valid hdr.version = false then (fail unknownVersion, wire ++ rest)
      else if hdr.length.toNat > maxPacketSize then (fail tooLong, wire ++ rest)
      else (.ok ⟨hdr, clearBody md5 c hdr wire⟩, rest) := by
  unfold Conn.readPacket clearBody
  cases hv : Version.valid hdr.version with
  | false =>
    rw [readHeader_unknownVersion hv, if_pos rfl]
    rfl
  | true =>
    rw [readHeader_headerBytes hv, if_neg (show ¬true = false by decide)]
    by_cases hmax : hdr.length.toNat > maxPacketSize
    · rw [if_pos hmax, if_pos hmax]
      rfl
    · rw [if_neg hmax, if_neg hmax]
      dsimp only
      rw [readBody_append hlen]
      dsimp only
      split <;> rfl

/-- The header of a packet as it arrives. -/
def arriving (c : Conn) (hdr : Header) (body : Bytes) : Header :=
  { hdr with length := UInt32.ofNat body.length,
             flags := if c.mode = .tls then hdr.flags ||| flagUnencrypted else hdr.flags }

/-- The body of a packet on the wire. -/
def onTheWire (md5 : Md5) (c : Conn) (hdr : Header) (body : Bytes) : Bytes :=
  if c.mode = .legacy ∧ HeaderFlags.has hdr.flags flagUnencrypted = false ∧ body.length > 0
  then obfuscate md5 body c.secret hdr.sessionID hdr.version hdr.seqNo else body

theorem length_onTheWire (md5 : Md5) (c : Conn) (hdr : Header) (body : Bytes) :
    (onTheWire md5 c hdr body).length = body.length := by
  unfold onTheWire obfuscate
  split
  · next h =>
    rw [if_neg (Nat.ne_of_gt h.2.2)]
    exact length_xorPad md5 body _ _ _ _
  · rfl

/-- `Conn.WritePacket` never fails. -/
theorem conn_writePacket (md5 : Md5) (c : Conn) (hdr : Header) (body : Bytes) :
    c.writePacket md5 hdr body
      = .ok (headerBytes (arriving c hdr body) ++ onTheWire md5 c hdr body) := by
  have hlen := length_onTheWire md5 c hdr body
  unfold Conn.writePacket
  show Tacacs.Transport.writePacket (if c.mode = .tls then _ else hdr) (onTheWire md5 c hdr body)
    = _
  unfold Tacacs.Transport.writePacket
  rw [header_marshalBinary, ok_bind, hlen]
  have hhdr : headerBytes
      { (if c.mode = .tls then { hdr with flags := hdr.flags ||| flagUnencrypted } else hdr) with
        length := UInt32.ofNat body.length } = headerBytes (arriving c hdr body) := by
    unfold arriving
    cases c.mode <;> rfl
  rw [hhdr]
  by_cases h0 : body.length = 0
  · rw [if_pos h0, List.length_eq_zero_iff.mp (hlen.trans h0), List.append_nil]
    rfl
  · rw [if_neg h0]
    rfl

/-- The other end undoes what was done to the body. Under legacy the flags arrive as they were
    sent, so both ends treat it alike. -/
theorem clearBody_onTheWire (md5 : Md5) {c c' : Conn} (hmode : c'.mode = c.mode)
    (hsecret : c'.secret = c.secret) (hdr : Header) (body : Bytes) :
    clearBody md5 c' (arriving c hdr body) (onTheWire md5 c hdr body) = body := by
  unfold clearBody
  rw [hmode, hsecret, length_onTheWire]
  unfold onTheWire
  cases hc : c.mode with
  | tls => rw [if_neg (by simp), if_neg (by simp)]
  | legacy =>
    have hflags : (arriving c hdr body).flags = hdr.flags := by
      unfold arriving
      rw [hc]
      rfl
    rw [hflags]
    by_cases hob : HeaderFlags.has hdr.flags flagUnencrypted = false ∧ body.length > 0
    · rw [if_pos ⟨rfl, hob⟩, if_pos ⟨rfl, hob⟩]
      unfold deobfuscateInPlace obfuscate
      rw [if_neg (Nat.ne_of_gt hob.2)]
      exact xorPad_xorPad md5 body c.secret hdr.sessionID hdr.version hdr.seqNo
    · rw [if_neg (fun h => hob h.2), if_neg (fun h => hob h.2)]

/-- **One packet, there and back.** A packet written on one end of a connection is read on the
    other, with the body in the clear, and nothing beyond it is consumed. -/
theorem readPacket_writePacket (md5 : Md5) {c c' : Conn} (hmode : c'.mode = c.mode)
    (hsecret : c'.secret = c.secret) {hdr : Header} (hv : Version.valid hdr.version = true)
    {body : Bytes} (hbody : body.length ≤ maxPacketSize) (rest : Bytes) :
    ∃ b, c.writePacket md5 hdr body = .ok b ∧
      c'.readPacket md5 (b ++ rest) = (.ok ⟨arriving c hdr body, body⟩, rest) := by
  refine ⟨_, conn_writePacket md5 c hdr body, ?_⟩
  have hlen : (arriving c hdr body).length.toNat = body.length := by
    show (UInt32.ofNat body.length).toNat = body.length
    rw [UInt32.toNat_ofNat']
    exact Nat.mod_eq_of_lt (Nat.lt_of_le_of_lt hbody (by decide))
  have hv' : ¬Version.valid (arriving c hdr body).version = false := by
    show ¬Version.valid hdr.version = false
    rw [hv]
    decide
  rw [List.append_assoc, readPacket_headerBytes md5 c' _ (by rw [hlen, length_onTheWire]),
    if_neg hv', if_neg (by rw [hlen]; exact Nat.not_lt_of_le hbody),
    clearBody_onTheWire md5 hmode hsecret]

end Transport
end Proof
end Tacacs
