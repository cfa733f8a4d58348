import Tacacs.Packet.Header
import Tacacs.Crypto

/-!
# `transport/` — framing packets on a byte stream

A connection is read from the bytes its peer has yet to deliver. A reader returns its result
**and the rest of the stream**, also when it fails: what a failed read consumed is gone. Writes
give the bytes handed to the socket in the one `Write` call the source makes.

Deadlines are not modelled here; a read that times out is an event of the caller.
-/

set_option autoImplicit false

namespace Tacacs
namespace Transport

open GoSem Packet Crypto

inductive Mode where
  | legacy
  | tls
deriving DecidableEq, Repr

/-- `transport.Conn`: what framing needs of it, and the peer's address as a string. -/
structure Conn where
  mode : Mode
  secret : Bytes
  remoteAddr : GoString
deriving DecidableEq, Repr

/-- A packet as the layers above the transport see it: the header and the clear body. -/
structure Pkt where
  hdr : Header
  body : Bytes
deriving DecidableEq, Repr

/-- A read from a stream: the result, and what is left. -/
abbrev Read (α : Type) := Go GoError α × Bytes

/-! ## Reading -/

/-- `io.ReadFull` into a buffer of `n > 0` bytes. -/
def readFull (n : Nat) (r : Bytes) : Read Bytes :=
  if n ≤ r.length then (.ok (r.take n), r.drop n)
  else if r = [] then (fail .eof, [])
  else (fail .unexpectedEOF, [])

def readHeader (r : Bytes) : Read Header :=
  match readFull headerLength r with
  | (.error e, r) => (.error e, r)
  | (.ok hdrBuf, r) =>
      match Header.unmarshalBinary hdrBuf with
      | .error e => (.error e, r)
      | .ok hdr =>
          if hdr.length.toNat > maxPacketSize then
            (fail (validationError "length" "exceeds max packet size" .invalidLength), r)
          else (.ok hdr, r)

def readBody (hdr : Header) (r : Bytes) : Read Bytes :=
  if hdr.length = 0 then (.ok [], r) else readFull hdr.length.toNat r

/-- `transport.ReadPacket`: the header and the body as it is on the wire. -/
def readPacket (r : Bytes) : Read Pkt :=
  match readHeader r with
  | (.error e, r) => (.error e, r)
  | (.ok hdr, r) =>
      match readBody hdr r with
      | (.error e, r) => (.error e, r)
      | (.ok body, r) => (.ok ⟨hdr, body⟩, r)

/-- `Conn.ReadPacket`. -/
def Conn.readPacket (md5 : Md5) (c : Conn) (r : Bytes) : Read Pkt :=
  match readHeader r with
  | (.error e, r) => (.error e, r)
  | (.ok hdr, r) =>
      match readBody hdr r with
      | (.error e, r) => (.error e, r)
      | (.ok body, r) =>
          if c.mode = .legacy ∧ HeaderFlags.has hdr.flags flagUnencrypted = false
              ∧ body.length > 0 then
            (.ok ⟨hdr, deobfuscateInPlace md5 body c.secret hdr.sessionID hdr.version hdr.seqNo⟩,
              r)
          else (.ok ⟨hdr, body⟩, r)

/-! ## Writing -/

/-- `transport.WritePacket`: header and body in one buffer, `Length` set from the body. -/
def writePacket (hdr : Header) (body : Bytes) : Go GoError Bytes := do
  let hb ← Header.marshalBinary { hdr with length := UInt32.ofNat body.length }
  if body.length = 0 then return hb else return hb ++ body

/-- `Conn.WritePacket`: obfuscate under legacy, force the unencrypted flag under TLS. -/
def Conn.writePacket (md5 : Md5) (c : Conn) (hdr : Header) (body : Bytes) : Go GoError Bytes :=
  let out :=
    if c.mode = .legacy ∧ HeaderFlags.has hdr.flags flagUnencrypted = false ∧ body.length > 0
    then obfuscate md5 body c.secret hdr.sessionID hdr.version hdr.seqNo else body
  let hdr := if c.mode = .tls then { hdr with flags := hdr.flags ||| flagUnencrypted } else hdr
  Transport.writePacket hdr out

/-- `EnforceTLSFlagPolicy`. -/
def enforceTLSFlagPolicy (flagSet : Bool) : Except GoError Unit :=
  if !flagSet then
    .error (validationError "flags" "TAC_PLUS_UNENCRYPTED_FLAG must be set under TLS"
      .flagMismatch)
  else .ok ()

end Transport
end Tacacs
