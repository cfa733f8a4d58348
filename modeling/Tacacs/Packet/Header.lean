import Tacacs.Types

/-!
# `packet/header.go` — the 12-byte header

The version byte is the only field the decoder looks at; every other byte is carried as it is.
-/

set_option autoImplicit false

namespace Tacacs
namespace Packet

open GoSem

structure Header where
  version : Version
  type : PacketType
  seqNo : UInt8
  flags : HeaderFlags
  sessionID : UInt32
  length : UInt32 := 0
deriving DecidableEq, Repr

def Header.marshalBinary (h : Header) : Go GoError Bytes := do
  let b := make headerLength
  let b ← stores b 0 [h.version, h.type, h.seqNo, h.flags]
  let b ← stores b 4 (be32Bytes h.sessionID)
  stores b 8 (be32Bytes h.length)

def Header.unmarshalBinary (data : Bytes) : Go GoError Header :=
  if data.length < headerLength then
    fail (validationError "header" "short buffer" .invalidHeader)
  else do
    let version ← byteAt data 0
    if !Version.valid version then
      fail (validationError "version" "unsupported version byte" .unsupportedVersion)
    else
      let type ← byteAt data 1
      let seqNo ← byteAt data 2
      let flags ← byteAt data 3
      let sessionID ← uint32At (← slice data 4 8)
      let length ← uint32At (← slice data 8 12)
      return { version, type, seqNo, flags, sessionID, length }

/-- `ErrorHeader`: the header of the generic error packet, an echo with the next sequence
    number. `SeqNo + 1` is byte arithmetic. -/
def errorHeader (h : Header) : Header :=
  { version := h.version, type := h.type, seqNo := h.seqNo + 1, flags := h.flags,
    sessionID := h.sessionID, length := 0 }

end Packet
end Tacacs
