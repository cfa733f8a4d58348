import Tacacs.Errors

/-!
# `legacy/udp.go` — original TACACS over UDP

Two forms of one datagram: a header of 6 or of 26 bytes, and the user name immediately followed
by the password. The header has a length for each of the two.
-/

set_option autoImplicit false

namespace Tacacs
namespace Legacy

open GoSem

def udpVersionSimple : UInt8 := 0
def udpVersionExtended : UInt8 := 128
def udpHeaderLenSimple : Nat := 6
def udpHeaderLenExtended : Nat := 26

/-! ## User and password

The methods of the two forms have the same bodies. -/

def userOf (userLen : UInt8) (data : Bytes) : Go GoError GoString :=
  let n := userLen.toNat
  let n := if n > data.length then data.length else n
  slice data 0 n

def passwordOf (userLen : UInt8) (data : Bytes) : Go GoError GoString :=
  let n := userLen.toNat
  if n > data.length then .ok [] else slice data n data.length

/-! ## The simple form -/

structure UDPSimple where
  version : UInt8
  type : UInt8
  nonce : UInt16
  userLenOrResponse : UInt8
  pwLenOrReason : UInt8
  data : Bytes
deriving DecidableEq, Repr

namespace UDPSimple

def marshalBinary (p : UDPSimple) : Go GoError Bytes :=
  let b := make (udpHeaderLenSimple + p.data.length)
  if p.version ≠ udpVersionSimple then
    fail (validationError "version" "simple packet must use version 0" .unsupportedVersion)
  else do
    let b ← stores b 0 [p.version, p.type]
    let b ← stores b 2 (be16Bytes p.nonce)
    let b ← stores b 4 [p.userLenOrResponse, p.pwLenOrReason]
    let (b, _) ← copyAt b 6 p.data
    return b

def unmarshalBinary (data : Bytes) : Go GoError UDPSimple :=
  if data.length < udpHeaderLenSimple then
    fail (validationError "udp_simple" "short buffer" .invalidPacket)
  else do
    let version ← byteAt data 0
    let type ← byteAt data 1
    let nonce ← uint16At (← slice data 2 4)
    let userLenOrResponse ← byteAt data 4
    let pwLenOrReason ← byteAt data 5
    let data ← slice data 6 data.length
    return { version, type, nonce, userLenOrResponse, pwLenOrReason, data }

def user (p : UDPSimple) : Go GoError GoString := userOf p.userLenOrResponse p.data

def password (p : UDPSimple) : Go GoError GoString := passwordOf p.userLenOrResponse p.data

end UDPSimple

/-! ## The extended form -/

/-- A `[4]byte`. -/
structure Quad where
  b0 : UInt8
  b1 : UInt8
  b2 : UInt8
  b3 : UInt8
deriving DecidableEq, Repr

def Quad.bytes (q : Quad) : Bytes := [q.b0, q.b1, q.b2, q.b3]

/-- `copy(q[:], b)` of four bytes. -/
def quadAt (b : Bytes) : Go GoError Quad := do
  return ⟨← byteAt b 0, ← byteAt b 1, ← byteAt b 2, ← byteAt b 3⟩

structure UDPExtended where
  version : UInt8
  type : UInt8
  nonce : UInt16
  userLen : UInt8
  pwLen : UInt8
  response : UInt8
  reason : UInt8
  result1 : UInt32
  destHost : Quad
  destPort : UInt16
  line : UInt16
  result2 : UInt32
  result3 : UInt16
  data : Bytes
deriving DecidableEq, Repr

namespace UDPExtended

def marshalBinary (p : UDPExtended) : Go GoError Bytes :=
  let b := make (udpHeaderLenExtended + p.data.length)
  if p.version ≠ udpVersionExtended then
    fail (validationError "version" "extended packet must use version 128" .unsupportedVersion)
  else do
    let b ← stores b 0 [p.version, p.type]
    let b ← stores b 2 (be16Bytes p.nonce)
    let b ← stores b 4 [p.userLen, p.pwLen, p.response, p.reason]
    let b ← stores b 8 (be32Bytes p.result1)
    let b ← stores b 12 p.destHost.bytes
    let b ← stores b 16 (be16Bytes p.destPort)
    let b ← stores b 18 (be16Bytes p.line)
    let b ← stores b 20 (be32Bytes p.result2)
    let b ← stores b 24 (be16Bytes p.result3)
    let (b, _) ← copyAt b 26 p.data
    return b

def unmarshalBinary (data : Bytes) : Go GoError UDPExtended :=
  if data.length < udpHeaderLenExtended then
    fail (validationError "udp_extended" "short buffer" .invalidPacket)
  else do
    let version ← byteAt data 0
    let type ← byteAt data 1
    let nonce ← uint16At (← slice data 2 4)
    let userLen ← byteAt data 4
    let pwLen ← byteAt data 5
    let response ← byteAt data 6
    let reason ← byteAt data 7
    let result1 ← uint32At (← slice data 8 12)
    let destHost ← quadAt (← slice data 12 16)
    let destPort ← uint16At (← slice data 16 18)
    let line ← uint16At (← slice data 18 20)
    let result2 ← uint32At (← slice data 20 24)
    let result3 ← uint16At (← slice data 24 26)
    let data ← slice data 26 data.length
    return {
      version, type, nonce, userLen, pwLen, response, reason, result1, destHost, destPort, line,
      result2, result3, data }

def user (p : UDPExtended) : Go GoError GoString := userOf p.userLen p.data

def password (p : UDPExtended) : Go GoError GoString := passwordOf p.userLen p.data

end UDPExtended

end Legacy
end Tacacs
