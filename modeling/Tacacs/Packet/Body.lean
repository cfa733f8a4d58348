import Tacacs.Types

/-!
# `packet/` — the seven bodies

Each body is a fixed part, then (for the three bodies with arguments) one length byte an
argument, then the variable fields back to back. The encoders size the buffer first and fill it
left to right; the decoders compare the sum of the lengths they read with the length of the
buffer before they cut a single field. Both are written here as the source writes them, buffer
accesses included.
-/

set_option autoImplicit false

namespace Tacacs
namespace Packet

open GoSem

/-! ## Length checks and argument lengths -/

def checkByteLen (v : Nat) : Go GoError Unit :=
  if v > 0xff then fail (validationError "field" "length exceeds single byte" .invalidLength)
  else .ok ()

def checkU16Len (v : Nat) : Go GoError Unit :=
  if v > 0xffff then fail (validationError "field" "length exceeds 16 bits" .invalidLength)
  else .ok ()

/-- `for _, arg := range args { checkByteLen(len(arg)) }`. -/
def checkArgLens : List GoString → Go GoError Unit
  | [] => .ok ()
  | a :: args => do
      checkByteLen a.length
      checkArgLens args

def checkArgCount (n : Nat) : Go GoError Unit :=
  if n > 0xff then fail (validationError "arg_cnt" "exceeds 255" .tooManyArguments) else .ok ()

/-- The loop of `encodeArgLengths`: each length is checked again as it is written. -/
def encodeArgLengthBytes (buf : Bytes) (pos : Nat) : List GoString → Go GoError (Bytes × Nat)
  | [] => .ok (buf, pos)
  | a :: args => do
      checkByteLen a.length
      let buf ← store buf pos (byteOf a.length)
      encodeArgLengthBytes buf (pos + 1) args

def encodeArgLengths (buf : Bytes) (pos : Nat) (args : List GoString) :
    Go GoError (Bytes × Nat) := do
  checkArgCount args.length
  let buf ← store buf pos (byteOf args.length)
  encodeArgLengthBytes buf (pos + 1) args

/-- `for i := 0; i < n; i++ { lengths[i] = int(data[pos]); pos++ }`. -/
def readLengths (data : Bytes) (pos : Nat) : Nat → Go GoError (List Nat × Nat)
  | 0 => .ok ([], pos)
  | n + 1 => do
      let l ← byteAt data pos
      let (ls, pos) ← readLengths data (pos + 1) n
      return (l.toNat :: ls, pos)

def decodeArgLengths (data : Bytes) (pos : Nat) : Go GoError (List Nat × Nat) :=
  if pos ≥ data.length then fail (validationError "arg_cnt" "missing" .invalidPacket)
  else do
    let n ← byteAt data pos
    let pos := pos + 1
    if pos + n.toNat > data.length then
      fail (validationError "arg_lengths" "short buffer" .invalidPacket)
    else readLengths data pos n.toNat

/-- `for i, l := range lengths { args[i] = string(data[pos:pos+l]); pos += l }`. -/
def readArgs (data : Bytes) (pos : Nat) : List Nat → Go GoError (List GoString)
  | [] => .ok []
  | l :: ls => do
      let a ← slice data pos (pos + l)
      let args ← readArgs data (pos + l) ls
      return a :: args

/-! ## Authentication -/

structure AuthenStart where
  action : AuthenAction
  privLvl : PrivLevel
  type : AuthenType
  service : AuthenService
  user : GoString
  port : GoString
  remAddr : GoString
  data : GoString
deriving DecidableEq, Repr

def AuthenStart.marshalBinary (a : AuthenStart) : Go GoError Bytes := do
  checkByteLen a.user.length
  checkByteLen a.port.length
  checkByteLen a.remAddr.length
  checkByteLen a.data.length
  let b := make (8 + a.user.length + a.port.length + a.remAddr.length + a.data.length)
  let b ← stores b 0 [a.action, a.privLvl, a.type, a.service, byteOf a.user.length,
    byteOf a.port.length, byteOf a.remAddr.length, byteOf a.data.length]
  let (b, _) ← copies b 8 [a.user, a.port, a.remAddr, a.data]
  return b

def AuthenStart.unmarshalBinary (data : Bytes) : Go GoError AuthenStart :=
  if data.length < 8 then fail (validationError "authen_start" "short buffer" .invalidPacket)
  else do
    let action ← byteAt data 0
    let privLvl ← byteAt data 1
    let type ← byteAt data 2
    let service ← byteAt data 3
    let ul ← byteAt data 4
    let pl ← byteAt data 5
    let rl ← byteAt data 6
    let dl ← byteAt data 7
    if 8 + ul.toNat + pl.toNat + rl.toNat + dl.toNat ≠ data.length then
      fail (validationError "authen_start" "length mismatch" .invalidLength)
    else
      let pos := 8
      let user ← slice data pos (pos + ul.toNat)
      let pos := pos + ul.toNat
      let port ← slice data pos (pos + pl.toNat)
      let pos := pos + pl.toNat
      let remAddr ← slice data pos (pos + rl.toNat)
      let pos := pos + rl.toNat
      let d ← slice data pos (pos + dl.toNat)
      return { action, privLvl, type, service, user, port, remAddr, data := d }

structure AuthenContinue where
  userMsg : GoString
  data : GoString
  flags : UInt8
deriving DecidableEq, Repr

def AuthenContinue.marshalBinary (a : AuthenContinue) : Go GoError Bytes := do
  checkU16Len a.userMsg.length
  checkU16Len a.data.length
  let b := make (5 + a.userMsg.length + a.data.length)
  let b ← stores b 0 [byteOf (a.userMsg.length >>> 8), byteOf a.userMsg.length,
    byteOf (a.data.length >>> 8), byteOf a.data.length, a.flags]
  let (b, _) ← copies b 5 [a.userMsg, a.data]
  return b

def AuthenContinue.unmarshalBinary (data : Bytes) : Go GoError AuthenContinue :=
  if data.length < 5 then fail (validationError "authen_continue" "short buffer" .invalidPacket)
  else do
    let ul := be16 (← byteAt data 0) (← byteAt data 1)
    let dl := be16 (← byteAt data 2) (← byteAt data 3)
    if 5 + ul + dl ≠ data.length then
      fail (validationError "authen_continue" "length mismatch" .invalidLength)
    else
      let flags ← byteAt data 4
      let pos := 5
      let userMsg ← slice data pos (pos + ul)
      let pos := pos + ul
      let d ← slice data pos (pos + dl)
      return { userMsg, data := d, flags }

structure AuthenReply where
  status : AuthenStatus
  flags : UInt8 := 0
  serverMsg : GoString := []
  data : GoString := []
deriving DecidableEq, Repr

def AuthenReply.marshalBinary (a : AuthenReply) : Go GoError Bytes := do
  checkU16Len a.serverMsg.length
  checkU16Len a.data.length
  let b := make (6 + a.serverMsg.length + a.data.length)
  let b ← stores b 0 [a.status, a.flags, byteOf (a.serverMsg.length >>> 8),
    byteOf a.serverMsg.length, byteOf (a.data.length >>> 8), byteOf a.data.length]
  let (b, _) ← copies b 6 [a.serverMsg, a.data]
  return b

def AuthenReply.unmarshalBinary (data : Bytes) : Go GoError AuthenReply :=
  if data.length < 6 then fail (validationError "authen_reply" "short buffer" .invalidPacket)
  else do
    let status ← byteAt data 0
    let flags ← byteAt data 1
    let ml := be16 (← byteAt data 2) (← byteAt data 3)
    let dl := be16 (← byteAt data 4) (← byteAt data 5)
    if 6 + ml + dl ≠ data.length then
      fail (validationError "authen_reply" "length mismatch" .invalidLength)
    else
      let pos := 6
      let serverMsg ← slice data pos (pos + ml)
      let pos := pos + ml
      let d ← slice data pos (pos + dl)
      return { status, flags, serverMsg, data := d }

/-! ## The two requests with arguments

`AuthorRequest` and `AcctRequest` differ in what stands before `arg_cnt`, and in the name their
decoding errors carry; from `arg_cnt` on the source has the same code twice. -/

/-- The two encoders, with the bytes before `arg_cnt` as a parameter. -/
def marshalRequest (fixed : Bytes) (user port remAddr : GoString) (args : List GoString) :
    Go GoError Bytes := do
  checkByteLen user.length
  checkByteLen port.length
  checkByteLen remAddr.length
  checkArgLens args
  checkArgCount args.length
  let total := fixed.length + 1 + args.length + user.length + port.length + remAddr.length +
    (args.map List.length).sum
  let b ← stores (make total) 0 fixed
  let (b, pos) ← encodeArgLengths b fixed.length args
  let (b, pos) ← copies b pos [user, port, remAddr]
  let (b, _) ← copies b pos args
  return b

/-- The two decoders from `arg_cnt` (at `pos`) on, with the name used in errors as a
    parameter. -/
def unmarshalRequestTail (field : String) (data : Bytes) (pos : Nat) (ul pl rl : UInt8) :
    Go GoError (GoString × GoString × GoString × List GoString) := do
  let (lengths, pos) ← decodeArgLengths data pos
  if pos + ul.toNat + pl.toNat + rl.toNat + lengths.sum ≠ data.length then
    fail (validationError field "length mismatch" .invalidLength)
  else
    let user ← slice data pos (pos + ul.toNat)
    let pos := pos + ul.toNat
    let port ← slice data pos (pos + pl.toNat)
    let pos := pos + pl.toNat
    let remAddr ← slice data pos (pos + rl.toNat)
    let pos := pos + rl.toNat
    let args ← readArgs data pos lengths
    return (user, port, remAddr, args)

/-! ## Authorization -/

structure AuthorRequest where
  method : AuthenMethod
  privLvl : PrivLevel
  type : AuthenType
  service : AuthenService
  user : GoString
  port : GoString
  remAddr : GoString
  args : List GoString
deriving DecidableEq, Repr

def AuthorRequest.marshalBinary (a : AuthorRequest) : Go GoError Bytes :=
  marshalRequest [a.method, a.privLvl, a.type, a.service, byteOf a.user.length,
    byteOf a.port.length, byteOf a.remAddr.length] a.user a.port a.remAddr a.args

def AuthorRequest.unmarshalBinary (data : Bytes) : Go GoError AuthorRequest :=
  if data.length < 8 then fail (validationError "author_request" "short buffer" .invalidPacket)
  else do
    let method ← byteAt data 0
    let privLvl ← byteAt data 1
    let type ← byteAt data 2
    let service ← byteAt data 3
    let ul ← byteAt data 4
    let pl ← byteAt data 5
    let rl ← byteAt data 6
    let (user, port, remAddr, args) ← unmarshalRequestTail "author_request" data 7 ul pl rl
    return { method, privLvl, type, service, user, port, remAddr, args }

structure AuthorReply where
  status : AuthorStatus
  serverMsg : GoString := []
  data : GoString := []
  args : List GoString := []
deriving DecidableEq, Repr

/-- The one body with arguments that does not go through `encodeArgLengths`: `arg_cnt` is in
    the fixed part, apart from the lengths it counts. -/
def AuthorReply.marshalBinary (a : AuthorReply) : Go GoError Bytes := do
  checkU16Len a.serverMsg.length
  checkU16Len a.data.length
  checkArgLens a.args
  checkArgCount a.args.length
  let fixed := 6 + a.args.length
  let total := fixed + a.serverMsg.length + a.data.length + (a.args.map List.length).sum
  let b := make total
  let b ← stores b 0 [a.status, byteOf a.args.length, byteOf (a.serverMsg.length >>> 8),
    byteOf a.serverMsg.length, byteOf (a.data.length >>> 8), byteOf a.data.length]
  let b ← stores b 6 (a.args.map fun arg => byteOf arg.length)
  let (b, pos) ← copies b (6 + a.args.length) [a.serverMsg, a.data]
  let (b, _) ← copies b pos a.args
  return b

def AuthorReply.unmarshalBinary (data : Bytes) : Go GoError AuthorReply :=
  if data.length < 6 then fail (validationError "author_reply" "short buffer" .invalidPacket)
  else do
    let status ← byteAt data 0
    let n ← byteAt data 1
    let ml := be16 (← byteAt data 2) (← byteAt data 3)
    let dl := be16 (← byteAt data 4) (← byteAt data 5)
    let pos := 6
    if pos + n.toNat > data.length then
      fail (validationError "author_reply" "arg lengths short" .invalidPacket)
    else
      let (lengths, pos) ← readLengths data pos n.toNat
      if pos + ml + dl + lengths.sum ≠ data.length then
        fail (validationError "author_reply" "length mismatch" .invalidLength)
      else
        let serverMsg ← slice data pos (pos + ml)
        let pos := pos + ml
        let d ← slice data pos (pos + dl)
        let pos := pos + dl
        let args ← readArgs data pos lengths
        return { status, serverMsg, data := d, args }

/-! ## Accounting -/

structure AcctRequest where
  flags : AcctFlags
  method : AuthenMethod
  privLvl : PrivLevel
  type : AuthenType
  service : AuthenService
  user : GoString
  port : GoString
  remAddr : GoString
  args : List GoString
deriving DecidableEq, Repr

def AcctRequest.marshalBinary (a : AcctRequest) : Go GoError Bytes :=
  marshalRequest [a.flags, a.method, a.privLvl, a.type, a.service, byteOf a.user.length,
    byteOf a.port.length, byteOf a.remAddr.length] a.user a.port a.remAddr a.args

def AcctRequest.unmarshalBinary (data : Bytes) : Go GoError AcctRequest :=
  if data.length < 9 then fail (validationError "acct_request" "short buffer" .invalidPacket)
  else do
    let flags ← byteAt data 0
    let method ← byteAt data 1
    let privLvl ← byteAt data 2
    let type ← byteAt data 3
    let service ← byteAt data 4
    let ul ← byteAt data 5
    let pl ← byteAt data 6
    let rl ← byteAt data 7
    let (user, port, remAddr, args) ← unmarshalRequestTail "acct_request" data 8 ul pl rl
    return { flags, method, privLvl, type, service, user, port, remAddr, args }

structure AcctReply where
  status : AcctStatus
  serverMsg : GoString := []
  data : GoString := []
deriving DecidableEq, Repr

def AcctReply.marshalBinary (a : AcctReply) : Go GoError Bytes := do
  checkU16Len a.serverMsg.length
  checkU16Len a.data.length
  let b := make (5 + a.serverMsg.length + a.data.length)
  let b ← stores b 0 [byteOf (a.serverMsg.length >>> 8), byteOf a.serverMsg.length,
    byteOf (a.data.length >>> 8), byteOf a.data.length, a.status]
  let (b, _) ← copies b 5 [a.serverMsg, a.data]
  return b

def AcctReply.unmarshalBinary (data : Bytes) : Go GoError AcctReply :=
  if data.length < 5 then fail (validationError "acct_reply" "short buffer" .invalidPacket)
  else do
    let ml := be16 (← byteAt data 0) (← byteAt data 1)
    let dl := be16 (← byteAt data 2) (← byteAt data 3)
    if 5 + ml + dl ≠ data.length then
      fail (validationError "acct_reply" "length mismatch" .invalidLength)
    else
      let status ← byteAt data 4
      let pos := 5
      let serverMsg ← slice data pos (pos + ml)
      let pos := pos + ml
      let d ← slice data pos (pos + dl)
      return { status, serverMsg, data := d }

end Packet
end Tacacs
