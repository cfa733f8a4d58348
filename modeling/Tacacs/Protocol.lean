import Tacacs.Types

/-!
# `protocol/` — the session of a client, and what it makes of a type and a status

A session keeps its id and the next number it will send. The number is an `int` in the source,
so that it can be seen to pass 255 instead of wrapping.
-/

set_option autoImplicit false

namespace Tacacs
namespace Protocol

open GoSem

def maxSeqNo : Nat := 255

inductive Role where
  | client
  | server
deriving DecidableEq, Repr

structure Session where
  sessionID : UInt32
  role : Role
  nextSeq : Nat
deriving DecidableEq, Repr

def initialSeq : Role → Nat
  | .client => 1
  | .server => 2

/-- `NewSessionWithID`, and `NewSession` with the id it draws. -/
def newSession (role : Role) (sessionID : UInt32) : Session :=
  { sessionID, role, nextSeq := initialSeq role }

/-- `NextSeq`: the number to send, and the session that has sent it. -/
def Session.nextSeqNo (s : Session) : Except GoError (UInt8 × Session) :=
  if s.nextSeq > maxSeqNo then
    .error (validationError "seq_no" "session must restart (reached 255)" .invalidSeqNo)
  else .ok (UInt8.ofNat s.nextSeq, { s with nextSeq := s.nextSeq + 2 })

/-! ## Kinds of authentication -/

/-- `AuthenStart.IsSingleExchange`, which looks at the type only. -/
def isSingleExchange (type : AuthenType) : Bool :=
  type == authenTypePAP || type == authenTypeCHAP || type == authenTypeMSCHAP ||
    type == authenTypeMSCHAPv2

/-! ## Challenges and responses -/

def chapResponseLen : Nat := 16
def mschapResponseLen : Nat := 49
def mschapV1Challenge : Nat := 8
def mschapV2Challenge : Nat := 16
def minCHAPChallenge : Nat := 8

structure CHAPData where
  pppID : UInt8
  challenge : Bytes
  response : Bytes
deriving DecidableEq, Repr

abbrev MSCHAPData := CHAPData
abbrev MSCHAPv2Data := CHAPData

def parseCHAPData (data : Bytes) : Go GoError CHAPData :=
  if data.length < 1 + minCHAPChallenge + chapResponseLen then
    fail (validationError "chap_data" "too short" .invalidArgument)
  else do
    let pppID ← byteAt data 0
    let challengeLen := data.length - 1 - chapResponseLen
    if challengeLen < minCHAPChallenge then
      fail (validationError "chap_data" "challenge below minimum 8 bytes" .invalidArgument)
    else do
      let challenge ← slice data 1 (1 + challengeLen)
      let response ← slice data (1 + challengeLen) data.length
      return { pppID, challenge, response }

/-- The two parsers with a challenge of a fixed length. -/
def parseFixedChallenge (field reason : String) (challengeLen : Nat) (data : Bytes) :
    Go GoError CHAPData :=
  if data.length ≠ 1 + challengeLen + mschapResponseLen then
    fail (validationError field reason .invalidArgument)
  else do
    let pppID ← byteAt data 0
    let challenge ← slice data 1 (1 + challengeLen)
    let response ← slice data (1 + challengeLen) data.length
    return { pppID, challenge, response }

def parseMSCHAPData : Bytes → Go GoError MSCHAPData :=
  parseFixedChallenge "mschap_data" "challenge must be 8 bytes" mschapV1Challenge

def parseMSCHAPv2Data : Bytes → Go GoError MSCHAPv2Data :=
  parseFixedChallenge "mschapv2_data" "challenge must be 16 bytes" mschapV2Challenge

/-! ## Statuses -/

/-- `IsTerminal`. -/
def isTerminal (status : AuthenStatus) : Bool :=
  status == authenStatusPass || status == authenStatusFail || status == authenStatusError

def normalizeAuthenStatus (status : AuthenStatus) : AuthenStatus :=
  if status = authenStatusFollow then authenStatusFail else status

/-- `AuthenReply.NeedsContinue`. -/
def needsContinue (status : AuthenStatus) : Bool :=
  let status := normalizeAuthenStatus status
  status == authenStatusGetUser || status == authenStatusGetPass || status == authenStatusGetData

def normalizeAuthorStatus (status : AuthorStatus) : AuthorStatus :=
  if status = authorStatusFollow then authorStatusFail else status

def normalizeAcctStatus (status : AcctStatus) : AcctStatus :=
  if status = acctStatusFollow then acctStatusError else status

end Protocol
end Tacacs
