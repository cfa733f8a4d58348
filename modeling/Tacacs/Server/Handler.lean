import Tacacs.Server.Sessions

/-!
# `server/handler.go` — the policy interface

A `Handler` is application code. It may keep state of its own between calls, so it is a
function of that state too; a handler that is a function of its arguments is one whose state is
`Unit`. A handler that panics or never returns is outside the model.
-/

set_option autoImplicit false

namespace Tacacs
namespace Server

open GoSem

structure AuthenContext where
  sessionID : UInt32
  seqNo : UInt8
  start : AuthenStart
  remoteAddr : GoString
deriving DecidableEq, Repr

structure AuthenDecision where
  status : AuthenStatus
  flags : UInt8 := 0
  serverMsg : GoString := []
  data : Bytes := []
deriving DecidableEq, Repr

structure AuthorContext where
  sessionID : UInt32
  seqNo : UInt8
  method : AuthenMethod
  privLvl : PrivLevel
  type : AuthenType
  service : AuthenService
  user : GoString
  port : GoString
  remAddr : GoString
  args : List Argument
  remoteAddr : GoString
deriving DecidableEq, Repr

structure AuthorDecision where
  status : AuthorStatus
  args : List Argument := []
  serverMsg : GoString := []
deriving DecidableEq, Repr

structure AcctContext where
  sessionID : UInt32
  seqNo : UInt8
  flags : AcctFlags
  method : AuthenMethod
  privLvl : PrivLevel
  type : AuthenType
  service : AuthenService
  user : GoString
  port : GoString
  remAddr : GoString
  args : List Argument
  remoteAddr : GoString
deriving DecidableEq, Repr

structure AcctDecision where
  status : AcctStatus
  serverMsg : GoString := []
deriving DecidableEq, Repr

/-- `Handler`, over the state `σ` it keeps. The `cont` of `Authenticate` is `nil` for a START. -/
structure Handler (σ : Type) where
  authenticate : AuthenContext → Option AuthenContinue → σ → Except GoError AuthenDecision × σ
  authorize : AuthorContext → σ → Except GoError AuthorDecision × σ
  account : AcctContext → σ → Except GoError AcctDecision × σ

/-- `HandlerFunc`: a handler from three functions, with no state. -/
def handlerFunc (authen : AuthenContext → Option AuthenContinue → Except GoError AuthenDecision)
    (author : AuthorContext → Except GoError AuthorDecision)
    (acct : AcctContext → Except GoError AcctDecision) : Handler Unit where
  authenticate ac cont s := (authen ac cont, s)
  authorize ac s := (author ac, s)
  account ac s := (acct ac, s)

/-- A call of one of the three methods, with its arguments. -/
inductive Call where
  | authenticate (ac : AuthenContext) (cont : Option AuthenContinue)
  | authorize (ac : AuthorContext)
  | account (ac : AcctContext)
deriving DecidableEq, Repr

end Server
end Tacacs
