import Tacacs.Lib.Script
import Tacacs.Server.ServeConn

/-!
# `server/server.go`, `server/middleware.go` — the handling of a packet as a script

Once more what `handlerAdapter.Handle` does with a packet, this time as a script: the accesses to
the registry, the calls of the handler and the writes are operations, and nothing is said about
what they do. With the operations of `Server/ServeConn.lean` it is the program that is written
there (`Proof/Server/Middleware.lean`). With a handler that may panic it has another meaning, and
that is what it is for.
-/

set_option autoImplicit false

namespace Tacacs
namespace Server
namespace Dispatch

open GoSem Packet Transport Script
open Routine (Err Prog Setting)

inductive Op where
  | get (id : UInt32)
  | sessions (f : SessionManager → SessionManager)
  | authenticate (ac : AuthenContext) (cont : Option AuthenContinue)
  | authorize (ac : AuthorContext)
  | account (ac : AcctContext)
  | write (hdr : Header) (body : Bytes)

abbrev operations : Signature where
  Op := Op
  Answer
    | .get _ => Option SessionContext
    | .sessions _ => Unit
    | .authenticate _ _ => Except GoError AuthenDecision
    | .authorize _ => Except GoError AuthorDecision
    | .account _ => Except GoError AcctDecision
    | .write _ _ => Err

abbrev Handling (α : Type) := Script operations α

/-! ## Operations -/

def sessionsGet (id : UInt32) : Handling (Option SessionContext) :=
  perform (S := operations) (Op.get id)

def onSessions (f : SessionManager → SessionManager) : Handling Unit :=
  perform (S := operations) (Op.sessions f)

def authenticate (ac : AuthenContext) (cont : Option AuthenContinue) :
    Handling (Except GoError AuthenDecision) :=
  perform (S := operations) (Op.authenticate ac cont)

def authorize (ac : AuthorContext) : Handling (Except GoError AuthorDecision) :=
  perform (S := operations) (Op.authorize ac)

def account (ac : AcctContext) : Handling (Except GoError AcctDecision) :=
  perform (S := operations) (Op.account ac)

def writePacket (hdr : Header) (body : Bytes) : Handling Err :=
  perform (S := operations) (Op.write hdr body)

/-! ## Replies -/

def writeReply (hdr : Header) (body : Bytes) : Handling Err := writePacket (replyHeader hdr) body

def sendGenericError (hdr : Header) : Handling Err := writePacket (errorHeader hdr) []

def sendAuthenError (hdr : Header) : Handling Err :=
  writeReply hdr (bytesOrNil (AuthenReply.marshalBinary { status := authenStatusError }))

def sendAuthorError (hdr : Header) : Handling Err :=
  writeReply hdr (bytesOrNil (AuthorReply.marshalBinary { status := authorStatusError }))

def sendAcctError (hdr : Header) : Handling Err :=
  writeReply hdr (bytesOrNil (AcctReply.marshalBinary { status := acctStatusError }))

def encodeReply (hdr : Header) (body : Go GoError Bytes) : Handling Err :=
  match body with
  | .ok rb => writeReply hdr rb
  | .error _ => sendGenericError hdr

/-! ## The three kinds of packet -/

section Handle

variable (remote : GoString) (t : Times)

/-- `handleAuthen` from the call of the handler on. -/
def answerAuthen (hdr : Header) (start : AuthenStart) (cont : Option AuthenContinue) :
    Handling Err := do
  let ac : AuthenContext :=
    { sessionID := hdr.sessionID, seqNo := hdr.seqNo, start, remoteAddr := remote }
  match ← authenticate ac cont with
  | .error _ => do
      onSessions (·.delete hdr.sessionID)
      sendAuthenError hdr
  | .ok dec => do
      if endsSession dec.status then onSessions (·.delete hdr.sessionID)
      else
        onSessions (·.update t.later hdr.sessionID fun sctx =>
          { sctx with lastOutboundSeq := hdr.seqNo + 1 })
      let reply : AuthenReply :=
        { status := dec.status, flags := dec.flags, serverMsg := dec.serverMsg,
          data := dec.data }
      onSessions (·.observe (.authenStatus start.type dec.status))
      encodeReply hdr reply.marshalBinary

def handleAuthen (hdr : Header) (body : Bytes) : Handling Err :=
  if hdr.seqNo = 1 then
    match AuthenStart.unmarshalBinary body with
    | .error _ => sendGenericError hdr
    | .ok start => do
        let sctx : SessionContext := { start, flags := hdr.flags, remoteAddr := remote }
        onSessions (·.set t.now hdr.sessionID sctx)
        answerAuthen remote t hdr start none
  else do
    match ← sessionsGet hdr.sessionID with
    | none => sendGenericError hdr
    | some sctx =>
        match validateNextSeqNo hdr.seqNo sctx.lastOutboundSeq with
        | .error _ => do
            onSessions (·.delete hdr.sessionID)
            onSessions (·.observe (.packetInvalid "seq_no"))
            sendGenericError hdr
        | .ok () =>
            match AuthenContinue.unmarshalBinary body with
            | .error _ => sendGenericError hdr
            | .ok cont => answerAuthen remote t hdr sctx.start (some cont)

def handleAuthor (hdr : Header) (body : Bytes) : Handling Err :=
  match AuthorRequest.unmarshalBinary body with
  | .error _ => sendGenericError hdr
  | .ok req =>
      match parseArguments req.args with
      | .error _ => sendAuthorError hdr
      | .ok args => do
          let ac : AuthorContext :=
            { sessionID := hdr.sessionID, seqNo := hdr.seqNo, method := req.method,
              privLvl := req.privLvl, type := req.type, service := req.service,
              user := req.user, port := req.port, remAddr := req.remAddr, args,
              remoteAddr := remote }
          match ← authorize ac with
          | .error _ => sendAuthorError hdr
          | .ok dec => do
              let reply : AuthorReply :=
                { status := dec.status, serverMsg := dec.serverMsg,
                  args := dec.args.map Argument.string }
              onSessions (·.observe (.authorStatus dec.status))
              encodeReply hdr reply.marshalBinary

def handleAcct (hdr : Header) (body : Bytes) : Handling Err :=
  match AcctRequest.unmarshalBinary body with
  | .error _ => sendGenericError hdr
  | .ok req =>
      if AcctFlags.record req.flags = .invalid then sendAcctError hdr
      else
        match parseArguments req.args with
        | .error _ => sendAcctError hdr
        | .ok args => do
            let ac : AcctContext :=
              { sessionID := hdr.sessionID, seqNo := hdr.seqNo, flags := req.flags,
                method := req.method, privLvl := req.privLvl, type := req.type,
                service := req.service, user := req.user, port := req.port,
                remAddr := req.remAddr, args, remoteAddr := remote }
            match ← account ac with
            | .error _ => sendAcctError hdr
            | .ok dec => do
                let reply : AcctReply := { status := dec.status, serverMsg := dec.serverMsg }
                onSessions (·.observe (.acctStatus dec.status))
                encodeReply hdr reply.marshalBinary

/-- The switch of `handlerAdapter.Handle`. -/
def dispatch (p : Pkt) : Handling Err :=
  if p.hdr.type = packetAuthentication then handleAuthen remote t p.hdr p.body
  else if p.hdr.type = packetAuthorization then handleAuthor remote p.hdr p.body
  else if p.hdr.type = packetAccounting then handleAcct remote p.hdr p.body
  else sendGenericError p.hdr

end Handle

/-! ## Operations of a goroutine that does not panic -/

/-- What the operations are in `Server/ServeConn.lean`. -/
def routine {σ : Type} (x : Setting σ) (e : Env) : ∀ op, Prog σ (operations.Answer op)
  | .get id => Routine.sessionsGet x id
  | .sessions f => Routine.onSessions x f
  | .authenticate ac cont =>
      Routine.callHandler x (.authenticate ac cont) (x.server.cfg.handler.authenticate ac cont)
  | .authorize ac => Routine.callHandler x (.authorize ac) (x.server.cfg.handler.authorize ac)
  | .account ac => Routine.callHandler x (.account ac) (x.server.cfg.handler.account ac)
  | .write hdr body => Routine.writePacket x e hdr body

end Dispatch
end Server
end Tacacs
