import Tacacs.Lib.Traced
import Tacacs.Proof.Framing
import Tacacs.Server.Serve

/-!
# `server/server.go`, `server/middleware.go` — the goroutine of a connection

`Server/Server.lean` has what the handling of a packet computes, with the reply as its result.
Here the same functions are programs: each call of the handler, each access to the registry and
each write is an effect, in the order of the source, and nothing in the types says how many
writes a path makes. Both are translated from the source, and `Proof/Server/ServeConn.lean`
shows that they agree.

The registry, the handler's state and the metrics are shared with the goroutines of other
connections and with the sweeper, which may come in before any access. The session that `Get`
points to is read when it is returned.
-/

set_option autoImplicit false

namespace Tacacs
namespace Server
namespace Routine

open GoSem Packet Transport Crypto Traced

/-- What the goroutine does that its peer and the handler can see. -/
inductive Deed where
  | read (p : Pkt)
  | called (call : Call)
  | wrote (b : Bytes)
deriving DecidableEq, Repr

/-- What does not change while a connection is served: the server, the connection, and what the
    other goroutines do. -/
structure Setting (σ : Type) where
  server : Server σ
  md5 : Md5
  conn : Conn
  others : Nat → State σ → State σ

abbrev Prog (σ α : Type) := Traced.Prog (State σ) Deed α

/-- An `error` result; `none` is `nil`. -/
abbrev Err := Option (Fault GoError)

section Programs

variable {σ : Type} (x : Setting σ) (e : Env)

/-! ## Shared state -/

def sessionsGet (id : UInt32) : Prog σ (Option SessionContext) :=
  access x.others fun st => (st.sessions.get id, st)

/-- The other methods of the manager, and the metrics hook. -/
def onSessions (f : SessionManager → SessionManager) : Prog σ Unit :=
  access x.others fun st => ((), { st with sessions := f st.sessions })

def callHandler {α : Type} (call : Call) (f : σ → α × σ) : Prog σ α := do
  emit (.called call)
  access x.others fun st => ((f st.handler).1, { st with handler := (f st.handler).2 })

/-! ## Replies -/

def writePacket (hdr : Header) (body : Bytes) : Prog σ Err :=
  match x.conn.writePacket x.md5 hdr body with
  | .error f => return some f
  | .ok b => do
      emit (.wrote b)
      return e.writeErr.map .err

def writeReply (hdr : Header) (body : Bytes) : Prog σ Err :=
  writePacket x e (replyHeader hdr) body

def sendGenericError (hdr : Header) : Prog σ Err := writePacket x e (errorHeader hdr) []

def sendError (hdr : Header) : Prog σ Err := sendGenericError x e hdr

def sendAuthenError (hdr : Header) : Prog σ Err :=
  writeReply x e hdr (bytesOrNil (AuthenReply.marshalBinary { status := authenStatusError }))

def sendAuthorError (hdr : Header) : Prog σ Err :=
  writeReply x e hdr (bytesOrNil (AuthorReply.marshalBinary { status := authorStatusError }))

def sendAcctError (hdr : Header) : Prog σ Err :=
  writeReply x e hdr (bytesOrNil (AcctReply.marshalBinary { status := acctStatusError }))

/-- The last lines of the three `handle…` functions. -/
def encodeReply (hdr : Header) (body : Go GoError Bytes) : Prog σ Err :=
  match body with
  | .ok rb => writeReply x e hdr rb
  | .error _ => sendGenericError x e hdr

/-! ## The three kinds of packet -/

/-- `handleAuthen` from the call of the handler on. -/
def answerAuthen (hdr : Header) (start : AuthenStart) (cont : Option AuthenContinue) :
    Prog σ Err := do
  let ac : AuthenContext :=
    { sessionID := hdr.sessionID, seqNo := hdr.seqNo, start, remoteAddr := x.conn.remoteAddr }
  match ← callHandler x (.authenticate ac cont) (x.server.cfg.handler.authenticate ac cont) with
  | .error _ => do
      onSessions x (·.delete hdr.sessionID)
      sendAuthenError x e hdr
  | .ok dec => do
      if endsSession dec.status then onSessions x (·.delete hdr.sessionID)
      else
        onSessions x (·.update e.t.later hdr.sessionID fun sctx =>
          { sctx with lastOutboundSeq := hdr.seqNo + 1 })
      let reply : AuthenReply :=
        { status := dec.status, flags := dec.flags, serverMsg := dec.serverMsg,
          data := dec.data }
      onSessions x (·.observe (.authenStatus start.type dec.status))
      encodeReply x e hdr reply.marshalBinary

def handleAuthen (hdr : Header) (body : Bytes) : Prog σ Err :=
  if hdr.seqNo = 1 then
    match AuthenStart.unmarshalBinary body with
    | .error _ => sendGenericError x e hdr
    | .ok start => do
        let sctx : SessionContext :=
          { start, flags := hdr.flags, remoteAddr := x.conn.remoteAddr }
        onSessions x (·.set e.t.now hdr.sessionID sctx)
        answerAuthen x e hdr start none
  else do
    match ← sessionsGet x hdr.sessionID with
    | none => sendGenericError x e hdr
    | some sctx =>
        match validateNextSeqNo hdr.seqNo sctx.lastOutboundSeq with
        | .error _ => do
            onSessions x (·.delete hdr.sessionID)
            onSessions x (·.observe (.packetInvalid "seq_no"))
            sendGenericError x e hdr
        | .ok () =>
            match AuthenContinue.unmarshalBinary body with
            | .error _ => sendGenericError x e hdr
            | .ok cont => answerAuthen x e hdr sctx.start (some cont)

def handleAuthor (hdr : Header) (body : Bytes) : Prog σ Err :=
  match AuthorRequest.unmarshalBinary body with
  | .error _ => sendGenericError x e hdr
  | .ok req =>
      match parseArguments req.args with
      | .error _ => sendAuthorError x e hdr
      | .ok args => do
          let ac : AuthorContext :=
            { sessionID := hdr.sessionID, seqNo := hdr.seqNo, method := req.method,
              privLvl := req.privLvl, type := req.type, service := req.service,
              user := req.user, port := req.port, remAddr := req.remAddr, args,
              remoteAddr := x.conn.remoteAddr }
          match ← callHandler x (.authorize ac) (x.server.cfg.handler.authorize ac) with
          | .error _ => sendAuthorError x e hdr
          | .ok dec => do
              let reply : AuthorReply :=
                { status := dec.status, serverMsg := dec.serverMsg,
                  args := dec.args.map Argument.string }
              onSessions x (·.observe (.authorStatus dec.status))
              encodeReply x e hdr reply.marshalBinary

def handleAcct (hdr : Header) (body : Bytes) : Prog σ Err :=
  match AcctRequest.unmarshalBinary body with
  | .error _ => sendGenericError x e hdr
  | .ok req =>
      if AcctFlags.record req.flags = .invalid then sendAcctError x e hdr
      else
        match parseArguments req.args with
        | .error _ => sendAcctError x e hdr
        | .ok args => do
            let ac : AcctContext :=
              { sessionID := hdr.sessionID, seqNo := hdr.seqNo, flags := req.flags,
                method := req.method, privLvl := req.privLvl, type := req.type,
                service := req.service, user := req.user, port := req.port,
                remAddr := req.remAddr, args, remoteAddr := x.conn.remoteAddr }
            match ← callHandler x (.account ac) (x.server.cfg.handler.account ac) with
            | .error _ => sendAcctError x e hdr
            | .ok dec => do
                let reply : AcctReply := { status := dec.status, serverMsg := dec.serverMsg }
                onSessions x (·.observe (.acctStatus dec.status))
                encodeReply x e hdr reply.marshalBinary

/-! ## Dispatch -/

/-- `connResponse`: what `ServeConn` looks at when `Handle` is done. -/
structure ConnResponse where
  terminated : Bool := false
  err : Err := none

def ConnResponse.terminate (_resp : ConnResponse) (err : Err) : ConnResponse :=
  { terminated := true, err }

/-- The switch of `handlerAdapter.Handle`. -/
def dispatch (p : Pkt) : Prog σ Err :=
  if p.hdr.type = packetAuthentication then handleAuthen x e p.hdr p.body
  else if p.hdr.type = packetAuthorization then handleAuthor x e p.hdr p.body
  else if p.hdr.type = packetAccounting then handleAcct x e p.hdr p.body
  else sendGenericError x e p.hdr

/-- `handlerAdapter.Handle`: an error terminates the response. -/
def handle (resp : ConnResponse) (p : Pkt) : Prog σ ConnResponse := do
  let err ← dispatch x e p
  return if err.isSome then resp.terminate err else resp

/-- How a turn of the loop of `ServeConn` ends. -/
inductive Turned where
  | ret (err : Err)
  | again (connFlags : HeaderFlags)

/-- The turn once `p` is read; `first` and `connFlags` are the variables of the loop. -/
def servePacket (first : Bool) (connFlags : HeaderFlags) (p : Pkt) : Prog σ Turned :=
  match x.server.checkFlags x.conn p.hdr with
  | .error err => do
      match ← sendError x e p.hdr with
      | some perr => return .ret (some perr)
      | none => return .ret (some (.err err))
  | .ok () =>
      if first = false ∧ p.hdr.flags ≠ connFlags then do
        onSessions x (·.observe (.packetInvalid "flag_mismatch"))
        return .ret (← sendGenericError x e p.hdr)
      else do
        let connFlags := if first then p.hdr.flags else connFlags
        let resp ← handle x e {} p
        return if resp.terminated then .ret resp.err else .again connFlags

/-- `ServeConn` from its `n`-th turn on, `input` being what the peer has yet to deliver. It
    returns: each turn but the last takes something from the stream. -/
def serveConn (env : Nat → Env) (n : Nat) (first : Bool) (connFlags : HeaderFlags)
    (input : Bytes) : Prog σ Err :=
  match (env n).ctxErr, (env n).readErr with
  | some err, _ => return some (.err err)
  | none, some err => return some (.err err)
  | none, none =>
      match _h : x.conn.readPacket x.md5 input with
      | (.error f, _) => return some f
      | (.ok p, rest) => do
          emit (.read p)
          match ← servePacket x (env n) first connFlags p with
          | .ret err => return err
          | .again connFlags => serveConn env (n + 1) false connFlags rest
termination_by input.length
decreasing_by exact Proof.Transport.conn_readPacket_length _h

end Programs

end Routine
end Server
end Tacacs
