import Tacacs.Lib.Unwind
import Tacacs.Names
import Tacacs.Server.Dispatch

/-!
# `server/middleware.go`, `server/server.go` — the middleware chain, and handlers that panic

`ServeConn` hands each packet to a chain of middleware, at whose end `handlerAdapter` dispatches
it. A handler may panic; what it has done before stays done, the panic passes through the
middleware around it, and if none of them recovers it ends the process.

The program of a request has one variable, the `connResponse` that `ServeConn` looks at when the
chain is done. All middleware here hands on the response it was given. Clocks and stack traces
are answers from outside.
-/

set_option autoImplicit false

namespace Tacacs
namespace Server
namespace Chained

open GoSem GoText Packet Transport Crypto Unwind
open Routine (Deed Err Setting Turned)
open Dispatch (operations)

/-! ## What can be seen of a request -/

inductive Level where
  | debug
  | error
deriving DecidableEq, Repr

/-- A value that is logged. -/
inductive Field where
  | text (s : GoString)
  | number (n : Nat)
  | duration (d : Int)
  | flag (b : Bool)
deriving DecidableEq, Repr

structure LogCall where
  level : Level
  msg : String
  args : List (String × Field)
deriving DecidableEq, Repr

/-- Besides what the goroutine does: calls of a `Logger`, of a `Metrics` hook that is given to
    middleware, and lines of a recorder. -/
inductive Event where
  | deed (d : Deed)
  | logged (c : LogCall)
  | packetReceived (pt : PacketType)
  | packetInvalid (reason : String)
  | recorded (line : GoString)
deriving DecidableEq, Repr

/-! ## Requests and responses -/

/-- `env` stands for the `Ctx` of the source: it is what the surroundings do in this turn. -/
structure Request where
  header : Header
  body : Bytes
  conn : Conn
  remote : GoString
  env : Env

structure ConnResponse where
  conn : Conn
  header : Header
  terminated : Bool := false
  err : Err := none

/-- The programs of a connection, over a variable of type `ρ`; a panic is what `fmt` prints of
    it. -/
abbrev ProgOver (ρ σ α : Type) := Unwind.Prog GoString ρ (State σ) Event α

abbrev Prog (σ α : Type) := ProgOver ConnResponse σ α

abbrev RequestHandler (σ : Type) := Request → Prog σ Unit

abbrev Middleware (σ : Type) := RequestHandler σ → RequestHandler σ

variable {σ : Type}

/-- `Chain`: from the last middleware to the first, each around what there is. -/
def chain (h : RequestHandler σ) (mw : List (Middleware σ)) : RequestHandler σ :=
  mw.foldr (fun m h => m h) h

section Response

variable (x : Setting σ)

def writePacket {ρ : Type} (c : Conn) (e : Env) (hdr : Header) (body : Bytes) :
    ProgOver ρ σ Err :=
  match c.writePacket x.md5 hdr body with
  | .error f => return some f
  | .ok b => do
      emit (.deed (.wrote b))
      return e.writeErr.map .err

/-- `Reply`, on what the body is encoded to. -/
def reply (e : Env) (body : Go GoError Bytes) : Prog σ Err :=
  match body with
  | .error f => return some f
  | .ok b => do
      let r ← getVar
      writePacket x r.conn e (replyHeader r.header) b

def replyError (e : Env) : Prog σ Err := do
  let r ← getVar
  writePacket x r.conn e (errorHeader r.header) []

def terminate (err : Err) : Prog σ Unit :=
  modifyVar fun r => { r with terminated := true, err }

end Response

/-! ## The end of the chain -/

section Adapter

variable (x : Setting σ) (panics : Call → σ → Option GoString)

/-- A call of the handler: what it returns, and the state it leaves, is what the handler of the
    server says, unless it panics instead of returning. -/
def callHandler {α : Type} (call : Call) (f : σ → α × σ) : Prog σ α := do
  emit (.deed (.called call))
  accessOrPanic x.others fun st =>
    let a := f st.handler
    let outcome :=
      match panics call st.handler with
      | some v => .error v
      | none => .ok a.1
    (outcome, { st with handler := a.2 })

/-- What the operations of a script are when the handler may panic. -/
def operation (req : Request) : ∀ op, Prog σ (operations.Answer op)
  | .get id => access x.others fun st => (st.sessions.get id, st)
  | .sessions f => access x.others fun st => ((), { st with sessions := f st.sessions })
  | .authenticate ac cont =>
      callHandler x panics (.authenticate ac cont) (x.server.cfg.handler.authenticate ac cont)
  | .authorize ac => callHandler x panics (.authorize ac) (x.server.cfg.handler.authorize ac)
  | .account ac => callHandler x panics (.account ac) (x.server.cfg.handler.account ac)
  | .write hdr body => writePacket x req.conn req.env hdr body

def handlerAdapter : RequestHandler σ := fun req => do
  let handling := Dispatch.dispatch req.conn.remoteAddr req.env.t ⟨req.header, req.body⟩
  let err ← handling.run (operation x panics req)
  if err.isSome then terminate err

end Adapter

/-! ## Middleware -/

def loggingFunc : String × Field := ("func", .text (lit "server.Middleware.Logging"))

def packetReceivedCall (req : Request) : LogCall where
  level := .debug
  msg := "tacacs: packet received"
  args := [loggingFunc, ("type", .text (PacketType.string req.header.type)),
    ("session_id", .number req.header.sessionID.toNat),
    ("seq_no", .number req.header.seqNo.toNat), ("remote", .text req.remote)]

def packetHandledCall (d : Int) (resp : ConnResponse) : LogCall where
  level := .debug
  msg := "tacacs: packet handled"
  args := [loggingFunc, ("duration", .duration d), ("terminated", .flag resp.terminated)]

/-- `since` is what `time.Since(start)` says. -/
def loggingMiddleware (since : Nat → Int) : Middleware σ := fun next req => do
  emit (.logged (packetReceivedCall req))
  next req
  let d ← ask since
  let resp ← getVar
  emit (.logged (packetHandledCall d resp))

def metricsMiddleware : Middleware σ := fun next req => do
  emit (.packetReceived req.header.type)
  next req
  let resp ← getVar
  if resp.terminated then emit (.packetInvalid "handler_error")

/-- `fmt.Errorf("handler panic: %v", r)`. -/
def handlerPanic (v : GoString) : GoError := .other [.text "handler panic: ", .verbatim v]

def panicRecoveredCall (v trace : GoString) : LogCall where
  level := .error
  msg := "tacacs: handler panic recovered"
  args := [("func", .text (lit "server.Middleware.Recovery")), ("err", .text v),
    ("stack", .text trace)]

/-- `stack` is what `debug.Stack()` says. -/
def recoveryMiddleware (x : Setting σ) (stack : Nat → GoString) : Middleware σ := fun next req =>
  recovering (next req) fun v => do
    let trace ← ask stack
    emit (.logged (panicRecoveredCall v trace))
    let _ ← replyError x req.env
    terminate (some (.err (handlerPanic v)))

def inLine (now : GoString) (req : Request) : GoString :=
  now ++ lit " IN  type=" ++ PacketType.string req.header.type ++
    lit " session=" ++ decimal req.header.sessionID.toNat ++ lit " seq=" ++
    decimal req.header.seqNo.toNat ++ lit " body=" ++ decimal req.body.length ++ lit " bytes\n"

def outLine (now : GoString) (resp : ConnResponse) : GoString :=
  now ++ lit " OUT terminated=" ++ (if resp.terminated then lit "true" else lit "false") ++
    lit "\n"

/-- `now` is the time, as it is written. -/
def recorderMiddleware (now : Nat → GoString) : Middleware σ := fun next req => do
  let before ← ask now
  emit (.recorded (inLine before req))
  next req
  let after ← ask now
  let resp ← getVar
  emit (.recorded (outLine after resp))

/-- The middleware of the command-line server (`cmd/tacacs-cli/server.go`), outermost first. -/
def cliMiddleware (x : Setting σ) (stack : Nat → GoString) (since : Nat → Int) :
    List (Middleware σ) :=
  [recoveryMiddleware x stack, loggingMiddleware since, metricsMiddleware]

/-! ## The loop -/

section Serve

variable (x : Setting σ) (h : RequestHandler σ)

/-- `s.handler.Handle(resp, req)`, and the response after it. -/
def handle (e : Env) (p : Pkt) : ProgOver Unit σ ConnResponse := do
  let req : Request :=
    { header := p.hdr, body := p.body, conn := x.conn, remote := x.conn.remoteAddr, env := e }
  let r ← withVar (h req) { conn := x.conn, header := p.hdr }
  return r.2

/-- The turn once `p` is read. -/
def servePacket (e : Env) (first : Bool) (connFlags : HeaderFlags) (p : Pkt) :
    ProgOver Unit σ Turned :=
  match x.server.checkFlags x.conn p.hdr with
  | .error err => do
      match ← writePacket x x.conn e (errorHeader p.hdr) [] with
      | some perr => return .ret (some perr)
      | none => return .ret (some (.err err))
  | .ok () =>
      if first = false ∧ p.hdr.flags ≠ connFlags then do
        access x.others fun st =>
          ((), { st with sessions := st.sessions.observe (.packetInvalid "flag_mismatch") })
        return .ret (← writePacket x x.conn e (errorHeader p.hdr) [])
      else do
        let connFlags := if first then p.hdr.flags else connFlags
        let resp ← handle x h e p
        return if resp.terminated then .ret resp.err else .again connFlags

/-- `ServeConn` from its `n`-th turn on, `input` being what the peer has yet to deliver. -/
def serveConn (env : Nat → Env) (n : Nat) (first : Bool) (connFlags : HeaderFlags)
    (input : Bytes) : ProgOver Unit σ Err :=
  match (env n).ctxErr, (env n).readErr with
  | some err, _ => return some (.err err)
  | none, some err => return some (.err err)
  | none, none =>
      match _h : x.conn.readPacket x.md5 input with
      | (.error f, _) => return some f
      | (.ok p, rest) => do
          emit (.deed (.read p))
          match ← servePacket x h (env n) first connFlags p with
          | .ret err => return err
          | .again connFlags => serveConn env (n + 1) false connFlags rest
termination_by input.length
decreasing_by exact Proof.Transport.conn_readPacket_length _h

end Serve

end Chained
end Server
end Tacacs
