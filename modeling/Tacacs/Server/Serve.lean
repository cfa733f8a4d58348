import Tacacs.Server.Server
import Tacacs.Lib.Run

/-!
# `server/server.go` — serving connections

`ServeConn` is a loop in a goroutine of its own. `serveIteration` is one turn of it, as a
function of what the loop keeps (`Loop`), of the bytes the peer has yet to deliver, and of what
the environment does in that turn (`Env`).

A `World` is a server with all its connections. In each step one of the loops makes a turn, or
the sweeper runs, so a list of steps is an order in which packets are handled. A turn is one
step: the registry is locked for each access to it and not for a whole packet, and what two
packets do to it in between each other is not modelled.
-/

set_option autoImplicit false

namespace Tacacs
namespace Server

open GoSem Packet Transport Crypto

section Serve

variable {σ : Type}

/-! ## Accepting -/

def secretProvider (s : Server σ) : SecretProvider :=
  match s.cfg.secretProvider with
  | some sp => sp
  | none => staticSecret s.cfg.secret s.cfg.mode

/-- `AcceptConn` up to its call of `ServeConn`: the connection to serve, if any. -/
def acceptConn (s : Server σ) (remote : GoString) : Except GoError Conn := do
  let sc ← s.secretProvider.get remote
  return { mode := sc.mode, secret := sc.secret, remoteAddr := remote }

/-! ## One turn of the loop -/

/-- `checkFlags`: the mode is that of the connection, the policy that of the server. -/
def checkFlags (s : Server σ) (c : Conn) (hdr : Header) : Except GoError Unit :=
  let flagSet := HeaderFlags.has hdr.flags flagUnencrypted
  if c.mode = .tls then enforceTLSFlagPolicy flagSet
  else s.policy.checkUnencryptedFlag flagSet

/-- Where the loop of `ServeConn` stands: before its first packet, after it with the flags seen
    there, or returned. -/
inductive Loop where
  | first
  | later (connFlags : HeaderFlags)
  | returned (err : Option GoError)
deriving DecidableEq, Repr

/-- What the environment does during a turn: the clock, a cancelled context, a read that times
    out, a write that fails. -/
structure Env where
  t : Times
  ctxErr : Option GoError := none
  readErr : Option GoError := none
  writeErr : Option GoError := none
deriving DecidableEq, Repr

/-- The outcome of one turn. -/
structure Turn (σ : Type) where
  st : State σ
  loop : Loop
  input : Bytes
  read : Option Pkt := none
  calls : List Call := []
  written : Option Pkt := none

/-- The rest of a turn that has read `p`, `input` being what is left. -/
def servePacket (s : Server σ) (c : Conn) (e : Env) (st : State σ) (loop : Loop) (p : Pkt)
    (input : Bytes) : Turn σ :=
  match s.checkFlags c p.hdr with
  | .error err =>
      -- a failed write hides the policy error
      { st, loop := .returned (some (e.writeErr.getD err)), input, read := some p,
        written := some (sendGenericError p.hdr) }
  | .ok () =>
      if loop = .first ∨ loop = .later p.hdr.flags then
        let r := s.handle c e.t st p
        { st := r.st, loop := if e.writeErr.isSome then .returned e.writeErr
                              else .later p.hdr.flags,
          input, read := some p, calls := r.calls, written := some r.reply }
      else
        { st := st.observe (.packetInvalid "flag_mismatch"), loop := .returned e.writeErr, input,
          read := some p, written := some (sendGenericError p.hdr) }

/-- One turn of the loop of `ServeConn`; a loop that has returned makes no more. -/
def serveIteration (s : Server σ) (md5 : Md5) (c : Conn) (e : Env) (st : State σ) (loop : Loop)
    (input : Bytes) : Turn σ :=
  match loop with
  | .returned err => { st, loop := .returned err, input }
  | loop =>
      match e.ctxErr, e.readErr with
      | some err, _ => { st, loop := .returned (some err), input }
      | none, some err => { st, loop := .returned (some err), input }
      | none, none =>
          match c.readPacket md5 input with
          | (.error (.err err), input) => { st, loop := .returned (some err), input }
          | (.error .panic, input) => { st, loop := .returned none, input }
          | (.ok p, input) => servePacket s c e st loop p input

/-! ## All connections together -/

/-- A connection being served. -/
structure Served where
  conn : Conn
  input : Bytes
  loop : Loop := .first

/-- A server and its connections, numbered by `ι`. -/
structure World (σ ι : Type) where
  st : State σ
  conns : ι → Served

/-- A step of the world: a turn of one loop, or a run of the sweeper. -/
inductive Act (ι : Type) where
  | serve (i : ι) (e : Env)
  | sweep (now : Int)

/-- What is seen of a step: whose turn it was, the packet read, the handler calls it led to, and
    the packet written. -/
structure Sight (ι : Type) where
  conn : Option ι := none
  read : Option Pkt := none
  calls : List Call := []
  written : Option Pkt := none
deriving DecidableEq, Repr

variable {ι : Type} [DecidableEq ι]

def World.step (s : Server σ) (md5 : Md5) (w : World σ ι) : Act ι → World σ ι × Sight ι
  | .serve i e =>
      let v := w.conns i
      let r := serveIteration s md5 v.conn e w.st v.loop v.input
      ({ st := r.st,
         conns := Function.update w.conns i { v with input := r.input, loop := r.loop } },
       { conn := some i, read := r.read, calls := r.calls, written := r.written })
  | .sweep now => ({ w with st := { w.st with sessions := w.st.sessions.sweepExpired now } }, {})

/-- A new server about to serve the given connections. -/
def World.init (cfg : Config σ) (h : σ) (conns : ι → Conn) (input : ι → Bytes) : World σ ι where
  st := State.init cfg h
  conns i := { conn := conns i, input := input i }

end Serve

end Server
end Tacacs
