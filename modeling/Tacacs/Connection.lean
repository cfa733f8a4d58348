import Tacacs.Client
import Tacacs.Server.Serve

/-!
# A client and a server on one connection

Here the two halves of the library meet, as they do in `client/e2e_test.go`: a `Client` on one
end of a connection, and `ServeConn` on the other. What the client calls its outside is then a
`Pipe`: the bytes under way in both directions, the server, and the user whom `contFn` asks.

The client writes a packet and waits for the reply before it does anything else, so the two
ends take turns. `ServeConn` makes one turn for each packet that is written, and what it writes
is there when the client reads. How TCP cuts the bytes up is not seen, since both ends read with
`io.ReadFull`. Nothing is cancelled, times out or breaks.
-/

set_option autoImplicit false

namespace Tacacs
namespace Connection

open GoSem Transport Client Server Protocol

/-- The time of each turn of the server, and the runs of the sweeper before it. -/
structure Clock where
  times : Nat → Times
  sweeps : Nat → List Int

/-- What is on the other side of a client: the bytes not yet read by the server and by the
    client, the server, how many turns it made and which calls of the handler these led to; and
    the user, with the replies they were asked about. -/
structure Pipe (σ τ : Type) where
  toServer : Bytes
  toClient : Bytes
  st : State σ
  loop : Loop
  turns : Nat
  calls : List Call
  user : τ
  asked : List AuthenReply

section Link

variable {σ τ : Type}

/-- A connection that was just accepted. -/
def Pipe.fresh (st : State σ) (user : τ) : Pipe σ τ where
  toServer := []
  toClient := []
  st := st
  loop := .first
  turns := 0
  calls := []
  user := user
  asked := []

def sweepAll (st : State σ) (nows : List Int) : State σ :=
  nows.foldl (fun st now => { st with sessions := st.sessions.sweepExpired now }) st

/-- The sweeper runs, and then the server makes a turn on its end `d` of the connection. -/
def serverTurn (s : Server σ) (md5 : Crypto.Md5) (d : Conn) (clock : Clock) (x : Pipe σ τ) :
    Pipe σ τ :=
  let st := sweepAll x.st (clock.sweeps x.turns)
  let r := serveIteration s md5 d { t := clock.times x.turns } st x.loop x.toServer
  let out :=
    match r.written with
    | none => []
    | some p => bytesOrNil (d.writePacket md5 p.hdr p.body)
  { x with toServer := r.input, toClient := x.toClient ++ out, st := r.st, loop := r.loop,
           turns := x.turns + 1, calls := x.calls ++ r.calls }

/-- The outside of a client that has the end `c` of a connection whose end `d` is served. -/
def connect (s : Server σ) (md5 : Crypto.Md5) (c d : Conn) (clock : Clock) :
    Link (Pipe σ τ) where
  ctxErr _ := none
  writePacket hdr body x :=
    match c.writePacket md5 hdr body with
    | .error f => (.error f, x)
    | .ok b => (.ok (), serverTurn s md5 d clock { x with toServer := x.toServer ++ b })
  readPacket x :=
    let r := c.readPacket md5 x.toClient
    (r.1, { x with toClient := r.2 })

/-- A user who always answers, as a `contFn`. -/
def asking (user : AuthenReply → τ → GoString × τ) : ContFn (Pipe σ τ) := fun r x =>
  let a := user r x.user
  (.ok a.1, { x with user := a.2, asked := x.asked ++ [r] })

end Link

/-! ## Calls of a client -/

/-- The two calls that are one packet each way. -/
inductive Request where
  | authorize (req : AuthorRequest)
  | account (req : AcctRequest)

/-- What they return. -/
inductive Result where
  | authorize (res : AuthorResult) (err : Option (Fault GoError))
  | account (res : AcctResult) (err : Option (Fault GoError))

/-- One call. A client is its session, and its outside goes with it. -/
def perform {ν : Type} (l : Link ν) (y : Session × ν) : Request → (Session × ν) × Result
  | .authorize req =>
      let o := authorize l req y.1 y.2
      ((o.sess, o.outside), .authorize o.value o.err)
  | .account req =>
      let o := account l req y.1 y.2
      ((o.sess, o.outside), .account o.value o.err)

end Connection
end Tacacs
