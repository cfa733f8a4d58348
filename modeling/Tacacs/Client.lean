import Tacacs.Protocol
import Tacacs.Transport
import Tacacs.Packet.Body

/-!
# `client/client.go` — a client

A client talks to the outside in three ways: it looks at its context, it writes a packet, it
reads one; and `Authenticate` asks the user, through `contFn`. What the outside does is a
`Link`, over a state `ν` of its own. So the same client can be run against a stream of bytes,
against an adversary, or against a server.

A Go function that fails may still return a value next to its error. An `Outcome` has both.

The loop of `Authenticate` has no bound of its own. It ends because every round takes a
sequence number, and a session has 128 of them.
-/

set_option autoImplicit false

namespace Tacacs
namespace Client

open GoSem Packet Transport Protocol

/-! ## Requests and results -/

/-- `client.AuthenRequest` has the fields of `packet.AuthenStart`, and `client.AuthenReply`
    those of `packet.AuthenReply`; only `Data` is a `[]byte` in place of a `string`. -/
abbrev AuthenRequest := Packet.AuthenStart

abbrev AuthenReply := Packet.AuthenReply

structure AuthorRequest where
  method : AuthenMethod
  privLvl : PrivLevel
  type : AuthenType
  service : AuthenService
  user : GoString
  port : GoString
  remAddr : GoString
  args : List Argument
deriving DecidableEq, Repr

structure AuthorResult where
  status : AuthorStatus := 0
  args : List Argument := []
  serverMsg : GoString := []
deriving DecidableEq, Repr

structure AcctRequest where
  flags : AcctFlags
  method : AuthenMethod
  privLvl : PrivLevel
  type : AuthenType
  service : AuthenService
  user : GoString
  port : GoString
  remAddr : GoString
  args : List Argument
deriving DecidableEq, Repr

structure AcctResult where
  status : AcctStatus := 0
  serverMsg : GoString := []
deriving DecidableEq, Repr

/-! ## The outside -/

/-- What `ctx` and `conn` do. -/
structure Link (ν : Type) where
  ctxErr : ν → Option GoError
  writePacket : Header → Bytes → ν → Go GoError Unit × ν
  readPacket : ν → Go GoError Pkt × ν

/-- The `contFn` of `Authenticate`, which may be a closure. -/
abbrev ContFn (ν : Type) := AuthenReply → ν → Except GoError GoString × ν

/-- How a call ends: what it returns, and what it leaves behind. -/
structure Outcome (α ν : Type) where
  value : α
  err : Option (Fault GoError)
  sess : Session
  outside : ν

section Calls

variable {ν : Type}

/-- What `send` leaves behind. -/
structure Sent (ν : Type) where
  res : Go GoError Unit
  sess : Session
  outside : ν

/-- The header of the next packet. -/
def nextHeader (version : Version) (ptype : PacketType) (sess : Session) : Header :=
  { version, type := ptype, seqNo := UInt8.ofNat sess.nextSeq, flags := 0,
    sessionID := sess.sessionID }

def send (l : Link ν) (version : Version) (ptype : PacketType) (body : Bytes) (sess : Session)
    (x : ν) : Sent ν :=
  match l.ctxErr x with
  | some err => { res := fail err, sess, outside := x }
  | none =>
      match sess.nextSeqNo with
      | .error err => { res := fail err, sess, outside := x }
      | .ok (seq, sess') =>
          let hdr : Header :=
            { version, type := ptype, seqNo := seq, flags := 0, sessionID := sess.sessionID }
          let w := l.writePacket hdr body x
          { res := w.1, sess := sess', outside := w.2 }

/-- `send` gives up before it has done anything, or it takes a number and writes. -/
theorem send_cases (l : Link ν) (version : Version) (ptype : PacketType) (body : Bytes)
    (sess : Session) (x : ν) :
    ((l.ctxErr x ≠ none ∨ 255 < sess.nextSeq) ∧
      ∃ err, send l version ptype body sess x = { res := fail err, sess, outside := x }) ∨
    (l.ctxErr x = none ∧ sess.nextSeq ≤ 255 ∧
      send l version ptype body sess x =
        { res := (l.writePacket (nextHeader version ptype sess) body x).1,
          sess := { sess with nextSeq := sess.nextSeq + 2 },
          outside := (l.writePacket (nextHeader version ptype sess) body x).2 }) := by
  unfold send Session.nextSeqNo
  cases hc : l.ctxErr x with
  | some err => exact Or.inl ⟨Or.inl (by simp), err, rfl⟩
  | none =>
    by_cases hs : sess.nextSeq > maxSeqNo
    · rw [if_pos hs]
      exact Or.inl ⟨Or.inr hs, _, rfl⟩
    · rw [if_neg hs]
      exact Or.inr ⟨rfl, Nat.le_of_not_lt hs, rfl⟩

/-- A send that succeeds takes a number. -/
theorem send_ok {l : Link ν} {version : Version} {ptype : PacketType} {body : Bytes}
    {sess : Session} {x : ν} (h : (send l version ptype body sess x).res = .ok ()) :
    sess.nextSeq ≤ 255 ∧ (send l version ptype body sess x).sess.nextSeq = sess.nextSeq + 2 := by
  rcases send_cases l version ptype body sess x with ⟨-, err, he⟩ | ⟨-, hle, he⟩
  · rw [he] at h
    cases h
  · rw [he]
    exact ⟨hle, rfl⟩

/-! ## Authenticate -/

/-- The error for a header-only packet. -/
def errorPacket (field : String) : GoError :=
  validationError field "server returned error packet" .invalidPacket

/-- A packet as an authentication reply. -/
def authenReply (p : Pkt) : Go GoError AuthenReply :=
  if p.hdr.length = 0 then fail (errorPacket "authen")
  else do
    let reply ← Packet.AuthenReply.unmarshalBinary p.body
    return { reply with status := normalizeAuthenStatus reply.status }

/-- How a round of the loop of `Authenticate` ends. -/
inductive Round (ν : Type) where
  | done (o : Outcome AuthenReply ν)
  | again (sess : Session) (outside : ν)

/-- The second half of a round: the reply `r` is not terminal. -/
def authenticateContinue (l : Link ν) (contFn : Option (ContFn ν)) (version : Version)
    (r : AuthenReply) (sess : Session) (x : ν) : Round ν :=
  match contFn with
  | none =>
      let msg : Message :=
        [.text "tacacs: authentication requires a CONTINUE but no contFn was provided (status ",
          .int r.status.toNat, .text ")"]
      .done { value := r, err := some (.err (.other msg)), sess, outside := x }
  | some contFn =>
      let a := contFn r x
      match a.1 with
      | .error err => .done { value := r, err := some (.err err), sess, outside := a.2 }
      | .ok msg =>
          match AuthenContinue.marshalBinary { userMsg := msg, data := [], flags := 0 } with
          | .error f => .done { value := r, err := some f, sess, outside := a.2 }
          | .ok cb =>
              let s := send l version packetAuthentication cb sess a.2
              match s.res with
              | .error f =>
                  .done { value := r, err := some f, sess := s.sess, outside := s.outside }
              | .ok () => .again s.sess s.outside

/-- One round: read a reply, and answer it if it asks for something. -/
def authenticateRound (l : Link ν) (contFn : Option (ContFn ν)) (version : Version)
    (sess : Session) (x : ν) : Round ν :=
  let rd := l.readPacket x
  match rd.1 with
  | .error f => .done { value := { status := 0 }, err := some f, sess, outside := rd.2 }
  | .ok p =>
      match authenReply p with
      | .error f => .done { value := { status := 0 }, err := some f, sess, outside := rd.2 }
      | .ok r =>
          if isTerminal r.status then .done { value := r, err := none, sess, outside := rd.2 }
          else if r.status = authenStatusRestart then
            .done { value := r, sess, outside := rd.2,
                    err := some (.err (validationError "authen" "server requested RESTART"
                      .invalidPacket)) }
          else authenticateContinue l contFn version r sess rd.2

theorem authenticateContinue_again {l : Link ν} {contFn : Option (ContFn ν)} {version : Version}
    {r : AuthenReply} {sess sess' : Session} {x x' : ν}
    (h : authenticateContinue l contFn version r sess x = .again sess' x') :
    sess.nextSeq ≤ 255 ∧ sess'.nextSeq = sess.nextSeq + 2 := by
  unfold authenticateContinue at h
  cases contFn with
  | none => cases h
  | some contFn =>
    dsimp only at h
    split at h
    · cases h
    · split at h
      · cases h
      · split at h
        · cases h
        · cases h
          exact send_ok ‹_›

/-- A round that is not the last takes a number. -/
theorem authenticateRound_again {l : Link ν} {contFn : Option (ContFn ν)} {version : Version}
    {sess sess' : Session} {x x' : ν}
    (h : authenticateRound l contFn version sess x = .again sess' x') :
    sess.nextSeq ≤ 255 ∧ sess'.nextSeq = sess.nextSeq + 2 := by
  unfold authenticateRound at h
  dsimp only at h
  split at h
  · cases h
  · split at h
    · cases h
    · split at h
      · cases h
      · split at h
        · cases h
        · exact authenticateContinue_again h

/-- The loop of `Authenticate`. -/
def authenticateLoop (l : Link ν) (contFn : Option (ContFn ν)) (version : Version)
    (sess : Session) (x : ν) : Outcome AuthenReply ν :=
  match _h : authenticateRound l contFn version sess x with
  | .done o => o
  | .again sess' x' => authenticateLoop l contFn version sess' x'
termination_by 257 - sess.nextSeq
decreasing_by
  have := authenticateRound_again _h
  omega

theorem authenticateLoop_done {l : Link ν} {contFn : Option (ContFn ν)} {version : Version}
    {sess : Session} {x : ν} {o : Outcome AuthenReply ν}
    (h : authenticateRound l contFn version sess x = .done o) :
    authenticateLoop l contFn version sess x = o := by
  rw [authenticateLoop]
  split
  · rename_i o' ho
    rw [h] at ho
    cases ho
    rfl
  · rename_i sess' x' hagain
    rw [h] at hagain
    cases hagain

theorem authenticateLoop_again {l : Link ν} {contFn : Option (ContFn ν)} {version : Version}
    {sess sess' : Session} {x x' : ν}
    (h : authenticateRound l contFn version sess x = .again sess' x') :
    authenticateLoop l contFn version sess x = authenticateLoop l contFn version sess' x' := by
  rw [authenticateLoop]
  split
  · rename_i o ho
    rw [h] at ho
    cases ho
  · rename_i sess'' x'' hagain
    rw [h] at hagain
    cases hagain
    rfl

def authenticate (l : Link ν) (contFn : Option (ContFn ν)) (req : AuthenRequest)
    (sess : Session) (x : ν) : Outcome AuthenReply ν :=
  let version : Version := majorVersion <<< 4 ||| minorVersionFor req.type
  match req.marshalBinary with
  | .error f => { value := { status := 0 }, err := some f, sess, outside := x }
  | .ok sb =>
      let s := send l version packetAuthentication sb sess x
      match s.res with
      | .error f =>
          { value := { status := 0 }, err := some f, sess := s.sess, outside := s.outside }
      | .ok () => authenticateLoop l contFn version s.sess s.outside

/-! ## Authorize and Account -/

/-- `for _, a := range reply.Args { … result.Args = append(result.Args, parsed) }`: an argument
    that does not parse ends the loop, and those before it are in the result. -/
def appendArguments (args : List Argument) : List GoString → List Argument × Option GoError
  | [] => (args, none)
  | a :: rest =>
      match parseArgument a with
      | .error perr => (args, some perr)
      | .ok parsed => appendArguments (args ++ [parsed]) rest

/-- What `Authorize` makes of the packet it reads. -/
def authorResult (p : Pkt) : AuthorResult × Option (Fault GoError) :=
  if p.hdr.length = 0 then ({}, some (.err (errorPacket "author")))
  else
    match AuthorReply.unmarshalBinary p.body with
    | .error f => ({}, some f)
    | .ok reply =>
        let a := appendArguments [] reply.args
        ({ status := normalizeAuthorStatus reply.status, serverMsg := reply.serverMsg,
           args := a.1 }, a.2.map .err)

/-- What `Account` makes of the packet it reads. -/
def acctResult (p : Pkt) : AcctResult × Option (Fault GoError) :=
  if p.hdr.length = 0 then ({}, some (.err (errorPacket "acct")))
  else
    match AcctReply.unmarshalBinary p.body with
    | .error f => ({}, some f)
    | .ok reply =>
        ({ status := normalizeAcctStatus reply.status, serverMsg := reply.serverMsg }, none)

/-- What `Authorize` and `Account` have in common: one packet out, one packet in. `zero` is the
    zero value of the result. -/
def exchange {α : Type} (l : Link ν) (ptype : PacketType) (body : Go GoError Bytes) (zero : α)
    (result : Pkt → α × Option (Fault GoError)) (sess : Session) (x : ν) : Outcome α ν :=
  match body with
  | .error f => { value := zero, err := some f, sess, outside := x }
  | .ok sb =>
      let s := send l versionDefault ptype sb sess x
      match s.res with
      | .error f => { value := zero, err := some f, sess := s.sess, outside := s.outside }
      | .ok () =>
          let rd := l.readPacket s.outside
          match rd.1 with
          | .error f => { value := zero, err := some f, sess := s.sess, outside := rd.2 }
          | .ok p =>
              let r := result p
              { value := r.1, err := r.2, sess := s.sess, outside := rd.2 }

def AuthorRequest.packet (req : AuthorRequest) : Packet.AuthorRequest :=
  { method := req.method, privLvl := req.privLvl, type := req.type, service := req.service,
    user := req.user, port := req.port, remAddr := req.remAddr,
    args := req.args.map Argument.string }

def authorize (l : Link ν) (req : AuthorRequest) (sess : Session) (x : ν) :
    Outcome AuthorResult ν :=
  exchange l packetAuthorization req.packet.marshalBinary {} authorResult sess x

def AcctRequest.packet (req : AcctRequest) : Packet.AcctRequest :=
  { flags := req.flags, method := req.method, privLvl := req.privLvl, type := req.type,
    service := req.service, user := req.user, port := req.port, remAddr := req.remAddr,
    args := req.args.map Argument.string }

def account (l : Link ν) (req : AcctRequest) (sess : Session) (x : ν) : Outcome AcctResult ν :=
  exchange l packetAccounting req.packet.marshalBinary {} acctResult sess x

end Calls

end Client
end Tacacs
