import Tacacs.Server.Handler
import Tacacs.Transport

/-!
# `server/server.go` — what the server does with one packet

A `Server` is what `New` fixes: the configuration and the flag policy. What changes while it
serves is a `State`: the session registry, shared by all connections, and whatever state the
handler keeps.

Every path of `Handle` ends in exactly one `WritePacket`, so a packet is handled by a function:
it gives the next state, the calls made to the handler (at most one) and the packet written.
Whether that write succeeds is the business of the caller, which ends the connection if not.
-/

set_option autoImplicit false

namespace Tacacs

open GoSem Packet Transport

namespace Server

/-! ## Configuration -/

/-- The secret and mode of one connection. -/
structure SecretConfig where
  secret : Bytes
  mode : Mode
deriving DecidableEq, Repr

/-- `SecretProvider`: it sees the address of the client. -/
structure SecretProvider where
  get : GoString → Except GoError SecretConfig

def staticSecret (secret : Bytes) (mode : Mode) : SecretProvider where
  get _ := .ok { secret, mode }

structure Config (σ : Type) where
  handler : Handler σ
  secret : Bytes := []
  mode : Mode
  allowUnencrypted : Bool := false
  sessionTTL : Int := 0
  secretProvider : Option SecretProvider := none

end Server

structure Server (σ : Type) where
  cfg : Server.Config σ
  policy : Crypto.Policy

namespace Server

/-- What changes while the server runs. -/
structure State (σ : Type) where
  sessions : SessionManager
  handler : σ

/-- `New`: note that the policy looks at the mode of the configuration, not of a connection. -/
def new {σ : Type} (cfg : Config σ) : Server σ where
  cfg := cfg
  policy := { allowUnencrypted := cfg.allowUnencrypted || cfg.mode == .tls }

/-- The state of a new server, `h` being the state its handler starts in. -/
def State.init {σ : Type} (cfg : Config σ) (h : σ) : State σ where
  sessions := newSessionManager cfg.sessionTTL
  handler := h

def State.observe {σ : Type} (st : State σ) (o : Observation) : State σ :=
  { st with sessions := st.sessions.observe o }

/-! ## Replies -/

/-- The outcome of handling one packet. -/
structure Handled (σ : Type) where
  st : State σ
  calls : List Call := []
  reply : Pkt

/-- The header of `writeReply` and of `connResponse.Reply`; `WritePacket` sets the length. -/
def replyHeader (h : Header) : Header :=
  { version := h.version, type := h.type, seqNo := h.seqNo + 1, flags := h.flags,
    sessionID := h.sessionID }

def writeReply (h : Header) (body : Bytes) : Pkt := ⟨replyHeader h, body⟩

def sendGenericError (h : Header) : Pkt := ⟨errorHeader h, []⟩

/-- `rb, _ := reply.MarshalBinary()`: an encoder that fails returns a nil slice. -/
def bytesOrNil (b : Go GoError Bytes) : Bytes :=
  match b with
  | .ok b => b
  | .error _ => []

def sendAuthenError (h : Header) : Pkt :=
  writeReply h (bytesOrNil (AuthenReply.marshalBinary { status := authenStatusError }))

def sendAuthorError (h : Header) : Pkt :=
  writeReply h (bytesOrNil (AuthorReply.marshalBinary { status := authorStatusError }))

def sendAcctError (h : Header) : Pkt :=
  writeReply h (bytesOrNil (AcctReply.marshalBinary { status := acctStatusError }))

/-- The last lines of the three `handle…` functions: an encoder error becomes the generic
    error. The encoders never panic, so an `error` is an error value. -/
def encodeReply (h : Header) (body : Go GoError Bytes) : Pkt :=
  match body with
  | .ok rb => writeReply h rb
  | .error _ => sendGenericError h

/-! ## The three kinds of packet -/

section Handle

variable {σ : Type}

/-- What `time.Now` says when a packet is taken up, and when its handler has returned. -/
structure Times where
  now : Int
  later : Int
deriving DecidableEq, Repr

/-- `dec.Status == Pass || dec.Status == Fail || dec.Status == Error`. -/
def endsSession (status : AuthenStatus) : Bool :=
  status == authenStatusPass || status == authenStatusFail || status == authenStatusError

/-- The second half of `handleAuthen`, from the call of the handler on. -/
def answerAuthen (s : Server σ) (c : Conn) (t : Times) (st : State σ) (hdr : Header)
    (start : AuthenStart) (cont : Option AuthenContinue) : Handled σ :=
  let ac : AuthenContext :=
    { sessionID := hdr.sessionID, seqNo := hdr.seqNo, start, remoteAddr := c.remoteAddr }
  let a := s.cfg.handler.authenticate ac cont st.handler
  let calls := [Call.authenticate ac cont]
  match a.1 with
  | .error _ =>
      { st := { sessions := st.sessions.delete hdr.sessionID, handler := a.2 }, calls,
        reply := sendAuthenError hdr }
  | .ok dec =>
      let sessions :=
        if endsSession dec.status then st.sessions.delete hdr.sessionID
        else st.sessions.update t.later hdr.sessionID fun sctx =>
          { sctx with lastOutboundSeq := hdr.seqNo + 1 }
      let reply : AuthenReply :=
        { status := dec.status, flags := dec.flags, serverMsg := dec.serverMsg,
          data := dec.data }
      let sessions := sessions.observe (.authenStatus start.type dec.status)
      { st := { sessions, handler := a.2 }, calls, reply := encodeReply hdr reply.marshalBinary }

/-- `handleAuthen`: a START has sequence number 1, everything else is a CONTINUE. The decoders
    never panic, so an `error` of theirs is an error value. -/
def handleAuthen (s : Server σ) (c : Conn) (t : Times) (st : State σ) (hdr : Header)
    (body : Bytes) : Handled σ :=
  if hdr.seqNo = 1 then
    match AuthenStart.unmarshalBinary body with
    | .error _ => { st, reply := sendGenericError hdr }
    | .ok start =>
        let sctx : SessionContext := { start, flags := hdr.flags, remoteAddr := c.remoteAddr }
        let st := { st with sessions := st.sessions.set t.now hdr.sessionID sctx }
        answerAuthen s c t st hdr start none
  else
    match st.sessions.get hdr.sessionID with
    | none => { st, reply := sendGenericError hdr }
    | some sctx =>
        match validateNextSeqNo hdr.seqNo sctx.lastOutboundSeq with
        | .error _ =>
            let sessions := (st.sessions.delete hdr.sessionID).observe (.packetInvalid "seq_no")
            { st := { st with sessions }, reply := sendGenericError hdr }
        | .ok () =>
            match AuthenContinue.unmarshalBinary body with
            | .error _ => { st, reply := sendGenericError hdr }
            | .ok cont => answerAuthen s c t st hdr sctx.start (some cont)

/-- `for _, a := range req.Args { parsed, perr := types.ParseArgument(a) … }`. -/
def parseArguments : List GoString → Except GoError (List Argument)
  | [] => .ok []
  | a :: args => do
      let parsed ← parseArgument a
      let rest ← parseArguments args
      return parsed :: rest

def handleAuthor (s : Server σ) (c : Conn) (st : State σ) (hdr : Header) (body : Bytes) :
    Handled σ :=
  match AuthorRequest.unmarshalBinary body with
  | .error _ => { st, reply := sendGenericError hdr }
  | .ok req =>
      match parseArguments req.args with
      | .error _ => { st, reply := sendAuthorError hdr }
      | .ok args =>
          let ac : AuthorContext :=
            { sessionID := hdr.sessionID, seqNo := hdr.seqNo, method := req.method,
              privLvl := req.privLvl, type := req.type, service := req.service,
              user := req.user, port := req.port, remAddr := req.remAddr, args,
              remoteAddr := c.remoteAddr }
          let a := s.cfg.handler.authorize ac st.handler
          let calls := [Call.authorize ac]
          match a.1 with
          | .error _ => { st := { st with handler := a.2 }, calls, reply := sendAuthorError hdr }
          | .ok dec =>
              let reply : AuthorReply :=
                { status := dec.status, serverMsg := dec.serverMsg,
                  args := dec.args.map Argument.string }
              { st := { st with handler := a.2 }.observe (.authorStatus dec.status), calls,
                reply := encodeReply hdr reply.marshalBinary }

def handleAcct (s : Server σ) (c : Conn) (st : State σ) (hdr : Header) (body : Bytes) :
    Handled σ :=
  match AcctRequest.unmarshalBinary body with
  | .error _ => { st, reply := sendGenericError hdr }
  | .ok req =>
      if AcctFlags.record req.flags = .invalid then { st, reply := sendAcctError hdr }
      else
        match parseArguments req.args with
        | .error _ => { st, reply := sendAcctError hdr }
        | .ok args =>
            let ac : AcctContext :=
              { sessionID := hdr.sessionID, seqNo := hdr.seqNo, flags := req.flags,
                method := req.method, privLvl := req.privLvl, type := req.type,
                service := req.service, user := req.user, port := req.port,
                remAddr := req.remAddr, args, remoteAddr := c.remoteAddr }
            let a := s.cfg.handler.account ac st.handler
            let calls := [Call.account ac]
            match a.1 with
            | .error _ => { st := { st with handler := a.2 }, calls, reply := sendAcctError hdr }
            | .ok dec =>
                let reply : AcctReply := { status := dec.status, serverMsg := dec.serverMsg }
                { st := { st with handler := a.2 }.observe (.acctStatus dec.status), calls,
                  reply := encodeReply hdr reply.marshalBinary }

/-- `handlerAdapter.Handle`, the end of the middleware chain. -/
def handle (s : Server σ) (c : Conn) (t : Times) (st : State σ) (p : Pkt) : Handled σ :=
  if p.hdr.type = packetAuthentication then handleAuthen s c t st p.hdr p.body
  else if p.hdr.type = packetAuthorization then handleAuthor s c st p.hdr p.body
  else if p.hdr.type = packetAccounting then handleAcct s c st p.hdr p.body
  else { st, reply := sendGenericError p.hdr }

end Handle

/-! ## Packets one at a time -/

section Machine

variable {σ : Type}

/-- What can happen to the state of a server: a packet is handled, or the sweeper runs. -/
inductive Event where
  | packet (c : Conn) (t : Times) (p : Pkt)
  | sweep (now : Int)

/-- What is seen of an event: the calls of the handler and the packet written. -/
structure Seen where
  calls : List Call := []
  reply : Option Pkt := none
deriving DecidableEq, Repr

/-- One event, atomically. -/
def step (s : Server σ) (st : State σ) : Event → State σ × Seen
  | .packet c t p =>
      let r := handle s c t st p
      (r.st, { calls := r.calls, reply := some r.reply })
  | .sweep now => ({ st with sessions := st.sessions.sweepExpired now }, {})

end Machine

end Server
end Tacacs
