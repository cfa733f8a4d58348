import Tacacs.Proof.Server.ServeConn
import Tacacs.Server.Middleware

/-!
# Middleware around the dispatch

The server of `Server/Middleware.lean` runs the dispatch of a packet as a script inside a chain
of middleware, any part of which may panic. Two things are to be known of it: in which order a
chain runs (`chain_outermost_first`), and that it serves what the server without a chain serves
(`middleware_transparent`), so that what is proved of that one holds of this one.

The second is a simulation. The script with the operations of a goroutine that does not panic is
the program of `Server/ServeConn.lean` (`run_dispatch`); middleware that only writes logs, counts
or records hands the response on (`Observes`), and recovery that has nothing to recover does too.
So each packet, and by induction on the input each connection, mirrors its plain counterpart up to
the events that neither the peer nor the handler can see (`serveConn_mirrors`).
-/

set_option autoImplicit false

namespace Tacacs
namespace Proof
namespace Server

open GoSem Unwind Tacacs.Packet Tacacs.Transport Tacacs.Server.Chained
open Tacacs.Server (State Env Call SessionManager)
open Tacacs.Server.Routine (Deed Err Setting Turned)
open Tacacs.Server.Dispatch (Op Handling operations routine)
open Tacacs.Proof.Transport (headerBytes arriving onTheWire frame reader)

variable {σ : Type} {x : Setting σ} {e : Env}

/-! ## The script is the program -/

section Script

variable (x e)

theorem run_sessionsGet (id : UInt32) :
    (Server.Dispatch.sessionsGet id).run (routine x e) = Server.Routine.sessionsGet x id :=
  Script.run_perform _ _

theorem run_onSessions (f : SessionManager → SessionManager) :
    (Server.Dispatch.onSessions f).run (routine x e) = Server.Routine.onSessions x f :=
  Script.run_perform _ _

theorem run_authenticate (ac : Tacacs.Server.AuthenContext) (cont : Option AuthenContinue) :
    (Server.Dispatch.authenticate ac cont).run (routine x e) =
      Server.Routine.callHandler x (.authenticate ac cont)
        (x.server.cfg.handler.authenticate ac cont) :=
  Script.run_perform _ _

theorem run_authorize (ac : Tacacs.Server.AuthorContext) :
    (Server.Dispatch.authorize ac).run (routine x e) =
      Server.Routine.callHandler x (.authorize ac) (x.server.cfg.handler.authorize ac) :=
  Script.run_perform _ _

theorem run_account (ac : Tacacs.Server.AcctContext) :
    (Server.Dispatch.account ac).run (routine x e) =
      Server.Routine.callHandler x (.account ac) (x.server.cfg.handler.account ac) :=
  Script.run_perform _ _

theorem run_writePacket (hdr : Header) (body : Bytes) :
    (Server.Dispatch.writePacket hdr body).run (routine x e) =
      Server.Routine.writePacket x e hdr body :=
  Script.run_perform _ _

theorem run_encodeReply (hdr : Header) (body : Go GoError Bytes) :
    (Server.Dispatch.encodeReply hdr body).run (routine x e) =
      Server.Routine.encodeReply x e hdr body := by
  cases body with
  | ok rb => exact run_writePacket x e _ rb
  | error f => exact run_writePacket x e _ []

theorem run_answerAuthen (hdr : Header) (start : AuthenStart) (cont : Option AuthenContinue) :
    (Server.Dispatch.answerAuthen x.conn.remoteAddr e.t hdr start cont).run (routine x e)
      = Server.Routine.answerAuthen x e hdr start cont := by
  unfold Server.Dispatch.answerAuthen Server.Routine.answerAuthen
  rw [Script.run_bind, run_authenticate]
  refine bind_congr fun r => ?_
  cases r with
  | error err =>
    dsimp only
    rw [Script.run_bind, run_onSessions]
    exact bind_congr fun _ => run_writePacket x e _ _
  | ok dec =>
    dsimp only
    split
    · rw [Script.run_bind, run_onSessions]
      refine bind_congr fun _ => ?_
      rw [Script.run_bind, run_onSessions]
      exact bind_congr fun _ => run_encodeReply x e _ _
    · rw [Script.run_bind, run_onSessions]
      refine bind_congr fun _ => ?_
      rw [Script.run_bind, run_onSessions]
      exact bind_congr fun _ => run_encodeReply x e _ _

theorem run_handleAuthen (hdr : Header) (body : Bytes) :
    (Server.Dispatch.handleAuthen x.conn.remoteAddr e.t hdr body).run (routine x e)
      = Server.Routine.handleAuthen x e hdr body := by
  unfold Server.Dispatch.handleAuthen Server.Routine.handleAuthen
  split
  · cases AuthenStart.unmarshalBinary body with
    | error f => exact run_writePacket x e _ _
    | ok start =>
      dsimp only
      rw [Script.run_bind, run_onSessions]
      exact bind_congr fun _ => run_answerAuthen x e hdr start none
  · rw [Script.run_bind, run_sessionsGet]
    refine bind_congr fun r => ?_
    cases r with
    | none => exact run_writePacket x e _ _
    | some sctx =>
      dsimp only
      cases Tacacs.Server.validateNextSeqNo hdr.seqNo sctx.lastOutboundSeq with
      | error err =>
        dsimp only
        rw [Script.run_bind, run_onSessions]
        refine bind_congr fun _ => ?_
        rw [Script.run_bind, run_onSessions]
        exact bind_congr fun _ => run_writePacket x e _ _
      | ok u =>
        dsimp only
        cases AuthenContinue.unmarshalBinary body with
        | error f => exact run_writePacket x e _ _
        | ok cont => exact run_answerAuthen x e hdr sctx.start (some cont)

theorem run_handleAuthor (hdr : Header) (body : Bytes) :
    (Server.Dispatch.handleAuthor x.conn.remoteAddr hdr body).run (routine x e)
      = Server.Routine.handleAuthor x e hdr body := by
  unfold Server.Dispatch.handleAuthor Server.Routine.handleAuthor
  cases AuthorRequest.unmarshalBinary body with
  | error f => exact run_writePacket x e _ _
  | ok req =>
    dsimp only
    cases Tacacs.Server.parseArguments req.args with
    | error err => exact run_writePacket x e _ _
    | ok args =>
      dsimp only
      rw [Script.run_bind, run_authorize]
      refine bind_congr fun r => ?_
      cases r with
      | error err => exact run_writePacket x e _ _
      | ok dec =>
        dsimp only
        rw [Script.run_bind, run_onSessions]
        exact bind_congr fun _ => run_encodeReply x e _ _

theorem run_handleAcct (hdr : Header) (body : Bytes) :
    (Server.Dispatch.handleAcct x.conn.remoteAddr hdr body).run (routine x e)
      = Server.Routine.handleAcct x e hdr body := by
  unfold Server.Dispatch.handleAcct Server.Routine.handleAcct
  cases AcctRequest.unmarshalBinary body with
  | error f => exact run_writePacket x e _ _
  | ok req =>
    dsimp only
    split
    · exact run_writePacket x e _ _
    · cases Tacacs.Server.parseArguments req.args with
      | error err => exact run_writePacket x e _ _
      | ok args =>
        dsimp only
        rw [Script.run_bind, run_account]
        refine bind_congr fun r => ?_
        cases r with
        | error err => exact run_writePacket x e _ _
        | ok dec =>
          dsimp only
          rw [Script.run_bind, run_onSessions]
          exact bind_congr fun _ => run_encodeReply x e _ _

/-- The script, with the operations of a goroutine that does not panic, is the program of
    `Server/ServeConn.lean`. -/
theorem run_dispatch (p : Pkt) :
    (Server.Dispatch.dispatch x.conn.remoteAddr e.t p).run (routine x e)
      = Server.Routine.dispatch x e p := by
  unfold Server.Dispatch.dispatch Server.Routine.dispatch
  split
  · exact run_handleAuthen x e p.hdr p.body
  · split
    · exact run_handleAuthor x e p.hdr p.body
    · split
      · exact run_handleAcct x e p.hdr p.body
      · exact run_writePacket x e _ _

end Script

/-! ## The order of a chain -/

/-- Something before the rest of the chain, and something after it. -/
structure Bracket (σ : Type) where
  before : Request → Server.Chained.Prog σ Unit
  after : Request → Server.Chained.Prog σ Unit

def Bracket.middleware (m : Bracket σ) : Middleware σ := fun next req => do
  m.before req
  next req
  m.after req

/-- **The first middleware is the outermost.** With `A`, `B`, `C` around `h`, what is done is
    `A → B → C → h → C → B → A`; and since that is an equation between programs that may panic,
    a panic on the way skips what comes after it and nothing else. -/
theorem chain_outermost_first (h : RequestHandler σ) (mw : List (Bracket σ)) (req : Request) :
    chain h (mw.map Bracket.middleware) req = (do
      mw.forM fun m => m.before req
      h req
      mw.reverse.forM fun m => m.after req) := by
  induction mw with
  | nil => simp [chain]
  | cons m mw ih =>
    have hcons : chain h ((m :: mw).map Bracket.middleware) req = (do
        m.before req
        chain h (mw.map Bracket.middleware) req
        m.after req) := rfl
    rw [hcons, ih]
    simp [bind_assoc]

/-! ## Middleware that only looks on -/

/-- What the peer and the handler can see. -/
def deed? : Event → Option Deed
  | .deed d => some d
  | _ => none

/-- `m` hands on the response as it is, and what it does before and after is not seen. -/
def Observes {ω : Type} (view : Event → Option ω) (m : Middleware σ) : Prop :=
  ∃ b : Bracket σ, (∀ req, Silent view (b.before req)) ∧ (∀ req, Silent view (b.after req)) ∧
    m = b.middleware

section Observers

variable {ω : Type} {view : Event → Option ω}

theorem loggingMiddleware_observes (hlog : ∀ c, c.level = .debug → view (.logged c) = none)
    (since : Nat → Int) : Observes view (loggingMiddleware (σ := σ) since) := by
  refine ⟨⟨fun req => emit (.logged (packetReceivedCall req)), fun _ => do
    let d ← ask since
    let resp ← getVar
    emit (.logged (packetHandledCall d resp))⟩, ?_, ?_, rfl⟩
  · exact fun req => Silent.emit (hlog _ rfl)
  · exact fun req => Silent.bind Silent.ask fun d => Silent.bind Silent.getVar fun resp =>
      Silent.emit (hlog _ rfl)

theorem metricsMiddleware_observes : Observes deed? (metricsMiddleware (σ := σ)) := by
  refine ⟨⟨fun req => emit (.packetReceived req.header.type), fun _ => do
    let resp ← getVar
    if resp.terminated then emit (.packetInvalid "handler_error")⟩, ?_, ?_, rfl⟩
  · exact fun req => Silent.emit rfl
  · refine fun req => Silent.bind Silent.getVar fun resp => ?_
    split
    · exact Silent.emit rfl
    · exact Silent.pure

theorem recorderMiddleware_observes (now : Nat → GoString) :
    Observes deed? (recorderMiddleware (σ := σ) now) := by
  refine ⟨⟨fun req => do
      let before ← ask now
      emit (.recorded (inLine before req)), fun _ => do
      let after ← ask now
      let resp ← getVar
      emit (.recorded (outLine after resp))⟩, ?_, ?_, rfl⟩
  · exact fun req => Silent.bind Silent.ask fun before => Silent.emit rfl
  · exact fun req => Silent.bind Silent.ask fun after => Silent.bind Silent.getVar fun resp =>
      Silent.emit rfl

end Observers

/-! ## Transparency -/

/-- A handler that returns from every call. -/
def never : Call → σ → Option GoString := fun _ _ => none

/-- Middleware that looks on, or recovers. -/
def Unintrusive (x : Setting σ) (m : Middleware σ) : Prop :=
  Observes deed? m ∨ ∃ stack, m = recoveryMiddleware x stack

theorem Unintrusive.mirrors {β : Type} {m : Middleware σ} (hm : Unintrusive x m)
    {h : RequestHandler σ} {req : Request} {P : ConnResponse → Prop}
    {m' : Server.Routine.Prog σ β} {R : Unit → ConnResponse → β → Prop}
    (hh : Mirrors deed? P (h req) m' R) : Mirrors deed? P (m h req) m' R := by
  rcases hm with ⟨b, hbefore, hafter, rfl⟩ | ⟨stack, rfl⟩
  · refine Silent.then (hbefore req) fun _ => ?_
    exact (hh.thenSilent fun _ => hafter req).mono (fun _ hP => hP) fun _ _ _ hR => hR.elim
      fun _ hR => hR
  · exact hh.recovering

theorem chain_mirrors {β : Type} {mw : List (Middleware σ)} (hmw : ∀ m ∈ mw, Unintrusive x m)
    {h : RequestHandler σ} {req : Request} {P : ConnResponse → Prop}
    {m' : Server.Routine.Prog σ β} {R : Unit → ConnResponse → β → Prop}
    (hh : Mirrors deed? P (h req) m' R) : Mirrors deed? P (chain h mw req) m' R := by
  induction mw with
  | nil => exact hh
  | cons m mw ih =>
    exact (hmw m List.mem_cons_self).mirrors (ih fun m hm => hmw m (List.mem_cons_of_mem _ hm))

theorem writePacket_mirrors {ρ : Type} {P : ρ → Prop} (hdr : Header) (body : Bytes) :
    Mirrors deed? P (Server.Chained.writePacket x x.conn e hdr body)
      (Server.Routine.writePacket x e hdr body) fun a r b => P r ∧ a = b := by
  unfold Server.Chained.writePacket Server.Routine.writePacket
  cases x.conn.writePacket x.md5 hdr body with
  | error f => exact Mirrors.pure fun _ hP => ⟨hP, rfl⟩
  | ok b => exact Mirrors.bind (Mirrors.emit rfl) fun _ r _ hP =>
      Mirrors.pure fun _ hr => ⟨hr ▸ hP, rfl⟩

theorem callHandler_mirrors {α : Type} {P : ConnResponse → Prop} (call : Call) (f : σ → α × σ) :
    Mirrors deed? P (Server.Chained.callHandler x never call f)
      (Server.Routine.callHandler x call f) fun a r b => P r ∧ a = b := by
  refine Mirrors.bind (Mirrors.emit rfl) fun _ r _ hP => ?_
  -- Without a panic the access is that of a goroutine which cannot panic.
  exact (Mirrors.access (π := GoString) (P := (· = r)) (f := fun st : State σ =>
    ((f st.handler).1, { st with handler := (f st.handler).2 }))).mono (fun _ hr => hr)
    fun _ _ _ hR => ⟨hR.1 ▸ hP, hR.2⟩

theorem operation_mirrors {P : ConnResponse → Prop} {req : Request} (hconn : req.conn = x.conn)
    (op : Op) :
    Mirrors deed? P (operation x never req op) (routine x req.env op)
      fun a r b => P r ∧ a = b := by
  cases op with
  | get id => exact Mirrors.access
  | sessions f => exact Mirrors.access
  | authenticate ac cont => exact callHandler_mirrors _ _
  | authorize ac => exact callHandler_mirrors _ _
  | account ac => exact callHandler_mirrors _ _
  | write hdr body =>
    have h := writePacket_mirrors (x := x) (e := req.env) (P := P) hdr body
    rw [← hconn] at h
    exact h

/-- The two responses say the same to `ServeConn`. -/
def SameResponse (r : ConnResponse) (r' : Server.Routine.ConnResponse) : Prop :=
  r.terminated = r'.terminated ∧ r.err = r'.err

theorem handlerAdapter_mirrors {req : Request} (hconn : req.conn = x.conn) {r₀ : ConnResponse}
    (hr₀ : SameResponse r₀ {}) :
    Mirrors deed? (· = r₀) (handlerAdapter x never req)
      (Server.Routine.handle x req.env {} ⟨req.header, req.body⟩)
      fun _ r r' => SameResponse r r' := by
  unfold Server.Chained.handlerAdapter Server.Routine.handle
  rw [← run_dispatch, hconn]
  refine Mirrors.bind (Mirrors.run (operation_mirrors hconn) _) ?_
  rintro err r _ ⟨rfl, rfl⟩
  cases err with
  | none => exact Mirrors.pure fun _ hr => hr ▸ hr₀
  | some f =>
    intro r t t' hr ht
    exact ⟨(), _, t, rfl, ⟨rfl, rfl⟩, ht⟩

section Transparent

variable {mw : List (Middleware σ)} (hmw : ∀ m ∈ mw, Unintrusive x m)

include hmw

theorem handle_mirrors (p : Pkt) :
    Mirrors deed? (fun _ => True) (Server.Chained.handle x (chain (handlerAdapter x never) mw) e p)
      (Server.Routine.handle x e {} p) fun r _ r' => SameResponse r r' := by
  let req : Request :=
    { header := p.hdr, body := p.body, conn := x.conn, remote := x.conn.remoteAddr, env := e }
  let resp : ConnResponse := { conn := x.conn, header := p.hdr }
  have hconn : req.conn = x.conn := rfl
  have hresp : SameResponse resp {} := ⟨rfl, rfl⟩
  have hchain := chain_mirrors hmw (handlerAdapter_mirrors hconn hresp)
  intro r t t' hP ht
  obtain ⟨a, r₁, t₁, hrun, hR, ht₁⟩ := hchain.withVar (P := fun _ => True) r t t' hP ht
  refine ⟨a.2, r₁, t₁, ?_, hR.2, ht₁⟩
  unfold Server.Chained.handle
  rw [exec_bind_ok hrun]
  rfl

theorem servePacket_mirrors (first : Bool) (connFlags : HeaderFlags) (p : Pkt) :
    Mirrors deed? (fun _ => True)
      (Server.Chained.servePacket x (chain (handlerAdapter x never) mw) e first connFlags p)
      (Server.Routine.servePacket x e first connFlags p) fun a _ b => a = b := by
  unfold Server.Chained.servePacket Server.Routine.servePacket
  cases Tacacs.Server.checkFlags x.server x.conn p.hdr with
  | error err =>
    refine Mirrors.bind (writePacket_mirrors _ _) ?_
    rintro perr r _ ⟨-, rfl⟩
    cases perr with
    | some perr => exact Mirrors.pure fun _ _ => rfl
    | none => exact Mirrors.pure fun _ _ => rfl
  | ok u =>
    dsimp only
    split
    · refine Mirrors.bind Mirrors.access fun _ _ _ _ => ?_
      refine Mirrors.bind (writePacket_mirrors (P := fun _ => True) _ _ |>.mono
        (fun _ _ => trivial) fun _ _ _ h => h) ?_
      rintro err r _ ⟨-, rfl⟩
      exact Mirrors.pure fun _ _ => rfl
    · refine Mirrors.bind (handle_mirrors hmw p) ?_
      rintro resp r resp' ⟨hterm, herr⟩
      rw [hterm, herr]
      exact Mirrors.pure fun _ _ => rfl

end Transparent

section Turns

variable {h : RequestHandler σ} {env : Nat → Env} {n : Nat} {first : Bool}
  {connFlags : HeaderFlags} {input : Bytes}

theorem chained_cancelled {err : GoError} (hctx : (env n).ctxErr = some err) :
    Server.Chained.serveConn x h env n first connFlags input = pure (some (.err err)) := by
  rw [Server.Chained.serveConn, hctx]

theorem chained_timeout {err : GoError} (hctx : (env n).ctxErr = none)
    (hread : (env n).readErr = some err) :
    Server.Chained.serveConn x h env n first connFlags input = pure (some (.err err)) := by
  rw [Server.Chained.serveConn, hctx, hread]

theorem chained_unread {f : Fault GoError} {rest : Bytes} (hctx : (env n).ctxErr = none)
    (hread : (env n).readErr = none) (hp : x.conn.readPacket x.md5 input = (.error f, rest)) :
    Server.Chained.serveConn x h env n first connFlags input = pure (some f) := by
  rw [Server.Chained.serveConn, hctx, hread]
  dsimp only
  split
  · next hp' =>
    rw [hp] at hp'
    cases hp'
    rfl
  · next hp' =>
    rw [hp] at hp'
    cases hp'

theorem chained_packet {p : Pkt} {rest : Bytes} (hctx : (env n).ctxErr = none)
    (hread : (env n).readErr = none) (hp : x.conn.readPacket x.md5 input = (.ok p, rest)) :
    Server.Chained.serveConn x h env n first connFlags input = (do
      emit (.deed (.read p))
      match ← Server.Chained.servePacket x h (env n) first connFlags p with
      | .ret err => return err
      | .again connFlags =>
          Server.Chained.serveConn x h env (n + 1) false connFlags rest) := by
  rw [Server.Chained.serveConn, hctx, hread]
  dsimp only
  split
  · next hp' =>
    rw [hp] at hp'
    cases hp'
  · next hp' =>
    rw [hp] at hp'
    cases hp'
    rfl

end Turns

theorem serveConn_mirrors {mw : List (Middleware σ)} (hmw : ∀ m ∈ mw, Unintrusive x m)
    (env : Nat → Env) (n : Nat) (first : Bool) (connFlags : HeaderFlags) (input : Bytes) :
    Mirrors deed? (fun _ => True)
      (Server.Chained.serveConn x (chain (handlerAdapter x never) mw) env n first connFlags input)
      (Server.Routine.serveConn x env n first connFlags input) fun a _ b => a = b := by
  induction n, first, connFlags, input using Server.Routine.serveConn.induct x env with
  | case1 n first connFlags input err hctx =>
    rw [chained_cancelled hctx, serveConn_cancelled hctx]
    exact Mirrors.pure fun _ _ => rfl
  | case2 n first connFlags input err hread hctx =>
    rw [chained_timeout hctx hread, serveConn_timeout hctx hread]
    exact Mirrors.pure fun _ _ => rfl
  | case3 n first connFlags input hread hctx f rest hp =>
    rw [chained_unread hctx hread hp, serveConn_unread hctx hread hp]
    exact Mirrors.pure fun _ _ => rfl
  | case4 n first connFlags input hread hctx p rest hp ih =>
    rw [chained_packet hctx hread hp, serveConn_packet hctx hread hp]
    refine Mirrors.bind (Mirrors.emit rfl) fun _ _ _ _ => ?_
    refine Mirrors.bind ((servePacket_mirrors hmw first connFlags p).mono (fun _ _ => trivial)
      fun _ _ _ hR => hR) ?_
    rintro turned r _ rfl
    cases turned with
    | ret err => exact Mirrors.pure fun _ _ => rfl
    | again connFlags => exact (ih connFlags).mono (fun _ _ => trivial) fun _ _ _ hR => hR

/-- **Middleware does not change what is served.** Put logging, metrics, recorders and recovery
    around the dispatch, as many as there are, in any order. As long as the handler returns from
    its calls, and whatever other goroutines do to the shared state, `ServeConn` returns what it
    would have returned without them, leaves the same shared state, and has read the same
    packets, called the handler in the same way and written the same bytes. -/
theorem middleware_transparent (x : Setting σ) (mw : List (Middleware σ))
    (hmw : ∀ m ∈ mw, Unintrusive x m) (env : Nat → Env) (st : State σ) (input : Bytes) :
    let chained := exec (Server.Chained.serveConn x (chain (handlerAdapter x never) mw) env 0 true
      0 input) () { shared := st }
    let plain := Server.Routine.serveConn x env 0 true 0 input { shared := st }
    chained.1.1 = .ok plain.1 ∧ chained.2.shared = plain.2.shared ∧
      chained.2.log.filterMap deed? = plain.2.log := by
  obtain ⟨a, r, t, hrun, rfl, ht⟩ := serveConn_mirrors hmw env 0 true 0 input ()
    { shared := st } { shared := st } trivial ⟨rfl, rfl, rfl⟩
  intro chained plain
  have hchained : chained = ((.ok plain.1, r), t) := hrun
  rw [hchained]
  exact ⟨rfl, ht.shared, ht.log⟩

theorem cliMiddleware_unintrusive (x : Setting σ) (stack : Nat → GoString) (since : Nat → Int) :
    ∀ m ∈ cliMiddleware x stack since, Unintrusive x m := by
  unfold cliMiddleware
  simp only [List.forall_mem_cons, List.not_mem_nil, IsEmpty.forall_iff, implies_true, and_true]
  exact ⟨.inr ⟨stack, rfl⟩, .inl (loggingMiddleware_observes (fun _ _ => rfl) since),
    .inl metricsMiddleware_observes⟩

/-- The chain of the command-line server, with a recorder inside it. -/
theorem middleware_transparent_cli :
    let x : Setting Unit :=
      { server := Tacacs.Server.new { handler := askAgain, mode := .tls }, md5 := default,
        conn := tlsConn, others := Traced.alone }
    let env : Nat → Env := fun n => { t := ⟨n, n⟩ }
    let st : State Unit := { sessions := Tacacs.Server.newSessionManager 0, handler := () }
    let mw := cliMiddleware x (fun _ => []) (fun _ => 0) ++ [recorderMiddleware fun _ => []]
    (exec (Server.Chained.serveConn x (chain (handlerAdapter x never) mw) env 0 true 0 mixedFlags)
      () { shared := st }).2.log.filterMap deed? =
        (Server.Routine.serveConn x env 0 true 0 mixedFlags { shared := st }).2.log := by
  intro x env st mw
  refine (middleware_transparent x mw ?_ env st mixedFlags).2.2
  intro m hm
  rcases List.mem_append.mp hm with hm | hm
  · exact cliMiddleware_unintrusive x _ _ m hm
  · rw [List.mem_singleton.mp hm]
    exact .inl (recorderMiddleware_observes _)

end Server
end Proof
end Tacacs
