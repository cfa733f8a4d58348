import Tacacs.Proof.Server.Middleware

/-!
# Handlers that panic

A call of the handler comes before the reply on every path of the dispatch, so a panic finds the
packet without one. With `RecoveryMiddleware` in the chain, and only onlookers around it, it gets
one all the same: a bare header, after which the connection ends. That is shown for the script of
a packet (`run_attempts`), carried through the chain, and from there to a whole connection
(`Course`), whatever the handler, the other goroutines and the environment do.
-/

set_option autoImplicit false

namespace Tacacs
namespace Proof
namespace Server

open GoSem GoText Unwind Tacacs.Packet Tacacs.Transport Tacacs.Server.Chained
open Tacacs.Server (State Env Call SessionManager AuthenContext)
open Tacacs.Server.Routine (Deed Err Setting Turned)
open Tacacs.Server.Dispatch (Op Handling operations)
open Tacacs.Proof.Transport (frame reader)

variable {σ : Type} {x : Setting σ} {panics : Call → σ → Option GoString}

/-! ## The shape of the dispatch -/

/-- The call of the handler that an operation is. -/
def call? : Op → Option Call
  | .authenticate ac cont => some (.authenticate ac cont)
  | .authorize ac => some (.authorize ac)
  | .account ac => some (.account ac)
  | _ => none

/-- At most `n` calls of the handler, with accesses to the registry around them, and at the end
    one reply to `hdr`, whose error is the result. -/
inductive Answers (hdr : Header) : Nat → Handling Err → Prop where
  | write {n : Nat} (body : Bytes) :
      Answers hdr n (.step (Op.write (errorHeader hdr) body) .done)
  | get {n : Nat} {id : UInt32} {next : operations.Answer (.get id) → Handling Err} :
      (∀ r, Answers hdr n (next r)) → Answers hdr n (.step (Op.get id) next)
  | sessions {n : Nat} {f : SessionManager → SessionManager}
      {next : operations.Answer (.sessions f) → Handling Err} :
      (∀ u, Answers hdr n (next u)) → Answers hdr n (.step (Op.sessions f) next)
  | call {n : Nat} {op : Op} {c : Call} {next : operations.Answer op → Handling Err} :
      call? op = some c → (∀ r, Answers hdr n (next r)) → Answers hdr (n + 1) (.step op next)

section Shape

variable (remote : GoString) (t : Tacacs.Server.Times) (hdr : Header)

section Steps

variable {hdr} {n : Nat}

theorem Answers.afterGet {id : UInt32} {next : Option Tacacs.Server.SessionContext → Handling Err}
    (h : ∀ r, Answers hdr n (next r)) : Answers hdr n (Server.Dispatch.sessionsGet id >>= next) :=
  .get h

theorem Answers.afterSessions {f : SessionManager → SessionManager} {next : Unit → Handling Err}
    (h : ∀ u, Answers hdr n (next u)) : Answers hdr n (Server.Dispatch.onSessions f >>= next) :=
  .sessions h

theorem Answers.afterAuthenticate {ac : AuthenContext} {cont : Option AuthenContinue}
    {next : Except GoError Tacacs.Server.AuthenDecision → Handling Err}
    (h : ∀ r, Answers hdr n (next r)) :
    Answers hdr (n + 1) (Server.Dispatch.authenticate ac cont >>= next) :=
  .call rfl h

theorem Answers.afterAuthorize {ac : Tacacs.Server.AuthorContext}
    {next : Except GoError Tacacs.Server.AuthorDecision → Handling Err}
    (h : ∀ r, Answers hdr n (next r)) :
    Answers hdr (n + 1) (Server.Dispatch.authorize ac >>= next) :=
  .call rfl h

theorem Answers.afterAccount {ac : Tacacs.Server.AcctContext}
    {next : Except GoError Tacacs.Server.AcctDecision → Handling Err}
    (h : ∀ r, Answers hdr n (next r)) :
    Answers hdr (n + 1) (Server.Dispatch.account ac >>= next) :=
  .call rfl h

end Steps

theorem encodeReply_answers {n : Nat} (body : Go GoError Bytes) :
    Answers hdr n (Server.Dispatch.encodeReply hdr body) := by
  cases body with
  | ok rb => exact .write rb
  | error f => exact .write []

theorem answerAuthen_answers (start : AuthenStart) (cont : Option AuthenContinue) :
    Answers hdr 1 (Server.Dispatch.answerAuthen remote t hdr start cont) := by
  refine .afterAuthenticate fun r => ?_
  cases r with
  | error err => exact .afterSessions fun _ => .write _
  | ok dec =>
    dsimp only
    split
    · exact .afterSessions fun _ => .afterSessions fun _ => encodeReply_answers hdr _
    · exact .afterSessions fun _ => .afterSessions fun _ => encodeReply_answers hdr _

theorem handleAuthen_answers (body : Bytes) :
    Answers hdr 1 (Server.Dispatch.handleAuthen remote t hdr body) := by
  unfold Server.Dispatch.handleAuthen
  split
  · cases AuthenStart.unmarshalBinary body with
    | error f => exact .write []
    | ok start => exact .afterSessions fun _ => answerAuthen_answers remote t hdr start none
  · refine .afterGet fun r => ?_
    cases r with
    | none => exact .write []
    | some sctx =>
      dsimp only
      cases Tacacs.Server.validateNextSeqNo hdr.seqNo sctx.lastOutboundSeq with
      | error err => exact .afterSessions fun _ => .afterSessions fun _ => .write []
      | ok u =>
        dsimp only
        cases AuthenContinue.unmarshalBinary body with
        | error f => exact .write []
        | ok cont => exact answerAuthen_answers remote t hdr sctx.start (some cont)

theorem handleAuthor_answers (body : Bytes) :
    Answers hdr 1 (Server.Dispatch.handleAuthor remote hdr body) := by
  unfold Server.Dispatch.handleAuthor
  cases AuthorRequest.unmarshalBinary body with
  | error f => exact .write []
  | ok req =>
    dsimp only
    cases Tacacs.Server.parseArguments req.args with
    | error err => exact .write _
    | ok args =>
      refine .afterAuthorize fun r => ?_
      cases r with
      | error err => exact .write _
      | ok dec => exact .afterSessions fun _ => encodeReply_answers hdr _

theorem handleAcct_answers (body : Bytes) :
    Answers hdr 1 (Server.Dispatch.handleAcct remote hdr body) := by
  unfold Server.Dispatch.handleAcct
  cases AcctRequest.unmarshalBinary body with
  | error f => exact .write []
  | ok req =>
    dsimp only
    split
    · exact .write _
    · cases Tacacs.Server.parseArguments req.args with
      | error err => exact .write _
      | ok args =>
        refine .afterAccount fun r => ?_
        cases r with
        | error err => exact .write _
        | ok dec => exact .afterSessions fun _ => encodeReply_answers hdr _

theorem dispatch_answers (p : Pkt) :
    Answers p.hdr 1 (Server.Dispatch.dispatch remote t p) := by
  unfold Server.Dispatch.dispatch
  split
  · exact handleAuthen_answers remote t p.hdr p.body
  · split
    · exact handleAuthor_answers remote p.hdr p.body
    · split
      · exact handleAcct_answers remote p.hdr p.body
      · exact .write []

end Shape

/-! ## The dispatch with a handler that may panic -/

/-- The handler returned from this call, in some state of its own. -/
def Returned (panics : Call → σ → Option GoString) (c : Call) : Prop := ∃ st, panics c st = none

/-- How a script with at most `n` calls comes out, and what is seen of it. -/
inductive Attempt (x : Setting σ) (panics : Call → σ → Option GoString) (e : Env) (hdr : Header)
    (n : Nat) : Except GoString Err → List Deed → Prop where
  | replied {calls : List Call} (body : Bytes) :
      calls.length ≤ n → (∀ c ∈ calls, Returned panics c) →
      Attempt x panics e hdr n (.ok (e.writeErr.map .err))
        (calls.map .called ++ [.wrote (replyBytes x hdr body)])
  | panicked {pre : List Call} {c : Call} {st : σ} {v : GoString} :
      pre.length < n → panics c st = some v →
      Attempt x panics e hdr n (.error v) ((pre ++ [c]).map .called)

theorem Attempt.afterCall {e : Env} {hdr : Header} {n : Nat} {o : Except GoString Err}
    {ds : List Deed} {c : Call} (hc : Returned panics c) (h : Attempt x panics e hdr n o ds) :
    Attempt x panics e hdr (n + 1) o (.called c :: ds) := by
  cases h with
  | replied body hn hret =>
    exact .replied body (Nat.succ_le_succ hn) (List.forall_mem_cons.mpr ⟨hc, hret⟩)
  | @panicked pre _ _ _ hn hv =>
    have hlt : (c :: pre).length < n + 1 := Nat.succ_lt_succ hn
    exact .panicked hlt hv

section Run

variable {req : Request} {r₀ : ConnResponse}

theorem callHandler_ends {α : Type} (call : Call) (f : σ → α × σ) :
    Ends (fun r _ => r = r₀) (Server.Chained.callHandler x panics call f)
      fun o r _ es => r = r₀ ∧ es = [.deed (.called call)] ∧
        ((∃ a, o = .ok a ∧ Returned panics call) ∨
          ∃ v st, o = .error v ∧ panics call st = some v) := by
  refine Ends.bind (Q := fun o r _ es => r = r₀ ∧ es = [.deed (.called call)] ∧ o = .ok ())
    (Ends.emit fun r _ hr => ⟨hr, rfl, rfl⟩) ?_ (fun v r s es h => by cases h.2.2)
  rintro ⟨⟩ r s es ⟨rfl, rfl, -⟩
  refine Ends.accessOrPanic ?_
  rintro k r' s' ⟨rfl, rfl⟩
  refine ⟨rfl, rfl, ?_⟩
  dsimp only
  cases hp : panics call (x.others k s').handler with
  | none => exact .inl ⟨_, rfl, _, hp⟩
  | some v => exact .inr ⟨v, _, rfl, hp⟩

theorem operation_call_ends {op : Op} {c : Call} (hop : call? op = some c) :
    Ends (fun r _ => r = r₀) (operation x panics req op)
      fun o r _ es => r = r₀ ∧ es = [.deed (.called c)] ∧
        ((∃ a, o = .ok a ∧ Returned panics c) ∨ ∃ v st, o = .error v ∧ panics c st = some v) := by
  cases op with
  | get id => cases hop
  | sessions f => cases hop
  | write hdr body => cases hop
  | authenticate ac cont =>
    cases hop
    exact callHandler_ends _ _
  | authorize ac =>
    cases hop
    exact callHandler_ends _ _
  | account ac =>
    cases hop
    exact callHandler_ends _ _

theorem chained_writePacket_ends {ρ : Type} {P : ρ → State σ → Prop} (e : Env) (hdr : Header)
    (body : Bytes) :
    Ends P (Server.Chained.writePacket x x.conn e hdr body) fun o r s es =>
      P r s ∧ o = .ok (e.writeErr.map .err) ∧
        es = [.deed (.wrote (frame x.md5 x.conn ⟨hdr, body⟩))] := by
  unfold Server.Chained.writePacket
  rw [Transport.conn_writePacket]
  intro r t ht
  exact ⟨_, rfl, ht, rfl, rfl⟩

/-- What a script of this shape does when the handler may panic, by induction on the shape. -/
theorem run_attempts (hconn : req.conn = x.conn) {hdr : Header} {n : Nat} {s : Handling Err}
    (h : Answers hdr n s) :
    Ends (fun r _ => r = r₀) (s.run (operation x panics req))
      fun o r _ es => r = r₀ ∧ ∃ ds, es = ds.map .deed ∧ Attempt x panics req.env hdr n o ds := by
  induction h with
  | write body =>
    have hwrite := chained_writePacket_ends (x := x) (P := fun r _ => r = r₀) req.env
      (errorHeader hdr) body
    rw [← hconn] at hwrite
    refine Ends.bind hwrite ?_ (fun v r s es h => by cases h.2.1)
    rintro err r s es ⟨hr, herr, rfl⟩
    cases herr
    refine Ends.pure ?_
    rintro _ _ ⟨rfl, rfl⟩
    rw [hconn]
    exact ⟨hr, [.wrote (replyBytes x hdr body)], rfl,
      .replied body (show ([] : List Call).length ≤ _ from Nat.zero_le _) (by simp)⟩
  | get _ ih =>
    refine Ends.bind (Q := fun o r _ es => r = r₀ ∧ es = [] ∧ ∃ a, o = .ok a)
      (Ends.access fun k r s hr => ⟨hr, rfl, _, rfl⟩) ?_ (fun v r s es h => by simp at h)
    rintro a r s es ⟨hr, rfl, -⟩
    exact (ih a).mono (fun _ _ h => h.1.trans hr) fun _ _ _ _ h => h
  | sessions _ ih =>
    refine Ends.bind (Q := fun o r _ es => r = r₀ ∧ es = [] ∧ ∃ a, o = .ok a)
      (Ends.access fun k r s hr => ⟨hr, rfl, _, rfl⟩) ?_ (fun v r s es h => by simp at h)
    rintro a r s es ⟨hr, rfl, -⟩
    exact (ih a).mono (fun _ _ h => h.1.trans hr) fun _ _ _ _ h => h
  | @call n op c next hop _ ih =>
    refine Ends.bind (operation_call_ends hop) ?_ ?_
    · rintro a r s es ⟨hr, rfl, hret⟩
      have hret : Returned panics c := by
        rcases hret with ⟨_, _, hret⟩ | ⟨_, _, h, _⟩
        · exact hret
        · simp at h
      refine (ih a).mono (fun _ _ h => h.1.trans hr) ?_
      rintro o r' s' es' ⟨hr', ds, rfl, hds⟩
      exact ⟨hr', .called c :: ds, rfl, hds.afterCall hret⟩
    · rintro v r s es ⟨hr, rfl, hv⟩
      obtain ⟨st, hst⟩ : ∃ st, panics c st = some v := by
        rcases hv with ⟨_, h, _⟩ | ⟨v', st, h, hst⟩
        · simp at h
        · exact ⟨st, (Except.error.inj h) ▸ hst⟩
      have hleft : ([] : List Call).length < n + 1 := Nat.succ_pos n
      exact ⟨hr, [.called c], rfl, .panicked hleft hst⟩

end Run

/-! ## Through the chain -/

/-- The response a request starts with. -/
def fresh (req : Request) : ConnResponse := { conn := req.conn, header := req.header }

/-- How the dispatch of a request comes out, before anything recovers. -/
inductive Tried (x : Setting σ) (panics : Call → σ → Option GoString) (req : Request) :
    Except GoString Unit → ConnResponse → List Deed → Prop where
  | replied {calls : List Call} (body : Bytes) :
      req.env.writeErr = none → calls.length ≤ 1 → (∀ c ∈ calls, Returned panics c) →
      Tried x panics req (.ok ()) (fresh req)
        (calls.map .called ++ [.wrote (replyBytes x req.header body)])
  | unsent {calls : List Call} {err : GoError} (body : Bytes) :
      req.env.writeErr = some err → calls.length ≤ 1 → (∀ c ∈ calls, Returned panics c) →
      Tried x panics req (.ok ()) { fresh req with terminated := true, err := some (.err err) }
        (calls.map .called ++ [.wrote (replyBytes x req.header body)])
  | panicked {c : Call} {st : σ} {v : GoString} :
      panics c st = some v → Tried x panics req (.error v) (fresh req) [.called c]

/-- What a request handler makes of a fresh response, seen through `view`. -/
def Handles {ω : Type} (view : Event → Option ω) (h : RequestHandler σ) (req : Request)
    (Q : Except GoString Unit → ConnResponse → List ω → Prop) : Prop :=
  Ends (fun r _ => r = fresh req) (h req) fun o r _ es => Q o r (es.filterMap view)

theorem handlerAdapter_tried {req : Request} (hconn : req.conn = x.conn) :
    Ends (fun r _ => r = fresh req) (handlerAdapter x panics req)
      fun o r _ es => ∃ ds, es = ds.map .deed ∧ Tried x panics req o r ds := by
  refine Ends.bind (run_attempts hconn (dispatch_answers _ _ ⟨req.header, req.body⟩)) ?_ ?_
  · rintro err r s es ⟨rfl, ds, rfl, hds⟩
    generalize ho : (Except.ok err : Except GoString Err) = o at hds
    cases hds with
    | panicked hn hv => cases ho
    | replied body hn hret =>
      cases ho
      cases hw : req.env.writeErr with
      | none =>
        refine Ends.pure ?_
        rintro _ _ ⟨rfl, rfl⟩
        rw [List.append_nil]
        exact ⟨_, rfl, .replied body hw hn hret⟩
      | some err =>
        refine Ends.modifyVar ?_
        rintro _ _ ⟨rfl, rfl⟩
        rw [List.append_nil]
        exact ⟨_, rfl, .unsent body hw hn hret⟩
  · rintro v r s es ⟨rfl, ds, rfl, hds⟩
    generalize ho : (Except.error v : Except GoString Err) = o at hds
    cases hds with
    | replied body hn hret => cases ho
    | @panicked pre c st v hn hv =>
      cases ho
      cases List.length_eq_zero_iff.mp (Nat.lt_one_iff.mp hn)
      exact ⟨_, rfl, .panicked hv⟩

/-- Onlookers add nothing to what is seen. -/
theorem Observes.handles {ω : Type} {view : Event → Option ω} {m : Middleware σ}
    (hm : Observes view m) {h : RequestHandler σ} {req : Request}
    {Q : Except GoString Unit → ConnResponse → List ω → Prop} (hh : Handles view h req Q) :
    Handles view (m h) req Q := by
  obtain ⟨b, hbefore, hafter, rfl⟩ := hm
  refine Ends.bind (hbefore req).ends ?_ (fun v r s es h => by simp at h)
  rintro _ r s es ⟨-, hr, hes⟩
  refine Ends.bind (hh.mono (fun _ _ h => h.1.trans hr) fun _ _ _ _ h => h) ?_ ?_
  · rintro _ r' s' es' hQ
    refine ((hafter req).ends (P := fun r s => r = r' ∧ s = s')).mono (fun _ _ h => h) ?_
    rintro o _ _ es'' ⟨⟨⟨⟩, rfl⟩, ⟨rfl, rfl⟩, hes''⟩
    rw [List.filterMap_append, List.filterMap_append, hes, hes'', List.append_nil]
    exact hQ
  · rintro v r' s' es' hQ
    rw [List.filterMap_append, hes]
    exact hQ

theorem chain_handles {ω : Type} {view : Event → Option ω} {mw : List (Middleware σ)}
    (hmw : ∀ m ∈ mw, Observes view m) {h : RequestHandler σ} {req : Request}
    {Q : Except GoString Unit → ConnResponse → List ω → Prop} (hh : Handles view h req Q) :
    Handles view (chain h mw) req Q := by
  induction mw with
  | nil => exact hh
  | cons m mw ih =>
    exact (hmw m List.mem_cons_self).handles (ih fun m hm => hmw m (List.mem_cons_of_mem _ hm))

/-- A panic is followed by a line in the log, a bare header, and the end of the connection. -/
theorem recoveryMiddleware_handles {ω : Type} {view : Event → Option ω} {h : RequestHandler σ}
    {req : Request} (hconn : req.conn = x.conn) (stack : Nat → GoString)
    {Q R : Except GoString Unit → ConnResponse → List ω → Prop} (hh : Handles view h req Q)
    (hok : ∀ r os, Q (.ok ()) r os → R (.ok ()) r os)
    (hpanic : ∀ v r os trace, Q (.error v) r os → r = fresh req ∧
      R (.ok ()) { fresh req with terminated := true, err := some (.err (handlerPanic v)) }
        (os ++ [Event.logged (panicRecoveredCall v trace),
          .deed (.wrote (replyBytes x req.header []))].filterMap view)) :
    Handles view (recoveryMiddleware x stack h) req R := by
  refine Ends.recovering hh (fun _ r s es hQ => hok r _ hQ) ?_
  intro v r s es hQ
  refine Ends.bind (Q := fun o r' s' es' => r' = r ∧ es' = [] ∧ ∃ trace, o = .ok trace)
    (Ends.ask fun n r' s' h => ⟨h.1, rfl, _, rfl⟩) ?_ (fun v r s es h => by simp at h)
  rintro trace r' s' _ ⟨rfl, rfl, -⟩
  obtain ⟨rfl, hR⟩ := hpanic v r' _ trace hQ
  refine Ends.bind (Q := fun o r' _ es' => r' = fresh req ∧
      es' = [.logged (panicRecoveredCall v trace)] ∧ o = .ok ())
    (Ends.emit fun r' s' h => ⟨h.1, rfl, rfl⟩) ?_ (fun v r s es h => by simp at h)
  rintro ⟨⟩ r' s' _ ⟨rfl, rfl, -⟩
  refine Ends.bind (Q := fun o r' _ es' => r' = fresh req ∧
      es' = [.deed (.wrote (replyBytes x req.header []))] ∧ ∃ err, o = .ok err) ?_ ?_
    (fun v r s es h => by simp at h)
  · unfold replyError
    refine Ends.bind (Q := fun o r' _ es' => o = .ok (fresh req) ∧ r' = fresh req ∧ es' = [])
      (Ends.getVar fun r' s' h => ⟨h.1 ▸ rfl, h.1, rfl⟩) ?_ (fun v r s es h => by simp at h)
    rintro a r' s' _ ⟨h, rfl, rfl⟩
    cases h
    have hwrite := chained_writePacket_ends (x := x) (P := fun r' _ => r' = fresh req) req.env
      (errorHeader req.header) []
    rw [← hconn] at hwrite
    refine hwrite.mono (fun _ _ h => h.1) ?_
    rintro o r' s' es' ⟨rfl, rfl, rfl⟩
    rw [hconn]
    exact ⟨rfl, rfl, _, rfl⟩
  · rintro _ r' s' _ ⟨rfl, rfl, -⟩
    refine Ends.modifyVar ?_
    rintro _ _ ⟨rfl, -⟩
    simpa only [List.filterMap_append, List.append_assoc, List.append_nil, List.nil_append,
      List.singleton_append] using hR

/-! ## A turn of the loop -/

/-- What became of a packet. -/
inductive Fate where
  | refused
  | answered
  | unsent (err : GoError)
  | panicked (v : GoString)

structure Turn extends Exchange where
  fate : Fate

/-- What the chain makes of an admitted packet, and the response it leaves. -/
inductive Deals (x : Setting σ) (panics : Call → σ → Option GoString) (e : Env) (p : Pkt) :
    Turn → ConnResponse → Prop where
  | answered {calls : List Call} {resp : ConnResponse} (body : Bytes) :
      e.writeErr = none → calls.length ≤ 1 → (∀ c ∈ calls, Returned panics c) →
      resp.terminated = false →
      Deals x panics e p ⟨⟨p, calls, replyBytes x p.hdr body⟩, .answered⟩ resp
  | unsent {calls : List Call} {resp : ConnResponse} {err : GoError} (body : Bytes) :
      e.writeErr = some err → calls.length ≤ 1 → (∀ c ∈ calls, Returned panics c) →
      resp.terminated = true → resp.err = some (.err err) →
      Deals x panics e p ⟨⟨p, calls, replyBytes x p.hdr body⟩, .unsent err⟩ resp
  | panicked {c : Call} {resp : ConnResponse} {st : σ} {v : GoString} :
      panics c st = some v → resp.terminated = true →
      resp.err = some (.err (handlerPanic v)) →
      Deals x panics e p ⟨⟨p, [c], replyBytes x p.hdr []⟩, .panicked v⟩ resp

/-- A packet that is turned away. -/
def turnedAway (x : Setting σ) (p : Pkt) : Turn := ⟨⟨p, [], replyBytes x p.hdr []⟩, .refused⟩

/-- The turns of a connection, from the `n`-th on, with the flags it has so far and the bytes to
    come, and what `ServeConn` returns. -/
inductive Course (x : Setting σ) (panics : Call → σ → Option GoString) (env : Nat → Env) :
    Nat → Option HeaderFlags → Bytes → List Turn → Err → Prop where
  | ended {n : Nat} {flags : Option HeaderFlags} {input : Bytes} {err : Err} :
      (Undisturbed env → ((reader x.md5 x.conn).readAll input).values = []) →
      Course x panics env n flags input [] err
  | refused {n : Nat} {flags : Option HeaderFlags} {input rest : Bytes} {p : Pkt} {err : Err} :
      x.conn.readPacket x.md5 input = (.ok p, rest) → ¬Admits x flags p →
      Course x panics env n flags input [turnedAway x p] err
  | stopped {n : Nat} {flags : Option HeaderFlags} {input rest : Bytes} {p : Pkt} {y : Turn}
      {resp : ConnResponse} :
      x.conn.readPacket x.md5 input = (.ok p, rest) → Admits x flags p →
      Deals x panics (env n) p y resp → resp.terminated = true →
      Course x panics env n flags input [y] resp.err
  | served {n : Nat} {flags : Option HeaderFlags} {input rest : Bytes} {p : Pkt} {y : Turn}
      {resp : ConnResponse} {ys : List Turn} {err : Err} :
      x.conn.readPacket x.md5 input = (.ok p, rest) → Admits x flags p →
      Deals x panics (env n) p y resp → resp.terminated = false →
      Course x panics env (n + 1) (some p.hdr.flags) rest ys err →
      Course x panics env n flags input (y :: ys) err

/-- The chain deals with every request as `Deals` says, and `told` is how that looks in what is
    seen through `view`. -/
def DealsWith {ω : Type} (x : Setting σ) (panics : Call → σ → Option GoString)
    (view : Event → Option ω) (told : Turn → List ω) (h : RequestHandler σ) : Prop :=
  ∀ req, req.conn = x.conn → Handles view h req fun o r os => o = .ok () ∧ ∃ y,
    Deals x panics req.env ⟨req.header, req.body⟩ y r ∧
      [Event.deed (.read ⟨req.header, req.body⟩)].filterMap view ++ os = told y

section Course

variable {ω : Type} {view : Event → Option ω} {told : Turn → List ω} {h : RequestHandler σ}

theorem chained_handle_ends (hh : DealsWith x panics view told h) (e : Env) (p : Pkt) :
    Ends (fun _ _ => True) (Server.Chained.handle x h e p) fun o _ _ es => ∃ resp y,
      o = .ok resp ∧ Deals x panics e p y resp ∧
        (Event.deed (.read p) :: es).filterMap view = told y := by
  have hreq := hh { header := p.hdr, body := p.body, conn := x.conn, remote := x.conn.remoteAddr,
                    env := e } rfl
  refine Ends.bind (Ends.withVar (hreq.mono (fun _ _ h => h.1) fun _ _ _ _ h => h)
    (R := fun o _ _ es => ∃ resp y, o = .ok ((), resp) ∧ Deals x panics e p y resp ∧
      (Event.deed (.read p) :: es).filterMap view = told y) ?_ ?_) ?_ ?_
  · rintro ⟨⟩ r' r s es ⟨-, y, hy, htold⟩
    refine ⟨r', y, rfl, hy, ?_⟩
    rw [← htold, ← List.filterMap_append]
    rfl
  · rintro v r' r s es ⟨h, -⟩
    cases h
  · rintro ⟨⟨⟩, r'⟩ r s es ⟨resp, y, h, hy, htold⟩
    cases h
    refine Ends.pure fun _ _ _ => ⟨r', y, rfl, hy, ?_⟩
    rw [List.append_nil]
    exact htold
  · rintro v r s es ⟨resp, y, h, -⟩
    cases h

theorem chained_servePacket_admitted (hh : DealsWith x panics view told h) (e : Env)
    {first : Bool} {connFlags : HeaderFlags} {p : Pkt}
    (hadm : Admits x (flagsSoFar first connFlags) p) :
    Ends (fun _ _ => True) (Server.Chained.servePacket x h e first connFlags p)
      fun o _ _ es => ∃ resp y,
        o = .ok (if resp.terminated then .ret resp.err else .again p.hdr.flags) ∧
        Deals x panics e p y resp ∧ (Event.deed (.read p) :: es).filterMap view = told y := by
  have hsame : ¬(first = false ∧ p.hdr.flags ≠ connFlags) := by
    rintro ⟨rfl, hne⟩
    exact hne (hadm.2 connFlags rfl)
  unfold Server.Chained.servePacket
  rw [hadm.1]
  dsimp only
  rw [if_neg hsame, connFlags_after hsame]
  refine Ends.bind (chained_handle_ends hh e p) ?_ ?_
  · rintro resp r s es ⟨_, y, h, hy, htold⟩
    cases h
    refine Ends.pure fun _ _ _ => ⟨resp, y, rfl, hy, ?_⟩
    rw [List.append_nil]
    exact htold
  · rintro v r s es ⟨resp, y, h, -⟩
    cases h

theorem chained_servePacket_refused (e : Env) {first : Bool} {connFlags : HeaderFlags} {p : Pkt}
    (hnot : ¬Admits x (flagsSoFar first connFlags) p) :
    Ends (fun _ _ => True) (Server.Chained.servePacket x h e first connFlags p)
      fun o _ _ es => (∃ err, o = .ok (.ret err)) ∧
        es = [.deed (.wrote (replyBytes x p.hdr []))] := by
  have hwrite := chained_writePacket_ends (x := x) (P := fun (_ : Unit) _ => True) e
    (errorHeader p.hdr) []
  unfold Server.Chained.servePacket
  cases hf : Tacacs.Server.checkFlags x.server x.conn p.hdr with
  | error err =>
    refine Ends.bind hwrite ?_ (fun v r s es h => by cases h.2.1)
    rintro perr r s es ⟨-, -, rfl⟩
    cases perr with
    | none => exact Ends.pure fun _ _ _ => ⟨⟨_, rfl⟩, rfl⟩
    | some perr => exact Ends.pure fun _ _ _ => ⟨⟨_, rfl⟩, rfl⟩
  | ok u =>
    have hdiff : first = false ∧ p.hdr.flags ≠ connFlags := by
      cases first with
      | true => exact absurd ⟨hf, fun _ hnone => by cases hnone⟩ hnot
      | false =>
        refine ⟨rfl, fun hsame => hnot ⟨hf, ?_⟩⟩
        rintro flags ⟨⟩
        exact hsame
    dsimp only
    rw [if_pos hdiff]
    refine Ends.bind (Q := fun o _ _ es => o = .ok () ∧ es = [])
      (Ends.access fun _ _ _ _ => ⟨rfl, rfl⟩) ?_ (fun v r s es h => by cases h.1)
    rintro ⟨⟩ r s es ⟨-, rfl⟩
    refine Ends.bind (hwrite.mono (fun _ _ _ => trivial) fun _ _ _ _ h => h) ?_
      (fun v r s es h => by cases h.2.1)
    rintro err r s es ⟨-, -, rfl⟩
    exact Ends.pure fun _ _ _ => ⟨⟨err, rfl⟩, rfl⟩

/-- The loop of `ServeConn`, by its own recursion. -/
theorem chained_course (htold : ∀ p, told (turnedAway x p) =
      [Event.deed (.read p), .deed (.wrote (replyBytes x p.hdr []))].filterMap view)
    (hh : DealsWith x panics view told h) (env : Nat → Env) (n : Nat) (first : Bool)
    (connFlags : HeaderFlags) (input : Bytes) :
    Ends (fun _ _ => True) (Server.Chained.serveConn x h env n first connFlags input)
      fun o _ _ es => ∃ ys err, o = .ok err ∧
        Course x panics env n (flagsSoFar first connFlags) input ys err ∧
        es.filterMap view = ys.flatMap told := by
  induction n, first, connFlags, input using Server.Routine.serveConn.induct x env with
  | case1 n first connFlags input err hctx =>
    rw [chained_cancelled hctx]
    refine Ends.pure fun _ _ _ => ⟨[], _, rfl, .ended fun hcalm => ?_, rfl⟩
    rw [(hcalm n).1] at hctx
    cases hctx
  | case2 n first connFlags input err hread hctx =>
    rw [chained_timeout hctx hread]
    refine Ends.pure fun _ _ _ => ⟨[], _, rfl, .ended fun hcalm => ?_, rfl⟩
    rw [(hcalm n).2] at hread
    cases hread
  | case3 n first connFlags input hread hctx f rest hp =>
    rw [chained_unread hctx hread hp]
    refine Ends.pure fun _ _ _ => ⟨[], _, rfl, .ended fun _ => ?_, rfl⟩
    rw [Frames.readAll_error (R := reader x.md5 x.conn) hp]
  | case4 n first connFlags input hread hctx p rest hp ih =>
    rw [chained_packet hctx hread hp]
    refine Ends.bind (Q := fun o _ _ es => o = .ok () ∧ es = [.deed (.read p)])
      (Ends.emit fun _ _ _ => ⟨rfl, rfl⟩) ?_ (fun v r s es h => by cases h.1)
    rintro ⟨⟩ r s es ⟨-, rfl⟩
    by_cases hadm : Admits x (flagsSoFar first connFlags) p
    · refine Ends.bind ((chained_servePacket_admitted hh (env n) hadm).mono (fun _ _ _ => trivial)
        fun _ _ _ _ h => h) ?_ (by rintro v r s es ⟨_, _, h, _⟩; cases h)
      rintro turned r' s' es' ⟨resp, y, h, hy, hseen⟩
      cases h
      cases hterm : resp.terminated with
      | true =>
        refine Ends.pure fun _ _ _ => ⟨[y], resp.err, rfl, .stopped hp hadm hy hterm, ?_⟩
        rw [List.append_nil, List.flatMap_singleton]
        exact hseen
      | false =>
        refine (ih p.hdr.flags).mono (fun _ _ _ => trivial) ?_
        rintro o r'' s'' es'' ⟨ys, err, rfl, hys, hlog⟩
        refine ⟨y :: ys, err, rfl, .served hp hadm hy hterm hys, ?_⟩
        rw [List.flatMap_cons, ← hseen, ← hlog, ← List.filterMap_append]
        rfl
    · refine Ends.bind ((chained_servePacket_refused (env n) hadm).mono (fun _ _ _ => trivial)
        fun _ _ _ _ h => h) ?_ (by rintro v r s es ⟨⟨_, h⟩, _⟩; cases h)
      rintro turned r' s' es' ⟨⟨err, h⟩, rfl⟩
      cases h
      refine Ends.pure fun _ _ _ => ⟨[turnedAway x p], err, rfl, .refused hp hadm, ?_⟩
      rw [List.append_nil, List.flatMap_singleton, htold]
      rfl

end Course

/-! ## What a course is like -/

section Turns

variable {env : Nat → Env} {n : Nat} {flags : Option HeaderFlags} {input : Bytes}
  {ys : List Turn} {err : Err}

section Deals

variable {e : Env} {p : Pkt} {y : Turn} {resp : ConnResponse}

theorem Deals.read_eq (h : Deals x panics e p y resp) : y.read = p := by
  cases h <;> rfl

theorem Deals.echoes (h : Deals x panics e p y resp) : Echoes x.conn y.read y.wrote := by
  cases h with
  | answered body _ _ _ _ => exact echoes_replyBytes x p body
  | unsent body _ _ _ _ _ => exact echoes_replyBytes x p body
  | panicked _ _ _ => exact echoes_replyBytes x p []

theorem Deals.once (h : Deals x panics e p y resp) : y.calls.length ≤ 1 := by
  cases h with
  | answered body _ hn _ _ => exact hn
  | unsent body _ hn _ _ _ => exact hn
  | panicked _ _ _ => exact Nat.le_refl 1

theorem Deals.answered_iff (h : Deals x panics e p y resp) :
    y.fate = .answered ↔ resp.terminated = false := by
  cases h with
  | answered body _ _ _ hterm => simp [hterm]
  | unsent body _ _ _ hterm _ => simp [hterm]
  | panicked _ hterm _ => simp [hterm]

theorem Deals.fate_ne_refused (h : Deals x panics e p y resp) : y.fate ≠ .refused := by
  cases h <;> exact fun hne => by cases hne

theorem Deals.returned (h : Deals x panics e p y resp) (hfate : y.fate = .answered) :
    ∀ c ∈ y.calls, Returned panics c := by
  cases h with
  | answered body _ _ hret _ => exact hret
  | unsent body _ _ _ _ _ => cases hfate
  | panicked _ _ _ => cases hfate

theorem Deals.afterPanic (h : Deals x panics e p y resp) {v : GoString}
    (hfate : y.fate = .panicked v) :
    (∃ c st, y.calls = [c] ∧ panics c st = some v) ∧ y.wrote.length = headerLength ∧
      resp.err = some (.err (handlerPanic v)) := by
  cases h with
  | answered body _ _ _ _ => cases hfate
  | unsent body _ _ _ _ _ => cases hfate
  | panicked hst _ herr =>
    cases hfate
    exact ⟨⟨_, _, rfl, hst⟩, length_replyBytes_nil x _, herr⟩

theorem Deals.afterFailure (h : Deals x panics e p y resp) {f : GoError}
    (hfate : y.fate = .unsent f) : e.writeErr = some f ∧ resp.err = some (.err f) := by
  cases h with
  | answered body _ _ _ _ => cases hfate
  | unsent body hw _ _ _ herr =>
    cases hfate
    exact ⟨hw, herr⟩
  | panicked _ _ _ => cases hfate

end Deals

/-- Every turn is a packet that was turned away, or one that was dealt with; and if that is not
    an answer, its response is what `ServeConn` returns. -/
theorem Course.turn (h : Course x panics env n flags input ys err) :
    ∀ y ∈ ys, (∃ p, y = turnedAway x p) ∨ ∃ k p resp, Deals x panics (env k) p y resp ∧
      (y.fate ≠ .answered → resp.err = err) := by
  induction h with
  | ended _ => exact fun y hy => by cases hy
  | refused _ _ =>
    intro y hy
    exact .inl ⟨_, List.mem_singleton.mp hy⟩
  | stopped _ _ hy _ =>
    intro y hmem
    rw [List.mem_singleton.mp hmem]
    exact .inr ⟨_, _, _, hy, fun _ => rfl⟩
  | served _ _ hy hterm _ ih =>
    exact List.forall_mem_cons.mpr
      ⟨.inr ⟨_, _, _, hy, fun hne => absurd (hy.answered_iff.mpr hterm) hne⟩, ih⟩

theorem Course.order (h : Course x panics env n flags input ys err) :
    ys.map (·.read) <+: ((reader x.md5 x.conn).readAll input).values := by
  induction h with
  | ended _ => exact List.nil_prefix
  | refused hread _ =>
    rw [Frames.readAll_ok (R := reader x.md5 x.conn) hread]
    exact (List.prefix_cons_inj _).mpr List.nil_prefix
  | stopped hread _ hy _ =>
    rw [Frames.readAll_ok (R := reader x.md5 x.conn) hread, List.map_singleton, hy.read_eq]
    exact (List.prefix_cons_inj _).mpr List.nil_prefix
  | served hread _ hy _ _ ih =>
    rw [Frames.readAll_ok (R := reader x.md5 x.conn) hread, List.map_cons, hy.read_eq]
    exact (List.prefix_cons_inj _).mpr ih

/-- The loop goes on only after an answer. -/
theorem Course.last (h : Course x panics env n flags input ys err) {pre post : List Turn}
    {y : Turn} (hys : ys = pre ++ y :: post) (hne : y.fate ≠ .answered) : post = [] := by
  induction h generalizing pre with
  | ended _ => exact absurd hys.symm (List.append_ne_nil_of_right_ne_nil pre (List.cons_ne_nil _ _))
  | refused _ _ | stopped _ _ _ _ =>
    cases pre with
    | nil =>
      cases hys
      rfl
    | cons z pre =>
      injection hys with _ hnil
      exact absurd hnil.symm (List.append_ne_nil_of_right_ne_nil pre (List.cons_ne_nil _ _))
  | served _ _ hy hterm _ ih =>
    cases pre with
    | nil =>
      cases hys
      exact absurd (hy.answered_iff.mpr hterm) hne
    | cons z pre =>
      injection hys with _ hrest
      exact ih hrest

/-- A packet is turned away exactly if the flags so far do not admit it. -/
theorem Course.refused_iff {fl : HeaderFlags} (h : Course x panics env n flags input ys err)
    (hflags : flags = some fl) :
    ∀ y ∈ ys, y.fate = .refused ↔ ¬Admits x (some fl) y.read := by
  induction h with
  | ended _ => exact fun y hy => by cases hy
  | refused _ hnot =>
    intro y hy
    rw [List.mem_singleton.mp hy]
    exact iff_of_true rfl (hflags ▸ hnot)
  | stopped _ hadm hdeal _ =>
    intro y hy
    rw [List.mem_singleton.mp hy, hdeal.read_eq]
    exact iff_of_false hdeal.fate_ne_refused (not_not_intro (hflags ▸ hadm))
  | served _ hadm hdeal _ _ ih =>
    refine List.forall_mem_cons.mpr ⟨?_, ih (congrArg some (hadm.2 fl hflags))⟩
    rw [hdeal.read_eq]
    exact iff_of_false hdeal.fate_ne_refused (not_not_intro (hflags ▸ hadm))

/-- The flags of the connection are those of its first packet. -/
theorem Course.fromFirst {first : Turn} (h : Course x panics env n none input ys err)
    (hfirst : ys.head? = some first) :
    Course x panics env n (some first.read.hdr.flags) input ys err := by
  cases h with
  | ended _ => cases hfirst
  | refused hread hnot =>
    cases hfirst
    exact .refused hread fun hadm => hnot ⟨hadm.1, fun _ hnone => by cases hnone⟩
  | stopped hread hadm hdeal hterm =>
    cases hfirst
    refine .stopped hread ⟨hadm.1, ?_⟩ hdeal hterm
    rintro _ ⟨⟩
    rw [hdeal.read_eq]
  | served hread hadm hdeal hterm hrest =>
    cases hfirst
    refine .served hread ⟨hadm.1, ?_⟩ hdeal hterm hrest
    rintro _ ⟨⟩
    rw [hdeal.read_eq]

theorem Course.complete (h : Course x panics env n flags input ys err)
    (hcalm : Undisturbed env) (hall : ∀ y ∈ ys, y.fate = .answered) :
    ys.map (·.read) = ((reader x.md5 x.conn).readAll input).values := by
  induction h with
  | ended hend => exact (hend hcalm).symm
  | refused _ _ => cases hall _ (List.mem_singleton_self _)
  | stopped _ _ hdeal hterm =>
    have hfalse := hdeal.answered_iff.mp (hall _ (List.mem_singleton_self _))
    rw [hterm] at hfalse
    cases hfalse
  | served hread _ hdeal _ _ ih =>
    rw [Frames.readAll_ok (R := reader x.md5 x.conn) hread, List.map_cons, hdeal.read_eq,
      ih fun y hy => hall y (List.mem_cons_of_mem _ hy)]

end Turns

/-! ## The property -/

/-- A connection, as the turns it consists of. -/
structure Survived (x : Setting σ) (panics : Call → σ → Option GoString) (env : Nat → Env)
    (input : Bytes) (ys : List Turn) (err : Err) : Prop where
  /-- The packets are those of the stream, in order. -/
  order : ys.map (·.read) <+: ((reader x.md5 x.conn).readAll input).values
  /-- Each gets one reply, and makes at most one call. -/
  echo : ∀ y ∈ ys, Echoes x.conn y.read y.wrote
  once : ∀ y ∈ ys, y.calls.length ≤ 1
  /-- Whatever is not an answer is the end. -/
  last : ∀ pre y post, ys = pre ++ y :: post → y.fate ≠ .answered → post = []
  answered : ∀ y ∈ ys, y.fate = .answered → ∀ c ∈ y.calls, Returned panics c
  /-- After a panic there is a bare header, and `ServeConn` returns an error that names it. -/
  panicked : ∀ y ∈ ys, ∀ v, y.fate = .panicked v →
    (∃ c st, y.calls = [c] ∧ panics c st = some v) ∧ y.wrote.length = headerLength ∧
      err = some (.err (handlerPanic v))
  unsent : ∀ y ∈ ys, ∀ f, y.fate = .unsent f →
    (∃ n, (env n).writeErr = some f) ∧ err = some (.err f)
  /-- An offending packet gets a bare header and is not dispatched. -/
  refused : ∀ first, ys.head? = some first → ∀ y ∈ ys,
    (y.fate = .refused ↔ Offends x.server x.conn first.read y.read) ∧
      (y.fate = .refused → y.calls = [] ∧ y.wrote.length = headerLength)
  complete : Undisturbed env → (∀ y ∈ ys, y.fate = .answered) →
    ys.map (·.read) = ((reader x.md5 x.conn).readAll input).values

theorem Course.survived {env : Nat → Env} {input : Bytes} {ys : List Turn} {err : Err}
    (h : Course x panics env 0 none input ys err) : Survived x panics env input ys err where
  order := h.order
  echo := by
    intro y hy
    rcases h.turn y hy with ⟨p, rfl⟩ | ⟨k, p, resp, hdeal, -⟩
    · exact echoes_replyBytes x p []
    · exact hdeal.echoes
  once := by
    intro y hy
    rcases h.turn y hy with ⟨p, rfl⟩ | ⟨k, p, resp, hdeal, -⟩
    · exact Nat.zero_le 1
    · exact hdeal.once
  last := fun pre y post hys hne => h.last hys hne
  answered := by
    intro y hy hfate
    rcases h.turn y hy with ⟨p, rfl⟩ | ⟨k, p, resp, hdeal, -⟩
    · cases hfate
    · exact hdeal.returned hfate
  panicked := by
    intro y hy v hfate
    rcases h.turn y hy with ⟨p, rfl⟩ | ⟨k, p, resp, hdeal, herr⟩
    · cases hfate
    · rw [← herr (by rw [hfate]; exact fun hne => by cases hne)]
      exact hdeal.afterPanic hfate
  unsent := by
    intro y hy f hfate
    rcases h.turn y hy with ⟨p, rfl⟩ | ⟨k, p, resp, hdeal, herr⟩
    · cases hfate
    · rw [← herr (by rw [hfate]; exact fun hne => by cases hne)]
      exact ⟨⟨k, (hdeal.afterFailure hfate).1⟩, (hdeal.afterFailure hfate).2⟩
  refused := by
    intro first hfirst y hy
    have hiff := (h.fromFirst hfirst).refused_iff rfl y hy
    refine ⟨hiff.trans (offends_iff x _ _).symm, fun hfate => ?_⟩
    rcases h.turn y hy with ⟨p, rfl⟩ | ⟨k, p, resp, hdeal, -⟩
    · exact ⟨rfl, length_replyBytes_nil x _⟩
    · exact absurd hfate hdeal.fate_ne_refused
  complete := h.complete

/-- A chain that recovers, with onlookers inside. -/
theorem recovering_dealsWith (stack : Nat → GoString) {mw : List (Middleware σ)}
    (hmw : ∀ m ∈ mw, Observes deed? m) :
    DealsWith x panics deed? (fun y => y.toExchange.deeds)
      (recoveryMiddleware x stack (chain (handlerAdapter x panics) mw)) := by
  intro req hconn
  have hadapter : Handles deed? (handlerAdapter x panics) req (Tried x panics req) := by
    refine (handlerAdapter_tried hconn).mono (fun _ _ h => h) ?_
    rintro o r s es ⟨ds, rfl, hds⟩
    have hseen : (ds.map Event.deed).filterMap deed? = ds := by
      rw [List.filterMap_map]
      exact List.filterMap_some
    rwa [hseen]
  refine recoveryMiddleware_handles hconn stack (chain_handles hmw hadapter) ?_ ?_
  · intro r os htried
    generalize ho : (Except.ok () : Except GoString Unit) = o at htried
    cases htried with
    | replied body hw hn hret => exact ⟨rfl, _, .answered body hw hn hret rfl, rfl⟩
    | unsent body hw hn hret => exact ⟨rfl, _, .unsent body hw hn hret rfl rfl, rfl⟩
    | panicked hv => cases ho
  · intro v r os trace htried
    generalize ho : (Except.error v : Except GoString Unit) = o at htried
    cases htried with
    | replied body hw hn hret => cases ho
    | unsent body hw hn hret => cases ho
    | panicked hv =>
      cases ho
      exact ⟨rfl, rfl, _, .panicked hv rfl rfl, rfl⟩

/-- **A panic in a handler costs one connection and no reply.** Put `RecoveryMiddleware` into the
    chain, with any onlookers (logging, metrics, recorders) outside and inside of it. Whatever
    the handler does, panics included, and whatever other goroutines, the environment and the
    peer do: `ServeConn` returns; every packet it read was answered by one packet with the echo
    of its header, after at most one call of the handler. A packet whose call panicked gets a
    bare header, is the last one, and the error that `ServeConn` returns says what the panic
    said. -/
theorem recovery_survives_panics (x : Setting σ) (panics : Call → σ → Option GoString)
    (stack : Nat → GoString) (outer inner : List (Middleware σ))
    (houter : ∀ m ∈ outer, Observes deed? m) (hinner : ∀ m ∈ inner, Observes deed? m)
    (env : Nat → Env) (st : State σ) (input : Bytes) :
    let h := chain (handlerAdapter x panics) (outer ++ recoveryMiddleware x stack :: inner)
    let run := exec (Server.Chained.serveConn x h env 0 true 0 input) () { shared := st }
    ∃ ys err, run.1.1 = .ok err ∧ Survived x panics env input ys err ∧
      run.2.log.filterMap deed? = ys.flatMap fun y => y.toExchange.deeds := by
  intro h run
  have hh : DealsWith x panics deed? (fun y => y.toExchange.deeds) h := by
    intro req hconn
    have hinside : DealsWith x panics deed? (fun y => y.toExchange.deeds)
        (recoveryMiddleware x stack (chain (handlerAdapter x panics) inner)) :=
      recovering_dealsWith stack hinner
    have hchain := chain_handles houter (hinside req hconn)
    simpa only [h, chain, List.foldr_append, List.foldr_cons] using hchain
  obtain ⟨es, hlog, ys, err, hok, hcourse, hseen⟩ :=
    chained_course (fun _ => rfl) hh env 0 true 0 input () { shared := st } trivial
  refine ⟨ys, err, hok, Course.survived hcourse, ?_⟩
  rw [← hseen]
  exact congrArg (List.filterMap deed?) hlog

/-- A login on a TLS connection, with a handler that panics. -/
theorem recovery_survives_panics_login :
    let x : Setting Unit :=
      { server := Tacacs.Server.new { handler := askAgain, mode := .tls }, md5 := default,
        conn := tlsConn, others := Traced.alone }
    let env : Nat → Env := fun n => { t := ⟨n, n⟩ }
    let panics : Call → Unit → Option GoString := fun _ _ => some (lit "boom")
    let h := chain (handlerAdapter x panics)
      ([] ++ recoveryMiddleware x (fun _ => []) :: [loggingMiddleware fun _ => 0])
    let run := exec (Server.Chained.serveConn x h env 0 true 0 clearLogin) ()
      { shared := { sessions := Tacacs.Server.newSessionManager 0, handler := () } }
    ∃ ys err, run.1.1 = .ok err ∧ Survived x panics env clearLogin ys err ∧ ys ≠ [] := by
  intro x env panics h run
  obtain ⟨ys, err, hok, hys, -⟩ := recovery_survives_panics x panics (fun _ => []) []
    [loggingMiddleware fun _ => 0] (by simp)
    (by simpa using loggingMiddleware_observes (fun _ _ => rfl) _) env _ clearLogin
  refine ⟨ys, err, hok, hys, ?_⟩
  rintro rfl
  have hread : (reader x.md5 x.conn).read clearLogin =
      (.ok (clearPkt 9 1 (asciiLogin "erin")), []) := rfl
  have hall := hys.complete (fun _ => ⟨rfl, rfl⟩) (by simp)
  rw [Frames.readAll_ok hread] at hall
  cases hall

/-! ## The counters of the command-line server -/

/-- All but the debug lines of the log, and of an error line all but the stack trace. -/
def counted? : Event → Option Event
  | .logged c =>
      if c.level = .debug then none
      else some (.logged { c with args := c.args.filter (·.1 ≠ "stack") })
  | e => some e

/-- What there is to be seen of a turn of the command-line server: a packet that is dispatched is
    counted as received, and one whose reply cannot be written as a handler error. -/
def Turn.counted (y : Turn) : List Event :=
  let received := Event.packetReceived y.read.hdr.type
  let called := y.calls.map fun c => Event.deed (.called c)
  let wrote := Event.deed (.wrote y.wrote)
  .deed (.read y.read) ::
    match y.fate with
    | .refused => [wrote]
    | .answered => received :: (called ++ [wrote])
    | .unsent _ => received :: (called ++ [wrote, .packetInvalid "handler_error"])
    | .panicked v => received :: (called ++ [.logged
        { level := .error, msg := "tacacs: handler panic recovered",
          args := [("func", .text (lit "server.Middleware.Recovery")),
            ("err", .text v)] }, wrote])

/-- What there is to be seen of a request inside of `RecoveryMiddleware`: the last line of
    `MetricsMiddleware` is not reached in a panic. -/
inductive Counted (x : Setting σ) (panics : Call → σ → Option GoString) (req : Request) :
    Except GoString Unit → ConnResponse → List Event → Prop where
  | mk {o : Except GoString Unit} {r : ConnResponse} {ds : List Deed} :
      Tried x panics req o r ds →
      Counted x panics req o r (.packetReceived req.header.type :: (ds.map .deed ++
        if r.terminated then [.packetInvalid "handler_error"] else []))

theorem metricsMiddleware_counts {req : Request} (hconn : req.conn = x.conn) :
    Ends (fun r _ => r = fresh req) (metricsMiddleware (handlerAdapter x panics) req)
      fun o r _ es => Counted x panics req o r es := by
  refine Ends.bind (Q := fun o r _ es => o = .ok () ∧ r = fresh req ∧
      es = [.packetReceived req.header.type])
    (Ends.emit fun r s hr => ⟨rfl, hr, rfl⟩) ?_ (fun v r s es h => by cases h.1)
  rintro ⟨⟩ r s es ⟨-, rfl, rfl⟩
  refine Ends.bind ((handlerAdapter_tried hconn).mono (fun _ _ h => h.1)
    fun _ _ _ _ h => h) ?_ ?_
  · rintro ⟨⟩ r' s' es' ⟨ds, rfl, hds⟩
    refine Ends.bind (Q := fun o r'' _ es'' => o = .ok r' ∧ r'' = r' ∧ es'' = [])
      (Ends.getVar fun r'' s'' h => ⟨h.1 ▸ rfl, h.1, rfl⟩) ?_ (fun v r s es h => by cases h.1)
    rintro _ _ s'' es'' ⟨h, rfl, rfl⟩
    cases h
    have hcounted := Counted.mk hds
    split
    · next hterm =>
      rw [if_pos hterm] at hcounted
      exact Ends.emit fun _ _ h => h.1 ▸ hcounted
    · next hterm =>
      rw [if_neg hterm] at hcounted
      exact Ends.pure fun _ _ h => h.1 ▸ hcounted
  · rintro v r' s' es' ⟨ds, rfl, hds⟩
    have hcounted := Counted.mk hds
    cases hds with
    | panicked hv => exact hcounted

/-- Nothing of it is a line of the log. -/
theorem Counted.seen {req : Request} {o : Except GoString Unit} {r : ConnResponse}
    {es : List Event} (h : Counted x panics req o r es) : es.filterMap counted? = es := by
  obtain ⟨hds⟩ := h
  have hdeeds : ∀ ds, (List.map Event.deed ds).filterMap counted? = ds.map .deed := by
    intro ds
    rw [List.filterMap_map]
    exact congrFun (List.filterMap_eq_map (f := Event.deed)) ds
  cases r.terminated <;> simp [counted?, hdeeds]

theorem cliMiddleware_dealsWith (stack : Nat → GoString) (since : Nat → Int) :
    DealsWith x panics counted? Turn.counted
      (chain (handlerAdapter x panics) (cliMiddleware x stack since)) := by
  intro req hconn
  have hmetrics : Handles counted? (metricsMiddleware (handlerAdapter x panics)) req
      (Counted x panics req) :=
    (metricsMiddleware_counts hconn).mono (fun _ _ h => h) fun _ _ _ _ h => h.seen.symm ▸ h
  refine recoveryMiddleware_handles hconn stack
    ((loggingMiddleware_observes (fun c hc => if_pos hc) since).handles hmetrics) ?_ ?_
  · rintro r os ⟨htried⟩
    generalize ho : (Except.ok () : Except GoString Unit) = o at htried
    cases htried with
    | replied body hw hn hret =>
      refine ⟨rfl, _, .answered body hw hn hret rfl, ?_⟩
      simp [Turn.counted, counted?, fresh]
    | unsent body hw hn hret =>
      refine ⟨rfl, _, .unsent body hw hn hret rfl rfl, ?_⟩
      simp [Turn.counted, counted?]
    | panicked hv => cases ho
  · rintro v r os trace ⟨htried⟩
    generalize ho : (Except.error v : Except GoString Unit) = o at htried
    cases htried with
    | replied body hw hn hret => cases ho
    | unsent body hw hn hret => cases ho
    | panicked hv =>
      cases ho
      refine ⟨rfl, rfl, _, .panicked hv rfl rfl, ?_⟩
      simp [Turn.counted, counted?, fresh, panicRecoveredCall]

/-- **What the command-line server counts.** With its chain of recovery, logging and metrics,
    whatever the handler, the other goroutines, the environment and the peer do, `ServeConn`
    returns, and what there is to be seen of the connection is told by its turns: each packet
    that is dispatched is counted once as received, under its type, and one that is turned away
    is not. A handler error is counted exactly for a reply that could not be written, so at most
    once, at the end. A panic is not counted as one: it leaves a line in the log instead. -/
theorem cli_server_counts (x : Setting σ) (panics : Call → σ → Option GoString)
    (stack : Nat → GoString) (since : Nat → Int) (env : Nat → Env) (st : State σ)
    (input : Bytes) :
    let h := chain (handlerAdapter x panics) (cliMiddleware x stack since)
    let run := exec (Server.Chained.serveConn x h env 0 true 0 input) () { shared := st }
    ∃ ys err, run.1.1 = .ok err ∧ Survived x panics env input ys err ∧
      run.2.log.filterMap counted? = ys.flatMap Turn.counted := by
  intro h run
  obtain ⟨es, hlog, ys, err, hok, hcourse, hseen⟩ :=
    chained_course (fun _ => rfl) (cliMiddleware_dealsWith stack since)
      env 0 true 0 input () { shared := st } trivial
  refine ⟨ys, err, hok, Course.survived hcourse, ?_⟩
  rw [← hseen]
  exact congrArg (List.filterMap counted?) hlog

end Server
end Proof
end Tacacs
