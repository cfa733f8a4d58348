import Tacacs.Proof.Server.ServeConn

/-!
# A goroutine left alone

The functions of `Server/Server.lean` and `Server/Serve.lean` compute the reply to a packet and
the turns of the loop as values; the programs of `Server/ServeConn.lean` do the same one effect
at a time. If no other goroutine comes to the shared state in between, the two agree: on the
handling of a packet (`dispatch_agrees`), on a turn (`servePacket_agrees`), and on a whole
connection (`serveConn_agrees`).

This is where it matters that every path writes once: a function with one reply as its result
could not agree with a path that writes twice, or not at all.
-/

set_option autoImplicit false

namespace Tacacs
namespace Proof
namespace Server

open GoSem Traced Tacacs.Packet Tacacs.Transport Tacacs.Server.Routine
open Tacacs.Server (State Env Call Handled Loop Act Sight World SessionManager SessionContext)
open Tacacs.Proof.Transport (frame)

variable {σ : Type} {x : Setting σ} {e : Env}

/-! ## One packet -/

/-- The program does what the function computes: the state it leaves, the calls, the reply. -/
def Agrees (x : Setting σ) (e : Env) (st : State σ) (h : Handled σ) (m : Prog σ Err) : Prop :=
  Spec (fun s => s = st) m fun err st' es => err = e.writeErr.map .err ∧ st' = h.st ∧
    es = h.calls.map Deed.called ++ [.wrote (frame x.md5 x.conn h.reply)]

/-! The loop of the programs and the loop of `Server/Serve.lean`. -/

/-- The variables of the loop, as the state of the other one. -/
def loopOf (first : Bool) (connFlags : HeaderFlags) : Loop :=
  if first then .first else .later connFlags

/-- The error a loop returned with; a panic has none. -/
def errOf : Err → Option GoError
  | some (.err err) => some err
  | _ => none

def turnedLoop : Turned → Loop
  | .ret err => .returned (errOf err)
  | .again connFlags => .later connFlags

/-- What is seen of a turn, as deeds. -/
def sightDeeds (x : Setting σ) (o : Sight Unit) : List Deed :=
  o.read.toList.map .read ++ (o.calls.map .called ++
    o.written.toList.map fun q => .wrote (frame x.md5 x.conn q))

/-- The turns of the loop, from the `n`-th. -/
def turns (env : Nat → Env) (n k : Nat) : List (Act Unit) :=
  (List.range' n k).map fun i => .serve () (env i)

theorem errOf_writeErr (e : Env) : errOf (e.writeErr.map .err) = e.writeErr := by
  cases e.writeErr <;> rfl

section Alone

variable (hx : x.others = alone) {st : State σ} {h : Handled σ}

theorem agrees_write (x : Setting σ) (e : Env) (st : State σ) (hdr : Header) (body : Bytes) :
    Agrees x e st { st, reply := ⟨hdr, body⟩ } (writePacket x e hdr body) := by
  refine (writePacket_spec x e (fun s => s = st) hdr body).mono (fun _ hs => hs) ?_
  rintro err s es ⟨rfl, rfl, rfl⟩
  exact ⟨rfl, rfl, rfl⟩

include hx

theorem Agrees.onSessions {f : SessionManager → SessionManager} {m : Prog σ Err}
    (hm : Agrees x e { st with sessions := f st.sessions } h m) :
    Agrees x e st h (onSessions x f >>= fun _ => m) := by
  refine Spec.bind (Spec.access (Q := fun _ s es =>
    s = { st with sessions := f st.sessions } ∧ es = []) ?_) ?_
  · rintro k s rfl
    rw [hx]
    exact ⟨rfl, rfl⟩
  · rintro ⟨⟩ s es ⟨rfl, rfl⟩
    exact hm

theorem Agrees.sessionsGet {id : UInt32} {f : Option SessionContext → Prog σ Err}
    (hm : Agrees x e st h (f (st.sessions.get id))) :
    Agrees x e st h (sessionsGet x id >>= f) := by
  refine Spec.bind (Spec.access (Q := fun a s es =>
    a = st.sessions.get id ∧ s = st ∧ es = []) ?_) ?_
  · rintro k s rfl
    rw [hx]
    exact ⟨rfl, rfl, rfl⟩
  · rintro a s es ⟨rfl, rfl, rfl⟩
    exact hm

theorem Agrees.callHandler {α : Type} {call : Call} {g : σ → α × σ} {f : α → Prog σ Err}
    {st' : State σ} {reply : Pkt}
    (hm : Agrees x e { st with handler := (g st.handler).2 } { st := st', reply }
      (f (g st.handler).1)) :
    Agrees x e st { st := st', calls := [call], reply } (callHandler x call g >>= f) := by
  refine Spec.bind (Spec.bind (Spec.emit (Q := fun _ s es => s = st ∧ es = [Deed.called call])
    fun _ hs => ⟨hs, rfl⟩) ?_) (Q := fun a s es => a = (g st.handler).1 ∧
      s = { st with handler := (g st.handler).2 } ∧ es = [Deed.called call]) ?_
  · rintro ⟨⟩ s es ⟨rfl, rfl⟩
    refine Spec.access ?_
    rintro k s rfl
    rw [hx]
    exact ⟨rfl, rfl, rfl⟩
  · rintro a s es ⟨rfl, rfl, rfl⟩
    refine hm.mono (fun _ hs => hs) ?_
    rintro err s' es' ⟨herr, hs', rfl⟩
    exact ⟨herr, hs', rfl⟩

omit hx in
theorem encodeReply_agrees (x : Setting σ) (e : Env) (st : State σ) (hdr : Header)
    (body : Go GoError Bytes) :
    Agrees x e st { st, reply := Tacacs.Server.encodeReply hdr body }
      (encodeReply x e hdr body) := by
  cases body with
  | error f => exact agrees_write x e st _ _
  | ok rb => exact agrees_write x e st _ _

theorem answerAuthen_agrees (st : State σ) (hdr : Header) (start : AuthenStart)
    (cont : Option AuthenContinue) :
    Agrees x e st (Tacacs.Server.answerAuthen x.server x.conn e.t st hdr start cont)
      (answerAuthen x e hdr start cont) := by
  unfold Tacacs.Server.answerAuthen Tacacs.Server.Routine.answerAuthen
  dsimp only
  split
  · next err heq =>
    refine Agrees.callHandler hx ?_
    rw [heq]
    exact Agrees.onSessions hx (agrees_write x e _ _ _)
  · next dec heq =>
    refine Agrees.callHandler hx ?_
    rw [heq]
    dsimp only
    split
    · exact Agrees.onSessions hx (Agrees.onSessions hx (encodeReply_agrees x e _ _ _))
    · exact Agrees.onSessions hx (Agrees.onSessions hx (encodeReply_agrees x e _ _ _))

theorem handleAuthen_agrees (st : State σ) (hdr : Header) (body : Bytes) :
    Agrees x e st (Tacacs.Server.handleAuthen x.server x.conn e.t st hdr body)
      (handleAuthen x e hdr body) := by
  unfold Tacacs.Server.handleAuthen Tacacs.Server.Routine.handleAuthen
  split
  · cases AuthenStart.unmarshalBinary body with
    | error f => exact agrees_write x e st _ _
    | ok start => exact Agrees.onSessions hx (answerAuthen_agrees hx _ hdr start none)
  · refine Agrees.sessionsGet hx ?_
    cases st.sessions.get hdr.sessionID with
    | none => exact agrees_write x e st _ _
    | some sctx =>
      dsimp only
      cases Tacacs.Server.validateNextSeqNo hdr.seqNo sctx.lastOutboundSeq with
      | error err => exact Agrees.onSessions hx (Agrees.onSessions hx (agrees_write x e _ _ _))
      | ok u =>
        dsimp only
        cases AuthenContinue.unmarshalBinary body with
        | error f => exact agrees_write x e st _ _
        | ok cont => exact answerAuthen_agrees hx st hdr sctx.start (some cont)

theorem handleAuthor_agrees (st : State σ) (hdr : Header) (body : Bytes) :
    Agrees x e st (Tacacs.Server.handleAuthor x.server x.conn st hdr body)
      (handleAuthor x e hdr body) := by
  unfold Tacacs.Server.handleAuthor Tacacs.Server.Routine.handleAuthor
  cases AuthorRequest.unmarshalBinary body with
  | error f => exact agrees_write x e st _ _
  | ok req =>
    dsimp only
    cases Tacacs.Server.parseArguments req.args with
    | error err => exact agrees_write x e st _ _
    | ok args =>
      dsimp only
      split
      · next err heq =>
        refine Agrees.callHandler hx ?_
        rw [heq]
        exact agrees_write x e _ _ _
      · next dec heq =>
        refine Agrees.callHandler hx ?_
        rw [heq]
        exact Agrees.onSessions hx (encodeReply_agrees x e _ _ _)

theorem handleAcct_agrees (st : State σ) (hdr : Header) (body : Bytes) :
    Agrees x e st (Tacacs.Server.handleAcct x.server x.conn st hdr body)
      (handleAcct x e hdr body) := by
  unfold Tacacs.Server.handleAcct Tacacs.Server.Routine.handleAcct
  cases AcctRequest.unmarshalBinary body with
  | error f => exact agrees_write x e st _ _
  | ok req =>
    dsimp only
    split
    · exact agrees_write x e st _ _
    · cases Tacacs.Server.parseArguments req.args with
      | error err => exact agrees_write x e st _ _
      | ok args =>
        dsimp only
        split
        · next err heq =>
          refine Agrees.callHandler hx ?_
          rw [heq]
          exact agrees_write x e _ _ _
        · next dec heq =>
          refine Agrees.callHandler hx ?_
          rw [heq]
          exact Agrees.onSessions hx (encodeReply_agrees x e _ _ _)

theorem dispatch_agrees (st : State σ) (p : Pkt) :
    Agrees x e st (Tacacs.Server.handle x.server x.conn e.t st p) (dispatch x e p) := by
  unfold Tacacs.Server.handle dispatch
  split
  · exact handleAuthen_agrees hx st p.hdr p.body
  · split
    · exact handleAuthor_agrees hx st p.hdr p.body
    · split
      · exact handleAcct_agrees hx st p.hdr p.body
      · exact agrees_write x e st _ _

theorem handle_agrees (st : State σ) (p : Pkt) :
    Spec (fun s => s = st) (handle x e {} p) fun resp st' es =>
      let h := Tacacs.Server.handle x.server x.conn e.t st p
      resp.terminated = e.writeErr.isSome ∧ resp.err = e.writeErr.map .err ∧ st' = h.st ∧
        es = h.calls.map Deed.called ++ [.wrote (frame x.md5 x.conn h.reply)] := by
  refine Spec.bind (dispatch_agrees hx st p) ?_
  rintro err s es ⟨rfl, rfl, rfl⟩
  refine Spec.pure ?_
  intro s hs
  rw [List.append_nil]
  cases e.writeErr with
  | none => exact ⟨rfl, rfl, hs, rfl⟩
  | some werr => exact ⟨rfl, rfl, hs, rfl⟩

theorem servePacket_agrees (st : State σ) (first : Bool) (connFlags : HeaderFlags) (p : Pkt)
    (rest : Bytes) :
    Spec (fun s => s = st) (servePacket x e first connFlags p) fun r st' es =>
      let t := Tacacs.Server.servePacket x.server x.conn e st (loopOf first connFlags) p rest
      st' = t.st ∧ turnedLoop r = t.loop ∧ es = t.calls.map Deed.called ++
        t.written.toList.map fun q => .wrote (frame x.md5 x.conn q) := by
  have hwrite := agrees_write x e
  unfold Tacacs.Server.servePacket Tacacs.Server.Routine.servePacket
  cases Tacacs.Server.checkFlags x.server x.conn p.hdr with
  | error err =>
    refine Spec.bind (hwrite st (errorHeader p.hdr) []) ?_
    rintro perr s es ⟨rfl, rfl, rfl⟩
    cases e.writeErr with
    | none => exact Spec.pure fun _ hs => ⟨hs, rfl, rfl⟩
    | some werr => exact Spec.pure fun _ hs => ⟨hs, rfl, rfl⟩
  | ok u =>
    dsimp only
    have hloop : (loopOf first connFlags = .first ∨ loopOf first connFlags = .later p.hdr.flags) ↔
        ¬(first = false ∧ p.hdr.flags ≠ connFlags) := by
      cases first with
      | true => simp [loopOf]
      | false => simp [loopOf, eq_comm]
    by_cases hdiff : first = false ∧ p.hdr.flags ≠ connFlags
    · rw [if_pos hdiff, if_neg (fun h => hloop.mp h hdiff)]
      refine Spec.bind (Spec.access (Q := fun _ s es =>
        s = st.observe (.packetInvalid "flag_mismatch") ∧ es = []) ?_) ?_
      · rintro k s rfl
        rw [hx]
        exact ⟨rfl, rfl⟩
      · rintro ⟨⟩ s es ⟨rfl, rfl⟩
        refine Spec.bind (hwrite _ (errorHeader p.hdr) []) ?_
        rintro perr s es ⟨rfl, rfl, rfl⟩
        exact Spec.pure fun _ hs => ⟨hs, congrArg Loop.returned (errOf_writeErr e), rfl⟩
    · rw [if_neg hdiff, if_pos (hloop.mpr hdiff), connFlags_after hdiff]
      refine Spec.bind (handle_agrees hx st p) ?_
      rintro resp s es ⟨hterm, herr, rfl, rfl⟩
      refine Spec.pure ?_
      intro s hs
      rw [hterm, herr, List.append_nil]
      cases hw : e.writeErr with
      | none => exact ⟨hs, rfl, rfl⟩
      | some werr => exact ⟨hs, rfl, rfl⟩

/-- The program does what the turns from the `n`-th do, until the loop returns. -/
def AgreesConn (x : Setting σ) (env : Nat → Env) (n : Nat) (loop : Loop) (st : State σ)
    (input : Bytes) (m : Prog σ Err) : Prop :=
  Spec (fun s => s = st) m fun err st' es => ∃ k rest,
    Run.after (World.step x.server x.md5) (oneConn st x.conn input loop) (turns env n k)
      = oneConn st' x.conn rest (.returned (errOf err)) ∧
    es = (Run.outputs (World.step x.server x.md5) (oneConn st x.conn input loop)
      (turns env n k)).flatMap (sightDeeds x)

omit hx in
theorem turns_succ (env : Nat → Env) (n k : Nat) :
    turns env n (k + 1) = .serve () (env n) :: turns env (n + 1) k := rfl

omit hx in
/-- A turn that reads nothing. -/
theorem agreesConn_idle {env : Nat → Env} {n : Nat} {loop : Loop} {st : State σ}
    {input rest : Bytes} {err : Err}
    (hturn : Tacacs.Server.serveIteration x.server x.md5 x.conn (env n) st loop input
      = { st, loop := .returned (errOf err), input := rest }) :
    AgreesConn x env n loop st input (pure err) := by
  have hstep := step_oneConn x.server x.md5 st x.conn input loop (env n)
  rw [hturn] at hstep
  refine Spec.pure ?_
  rintro s rfl
  refine ⟨1, rest, ?_⟩
  rw [turns_succ, Run.after_cons, Run.outputs_cons, hstep]
  exact ⟨rfl, rfl⟩

omit hx in
theorem loopOf_live (first : Bool) (connFlags : HeaderFlags) : Live (loopOf first connFlags) := by
  intro err
  cases first with
  | true => exact fun h => by cases h
  | false => exact fun h => by cases h

/-- **A goroutine left alone** does what the turns of `Server/Serve.lean` do, until the loop
    returns. -/
theorem serveConn_agrees (env : Nat → Env) (n : Nat) (first : Bool) (connFlags : HeaderFlags)
    (st : State σ) (input : Bytes) :
    AgreesConn x env n (loopOf first connFlags) st input
      (serveConn x env n first connFlags input) := by
  induction n, first, connFlags, input using serveConn.induct x env generalizing st with
  | case1 n first connFlags input err hctx =>
    rw [serveConn_cancelled hctx]
    apply agreesConn_idle
    rw [serveIteration_live _ _ _ _ _ _ (loopOf_live first connFlags), hctx]
    rfl
  | case2 n first connFlags input err hread hctx =>
    rw [serveConn_timeout hctx hread]
    apply agreesConn_idle
    rw [serveIteration_live _ _ _ _ _ _ (loopOf_live first connFlags), hctx, hread]
    rfl
  | case3 n first connFlags input hread hctx f rest h =>
    rw [serveConn_unread hctx hread h]
    apply agreesConn_idle
    rw [serveIteration_live _ _ _ _ _ _ (loopOf_live first connFlags), hctx, hread, h]
    cases f <;> rfl
  | case4 n first connFlags input hread hctx p rest h ih =>
    have hstep := step_oneConn x.server x.md5 st x.conn input (loopOf first connFlags) (env n)
    rw [serveIteration_live _ _ _ _ _ _ (loopOf_live first connFlags), hctx, hread, h] at hstep
    dsimp only at hstep
    have hpkt := servePacket_read x.server x.conn (env n) st (loopOf first connFlags) p rest
    rw [serveConn_packet hctx hread h]
    refine Spec.bind (Spec.emit (Q := fun _ s es => s = st ∧ es = [Deed.read p])
      fun _ hs => ⟨hs, rfl⟩) ?_
    rintro ⟨⟩ s es ⟨rfl, rfl⟩
    refine Spec.bind (servePacket_agrees hx s first connFlags p rest) ?_
    rintro r s' es' ⟨rfl, hloop, rfl⟩
    cases r with
    | ret err =>
      refine Spec.pure ?_
      rintro s' rfl
      refine ⟨1, rest, ?_⟩
      rw [turns_succ, Run.after_cons, Run.outputs_cons, hstep, ← hloop, hpkt.1, hpkt.2]
      exact ⟨rfl, rfl⟩
    | again flags =>
      refine (ih flags _).mono (fun _ hs => hs) ?_
      rintro err s' es' ⟨k, rest', hafter, rfl⟩
      refine ⟨k + 1, rest', ?_⟩
      rw [turns_succ, Run.after_cons, Run.outputs_cons, hstep, ← hloop, hpkt.1, hpkt.2]
      exact ⟨hafter, rfl⟩

end Alone

end Server
end Proof
end Tacacs
