import Tacacs.Server.ServeConn
import Tacacs.Proof.Server.Multiplex

/-!
# One reply to each request

Every path of the three handlers, and both ways of turning a packet away, end in one write with
the echo of the packet's header. That is said once for each function (`Replies`), whatever other
goroutines do to the shared state in between, and gives the log of a whole connection: a read,
the calls of the handler, a write, and again, until a packet is turned away or there is nothing
more to read (`serveConn_answers`).

A goroutine that is left alone does what the functions of `Server/Server.lean` compute, and the
turns of `Server/Serve.lean`: that is `Proof/Server/Alone.lean`.
-/

set_option autoImplicit false

namespace Tacacs
namespace Proof
namespace Server

open GoSem Traced Tacacs.Packet Tacacs.Transport Tacacs.Server.Routine
open Tacacs.Server (State Env Call SessionManager)
open Tacacs.Proof.Transport (headerBytes arriving onTheWire frame reader)

variable {σ : Type} {x : Setting σ} {e : Env}

/-! ## What a write leaves in the log -/

/-- The bytes of a reply to a packet with header `hdr`. -/
def replyBytes (x : Setting σ) (hdr : Header) (body : Bytes) : Bytes :=
  frame x.md5 x.conn ⟨errorHeader hdr, body⟩

theorem writePacket_spec (x : Setting σ) (e : Env) (P : State σ → Prop) (hdr : Header)
    (body : Bytes) :
    Spec P (writePacket x e hdr body) fun err st es =>
      err = e.writeErr.map .err ∧ P st ∧ es = [.wrote (frame x.md5 x.conn ⟨hdr, body⟩)] := by
  unfold Tacacs.Server.Routine.writePacket
  rw [Transport.conn_writePacket]
  intro t ht
  exact ⟨[.wrote (frame x.md5 x.conn ⟨hdr, body⟩)], rfl, rfl, ht, rfl⟩

/-! ## Every path writes once -/

/-- Calls of the handler, and nothing else that can be seen. -/
def OnlyCalls {α : Type} (m : Prog σ α) : Prop :=
  Spec (fun _ => True) m fun _ _ es => ∃ calls, es = List.map Deed.called calls

/-- Calls of the handler, then one reply to `hdr`, written without error. -/
def Replies (x : Setting σ) (hdr : Header) (m : Prog σ Err) : Prop :=
  Spec (fun _ => True) m fun err _ es => err = none ∧
    ∃ calls body, es = List.map Deed.called calls ++ [.wrote (replyBytes x hdr body)]

theorem onSessions_onlyCalls (f : SessionManager → SessionManager) :
    OnlyCalls (onSessions x f) :=
  Spec.access fun _ _ _ => ⟨[], rfl⟩

theorem sessionsGet_onlyCalls (id : UInt32) : OnlyCalls (sessionsGet x id) :=
  Spec.access fun _ _ _ => ⟨[], rfl⟩

theorem callHandler_onlyCalls {α : Type} (call : Call) (f : σ → α × σ) :
    OnlyCalls (callHandler x call f) := by
  refine Spec.bind (Spec.emit (Q := fun _ _ es => es = [Deed.called call]) fun _ _ => rfl) ?_
  rintro ⟨⟩ s es rfl
  exact Spec.access fun _ _ _ => ⟨[call], rfl⟩

theorem Replies.after {α : Type} {hdr : Header} {m : Prog σ α} {f : α → Prog σ Err}
    (hm : OnlyCalls m) (hf : ∀ a, Replies x hdr (f a)) : Replies x hdr (m >>= f) := by
  refine Spec.bind hm ?_
  rintro a s es ⟨calls, rfl⟩
  refine (hf a).mono (fun _ _ => trivial) ?_
  rintro err s' es' ⟨herr, calls', body, rfl⟩
  refine ⟨herr, calls ++ calls', body, ?_⟩
  rw [List.map_append, List.append_assoc]

section Success

variable (hw : e.writeErr = none)

include hw

theorem writePacket_replies (hdr : Header) (body : Bytes) :
    Replies x hdr (writePacket x e (errorHeader hdr) body) := by
  refine (writePacket_spec x e (fun _ => True) _ body).mono (fun _ h => h) ?_
  rintro err s es ⟨herr, -, rfl⟩
  rw [hw] at herr
  exact ⟨herr, [], body, rfl⟩

theorem sendGenericError_replies (hdr : Header) : Replies x hdr (sendGenericError x e hdr) :=
  writePacket_replies hw hdr []

theorem writeReply_replies (hdr : Header) (body : Bytes) :
    Replies x hdr (writeReply x e hdr body) :=
  writePacket_replies hw hdr body

theorem encodeReply_replies (hdr : Header) (body : Go GoError Bytes) :
    Replies x hdr (encodeReply x e hdr body) := by
  cases body with
  | error f => exact sendGenericError_replies hw hdr
  | ok rb => exact writeReply_replies hw hdr rb

theorem answerAuthen_replies (hdr : Header) (start : AuthenStart)
    (cont : Option AuthenContinue) : Replies x hdr (answerAuthen x e hdr start cont) := by
  refine Replies.after (callHandler_onlyCalls _ _) ?_
  rintro (err | dec)
  · exact Replies.after (onSessions_onlyCalls _) fun _ => writeReply_replies hw hdr _
  · have hlast : ∀ o body, Replies x hdr
        (onSessions x (SessionManager.observe · o) >>= fun _ => encodeReply x e hdr body) :=
      fun o body => Replies.after (onSessions_onlyCalls _) fun _ => encodeReply_replies hw hdr body
    dsimp only
    split
    · exact Replies.after (onSessions_onlyCalls _) fun _ => hlast _ _
    · exact Replies.after (onSessions_onlyCalls _) fun _ => hlast _ _

theorem handleAuthen_replies (hdr : Header) (body : Bytes) :
    Replies x hdr (handleAuthen x e hdr body) := by
  have hgeneric := sendGenericError_replies (x := x) hw hdr
  unfold handleAuthen
  split
  · cases AuthenStart.unmarshalBinary body with
    | error f => exact hgeneric
    | ok start =>
      exact Replies.after (onSessions_onlyCalls _) fun _ => answerAuthen_replies hw hdr start none
  · refine Replies.after (sessionsGet_onlyCalls _) ?_
    rintro (_ | sctx)
    · exact hgeneric
    · dsimp only
      cases Tacacs.Server.validateNextSeqNo hdr.seqNo sctx.lastOutboundSeq with
      | error err =>
        exact Replies.after (onSessions_onlyCalls _) fun _ =>
          Replies.after (onSessions_onlyCalls _) fun _ => hgeneric
      | ok u =>
        dsimp only
        cases AuthenContinue.unmarshalBinary body with
        | error f => exact hgeneric
        | ok cont => exact answerAuthen_replies hw hdr sctx.start (some cont)

theorem handleAuthor_replies (hdr : Header) (body : Bytes) :
    Replies x hdr (handleAuthor x e hdr body) := by
  unfold handleAuthor
  cases AuthorRequest.unmarshalBinary body with
  | error f => exact sendGenericError_replies hw hdr
  | ok req =>
    dsimp only
    cases Tacacs.Server.parseArguments req.args with
    | error err => exact writeReply_replies hw hdr _
    | ok args =>
      refine Replies.after (callHandler_onlyCalls _ _) ?_
      rintro (err | dec)
      · exact writeReply_replies hw hdr _
      · exact Replies.after (onSessions_onlyCalls _) fun _ => encodeReply_replies hw hdr _

theorem handleAcct_replies (hdr : Header) (body : Bytes) :
    Replies x hdr (handleAcct x e hdr body) := by
  unfold handleAcct
  cases AcctRequest.unmarshalBinary body with
  | error f => exact sendGenericError_replies hw hdr
  | ok req =>
    dsimp only
    split
    · exact writeReply_replies hw hdr _
    · cases Tacacs.Server.parseArguments req.args with
      | error err => exact writeReply_replies hw hdr _
      | ok args =>
        refine Replies.after (callHandler_onlyCalls _ _) ?_
        rintro (err | dec)
        · exact writeReply_replies hw hdr _
        · exact Replies.after (onSessions_onlyCalls _) fun _ => encodeReply_replies hw hdr _

theorem dispatch_replies (p : Pkt) : Replies x p.hdr (dispatch x e p) := by
  unfold dispatch
  split
  · exact handleAuthen_replies hw p.hdr p.body
  · split
    · exact handleAuthor_replies hw p.hdr p.body
    · split
      · exact handleAcct_replies hw p.hdr p.body
      · exact sendGenericError_replies hw p.hdr

theorem handle_replies (p : Pkt) :
    Spec (fun _ => True) (handle x e {} p) fun resp _ es => resp.terminated = false ∧
      ∃ calls body, es = List.map Deed.called calls ++ [.wrote (replyBytes x p.hdr body)] := by
  refine Spec.bind (dispatch_replies hw p) ?_
  rintro err s es ⟨rfl, hes⟩
  refine Spec.pure ?_
  intro s' _
  rw [List.append_nil]
  exact ⟨rfl, hes⟩

end Success

/-! ## One turn -/

/-- The flags of `p` are admitted, and those of the connection so far, if any. -/
def Admits (x : Setting σ) (connFlags : Option HeaderFlags) (p : Pkt) : Prop :=
  Tacacs.Server.checkFlags x.server x.conn p.hdr = .ok () ∧
    ∀ flags, connFlags = some flags → p.hdr.flags = flags

/-- The flags of the connection, as the two variables of the loop have them. -/
def flagsSoFar (first : Bool) (connFlags : HeaderFlags) : Option HeaderFlags :=
  if first then none else some connFlags

/-- A packet that is not turned away leaves its flags in the variable. -/
theorem connFlags_after {first : Bool} {connFlags : HeaderFlags} {p : Pkt}
    (h : ¬(first = false ∧ p.hdr.flags ≠ connFlags)) :
    (if first then p.hdr.flags else connFlags) = p.hdr.flags := by
  cases first with
  | true => rfl
  | false =>
    by_contra hne
    exact h ⟨rfl, fun heq => hne heq.symm⟩

theorem servePacket_admitted (hw : e.writeErr = none) {first : Bool} {connFlags : HeaderFlags}
    {p : Pkt} (h : Admits x (flagsSoFar first connFlags) p) :
    Spec (fun _ => True) (servePacket x e first connFlags p) fun r _ es =>
      r = .again p.hdr.flags ∧
        ∃ calls body, es = List.map Deed.called calls ++ [.wrote (replyBytes x p.hdr body)] := by
  have hsame : ¬(first = false ∧ p.hdr.flags ≠ connFlags) := by
    rintro ⟨rfl, hne⟩
    exact hne (h.2 connFlags rfl)
  unfold Tacacs.Server.Routine.servePacket
  rw [h.1]
  dsimp only
  rw [if_neg hsame, connFlags_after hsame]
  refine Spec.bind (handle_replies hw p) ?_
  rintro resp s es ⟨hresp, hes⟩
  refine Spec.pure ?_
  intro s' _
  rw [hresp, List.append_nil]
  exact ⟨rfl, hes⟩

theorem servePacket_refused (hw : e.writeErr = none) {first : Bool} {connFlags : HeaderFlags}
    {p : Pkt} (h : ¬Admits x (flagsSoFar first connFlags) p) :
    Spec (fun _ => True) (servePacket x e first connFlags p) fun r _ es =>
      (∃ err, r = .ret err) ∧ es = [.wrote (replyBytes x p.hdr [])] := by
  have hwrite := (writePacket_spec x e (fun _ => True) (errorHeader p.hdr) [])
  unfold Tacacs.Server.Routine.servePacket
  cases hf : Tacacs.Server.checkFlags x.server x.conn p.hdr with
  | error err =>
    refine Spec.bind hwrite ?_
    rintro perr s es ⟨rfl, -, rfl⟩
    rw [hw]
    exact Spec.pure fun _ _ => ⟨⟨_, rfl⟩, rfl⟩
  | ok u =>
    have hdiff : first = false ∧ p.hdr.flags ≠ connFlags := by
      cases first with
      | true => exact absurd ⟨hf, fun _ hnone => by cases hnone⟩ h
      | false =>
        refine ⟨rfl, fun hsame => h ⟨hf, ?_⟩⟩
        rintro flags ⟨⟩
        exact hsame
    dsimp only
    rw [if_pos hdiff]
    refine Spec.bind (Spec.access (Q := fun _ _ es => es = []) fun _ _ _ => rfl) ?_
    rintro ⟨⟩ s es rfl
    refine Spec.bind (hwrite.mono (fun _ _ => trivial) fun _ _ _ hes => hes.2.2) ?_
    rintro err s es rfl
    exact Spec.pure fun _ _ => ⟨⟨err, rfl⟩, rfl⟩

/-! ## A whole connection -/

/-- A packet that was read, what the handler was asked about it, and what was written. -/
structure Exchange where
  read : Pkt
  calls : List Call
  wrote : Bytes

def Exchange.deeds (y : Exchange) : List Deed :=
  .read y.read :: (y.calls.map .called ++ [.wrote y.wrote])

/-- Nothing but the stream ends the loop: the context lives, and no read times out. -/
def Undisturbed (env : Nat → Env) : Prop :=
  ∀ n, (env n).ctxErr = none ∧ (env n).readErr = none

/-- The exchanges on a connection, from the flags it has so far and the bytes to come. -/
inductive Exchanges (x : Setting σ) (env : Nat → Env) :
    Option HeaderFlags → Bytes → List Exchange → Prop where
  | ended {flags : Option HeaderFlags} {input : Bytes} :
      (Undisturbed env → ((reader x.md5 x.conn).readAll input).values = []) →
      Exchanges x env flags input []
  | refused {flags : Option HeaderFlags} {input rest : Bytes} {p : Pkt} :
      x.conn.readPacket x.md5 input = (.ok p, rest) → ¬Admits x flags p →
      Exchanges x env flags input [⟨p, [], replyBytes x p.hdr []⟩]
  | served {flags : Option HeaderFlags} {input rest : Bytes} {p : Pkt} {ys : List Exchange}
      (calls : List Call) (body : Bytes) :
      x.conn.readPacket x.md5 input = (.ok p, rest) → Admits x flags p →
      Exchanges x env (some p.hdr.flags) rest ys →
      Exchanges x env flags input (⟨p, calls, replyBytes x p.hdr body⟩ :: ys)

section Loop

variable {env : Nat → Env} {n : Nat} {first : Bool} {connFlags : HeaderFlags} {input : Bytes}

theorem serveConn_cancelled {err : GoError} (h : (env n).ctxErr = some err) :
    serveConn x env n first connFlags input = pure (some (.err err)) := by
  rw [serveConn, h]

theorem serveConn_timeout {err : GoError} (hctx : (env n).ctxErr = none)
    (h : (env n).readErr = some err) :
    serveConn x env n first connFlags input = pure (some (.err err)) := by
  rw [serveConn, hctx, h]

theorem serveConn_unread {f : Fault GoError} {rest : Bytes} (hctx : (env n).ctxErr = none)
    (hread : (env n).readErr = none) (h : x.conn.readPacket x.md5 input = (.error f, rest)) :
    serveConn x env n first connFlags input = pure (some f) := by
  rw [serveConn, hctx, hread]
  dsimp only
  split
  · next h' =>
    rw [h] at h'
    cases h'
    rfl
  · next h' =>
    rw [h] at h'
    cases h'

/-- A turn that reads a packet. -/
theorem serveConn_packet {p : Pkt} {rest : Bytes} (hctx : (env n).ctxErr = none)
    (hread : (env n).readErr = none) (h : x.conn.readPacket x.md5 input = (.ok p, rest)) :
    serveConn x env n first connFlags input = (do
      emit (.read p)
      match ← servePacket x (env n) first connFlags p with
      | .ret err => return err
      | .again connFlags => serveConn x env (n + 1) false connFlags rest) := by
  rw [serveConn, hctx, hread]
  dsimp only
  split
  · next h' =>
    rw [h] at h'
    cases h'
  · next h' =>
    rw [h] at h'
    cases h'
    rfl

end Loop

/-- What the loop of `ServeConn` logs, by its own recursion. -/
theorem serveConn_exchanges {env : Nat → Env} (hw : ∀ n, (env n).writeErr = none) (n : Nat)
    (first : Bool) (connFlags : HeaderFlags) (input : Bytes) :
    Spec (fun _ => True) (serveConn x env n first connFlags input) fun _ _ es =>
      ∃ ys, Exchanges x env (flagsSoFar first connFlags) input ys ∧
        es = ys.flatMap Exchange.deeds := by
  induction n, first, connFlags, input using serveConn.induct x env with
  | case1 n first connFlags input err hctx =>
    rw [serveConn_cancelled hctx]
    refine Spec.pure fun _ _ => ⟨[], .ended fun hcalm => ?_, rfl⟩
    rw [(hcalm n).1] at hctx
    cases hctx
  | case2 n first connFlags input err hread hctx =>
    rw [serveConn_timeout hctx hread]
    refine Spec.pure fun _ _ => ⟨[], .ended fun hcalm => ?_, rfl⟩
    rw [(hcalm n).2] at hread
    cases hread
  | case3 n first connFlags input hread hctx f rest h =>
    rw [serveConn_unread hctx hread h]
    refine Spec.pure fun _ _ => ⟨[], .ended fun _ => ?_, rfl⟩
    rw [Frames.readAll_error (R := reader x.md5 x.conn) h]
  | case4 n first connFlags input hread hctx p rest h ih =>
    rw [serveConn_packet hctx hread h]
    refine Spec.bind (Spec.emit (Q := fun _ _ es => es = [Deed.read p]) fun _ _ => rfl) ?_
    rintro ⟨⟩ s es rfl
    by_cases hadm : Admits x (flagsSoFar first connFlags) p
    · refine Spec.bind ((servePacket_admitted (hw n) hadm).mono (fun _ _ => trivial)
        fun _ _ _ hes => hes) ?_
      rintro r s' es' ⟨rfl, calls, body, rfl⟩
      refine (ih p.hdr.flags).mono (fun _ _ => trivial) ?_
      rintro err s'' es'' ⟨ys, hys, rfl⟩
      refine ⟨⟨p, calls, replyBytes x p.hdr body⟩ :: ys, .served calls body h hadm hys, ?_⟩
      rw [List.flatMap_cons]
      rfl
    · refine Spec.bind ((servePacket_refused (hw n) hadm).mono (fun _ _ => trivial)
        fun _ _ _ hes => hes) ?_
      rintro r s' es' ⟨⟨err, rfl⟩, rfl⟩
      refine Spec.pure fun _ _ => ⟨[⟨p, [], replyBytes x p.hdr []⟩], .refused h hadm, ?_⟩
      rfl

/-! ## The property -/

/-- `b` is the packet that answers `p`: version, type and session as they were, the next number,
    and the flags, with the unencrypted one added under TLS. -/
def Echoes (c : Conn) (p : Pkt) (b : Bytes) : Prop :=
  ∃ hdr wire, b = headerBytes hdr ++ wire ∧ hdr.length = UInt32.ofNat wire.length ∧
    hdr.version = p.hdr.version ∧ hdr.type = p.hdr.type ∧ hdr.sessionID = p.hdr.sessionID ∧
    hdr.seqNo.toNat = (p.hdr.seqNo.toNat + 1) % 256 ∧
    hdr.flags = if c.mode = .tls then p.hdr.flags ||| flagUnencrypted else p.hdr.flags

/-- `p` violates the flag policy, or its flags are not those of the first packet. -/
def Offends (s : Server σ) (c : Conn) (first p : Pkt) : Prop :=
  (c.mode = .tls ∧ p.hdr.flags.has flagUnencrypted = false) ∨
    (c.mode = .legacy ∧ p.hdr.flags.has flagUnencrypted = true ∧
      s.policy.allowUnencrypted = false) ∨
    p.hdr.flags ≠ first.hdr.flags

/-- The log of a connection is a sequence of exchanges. -/
structure Answered (x : Setting σ) (env : Nat → Env) (input : Bytes) (log : List Deed)
    (ys : List Exchange) : Prop where
  /-- A read, the calls of the handler, one write, and so on. -/
  log : log = ys.flatMap Exchange.deeds
  /-- The packets are those of the stream, in order. -/
  order : ys.map Exchange.read <+: ((reader x.md5 x.conn).readAll input).values
  echo : ∀ y ∈ ys, Echoes x.conn y.read y.wrote
  /-- An offending packet is the last, is not dispatched, and gets a bare header. -/
  last : ∀ first pre y post, ys.head? = some first → ys = pre ++ y :: post →
    Offends x.server x.conn first.read y.read →
      post = [] ∧ y.calls = [] ∧ y.wrote.length = headerLength
  /-- Undisturbed, it is the only reason not to go on to the end of the stream. -/
  complete : Undisturbed env →
    ys.map Exchange.read = ((reader x.md5 x.conn).readAll input).values ∨
      ∃ first y, ys.head? = some first ∧ ys.getLast? = some y ∧
        Offends x.server x.conn first.read y.read

theorem echoes_replyBytes (x : Setting σ) (p : Pkt) (body : Bytes) :
    Echoes x.conn p (replyBytes x p.hdr body) := by
  refine ⟨arriving x.conn (errorHeader p.hdr) body,
    onTheWire x.md5 x.conn (errorHeader p.hdr) body, rfl, ?_, rfl, rfl, rfl, ?_, rfl⟩
  · rw [Transport.length_onTheWire]
    rfl
  · exact UInt8.toNat_add p.hdr.seqNo 1

theorem length_replyBytes_nil (x : Setting σ) (hdr : Header) :
    (replyBytes x hdr []).length = headerLength := by
  unfold replyBytes frame
  rw [List.length_append, Transport.length_onTheWire]
  rfl

theorem offends_iff (x : Setting σ) (first p : Pkt) :
    Offends x.server x.conn first p ↔ ¬Admits x (some first.hdr.flags) p := by
  have hpolicy : Tacacs.Server.checkFlags x.server x.conn p.hdr = .ok () ↔
      ¬((x.conn.mode = .tls ∧ p.hdr.flags.has flagUnencrypted = false) ∨
        (x.conn.mode = .legacy ∧ p.hdr.flags.has flagUnencrypted = true ∧
          x.server.policy.allowUnencrypted = false)) := by
    unfold Tacacs.Server.checkFlags Crypto.Policy.checkUnencryptedFlag enforceTLSFlagPolicy
    cases x.conn.mode <;> cases p.hdr.flags.has flagUnencrypted <;>
      cases x.server.policy.allowUnencrypted <;> simp
  unfold Offends Admits
  simp only [Option.some.injEq, forall_eq']
  rw [hpolicy, not_and_or, not_not, or_assoc]

section Exchanges

variable {env : Nat → Env} {flags : Option HeaderFlags} {input : Bytes} {ys : List Exchange}

theorem Exchanges.order (h : Exchanges x env flags input ys) :
    ys.map Exchange.read <+: ((reader x.md5 x.conn).readAll input).values := by
  induction h with
  | ended _ => exact List.nil_prefix
  | refused hread _ =>
    rw [Frames.readAll_ok (R := reader x.md5 x.conn) hread]
    exact (List.prefix_cons_inj _).mpr List.nil_prefix
  | served calls body hread _ _ ih =>
    rw [Frames.readAll_ok (R := reader x.md5 x.conn) hread]
    exact (List.prefix_cons_inj _).mpr ih

theorem Exchanges.echo (h : Exchanges x env flags input ys) :
    ∀ y ∈ ys, Echoes x.conn y.read y.wrote := by
  induction h with
  | ended _ => exact fun y hy => (by cases hy)
  | refused _ _ =>
    intro y hy
    rw [List.mem_singleton.mp hy]
    exact echoes_replyBytes x _ []
  | served calls body _ _ _ ih =>
    intro y hy
    cases hy with
    | head => exact echoes_replyBytes x _ body
    | tail _ hy => exact ih y hy

/-- The flags of the connection are those of its first packet. -/
theorem Exchanges.fromFirst {first : Exchange} (h : Exchanges x env none input ys)
    (hfirst : ys.head? = some first) :
    Exchanges x env (some first.read.hdr.flags) input ys := by
  cases h with
  | ended _ => cases hfirst
  | refused hread hnot =>
    cases hfirst
    exact .refused hread fun hadm => hnot ⟨hadm.1, fun _ hnone => by cases hnone⟩
  | served calls body hread hadm hrest =>
    cases hfirst
    refine .served calls body hread ⟨hadm.1, ?_⟩ hrest
    rintro _ ⟨⟩
    rfl

theorem Exchanges.last {fl : HeaderFlags} (h : Exchanges x env flags input ys)
    (hflags : flags = some fl) {pre post : List Exchange} {y : Exchange}
    (hys : ys = pre ++ y :: post) (hnot : ¬Admits x (some fl) y.read) :
    post = [] ∧ y.calls = [] ∧ y.wrote.length = headerLength := by
  induction h generalizing pre with
  | ended _ => exact absurd hys.symm (List.append_ne_nil_of_right_ne_nil pre (List.cons_ne_nil _ _))
  | refused _ _ =>
    cases pre with
    | nil =>
      cases hys
      exact ⟨rfl, rfl, length_replyBytes_nil x _⟩
    | cons z pre =>
      injection hys with _ hnil
      exact absurd hnil.symm (List.append_ne_nil_of_right_ne_nil pre (List.cons_ne_nil _ _))
  | served calls body _ hadm _ ih =>
    cases pre with
    | nil =>
      cases hys
      exact absurd (hflags ▸ hadm) hnot
    | cons z pre =>
      injection hys with _ hrest
      exact ih (congrArg some (hadm.2 fl hflags)) hrest

theorem Exchanges.complete {fl : HeaderFlags} (h : Exchanges x env flags input ys)
    (hflags : flags = some fl) (hcalm : Undisturbed env) :
    ys.map Exchange.read = ((reader x.md5 x.conn).readAll input).values ∨
      ∃ y, ys.getLast? = some y ∧ ¬Admits x (some fl) y.read := by
  induction h with
  | ended hend => exact Or.inl (hend hcalm).symm
  | refused _ hnot => exact Or.inr ⟨_, rfl, hflags ▸ hnot⟩
  | served calls body hread hadm _ ih =>
    rw [Frames.readAll_ok (R := reader x.md5 x.conn) hread]
    rcases ih (congrArg some (hadm.2 fl hflags)) with hall | ⟨y, hy, hnot⟩
    · exact Or.inl (congrArg _ hall)
    · refine Or.inr ⟨y, ?_, hnot⟩
      rw [List.getLast?_cons, hy]
      rfl

/-- The flags the connection has so far are none, and its log is a sequence of exchanges. -/
theorem Exchanges.answered {log : List Deed} (h : Exchanges x env none input ys)
    (hlog : log = ys.flatMap Exchange.deeds) : Answered x env input log ys where
  log := hlog
  order := h.order
  echo := h.echo
  last := by
    intro first pre y post hfirst hys hoff
    exact (h.fromFirst hfirst).last rfl hys ((offends_iff x _ _).mp hoff)
  complete := by
    intro hcalm
    cases hfirst : ys.head? with
    | none =>
      cases List.head?_eq_none_iff.mp hfirst
      cases h with
      | ended hend => exact Or.inl (hend hcalm).symm
    | some first =>
      rcases (h.fromFirst hfirst).complete rfl hcalm with hall | ⟨y, hy, hnot⟩
      · exact Or.inl hall
      · exact Or.inr ⟨first, y, rfl, hy, (offends_iff x _ _).mpr hnot⟩

end Exchanges

/-- **One reply to each request.** For every server and connection, whatever the handler, the
    other goroutines and the environment do, as long as writes succeed, and for every stream of
    bytes: `ServeConn` returns, and what it has done is a sequence of exchanges, in the order of
    the stream, each with one packet read and one packet written that echoes its header. It goes
    on until it is disturbed, the stream ends, or a packet offends against the flags; such a
    packet gets a bare header, is not dispatched, and is the last one read. -/
theorem serveConn_answers (x : Setting σ) (env : Nat → Env) (hw : ∀ n, (env n).writeErr = none)
    (st : State σ) (input : Bytes) :
    ∃ ys, Answered x env input (serveConn x env 0 true 0 input { shared := st }).2.log ys := by
  obtain ⟨es, hlog, ys, hys, rfl⟩ := serveConn_exchanges hw 0 true 0 input { shared := st } trivial
  exact ⟨ys, hys.answered hlog⟩

/-! A TLS connection on which a login is followed by the same login with the single-connect flag
added: the second packet offends. -/

def mixedFlags : Bytes :=
  clearLogin ++ onWire ⟨{ (clearPkt 9 1 (asciiLogin "erin")).hdr with flags := 0x05 },
    asciiLogin "erin"⟩

/-- There is something to answer. -/
theorem serveConn_answers_mixed :
    let x : Setting Unit :=
      { server := Tacacs.Server.new { handler := askAgain, mode := .tls }, md5 := default,
        conn := tlsConn, others := alone }
    let env : Nat → Env := fun n => { t := ⟨n, n⟩ }
    let log := (serveConn x env 0 true 0 mixedFlags
      { shared := { sessions := Tacacs.Server.newSessionManager 0, handler := () } }).2.log
    (∀ n, (env n).writeErr = none) ∧ ∃ ys, Answered x env mixedFlags log ys ∧ ys ≠ [] := by
  intro x env log
  obtain ⟨ys, hys⟩ := serveConn_answers x env (fun _ => rfl) _ mixedFlags
  refine ⟨fun _ => rfl, ys, hys, ?_⟩
  rintro rfl
  rcases hys.complete (fun _ => ⟨rfl, rfl⟩) with hall | ⟨_, _, hnone, _⟩
  · have hread : (reader x.md5 x.conn).read mixedFlags = (.ok (clearPkt 9 1 (asciiLogin "erin")),
        mixedFlags.drop clearLogin.length) := rfl
    rw [Frames.readAll_ok hread] at hall
    cases hall
  · cases hnone

end Server
end Proof
end Tacacs
