import Tacacs.Server.Server
import Tacacs.Proof.Server.Sessions

/-!
# One automaton a session

Handling a packet reads and writes the registry at **one id only**, the session id of the
packet, and of the rest of the server it sees the handler's state. So the server is a family of
automata, one for each session id, that share nothing but the handler: `react` is the step of
one of them, and `handle_acts` says that `handle` is the step of the automaton the packet is
addressed to, and of no other.

What a packet does is decided in two halves, as in the source: `intake` says whether it reaches
the handler and with which START, `answered` what the handler's answer does to the session.
-/

set_option autoImplicit false

namespace Tacacs
namespace Proof
namespace Server

open GoSem Tacacs.Packet Tacacs.Transport
open Tacacs.Server hiding AuthenStart AuthenContinue

variable {σ : Type}

/-! ## The two halves -/

/-- What becomes of an authentication packet before the handler is asked. -/
inductive Intake where
  | refused
  | outOfSequence
  | opened (start : AuthenStart)
  | continued (sctx : SessionContext) (cont : AuthenContinue)

/-- `entry` is what the registry holds under the packet's session id. -/
def intake (entry : Option SessionContext) (hdr : Header) (body : Bytes) : Intake :=
  if hdr.seqNo = 1 then
    match AuthenStart.unmarshalBinary body with
    | .error _ => .refused
    | .ok start => .opened start
  else
    match entry with
    | none => .refused
    | some sctx =>
        match validateNextSeqNo hdr.seqNo sctx.lastOutboundSeq with
        | .error _ => .outOfSequence
        | .ok () =>
            match AuthenContinue.unmarshalBinary body with
            | .error _ => .refused
            | .ok cont => .continued sctx cont

/-- What each outcome means. -/
theorem intake_spec (entry : Option SessionContext) (hdr : Header) (body : Bytes) :
    match intake entry hdr body with
    | .refused | .outOfSequence => True
    | .opened start => hdr.seqNo = 1 ∧ AuthenStart.unmarshalBinary body = .ok start
    | .continued sctx cont => hdr.seqNo ≠ 1 ∧ entry = some sctx ∧
        validateNextSeqNo hdr.seqNo sctx.lastOutboundSeq = .ok () ∧
        AuthenContinue.unmarshalBinary body = .ok cont := by
  unfold intake
  by_cases hseq : hdr.seqNo = 1
  · rw [if_pos hseq]
    cases hb : AuthenStart.unmarshalBinary body with
    | error e => trivial
    | ok start => exact ⟨hseq, rfl⟩
  · rw [if_neg hseq]
    cases entry with
    | none => trivial
    | some sctx =>
      dsimp only
      cases hv : validateNextSeqNo hdr.seqNo sctx.lastOutboundSeq with
      | error e => trivial
      | ok u =>
        dsimp only
        cases hb : AuthenContinue.unmarshalBinary body with
        | error e => trivial
        | ok cont => exact ⟨hseq, rfl, hv, rfl⟩

theorem intake_opened {entry : Option SessionContext} {hdr : Header} {body : Bytes}
    {start : AuthenStart} (h : intake entry hdr body = .opened start) :
    hdr.seqNo = 1 ∧ AuthenStart.unmarshalBinary body = .ok start := by
  have hspec := intake_spec entry hdr body
  rw [h] at hspec
  exact hspec

theorem intake_continued {entry : Option SessionContext} {hdr : Header} {body : Bytes}
    {sctx : SessionContext} {cont : AuthenContinue}
    (h : intake entry hdr body = .continued sctx cont) :
    hdr.seqNo ≠ 1 ∧ entry = some sctx ∧
      validateNextSeqNo hdr.seqNo sctx.lastOutboundSeq = .ok () ∧
      AuthenContinue.unmarshalBinary body = .ok cont := by
  have hspec := intake_spec entry hdr body
  rw [h] at hspec
  exact hspec

/-- The context the handler is called with. -/
def authenContext (c : Conn) (hdr : Header) (start : AuthenStart) : AuthenContext :=
  { sessionID := hdr.sessionID, seqNo := hdr.seqNo, start, remoteAddr := c.remoteAddr }

/-- Whether an answer leaves the session registered. -/
def staysOpen : Except GoError AuthenDecision → Bool
  | .error _ => false
  | .ok dec => !endsSession dec.status

/-- A decision as the body of a reply. -/
def replyBody (dec : AuthenDecision) : AuthenReply :=
  { status := dec.status, flags := dec.flags, serverMsg := dec.serverMsg, data := dec.data }

/-- The packet an answer is sent as. -/
def replyTo (hdr : Header) : Except GoError AuthenDecision → Pkt
  | .error _ => sendAuthenError hdr
  | .ok dec => encodeReply hdr (replyBody dec).marshalBinary

/-- What one step of a session's automaton gives. -/
structure Reaction (σ : Type) where
  entry : Option SessionContext
  handler : σ
  calls : List Call
  reply : Pkt

/-- The handler is asked about `start` and `cont`, `sctx` being registered at that time. -/
def answered (s : Server σ) (c : Conn) (t : Times) (h : σ) (hdr : Header)
    (sctx : SessionContext) (start : AuthenStart) (cont : Option AuthenContinue) : Reaction σ :=
  let ac := authenContext c hdr start
  let a := s.cfg.handler.authenticate ac cont h
  { entry := if staysOpen a.1 then
               some { sctx with lastActive := t.later, lastOutboundSeq := hdr.seqNo + 1 }
             else none
    handler := a.2
    calls := [.authenticate ac cont]
    reply := replyTo hdr a.1 }

/-- A session that outlives an answer keeps its START and expects the number after the reply. -/
theorem answered_entry {s : Server σ} {c : Conn} {t : Times} {h : σ} {hdr : Header}
    {sctx e : SessionContext} {start : AuthenStart} {cont : Option AuthenContinue}
    (he : (answered s c t h hdr sctx start cont).entry = some e) :
    e.start = sctx.start ∧ e.lastOutboundSeq = hdr.seqNo + 1 := by
  unfold answered at he
  dsimp only at he
  split at he
  · cases he
    exact ⟨rfl, rfl⟩
  · cases he

/-- The session a START registers. -/
def openedSession (c : Conn) (t : Times) (hdr : Header) (start : AuthenStart) : SessionContext :=
  { start, flags := hdr.flags, remoteAddr := c.remoteAddr, createdAt := t.now,
    lastActive := t.now }

/-- The step of one session on an authentication packet. -/
def reactAuthen (s : Server σ) (c : Conn) (t : Times) (h : σ) (entry : Option SessionContext)
    (hdr : Header) (body : Bytes) : Reaction σ :=
  match intake entry hdr body with
  | .refused => { entry, handler := h, calls := [], reply := sendGenericError hdr }
  | .outOfSequence => { entry := none, handler := h, calls := [], reply := sendGenericError hdr }
  | .opened start => answered s c t h hdr (openedSession c t hdr start) start none
  | .continued sctx cont => answered s c t h hdr sctx sctx.start (some cont)

/-- The step of one session on any packet. Other packets leave the registry alone, so what
    they do is what they do to a server without sessions. -/
def react (s : Server σ) (c : Conn) (t : Times) (h : σ) (entry : Option SessionContext)
    (p : Pkt) : Reaction σ :=
  if p.hdr.type = packetAuthentication then reactAuthen s c t h entry p.hdr p.body
  else
    let r := handle s c t ⟨newSessionManager 0, h⟩ p
    { entry, handler := r.st.handler, calls := r.calls, reply := r.reply }

/-! ## The server is the family of its sessions -/

/-- `r` is what the reaction `a` of session `id` makes of a server in state `st`. -/
structure Acts (st : State σ) (id : UInt32) (a : Reaction σ) (r : Handled σ) : Prop where
  get : r.st.sessions.get = Function.update st.sessions.get id a.entry
  ttl : r.st.sessions.ttl = st.sessions.ttl
  handler : r.st.handler = a.handler
  calls : r.calls = a.calls
  reply : r.reply = a.reply

theorem Acts.get_self {st : State σ} {id : UInt32} {a : Reaction σ} {r : Handled σ}
    (h : Acts st id a r) : r.st.sessions.get id = a.entry := by
  rw [h.get, Function.update_self]

theorem Acts.get_ne {st : State σ} {id k : UInt32} {a : Reaction σ} {r : Handled σ}
    (h : Acts st id a r) (hk : k ≠ id) : r.st.sessions.get k = st.sessions.get k := by
  rw [h.get, Function.update_of_ne hk]

@[simp] theorem ttl_set (sm : SessionManager) (now : Int) (id : UInt32) (ctx : SessionContext) :
    (sm.set now id ctx).ttl = sm.ttl := by
  unfold SessionManager.set
  cases (sm.sessions.lookup id).isSome <;> rfl

@[simp] theorem ttl_update (sm : SessionManager) (now : Int) (id : UInt32)
    (fn : SessionContext → SessionContext) : (sm.update now id fn).ttl = sm.ttl := by
  unfold SessionManager.update
  cases sm.sessions.lookup id <;> rfl

@[simp] theorem ttl_delete (sm : SessionManager) (id : UInt32) : (sm.delete id).ttl = sm.ttl := by
  unfold SessionManager.delete
  cases sm.sessions.lookup id <;> rfl

@[simp] theorem ttl_observe (sm : SessionManager) (o : Observation) :
    (sm.observe o).ttl = sm.ttl := rfl

/-- The second half of `handleAuthen`, in a state where `sctx` is registered. -/
theorem answerAuthen_acts (s : Server σ) (c : Conn) (t : Times) {st : State σ} {hdr : Header}
    {sctx : SessionContext} (hget : st.sessions.get hdr.sessionID = some sctx)
    (start : AuthenStart) (cont : Option AuthenContinue) :
    Acts st hdr.sessionID (answered s c t st.handler hdr sctx start cont)
      (answerAuthen s c t st hdr start cont) := by
  unfold answered answerAuthen authenContext
  dsimp only
  generalize s.cfg.handler.authenticate _ cont st.handler = a
  obtain ⟨res, hs⟩ := a
  cases res with
  | error e => exact ⟨get_delete _ _, ttl_delete _ _, rfl, rfl, rfl⟩
  | ok dec =>
    cases hend : endsSession dec.status with
    | true =>
      refine ⟨?_, ?_, rfl, rfl, rfl⟩
      · simp [hend, staysOpen, get_delete]
      · simp [hend]
    | false =>
      refine ⟨?_, ?_, rfl, rfl, rfl⟩
      · simp [hend, staysOpen, get_update, hget]
      · simp [hend]

theorem Acts.of_update {st : State σ} {id : UInt32} {e : SessionContext} {sm : SessionManager}
    {a : Reaction σ} {r : Handled σ} (hget : sm.get = Function.update st.sessions.get id (some e))
    (httl : sm.ttl = st.sessions.ttl) (h : Acts { st with sessions := sm } id a r) :
    Acts st id a r := by
  refine ⟨?_, h.ttl.trans httl, h.handler, h.calls, h.reply⟩
  rw [h.get]
  show Function.update sm.get id a.entry = _
  rw [hget, Function.update_idem]

theorem handleAuthen_acts (s : Server σ) (c : Conn) (t : Times) (st : State σ) (hdr : Header)
    (body : Bytes) :
    Acts st hdr.sessionID
      (reactAuthen s c t st.handler (st.sessions.get hdr.sessionID) hdr body)
      (handleAuthen s c t st hdr body) := by
  -- a refused packet leaves the entry as it was
  have hrefused : ∀ entry, st.sessions.get hdr.sessionID = entry → Acts st hdr.sessionID
      { entry, handler := st.handler, calls := [], reply := sendGenericError hdr }
      { st, reply := sendGenericError hdr } := by
    rintro entry rfl
    exact ⟨(Function.update_eq_self _ _).symm, rfl, rfl, rfl, rfl⟩
  unfold reactAuthen intake handleAuthen
  by_cases hseq : hdr.seqNo = 1
  · rw [if_pos hseq, if_pos hseq]
    cases hb : AuthenStart.unmarshalBinary body with
    | error e => exact hrefused _ rfl
    | ok start =>
      let sctx : SessionContext := { start, flags := hdr.flags, remoteAddr := c.remoteAddr }
      refine Acts.of_update (get_set st.sessions t.now hdr.sessionID sctx) (ttl_set _ _ _ _) ?_
      exact answerAuthen_acts s c t (by rw [get_set, Function.update_self]; rfl) start none
  · rw [if_neg hseq, if_neg hseq]
    cases hg : st.sessions.get hdr.sessionID with
    | none => exact hrefused none hg
    | some sctx =>
      dsimp only
      cases hv : validateNextSeqNo hdr.seqNo sctx.lastOutboundSeq with
      | error e => exact ⟨get_delete _ _, ttl_delete _ _, rfl, rfl, rfl⟩
      | ok u =>
        dsimp only
        cases hb : AuthenContinue.unmarshalBinary body with
        | error e => exact hrefused (some sctx) hg
        | ok cont => exact answerAuthen_acts s c t hg sctx.start (some cont)

/-- What `handleAuthor` and `handleAcct` have in common: they see the handler's state only,
    leave the registry alone, and answer with the echo of the header. -/
structure Aside (hdr : Header) (f : State σ → Handled σ) : Prop where
  get : ∀ st, (f st).st.sessions.get = st.sessions.get
  ttl : ∀ st, (f st).st.sessions.ttl = st.sessions.ttl
  same : ∀ st st', st.handler = st'.handler →
    (f st).st.handler = (f st').st.handler ∧ (f st).calls = (f st').calls ∧
      (f st).reply = (f st').reply
  noAuthen : ∀ st ac cont, .authenticate ac cont ∉ (f st).calls
  echo : ∀ st, (f st).reply.hdr = errorHeader hdr

/-- A packet that is answered without asking the handler. -/
theorem Aside.unasked {hdr : Header} {reply : Pkt} (h : reply.hdr = errorHeader hdr) :
    Aside hdr fun st : State σ => ({ st, reply } : Handled σ) where
  get _ := rfl
  ttl _ := rfl
  same _ _ h := ⟨h, rfl, rfl⟩
  noAuthen _ _ _ h := by cases h
  echo _ := h

theorem encodeReply_hdr (h : Header) (b : Go GoError Bytes) :
    (encodeReply h b).hdr = errorHeader h := by
  cases b <;> rfl

/-- A packet that is put to the handler, by a call other than `Authenticate`. -/
theorem Aside.asked {hdr : Header} {δ : Type} {f : State σ → Handled σ}
    (ask : σ → Except GoError δ × σ) (call : Call) (failed : Pkt) (seen : δ → Observation)
    (body : δ → Go GoError Bytes) (hcall : ∀ ac cont, call ≠ .authenticate ac cont)
    (hfailed : failed.hdr = errorHeader hdr)
    (herr : ∀ st e, (ask st.handler).1 = .error e →
      f st = { st := { st with handler := (ask st.handler).2 }, calls := [call], reply := failed })
    (hok : ∀ st dec, (ask st.handler).1 = .ok dec →
      f st = { st := { st with handler := (ask st.handler).2 }.observe (seen dec),
               calls := [call], reply := encodeReply hdr (body dec) }) : Aside hdr f := by
  refine ⟨?_, ?_, ?_, ?_, ?_⟩
  · intro st
    cases h : (ask st.handler).1 with
    | error e => rw [herr st e h]
    | ok dec => rw [hok st dec h]; rfl
  · intro st
    cases h : (ask st.handler).1 with
    | error e => rw [herr st e h]
    | ok dec => rw [hok st dec h]; rfl
  · intro st st' hst
    cases h : (ask st.handler).1 with
    | error e =>
      rw [herr st e h, herr st' e (hst ▸ h), hst]
      exact ⟨rfl, rfl, rfl⟩
    | ok dec =>
      rw [hok st dec h, hok st' dec (hst ▸ h), hst]
      exact ⟨rfl, rfl, rfl⟩
  · intro st ac cont hmem
    have hone : .authenticate ac cont ∈ [call] := by
      cases h : (ask st.handler).1 with
      | error e => rw [herr st e h] at hmem; exact hmem
      | ok dec => rw [hok st dec h] at hmem; exact hmem
    exact hcall ac cont (List.mem_singleton.mp hone).symm
  · intro st
    cases h : (ask st.handler).1 with
    | error e => rw [herr st e h]; exact hfailed
    | ok dec => rw [hok st dec h]; exact encodeReply_hdr hdr _

theorem handleAuthor_aside (s : Server σ) (c : Conn) (hdr : Header) (body : Bytes) :
    Aside hdr fun st => handleAuthor s c st hdr body := by
  unfold handleAuthor
  cases AuthorRequest.unmarshalBinary body with
  | error e => exact Aside.unasked rfl
  | ok req =>
    dsimp only
    cases parseArguments req.args with
    | error e => exact Aside.unasked rfl
    | ok args =>
      dsimp only
      generalize hac : AuthorContext.mk _ _ _ _ _ _ _ _ _ _ _ = ac
      refine Aside.asked (s.cfg.handler.authorize ac) (.authorize ac) (sendAuthorError hdr)
        (fun dec => .authorStatus dec.status)
        (fun dec => AuthorReply.marshalBinary
          { status := dec.status, serverMsg := dec.serverMsg,
            args := dec.args.map Argument.string }) ?_ rfl ?_ ?_
      · intro ac' cont h
        cases h
      · intro st e h
        simp only [h]
      · intro st dec h
        simp only [h]

theorem handleAcct_aside (s : Server σ) (c : Conn) (hdr : Header) (body : Bytes) :
    Aside hdr fun st => handleAcct s c st hdr body := by
  unfold handleAcct
  cases AcctRequest.unmarshalBinary body with
  | error e => exact Aside.unasked rfl
  | ok req =>
    dsimp only
    by_cases hrec : AcctFlags.record req.flags = .invalid
    · simp only [if_pos hrec]
      exact Aside.unasked rfl
    simp only [if_neg hrec]
    cases parseArguments req.args with
    | error e => exact Aside.unasked rfl
    | ok args =>
      dsimp only
      generalize hac : AcctContext.mk _ _ _ _ _ _ _ _ _ _ _ _ = ac
      refine Aside.asked (s.cfg.handler.account ac) (.account ac) (sendAcctError hdr)
        (fun dec => .acctStatus dec.status)
        (fun dec => AcctReply.marshalBinary { status := dec.status, serverMsg := dec.serverMsg })
        ?_ rfl ?_ ?_
      · intro ac' cont h
        cases h
      · intro st e h
        simp only [h]
      · intro st dec h
        simp only [h]

/-- A packet of another type is handled aside from the registry. -/
theorem handle_aside (s : Server σ) (c : Conn) (t : Times) {p : Pkt}
    (hp : p.hdr.type ≠ packetAuthentication) : Aside p.hdr fun st => handle s c t st p := by
  unfold handle
  simp only [if_neg hp]
  by_cases h2 : p.hdr.type = packetAuthorization
  · simp only [if_pos h2]
    exact handleAuthor_aside s c p.hdr p.body
  by_cases h3 : p.hdr.type = packetAccounting
  · simp only [if_neg h2, if_pos h3]
    exact handleAcct_aside s c p.hdr p.body
  simp only [if_neg h2, if_neg h3]
  exact Aside.unasked rfl

/-- **The server is the family of its sessions**: a packet is a step of the one session it is
    addressed to. -/
theorem handle_acts (s : Server σ) (c : Conn) (t : Times) (st : State σ) (p : Pkt) :
    Acts st p.hdr.sessionID
      (react s c t st.handler (st.sessions.get p.hdr.sessionID) p) (handle s c t st p) := by
  unfold react
  by_cases hp : p.hdr.type = packetAuthentication
  · rw [if_pos hp]
    unfold handle
    rw [if_pos hp]
    exact handleAuthen_acts s c t st p.hdr p.body
  · rw [if_neg hp]
    have ha := handle_aside s c t hp
    obtain ⟨hh, hc, hr⟩ := ha.same st ⟨newSessionManager 0, st.handler⟩ rfl
    refine ⟨?_, ha.ttl st, hh, hc, hr⟩
    rw [Function.update_eq_self]
    exact ha.get st

/-- Who is asked about what: a call of `Authenticate` comes from an authentication packet, for
    its own session, and is about the START the packet carries or the one that was registered. -/
theorem authenticate_mem_handle {s : Server σ} {c : Conn} {t : Times} {st : State σ} {p : Pkt}
    {ac : AuthenContext} {cont : Option AuthenContinue}
    (h : .authenticate ac cont ∈ (handle s c t st p).calls) :
    p.hdr.type = packetAuthentication ∧
      ((∃ start, intake (st.sessions.get p.hdr.sessionID) p.hdr p.body = .opened start ∧
          ac = authenContext c p.hdr start ∧ cont = none) ∨
        ∃ sctx ct, intake (st.sessions.get p.hdr.sessionID) p.hdr p.body = .continued sctx ct ∧
          ac = authenContext c p.hdr sctx.start ∧ cont = some ct) := by
  by_cases hp : p.hdr.type = packetAuthentication
  · rw [(handle_acts s c t st p).calls] at h
    unfold react reactAuthen at h
    rw [if_pos hp] at h
    refine ⟨hp, ?_⟩
    cases hi : intake (st.sessions.get p.hdr.sessionID) p.hdr p.body with
    | refused => rw [hi] at h; cases h
    | outOfSequence => rw [hi] at h; cases h
    | opened start =>
      rw [hi] at h
      cases List.mem_singleton.mp h
      exact Or.inl ⟨start, rfl, rfl, rfl⟩
    | continued sctx ct =>
      rw [hi] at h
      cases List.mem_singleton.mp h
      exact Or.inr ⟨sctx, ct, rfl, rfl, rfl⟩
  · exact absurd h ((handle_aside s c t hp).noAuthen st ac cont)

/-! ## What is written -/

theorem replyTo_hdr (h : Header) (res : Except GoError AuthenDecision) :
    (replyTo h res).hdr = errorHeader h := by
  cases res with
  | error e => rfl
  | ok dec => exact encodeReply_hdr h _

theorem reactAuthen_reply_hdr (s : Server σ) (c : Conn) (t : Times) (h : σ)
    (entry : Option SessionContext) (hdr : Header) (body : Bytes) :
    (reactAuthen s c t h entry hdr body).reply.hdr = errorHeader hdr := by
  unfold reactAuthen
  cases intake entry hdr body with
  | refused => rfl
  | outOfSequence => rfl
  | opened start => exact replyTo_hdr hdr _
  | continued sctx cont => exact replyTo_hdr hdr _

/-- Whatever the packet, the reply echoes its header with the next sequence number. -/
theorem handle_reply_hdr (s : Server σ) (c : Conn) (t : Times) (st : State σ) (p : Pkt) :
    (handle s c t st p).reply.hdr = errorHeader p.hdr := by
  by_cases hp : p.hdr.type = packetAuthentication
  · rw [(handle_acts s c t st p).reply]
    unfold react
    rw [if_pos hp]
    exact reactAuthen_reply_hdr s c t _ _ p.hdr p.body
  · exact (handle_aside s c t hp).echo st

end Server
end Proof
end Tacacs
