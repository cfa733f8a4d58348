import Tacacs.Proof.Connection
import Tacacs.Proof.Server.Sequence

/-!
# An authentication is a conversation

`Authenticate` goes back and forth between the handler, at one end of a connection, and the
user at the other. `talk` is that conversation with nothing in between: the handler is told what
the user said, the user is told what the handler wants, until the handler has decided or the
numbers run out.

The client and the server each count packets, and the server keeps the session registered as
long as **it** finds the status open, while the client goes on as long as **it** does. `Waiting`
is the lockstep of the two: after `k` turns the session is registered, waiting for number
`2k + 1`, which is the number the client sends next. With it, `Authenticate` over a connection
is a `talk` (`interactive`).
-/

set_option autoImplicit false

namespace Tacacs
namespace Proof
namespace Connection

open GoSem Tacacs.Client Tacacs.Connection Tacacs.Protocol Tacacs.Transport
open Tacacs.Server hiding AuthenStart AuthenContinue
open Tacacs.Packet (Header AuthenStart AuthenContinue)
open Tacacs.Proof.Packet Tacacs.Proof.Server Tacacs.Proof.Transport

/-! ## The conversation -/

/-- The reply that carries an answer of the handler; an error is sent as a status. -/
def authenBody : Except GoError AuthenDecision → AuthenReply
  | .error _ => { status := authenStatusError }
  | .ok dec => replyBody dec

/-- An answer of the handler, as the caller is to see it: an error is the status ERROR, and FOLLOW
    is taken for FAIL. -/
def replyOf : Except GoError AuthenDecision → AuthenReply
  | .error _ => { status := authenStatusError }
  | .ok dec =>
      { status := if dec.status = authenStatusFollow then authenStatusFail else dec.status,
        flags := dec.flags, serverMsg := dec.serverMsg, data := dec.data }

/-- The answers that end a login. -/
def isDecision (status : AuthenStatus) : Bool :=
  [authenStatusPass, authenStatusFail, authenStatusError].contains status

/-- What the user said, as it is handed to the handler. -/
def continueOf (msg : GoString) : AuthenContinue := { userMsg := msg, data := [], flags := 0 }

/-- `NextSeq` after 255. -/
def outOfNumbers : GoError :=
  validationError "seq_no" "session must restart (reached 255)" .invalidSeqNo

/-- The error of a send after 255. The context is looked at first. -/
def unsentError {ν : Type} (l : Link ν) (x : ν) : Fault GoError :=
  .err ((l.ctxErr x).getD outOfNumbers)

theorem send_exhausted {ν : Type} (l : Link ν) (version : Version) (ptype : PacketType)
    (body : Bytes) {sess : Session} (x : ν) (h : 255 < sess.nextSeq) :
    send l version ptype body sess x
      = { res := .error (unsentError l x), sess, outside := x } := by
  have hnone : sess.nextSeqNo = .error outOfNumbers := if_pos h
  unfold send unsentError
  cases l.ctxErr x with
  | some err => rfl
  | none =>
    dsimp only
    rw [hnone]
    rfl

/-- A conversation: the calls of the handler, what the user was asked about and what they said,
    how it ended, and in which state it left the two. -/
structure Talk (σ τ : Type) where
  calls : List Call
  asked : List AuthenReply
  said : List GoString
  value : AuthenReply
  err : Option (Fault GoError)
  handler : σ
  user : τ

/-- The handler decides. -/
def Talk.decided {σ τ : Type} (call : Call) (r : AuthenReply) (hs : σ) (u : τ) : Talk σ τ :=
  { calls := [call], asked := [], said := [], value := r, err := none, handler := hs, user := u }

/-- The user is asked once more, and what they say cannot be sent. -/
def Talk.exhausted {σ τ : Type} (call : Call) (r : AuthenReply) (msg : GoString) (hs : σ) (u : τ) :
    Talk σ τ :=
  { calls := [call], asked := [r], said := [msg], value := r, err := some (.err outOfNumbers),
    handler := hs, user := u }

/-- One more turn before a conversation. -/
def Talk.after {σ τ : Type} (call : Call) (r : AuthenReply) (msg : GoString) (t : Talk σ τ) :
    Talk σ τ :=
  { t with calls := call :: t.calls, asked := r :: t.asked, said := msg :: t.said }

section Talk

variable {σ τ : Type} (h : Handler σ) (user : AuthenReply → τ → GoString × τ)
variable (context : Nat → AuthenContext)

/-- The conversation from its `k`-th turn on, counted from 0, when after this turn the client
    can send `left` more packets. -/
def talk : (left k : Nat) → Option AuthenContinue → σ → τ → Talk σ τ
  | 0, k, cont, hs, u =>
      let a := h.authenticate (context k) cont hs
      let r := replyOf a.1
      let b := user r u
      if isDecision r.status then .decided (.authenticate (context k) cont) r a.2 u
      -- `contFn` comes before `send`, so the user is asked although nothing can be sent
      else .exhausted (.authenticate (context k) cont) r b.1 a.2 b.2
  | left + 1, k, cont, hs, u =>
      let a := h.authenticate (context k) cont hs
      let r := replyOf a.1
      let b := user r u
      if isDecision r.status then .decided (.authenticate (context k) cont) r a.2 u
      else .after (.authenticate (context k) cont) r b.1
        (talk left (k + 1) (some (continueOf b.1)) a.2 b.2)

variable {h user context} {left k : Nat} {cont : Option AuthenContinue} {hs : σ} {u : τ}

theorem talk_terminal
    (ht : isDecision (replyOf (h.authenticate (context k) cont hs).1).status = true) :
    talk h user context left k cont hs u
      = .decided (.authenticate (context k) cont)
          (replyOf (h.authenticate (context k) cont hs).1)
          (h.authenticate (context k) cont hs).2 u := by
  cases left with
  | zero => exact if_pos ht
  | succ left => exact if_pos ht

theorem talk_zero
    (ht : isDecision (replyOf (h.authenticate (context k) cont hs).1).status = false) :
    let a := h.authenticate (context k) cont hs
    let b := user (replyOf a.1) u
    talk h user context 0 k cont hs u
      = .exhausted (.authenticate (context k) cont) (replyOf a.1) b.1 a.2 b.2 :=
  if_neg (ne_true_of_eq_false ht)

theorem talk_succ
    (ht : isDecision (replyOf (h.authenticate (context k) cont hs).1).status = false) :
    let a := h.authenticate (context k) cont hs
    let b := user (replyOf a.1) u
    talk h user context (left + 1) k cont hs u
      = .after (.authenticate (context k) cont) (replyOf a.1) b.1
          (talk h user context left (k + 1) (some (continueOf b.1)) a.2 b.2) :=
  if_neg (ne_true_of_eq_false ht)

/-- **Induction over conversations.** What holds of a last turn, and of a conversation with one
    more turn before it, holds of every conversation. -/
theorem talk_induction {P : Nat → Nat → Option AuthenContinue → Talk σ τ → Prop}
    (decided : ∀ left k cont r hs u, isDecision r.status = true →
      P left k cont (.decided (.authenticate (context k) cont) r hs u))
    (exhausted : ∀ k cont r msg hs u, isDecision r.status = false →
      P 0 k cont (.exhausted (.authenticate (context k) cont) r msg hs u))
    (turn : ∀ left k cont r msg t, isDecision r.status = false →
      P left (k + 1) (some (continueOf msg)) t →
      P (left + 1) k cont (.after (.authenticate (context k) cont) r msg t)) :
    P left k cont (talk h user context left k cont hs u) := by
  induction left generalizing k cont hs u with
  | zero =>
    cases ht : isDecision (replyOf (h.authenticate (context k) cont hs).1).status with
    | true => rw [talk_terminal ht]; exact decided _ _ _ _ _ _ ht
    | false => rw [talk_zero ht]; exact exhausted _ _ _ _ _ _ ht
  | succ left ih =>
    cases ht : isDecision (replyOf (h.authenticate (context k) cont hs).1).status with
    | true => rw [talk_terminal ht]; exact decided _ _ _ _ _ _ ht
    | false => rw [talk_succ ht]; exact turn _ _ _ _ _ _ ht ih

/-- How a conversation can end: with a decision of the handler, after which nobody is asked, or
    for want of numbers, after one question too many. -/
inductive Ends (left : Nat) (t : Talk σ τ) : Prop where
  | decided : t.err = none → isDecision t.value.status = true → t.calls.length ≤ left + 1 →
      t.asked.length + 1 = t.calls.length → Ends left t
  | exhausted : t.err = some (.err outOfNumbers) → t.calls.length = left + 1 →
      t.asked.length = t.calls.length → Ends left t

theorem talk_ends : Ends left (talk h user context left k cont hs u) := by
  refine talk_induction (P := fun left _ _ t => Ends left t) ?_ ?_ ?_
  · intro left k cont r hs u hr
    exact .decided rfl hr (Nat.le_add_left _ _) rfl
  · intro k cont r msg hs u hr
    exact .exhausted rfl rfl rfl
  · intro left k cont r msg t hr ih
    cases ih with
    | decided he hv hc ha => exact .decided he hv (Nat.succ_le_succ hc) (congrArg Nat.succ ha)
    | exhausted he hc ha => exact .exhausted he (congrArg Nat.succ hc) (congrArg Nat.succ ha)

theorem talk_calls_pos : 0 < (talk h user context left k cont hs u).calls.length := by
  have hends : Ends left (talk h user context left k cont hs u) := talk_ends
  cases hends with
  | decided _ _ _ hasked => omega
  | exhausted _ hcalls _ => omega

end Talk

/-! ## What the client makes of an answer -/

/-- An answer that can be sent, and that does not ask for a RESTART. -/
def Sayable (a : Except GoError AuthenDecision) : Prop :=
  (authenBody a).serverMsg.length + (authenBody a).data.length ≤ 65530 ∧
    (authenBody a).status ≠ authenStatusRestart

theorem exists_authenBody {a : Except GoError AuthenDecision} (h : Sayable a) :
    ∃ b, (authenBody a).marshalBinary = .ok b ∧ b.length ≤ maxPacketSize ∧ b ≠ [] := by
  have hsum := h.1
  refine exists_body_of_length authenReply_realises ⟨by omega, by omega⟩ (List.cons_ne_nil _ _) ?_
  rw [length_authenReply_bytes, maxPacketSize]
  omega

theorem replyOf_eq (a : Except GoError AuthenDecision) :
    replyOf a = { authenBody a with status := normalizeAuthenStatus (authenBody a).status } := by
  cases a with
  | error e => rfl
  | ok dec => rfl

/-- The client ends a login where it is to be ended. -/
theorem isTerminal_eq_isDecision (status : AuthenStatus) :
    isTerminal status = isDecision status := by
  simp [isTerminal, isDecision, Bool.or_assoc, beq_eq_decide]

theorem authenReply_delivered (d : Conn) (hdr : Header) {a : Except GoError AuthenDecision}
    {rb : Bytes} (hrb : (authenBody a).marshalBinary = .ok rb)
    (hlen : rb.length ≤ maxPacketSize) (hne : rb ≠ []) :
    authenReply (delivered d (writeReply hdr rb)) = .ok (replyOf a) := by
  have hdec : Packet.AuthenReply.unmarshalBinary (delivered d (writeReply hdr rb)).body
      = .ok (authenBody a) := authenReply_realises.decode_encode hrb
  unfold authenReply
  rw [if_neg (delivered_length_ne_zero d hlen hne), hdec, replyOf_eq]
  rfl

theorem replyOf_ne_restart {a : Except GoError AuthenDecision}
    (h : (authenBody a).status ≠ authenStatusRestart) :
    (replyOf a).status ≠ authenStatusRestart := by
  rw [replyOf_eq]
  show normalizeAuthenStatus (authenBody a).status ≠ authenStatusRestart
  unfold normalizeAuthenStatus
  by_cases hf : (authenBody a).status = authenStatusFollow
  · rw [if_pos hf]; decide
  · rw [if_neg hf]; exact h

/-- Where the client goes on, the server has kept the session. The other way round it may not
    be so: the server keeps a session whose status is FOLLOW, and the client ends there. -/
theorem staysOpen_of_not_terminal {a : Except GoError AuthenDecision}
    (h : isDecision (replyOf a).status = false) : staysOpen a = true := by
  cases a with
  | error e => cases h
  | ok dec =>
    by_cases hf : dec.status = authenStatusFollow
    · rw [replyOf, if_pos hf] at h
      cases h
    · rw [replyOf, if_neg hf, ← isTerminal_eq_isDecision] at h
      show (!endsSession dec.status) = true
      rw [show endsSession dec.status = false from h]
      rfl

/-! ## What the server does with a turn -/

section Lockstep

variable {σ τ : Type} {s : Server σ} {d : Conn} {req : AuthenStart} {id : UInt32}

/-- What the handler is called with in the `k`-th turn. -/
def turnContext (d : Conn) (id : UInt32) (req : AuthenStart) (k : Nat) : AuthenContext :=
  { sessionID := id, seqNo := UInt8.ofNat (2 * k + 1), start := req, remoteAddr := d.remoteAddr }

/-- After `k` turns, the last of which ended at time `last`: the session is registered, and
    waits for number `2k + 1`. -/
def Waiting (req : AuthenStart) (id : UInt32) (k : Nat) (last : Int) (sm : SessionManager) :
    Prop :=
  ∃ e, sm.get id = some e ∧ e.start = req ∧ e.lastOutboundSeq = UInt8.ofNat (2 * k) ∧
    e.lastActive = last

/-- What the sweeper leaves of a session in several runs. -/
theorem get_sweepAll (st : State σ) (nows : List Int) (id : UInt32) :
    (sweepAll st nows).sessions.get id
      = (st.sessions.get id).filter fun e => nows.all fun now => live st.sessions.ttl now e := by
  unfold sweepAll
  induction nows generalizing st with
  | nil =>
    show st.sessions.get id = _
    cases st.sessions.get id with
    | none => rfl
    | some e => rfl
  | cons now nows ih =>
    rw [List.foldl_cons, ih]
    dsimp only
    rw [ttl_sweepExpired, get_sweepExpired, Option.filter_filter]
    simp only [List.all_cons]

theorem ttl_sweepAll (st : State σ) (nows : List Int) :
    (sweepAll st nows).sessions.ttl = st.sessions.ttl := by
  unfold sweepAll
  induction nows generalizing st with
  | nil => rfl
  | cons now nows ih =>
    rw [List.foldl_cons, ih]
    exact ttl_sweepExpired _ now

/-- A session that has not expired is left alone by the sweeper. -/
theorem Waiting.kept {k : Nat} {last : Int} {st : State σ} (h : Waiting req id k last st.sessions)
    {nows : List Int} (hnows : ∀ now ∈ nows, now - last ≤ st.sessions.ttl) :
    Waiting req id k last (sweepAll st nows).sessions := by
  obtain ⟨e, hget, hstart, hseq, hlast⟩ := h
  refine ⟨e, ?_, hstart, hseq, hlast⟩
  rw [get_sweepAll, hget, Option.filter_some_pos]
  simpa [live, hlast] using hnows

/-- One that has expired when the sweeper runs is forgotten. -/
theorem Waiting.forgotten {k : Nat} {last : Int} {st : State σ}
    (h : Waiting req id k last st.sessions) {nows : List Int} {now : Int} (hnow : now ∈ nows)
    (hexpired : st.sessions.ttl < now - last) : (sweepAll st nows).sessions.get id = none := by
  obtain ⟨e, hget, -, -, hlast⟩ := h
  rw [get_sweepAll, hget, Option.filter_some_neg]
  rw [List.all_eq_false]
  exact ⟨now, hnow, by simp [live, hlast, hexpired]⟩

/-- Below 256 the byte is the number, so only the START is number 1. -/
theorem later_ne_one {k : Nat} (hk : k + 1 < 128) : UInt8.ofNat (2 * (k + 1) + 1) ≠ 1 := by
  intro h1
  have hmod : (2 * (k + 1) + 1) % 2 ^ 8 = 1 := by
    rw [← UInt8.toNat_ofNat', h1]
    rfl
  omega

/-- `p` is the `k`-th packet of the session, and carries `cont`: the START, or what the server
    is waiting for. -/
inductive Carries (req : AuthenStart) (id : UInt32) (sm : SessionManager) :
    Nat → Option AuthenContinue → Pkt → Prop where
  | start {p : Pkt} : p.hdr.type = packetAuthentication → p.hdr.sessionID = id →
      p.hdr.seqNo = 1 → req.marshalBinary = .ok p.body → Carries req id sm 0 none p
  | cont {k : Nat} {last : Int} {cont : AuthenContinue} {p : Pkt} :
      p.hdr.type = packetAuthentication → p.hdr.sessionID = id →
      p.hdr.seqNo = UInt8.ofNat (2 * (k + 1) + 1) → k + 1 < 128 →
      cont.marshalBinary = .ok p.body → Waiting req id (k + 1) last sm →
      Carries req id sm (k + 1) (some cont) p

theorem Carries.seqNo {sm : SessionManager} {k : Nat} {cont : Option AuthenContinue} {p : Pkt}
    (h : Carries req id sm k cont p) : p.hdr.seqNo = UInt8.ofNat (2 * k + 1) := by
  cases h with
  | start _ _ hseq _ => rw [hseq]; rfl
  | cont _ _ hseq _ _ _ => exact hseq

theorem Carries.sessionID {sm : SessionManager} {k : Nat} {cont : Option AuthenContinue}
    {p : Pkt} (h : Carries req id sm k cont p) : p.hdr.sessionID = id := by
  cases h with
  | start _ hid _ _ => exact hid
  | cont _ hid _ _ _ _ => exact hid

/-- Such a packet is put to the handler. -/
theorem Carries.answered {st : State σ} {k : Nat} {cont : Option AuthenContinue} {p : Pkt}
    (h : Carries req id st.sessions k cont p) (t : Times) :
    ∃ sctx, sctx.start = req ∧
      react s d t st.handler (st.sessions.get p.hdr.sessionID) p
        = answered s d t st.handler p.hdr sctx req cont := by
  unfold react reactAuthen intake
  cases h with
  | start htype hid hseq hb =>
    rw [if_pos htype, if_pos hseq, authenStart_realises.decode_encode hb]
    exact ⟨openedSession d t p.hdr req, rfl, rfl⟩
  | @cont k last cont p htype hid hseq hk hb hwait =>
    obtain ⟨e, hget, hstart, hlast, -⟩ := hwait
    have hne : p.hdr.seqNo ≠ 1 := hseq ▸ later_ne_one hk
    have hnext : validateNextSeqNo p.hdr.seqNo e.lastOutboundSeq = .ok () := by
      rw [validateNextSeqNo_ok, hseq, hlast, UInt8.ofNat_add]
      rfl
    rw [if_pos htype, if_neg hne, hid, hget]
    dsimp only
    rw [hnext]
    dsimp only
    rw [authenContinue_realises.decode_encode hb]
    refine ⟨e, hstart, ?_⟩
    rw [← hstart]

/-- **One turn.** The handler is asked once, its answer is the reply, and if the session stays
    open it waits for the next number. -/
theorem handle_turn {st : State σ} {k : Nat} {cont : Option AuthenContinue} {p : Pkt}
    (h : Carries req id st.sessions k cont p) (t : Times) :
    let a := s.cfg.handler.authenticate (turnContext d id req k) cont st.handler
    Asked (handle s d t st p) a.2 (.authenticate (turnContext d id req k) cont)
        (replyTo p.hdr a.1) ∧
      (handle s d t st p).st.sessions.ttl = st.sessions.ttl ∧
      (staysOpen a.1 = true → Waiting req id (k + 1) t.later (handle s d t st p).st.sessions) := by
  intro a
  obtain ⟨sctx, hstart, hreact⟩ := h.answered (s := s) (d := d) t
  have hid := h.sessionID
  have hseq := h.seqNo
  have hacts := handle_acts s d t st p
  rw [hreact] at hacts
  have hac : authenContext d p.hdr req = turnContext d id req k := by
    unfold authenContext turnContext
    rw [hid, hseq]
  have hans : answered s d t st.handler p.hdr sctx req cont
      = { entry := if staysOpen a.1 then
                     some { sctx with lastActive := t.later, lastOutboundSeq := p.hdr.seqNo + 1 }
                   else none,
          handler := a.2, calls := [.authenticate (turnContext d id req k) cont],
          reply := replyTo p.hdr a.1 } := by
    unfold answered
    rw [hac]
  rw [hans] at hacts
  refine ⟨⟨hacts.handler, hacts.calls, hacts.reply⟩, hacts.ttl, ?_⟩
  intro hopen
  refine ⟨{ sctx with lastActive := t.later, lastOutboundSeq := p.hdr.seqNo + 1 }, ?_, hstart, ?_,
    rfl⟩
  · rw [← hid, hacts.get_self]
    exact if_pos hopen
  · show p.hdr.seqNo + 1 = UInt8.ofNat (2 * (k + 1))
    rw [hseq, Nat.mul_add, UInt8.ofNat_add, UInt8.ofNat_add, UInt8.add_assoc]
    rfl

/-- A CONTINUE of a session that is not registered is refused, and the handler is not asked. -/
theorem handle_forgotten {st : State σ} {p : Pkt} (htype : p.hdr.type = packetAuthentication)
    (hseq : p.hdr.seqNo ≠ 1) (hget : st.sessions.get p.hdr.sessionID = none) (t : Times) :
    handle s d t st p = { st, reply := sendGenericError p.hdr } := by
  unfold handle handleAuthen
  rw [if_pos htype, if_neg hseq, hget]

end Lockstep

/-! ## The two together -/

/-- The user was asked about `r`. -/
def told {σ τ : Type} (user : AuthenReply → τ → GoString × τ) (r : AuthenReply)
    (x : Pipe σ τ) : Pipe σ τ :=
  { x with user := (user r x.user).2, asked := x.asked ++ [r] }

/-- A call that went as the conversation `t`, `x` being the outside before it. -/
structure Went {σ τ : Type} (x : Pipe σ τ) (t : Talk σ τ) (o : Outcome AuthenReply (Pipe σ τ)) :
    Prop where
  value : o.value = t.value
  err : o.err = t.err
  calls : o.outside.calls = x.calls ++ t.calls
  asked : o.outside.asked = x.asked ++ t.asked
  turns : o.outside.turns = x.turns + t.calls.length
  handler : o.outside.st.handler = t.handler
  user : o.outside.user = t.user

section Loop

variable {σ τ : Type} (s : Server σ) (md5 : Crypto.Md5) {c d : Conn} (clock : Clock)
variable (hmode : d.mode = c.mode) (hsecret : d.secret = c.secret)
variable {version : Version} (hv : Version.valid version = true)
variable {user : AuthenReply → τ → GoString × τ} {x : Pipe σ τ} {sess : Session}

theorem replyTo_eq {hdr : Header} {a : Except GoError AuthenDecision} {rb : Bytes}
    (h : (authenBody a).marshalBinary = .ok rb) : replyTo hdr a = writeReply hdr rb := by
  cases a with
  | error e => exact congrArg (fun b => writeReply hdr (bytesOrNil b)) h
  | ok dec => exact congrArg (encodeReply hdr) h

include hmode hsecret in
/-- A round in which the answer `a` comes in. -/
theorem round_connect {contFn : Option (ContFn (Pipe σ τ))} {r : Handled σ} {hdr : Header}
    (hver : Version.valid hdr.version = true) {a : Except GoError AuthenDecision} (ha : Sayable a)
    (hreply : r.reply = replyTo hdr a) :
    authenticateRound (connect s md5 c d clock) contFn version sess
        (answeredWith d x r (frame md5 d r.reply))
      = if isDecision (replyOf a).status then
          .done { value := replyOf a, err := none, sess, outside := answeredWith d x r [] }
        else authenticateContinue (connect s md5 c d clock) contFn version
          (replyOf a) sess (answeredWith d x r []) := by
  obtain ⟨rb, hrb, hlen, hne⟩ := exists_authenBody ha
  have hreply : r.reply = writeReply hdr rb := hreply.trans (replyTo_eq hrb)
  have hsend : Sendable r.reply := by
    rw [hreply]
    exact ⟨hver, hlen⟩
  have hrestart : (replyOf a).status ≠ authenStatusRestart := replyOf_ne_restart ha.2
  unfold authenticateRound
  dsimp only
  rw [connect_read s md5 clock hmode hsecret hsend, hreply]
  dsimp only
  rw [authenReply_delivered d hdr hrb hlen hne]
  dsimp only
  rw [isTerminal_eq_isDecision, if_neg hrestart]

include hmode hsecret in
/-- If the server refuses the packet, that is the end of the loop. -/
theorem loop_refused {contFn : Option (ContFn (Pipe σ τ))} {r : Handled σ} {hdr : Header}
    (hver : Version.valid hdr.version = true) (hreply : r.reply = sendGenericError hdr) :
    authenticateLoop (connect s md5 c d clock) contFn version sess
        (answeredWith d x r (frame md5 d r.reply))
      = { value := { status := 0 }, err := some (.err (errorPacket "authen")), sess,
          outside := answeredWith d x r [] } := by
  have hsend : Sendable r.reply := by
    rw [hreply]
    exact ⟨hver, Nat.zero_le _⟩
  have hempty : authenReply (delivered d (sendGenericError hdr)) = fail (errorPacket "authen") :=
    if_pos rfl
  apply authenticateLoop_done
  unfold authenticateRound
  dsimp only
  rw [connect_read s md5 clock hmode hsecret hsend, hreply]
  dsimp only
  rw [hempty]
  rfl

theorem exists_continueBody {msg : GoString} (h : msg.length ≤ 65531) :
    ∃ cb, (continueOf msg).marshalBinary = .ok cb ∧ cb.length ≤ maxPacketSize := by
  have hlen : (authenContinueFormat.bytes (continueOf msg)).length ≤ maxPacketSize := by
    rw [length_authenContinue_bytes, maxPacketSize]
    show 5 + msg.length + 0 ≤ 65536
    omega
  obtain ⟨cb, hcb, hle, -⟩ := exists_body_of_length authenContinue_realises
    ⟨by show msg.length ≤ 0xffff; omega, Nat.zero_le _⟩ (List.cons_ne_nil _ _) hlen
  exact ⟨cb, hcb, hle⟩

/-- The user answers, and the answer is sent. -/
theorem continue_asking {l : Link (Pipe σ τ)} {r : AuthenReply} {cb : Bytes}
    (hcb : (continueOf (user r x.user).1).marshalBinary = .ok cb) :
    authenticateContinue l (some (asking user)) version r sess x =
      let s := send l version packetAuthentication cb sess (told user r x)
      match s.res with
      | .error f => .done { value := r, err := some f, sess := s.sess, outside := s.outside }
      | .ok () => .again s.sess s.outside := by
  unfold authenticateContinue asking
  dsimp only
  unfold continueOf at hcb
  rw [hcb]
  rfl

include hmode hsecret hv in
/-- The user answers, and there is a number to send it with. -/
theorem continue_connect (hx : Idle d x) {r : AuthenReply}
    (hmsg : (user r x.user).1.length ≤ 65531) (hs : sess.nextSeq ≤ 255) :
    ∃ cb, (continueOf (user r x.user).1).marshalBinary = .ok cb ∧
      let r' := handleNext s d clock (told user r x)
        (incoming c version packetAuthentication sess cb)
      authenticateContinue (connect s md5 c d clock) (some (asking user)) version r sess x
        = .again { sess with nextSeq := sess.nextSeq + 2 }
            (answeredWith d (told user r x) r' (frame md5 d r'.reply)) := by
  obtain ⟨cb, hcb, hlen⟩ := exists_continueBody hmsg
  have hidle : Idle d (told user r x) := ⟨hx.toServer, hx.toClient, hx.loop⟩
  refine ⟨cb, hcb, ?_⟩
  have hsend := connect_send s md5 clock hmode hsecret hidle hv packetAuthentication hlen hs
  dsimp only at hsend ⊢
  rw [continue_asking hcb, hsend]

/-- The user answers, and there is none. -/
theorem continue_exhausted {r : AuthenReply} (hmsg : (user r x.user).1.length ≤ 65531)
    (hs : 255 < sess.nextSeq) :
    authenticateContinue (connect s md5 c d clock) (some (asking user)) version r sess x
      = .done { value := r, err := some (.err outOfNumbers), sess, outside := told user r x } := by
  obtain ⟨cb, hcb, -⟩ := exists_continueBody hmsg
  rw [continue_asking hcb, send_exhausted _ _ _ cb _ hs]
  rfl

variable {req : AuthenStart} {id : UInt32} {ttl : Int}

/-- The `k`-th packet, as it finds the server after the sweeper has run. -/
def NextCarries (clock : Clock) (req : AuthenStart) (id : UInt32) (x : Pipe σ τ) (k : Nat)
    (cont : Option AuthenContinue) (p : Pkt) : Prop :=
  Carries req id (sweepAll x.st (clock.sweeps x.turns)).sessions k cont p

/-- What the server does with it. -/
theorem handleNext_turn {k : Nat} {cont : Option AuthenContinue} {p : Pkt}
    (h : NextCarries clock req id x k cont p) :
    let a := s.cfg.handler.authenticate (turnContext d id req k) cont x.st.handler
    let r := handleNext s d clock x p
    Asked r a.2 (.authenticate (turnContext d id req k) cont) (replyTo p.hdr a.1) ∧
      r.st.sessions.ttl = x.st.sessions.ttl ∧
      (staysOpen a.1 = true →
        Waiting req id (k + 1) (clock.times x.turns).later r.st.sessions) := by
  intro a r
  obtain ⟨hasked, httl, hwait⟩ := handle_turn (s := s) (d := d) h (clock.times x.turns)
  rw [sweepAll_handler] at hasked hwait
  exact ⟨hasked, httl.trans (ttl_sweepAll _ _), hwait⟩

/-! What the loop makes of a reply that is about to be read: it carries the answer `a`. -/

section Reply

variable {r : Handled σ} {hdr : Header} (hver : Version.valid hdr.version = true)
variable {a : Except GoError AuthenDecision × σ} (ha : Sayable a.1) {call : Call}
variable (hr : Asked r a.2 call (replyTo hdr a.1))

include hmode hsecret hver ha hr

theorem loop_terminal (ht : isDecision (replyOf a.1).status = true) :
    Went x (.decided call (replyOf a.1) a.2 x.user)
      (authenticateLoop (connect s md5 c d clock) (some (asking user)) version sess
        (answeredWith d x r (frame md5 d r.reply))) := by
  rw [authenticateLoop_done ((round_connect s md5 clock hmode hsecret hver ha hr.reply).trans
    (if_pos ht))]
  refine ⟨rfl, rfl, ?_, (List.append_nil _).symm, rfl, hr.handler, rfl⟩
  show x.calls ++ r.calls = x.calls ++ [call]
  rw [hr.calls]

variable (version user x sess) in
/-- The reply is not the end: the user is asked. -/
theorem round_open (ht : isDecision (replyOf a.1).status = false) :
    authenticateRound (connect s md5 c d clock) (some (asking user)) version sess
        (answeredWith d x r (frame md5 d r.reply))
      = authenticateContinue (connect s md5 c d clock) (some (asking user)) version
          (replyOf a.1) sess (answeredWith d x r []) :=
  (round_connect s md5 clock hmode hsecret hver ha hr.reply).trans
    (if_neg (ne_true_of_eq_false ht))

theorem loop_exhausted (ht : isDecision (replyOf a.1).status = false)
    (hmsg : (user (replyOf a.1) x.user).1.length ≤ 65531) (hs : 255 < sess.nextSeq) :
    Went x (.exhausted call (replyOf a.1) (user (replyOf a.1) x.user).1 a.2
        (user (replyOf a.1) x.user).2)
      (authenticateLoop (connect s md5 c d clock) (some (asking user)) version sess
        (answeredWith d x r (frame md5 d r.reply))) := by
  have hround := round_open s md5 clock hmode hsecret version user x sess hver ha hr ht
  rw [authenticateLoop_done (hround.trans (continue_exhausted s md5 clock hmsg hs))]
  refine ⟨rfl, rfl, ?_, rfl, rfl, hr.handler, rfl⟩
  show x.calls ++ r.calls = x.calls ++ [call]
  rw [hr.calls]

include hv in
theorem loop_again (ht : isDecision (replyOf a.1).status = false)
    (hmsg : (user (replyOf a.1) x.user).1.length ≤ 65531) (hs : sess.nextSeq ≤ 255) :
    ∃ cb, (continueOf (user (replyOf a.1) x.user).1).marshalBinary = .ok cb ∧
      let y := told user (replyOf a.1) (answeredWith d x r [])
      let r' := handleNext s d clock y (incoming c version packetAuthentication sess cb)
      authenticateLoop (connect s md5 c d clock) (some (asking user)) version sess
          (answeredWith d x r (frame md5 d r.reply))
        = authenticateLoop (connect s md5 c d clock) (some (asking user)) version
            { sess with nextSeq := sess.nextSeq + 2 }
            (answeredWith d y r' (frame md5 d r'.reply)) := by
  obtain ⟨cb, hcb, hcont⟩ :=
    continue_connect s md5 clock hmode hsecret hv (idle_answeredWith d x r) hmsg hs
  have hround := round_open s md5 clock hmode hsecret version user x sess hver ha hr ht
  exact ⟨cb, hcb, authenticateLoop_again (hround.trans hcont)⟩

end Reply

/-- One more turn before a conversation. -/
theorem went_after_iff {r : Handled σ} {hs : σ} {call : Call} {reply : Pkt} {rep : AuthenReply}
    {msg : GoString} {t : Talk σ τ} {o : Outcome AuthenReply (Pipe σ τ)}
    (hr : Asked r hs call reply) :
    Went x (t.after call rep msg) o ↔ Went (told user rep (answeredWith d x r [])) t o := by
  have hcalls : x.calls ++ call :: t.calls = x.calls ++ r.calls ++ t.calls := by
    rw [hr.calls, List.append_assoc, List.singleton_append]
  have hasked : x.asked ++ rep :: t.asked = x.asked ++ [rep] ++ t.asked := by
    rw [List.append_assoc, List.singleton_append]
  have hturns : x.turns + (t.calls.length + 1) = x.turns + 1 + t.calls.length := by omega
  constructor
  · intro h
    exact ⟨h.value, h.err, h.calls.trans hcalls, h.asked.trans hasked, h.turns.trans hturns,
      h.handler, h.user⟩
  · intro h
    exact ⟨h.value, h.err, h.calls.trans hcalls.symm, h.asked.trans hasked.symm,
      h.turns.trans hturns.symm, h.handler, h.user⟩

/-- Between two turns of the conversation `t`, the first of which is number `first`, no run of the
    sweeper finds the session idle for longer than `ttl`. -/
def Unexpired (clock : Clock) (ttl : Int) (first : Nat) (t : Talk σ τ) : Prop :=
  ∀ n, first ≤ n → n + 1 < first + t.calls.length →
    ∀ now ∈ clock.sweeps (n + 1), now - (clock.times n).later ≤ ttl

theorem unexpired_single {first : Nat} {t : Talk σ τ} (h : t.calls.length = 1) :
    Unexpired clock ttl first t := by
  intro n hfirst hlt
  omega

theorem unexpired_after_iff {first : Nat} {call : Call} {rep : AuthenReply} {msg : GoString}
    {t : Talk σ τ} (h : 0 < t.calls.length) :
    Unexpired clock ttl first (t.after call rep msg) ↔
      (∀ now ∈ clock.sweeps (first + 1), now - (clock.times first).later ≤ ttl) ∧
        Unexpired clock ttl (first + 1) t := by
  have hlength : (t.after call rep msg).calls.length = t.calls.length + 1 := rfl
  unfold Unexpired
  rw [hlength]
  constructor
  · intro hun
    exact ⟨hun first (Nat.le_refl _) (by omega),
      fun n hfirst hlt => hun n (by omega) (by omega)⟩
  · rintro ⟨hhead, htail⟩ n hfirst hlt
    by_cases hn : n = first
    · rw [hn]
      exact hhead
    · exact htail n (by omega) (by omega)

/-- `o` went as the conversation `t`, if the session lives that long; if it does not, the server
    refuses a packet. -/
def Conversed (clock : Clock) (ttl : Int) (x : Pipe σ τ) (t : Talk σ τ)
    (o : Outcome AuthenReply (Pipe σ τ)) : Prop :=
  (Unexpired clock ttl x.turns t → Went x t o) ∧
    (¬Unexpired clock ttl x.turns t → o.err = some (.err (errorPacket "authen")))

theorem Conversed.single {t : Talk σ τ} {o : Outcome AuthenReply (Pipe σ τ)} (h : Went x t o)
    (ht : t.calls.length = 1) : Conversed clock ttl x t o :=
  ⟨fun _ => h, fun hnot => absurd (unexpired_single clock ht) hnot⟩

include hmode hsecret hv in
/-- **The loop of `Authenticate` is a conversation.** By induction on how many packets can still
    be sent; the `k`-th has been, and its reply has not been read. -/
theorem loop_conversed (hdec : ∀ ac cont hs, Sayable (s.cfg.handler.authenticate ac cont hs).1)
    (huser : ∀ r u, (user r u).1.length ≤ 65531)
    {left k : Nat} (hk : k + left = 127) {cont : Option AuthenContinue} {body : Bytes}
    (httl : x.st.sessions.ttl = ttl)
    (hcarries : NextCarries clock req id x k cont
      (incoming c version packetAuthentication ⟨id, .client, 2 * k + 1⟩ body)) :
    let r := handleNext s d clock x
      (incoming c version packetAuthentication ⟨id, .client, 2 * k + 1⟩ body)
    let t := talk s.cfg.handler user (turnContext d id req) left k cont x.st.handler x.user
    Conversed clock ttl x t
      (authenticateLoop (connect s md5 c d clock) (some (asking user)) version
        ⟨id, .client, 2 * k + 3⟩ (answeredWith d x r (frame md5 d r.reply))) := by
  induction left generalizing k cont body x with
  | zero =>
    intro r t
    obtain ⟨hasked, -, -⟩ := handleNext_turn s (d := d) clock hcarries
    have ha := hdec (turnContext d id req k) cont x.st.handler
    cases ht : isDecision (replyOf
        (s.cfg.handler.authenticate (turnContext d id req k) cont x.st.handler).1).status with
    | true =>
      rw [show t = _ from talk_terminal ht]
      exact .single clock (loop_terminal s md5 clock hmode hsecret hv ha hasked ht) rfl
    | false =>
      have hs : 255 < 2 * k + 3 := by omega
      rw [show t = _ from talk_zero ht]
      exact .single clock
        (loop_exhausted s md5 clock hmode hsecret hv ha hasked ht (huser _ _) hs) rfl
  | succ left ih =>
    intro r t
    obtain ⟨hasked, httl', hwait⟩ := handleNext_turn s (d := d) clock hcarries
    have ha := hdec (turnContext d id req k) cont x.st.handler
    cases ht : isDecision (replyOf
        (s.cfg.handler.authenticate (turnContext d id req k) cont x.st.handler).1).status with
    | true =>
      rw [show t = _ from talk_terminal ht]
      exact .single clock (loop_terminal s md5 clock hmode hsecret hv ha hasked ht) rfl
    | false =>
      have hs : (⟨id, .client, 2 * k + 3⟩ : Session).nextSeq ≤ 255 := by
        show 2 * k + 3 ≤ 255
        omega
      obtain ⟨cb, hcb, hagain⟩ := loop_again s md5 clock hmode hsecret (x := x) hv hv ha hasked ht
        (huser _ _) hs
      have hwaiting := hwait (staysOpen_of_not_terminal ht)
      let y := told user (replyOf (s.cfg.handler.authenticate (turnContext d id req k) cont
        x.st.handler).1) (answeredWith d x r [])
      rw [show t = _ from talk_succ ht, hagain, Conversed, went_after_iff hasked,
        unexpired_after_iff clock talk_calls_pos]
      by_cases halive : ∀ now ∈ clock.sweeps (x.turns + 1),
          now - (clock.times x.turns).later ≤ ttl
      · -- the session is registered, and the sweeper finds it alive
        have hcarries' := Carries.cont (p := incoming c version packetAuthentication
            ⟨id, .client, 2 * (k + 1) + 1⟩ cb) rfl rfl rfl (by omega) hcb
          (hwaiting.kept fun now hnow => (halive now hnow).trans_eq (httl'.trans httl).symm)
        have hnext := ih (x := y) (by omega) (httl'.trans httl) hcarries'
        rw [show y.st.handler = _ from hasked.handler] at hnext
        rw [and_iff_right halive]
        exact hnext
      · -- the sweeper has forgotten it, so the answer of the user is refused
        obtain ⟨now, hnow, hexpired⟩ : ∃ now ∈ clock.sweeps (x.turns + 1),
            ¬now - (clock.times x.turns).later ≤ ttl := by
          simpa only [not_forall, exists_prop] using halive
        have hgone := hwaiting.forgotten hnow
          (by rw [httl'.trans httl]; exact lt_of_not_ge hexpired)
        have hrefused := handle_forgotten (s := s) (d := d)
          (p := incoming c version packetAuthentication ⟨id, .client, 2 * (k + 1) + 1⟩ cb) rfl
          (later_ne_one (by omega)) hgone (clock.times y.turns)
        refine ⟨fun h => absurd h.1 halive, fun _ => ?_⟩
        exact congrArg Outcome.err
          (loop_refused s md5 clock hmode hsecret hv (congrArg Handled.reply hrefused))

end Loop

/-- `Authenticate` after its START is out. -/
theorem authenticate_sent {ν : Type} {l : Link ν} {contFn : Option (ContFn ν)}
    {req : AuthenRequest} {sess sess' : Session} {x x' : ν} {sb : Bytes}
    (hsb : req.marshalBinary = .ok sb)
    (hsend : send l (majorVersion <<< 4 ||| minorVersionFor req.type) packetAuthentication sb sess x
      = { res := .ok (), sess := sess', outside := x' }) :
    authenticate l contFn req sess x
      = authenticateLoop l contFn (majorVersion <<< 4 ||| minorVersionFor req.type) sess' x' := by
  unfold authenticate
  rw [hsb]
  dsimp only
  rw [hsend]

theorem version_valid (type : AuthenType) :
    Version.valid (majorVersion <<< 4 ||| minorVersionFor type) = true := by
  unfold minorVersionFor
  split <;> rfl

theorem exists_startBody {req : AuthenStart} (h : authenStartFormat.Fits req) :
    ∃ sb, req.marshalBinary = .ok sb ∧ sb.length ≤ maxPacketSize := by
  obtain ⟨sb, hsb, hle, -⟩ := exists_body_of_length authenStart_realises h
    (List.cons_ne_nil _ _) ((authenStart_bytes_le h).trans (by decide))
  exact ⟨sb, hsb, hle⟩

/-- A whole call. -/
theorem authenticate_conversed {σ τ : Type} (s : Server σ) (md5 : Crypto.Md5) {c d : Conn}
    (clock : Clock) (hmode : d.mode = c.mode) (hsecret : d.secret = c.secret) (id : UInt32)
    (st : State σ) {req : AuthenRequest} (hreq : authenStartFormat.Fits req)
    (hdec : ∀ ac cont hs, Sayable (s.cfg.handler.authenticate ac cont hs).1)
    {user : AuthenReply → τ → GoString × τ} (huser : ∀ r u, (user r u).1.length ≤ 65531) (u : τ) :
    Conversed clock st.sessions.ttl (Pipe.fresh st u)
      (talk s.cfg.handler user (turnContext d id req) 127 0 none st.handler u)
      (authenticate (connect s md5 c d clock) (some (asking user)) req (newSession .client id)
        (Pipe.fresh st u)) := by
  obtain ⟨sb, hsb, hlen⟩ := exists_startBody hreq
  have hv := version_valid req.type
  have hs : (newSession .client id).nextSeq ≤ 255 := show 1 ≤ 255 by decide
  have hsend := connect_send s md5 clock hmode hsecret (idle_fresh d st u) hv
    packetAuthentication hlen hs
  have hcarries : NextCarries clock req id (Pipe.fresh st u) 0 none
      (incoming c (majorVersion <<< 4 ||| minorVersionFor req.type) packetAuthentication
        ⟨id, .client, 2 * 0 + 1⟩ sb) := .start rfl rfl rfl hsb
  rw [authenticate_sent hsb hsend]
  exact loop_conversed s md5 clock hmode hsecret hv hdec huser (Nat.zero_add 127) rfl hcarries

def loginBob : AuthenRequest :=
  { action := 1, privLvl := 1, type := authenTypeASCII, service := 1, user := lit "bob",
    port := [], remAddr := [], data := [] }

end Connection
end Proof
end Tacacs
