import Tacacs.Proof.Client
import Tacacs.Proof.Interactive

/-!
# One session, many exchanges

A session of the protocol is one exchange, and its first packet is number 1. A `Client` has one
`protocol.Session` for its whole life, so its numbers go on from call to call: only the first
call that sends anything starts at 1 (`firstPacket_iff`).

A server does not look at the number of an authorization or accounting packet. But it tells a
START from a CONTINUE by nothing else, so an `Authenticate` after any other call is not an
authentication any more.
-/

set_option autoImplicit false

namespace Tacacs
namespace Proof
namespace Connection

open GoSem Tacacs.Client Tacacs.Connection Tacacs.Protocol Tacacs.Transport
open Tacacs.Server hiding AuthenStart AuthenContinue
open Tacacs.Packet (Header)
open Tacacs.Proof.Packet Tacacs.Proof.Server Tacacs.Proof.Transport

section Recording

variable {ν : Type}

/-! ## What a client sends in a call -/

/-- A link that records what is sent on it. -/
def recording (l : Link ν) : Link (ν × List Header) where
  ctxErr y := l.ctxErr y.1
  writePacket hdr body y :=
    let w := l.writePacket hdr body y.1
    (w.1, (w.2, y.2 ++ [hdr]))
  readPacket y :=
    let r := l.readPacket y.1
    (r.1, (r.2, y.2))

/-- The user does not see the record. -/
def unrecorded (contFn : ContFn ν) : ContFn (ν × List Header) := fun r y =>
  let a := contFn r y.1
  (a.1, (a.2, y.2))

/-- A call of a client. -/
inductive Exchange (ν : Type) where
  | authenticate (contFn : Option (ContFn ν)) (req : AuthenRequest)
  | request (req : Request)

/-- One call, and the headers of the packets it sends. -/
def exchangeStep (l : Link ν) (y : Session × ν) : Exchange ν → (Session × ν) × List Header
  | .authenticate contFn req =>
      let o := authenticate (recording l) (contFn.map unrecorded) req y.1 (y.2, [])
      ((o.sess, o.outside.1), o.outside.2)
  | .request req =>
      let z := (perform (recording l) (y.1, (y.2, [])) req).1
      ((z.1, z.2.1), z.2.2)

/-- The call itself, without the record. -/
def callStep (l : Link ν) (y : Session × ν) : Exchange ν → Session × ν
  | .authenticate contFn req =>
      let o := authenticate l contFn req y.1 y.2
      (o.sess, o.outside)
  | .request req => (perform l y req).1

/-- The body of the first packet of a call, and how it is labelled. -/
def Exchange.body : Exchange ν → Go GoError Bytes
  | .authenticate _ req => req.marshalBinary
  | .request (.authorize req) => req.packet.marshalBinary
  | .request (.account req) => req.packet.marshalBinary

def Exchange.version : Exchange ν → Version
  | .authenticate _ req => majorVersion <<< 4 ||| minorVersionFor req.type
  | .request _ => versionDefault

def Exchange.type : Exchange ν → PacketType
  | .authenticate _ _ => packetAuthentication
  | .request (.authorize _) => packetAuthorization
  | .request (.account _) => packetAccounting

/-- The call gets as far as sending a packet: its request has an encoding, it is not cancelled,
    and the session has a number left. -/
def Sends (l : Link ν) (y : Session × ν) (e : Exchange ν) : Prop :=
  (∃ sb, e.body = .ok sb) ∧ l.ctxErr y.2 = none ∧ y.1.nextSeq ≤ 255

/-! ## Recording changes nothing -/

section Forget

variable (l : Link ν) (contFn : Option (ContFn ν)) (version : Version) (sess : Session)
variable (y : ν × List Header)

/-- An outcome, without the record. -/
def forget {α : Type} (o : Outcome α (ν × List Header)) : Outcome α ν :=
  { value := o.value, err := o.err, sess := o.sess, outside := o.outside.1 }

def forgetRound : Round (ν × List Header) → Round ν
  | .done o => .done (forget o)
  | .again sess y => .again sess y.1

theorem send_recording (ptype : PacketType) (body : Bytes) :
    let s := send (recording l) version ptype body sess y
    send l version ptype body sess y.1
      = { res := s.res, sess := s.sess, outside := s.outside.1 } := by
  unfold send
  dsimp only [recording]
  cases l.ctxErr y.1 with
  | some err => rfl
  | none => cases sess.nextSeqNo <;> rfl

theorem continue_recording (r : AuthenReply) :
    authenticateContinue l contFn version r sess y.1 = forgetRound
      (authenticateContinue (recording l) (contFn.map unrecorded) version r sess y) := by
  unfold authenticateContinue
  cases contFn with
  | none => rfl
  | some contFn =>
    dsimp only [Option.map, unrecorded]
    cases (contFn r y.1).1 with
    | error err => rfl
    | ok msg =>
      dsimp only
      cases Packet.AuthenContinue.marshalBinary { userMsg := msg, data := [], flags := 0 } with
      | error f => rfl
      | ok cb =>
        dsimp only
        rw [send_recording l version sess ((contFn r y.1).2, y.2)]
        dsimp only
        cases (send (recording l) version _ cb sess ((contFn r y.1).2, y.2)).res <;> rfl

theorem round_recording :
    authenticateRound l contFn version sess y.1 = forgetRound
      (authenticateRound (recording l) (contFn.map unrecorded) version sess y) := by
  unfold authenticateRound
  dsimp only [recording]
  cases (l.readPacket y.1).1 with
  | error f => rfl
  | ok p =>
    dsimp only
    cases authenReply p with
    | error f => rfl
    | ok r =>
      dsimp only
      split
      · rfl
      · split
        · rfl
        · exact continue_recording l contFn version sess ((l.readPacket y.1).2, y.2) r

theorem loop_recording :
    authenticateLoop l contFn version sess y.1
      = forget (authenticateLoop (recording l) (contFn.map unrecorded) version sess y) := by
  fun_induction authenticateLoop (recording l) (contFn.map unrecorded) version sess y with
  | case1 sess y o hround =>
    have h := round_recording l contFn version sess y
    rw [hround] at h
    exact authenticateLoop_done h
  | case2 sess y sess' y' hround ih =>
    have h := round_recording l contFn version sess y
    rw [hround] at h
    exact (authenticateLoop_again h).trans ih

theorem exchange_recording {α : Type} (ptype : PacketType) (body : Go GoError Bytes) (zero : α)
    (result : Pkt → α × Option (Fault GoError)) :
    exchange l ptype body zero result sess y.1
      = forget (exchange (recording l) ptype body zero result sess y) := by
  unfold exchange
  cases body with
  | error f => rfl
  | ok sb =>
    dsimp only
    rw [send_recording l versionDefault sess y]
    dsimp only
    cases (send (recording l) versionDefault ptype sb sess y).res with
    | error f => rfl
    | ok u =>
      dsimp only [recording]
      cases (l.readPacket _).1 <;> rfl

end Forget

/-- A recorded call is the call. -/
theorem exchangeStep_fst (l : Link ν) (y : Session × ν) (e : Exchange ν) :
    (exchangeStep l y e).1 = callStep l y e := by
  cases e with
  | authenticate contFn req =>
    have h : authenticate l contFn req y.1 y.2
        = forget (authenticate (recording l) (contFn.map unrecorded) req y.1 (y.2, [])) := by
      unfold authenticate
      cases req.marshalBinary with
      | error f => rfl
      | ok sb =>
        dsimp only
        rw [send_recording l _ y.1 (y.2, [])]
        dsimp only
        cases (send (recording l) _ packetAuthentication sb y.1 (y.2, [])).res with
        | error f => rfl
        | ok u => exact loop_recording l contFn _ _ _
    exact (congrArg (fun o => (o.sess, o.outside)) h).symm
  | request req =>
    cases req with
    | authorize req =>
      exact (congrArg (fun o => (o.sess, o.outside))
        (exchange_recording l y.1 (y.2, []) packetAuthorization _ {} authorResult)).symm
    | account req =>
      exact (congrArg (fun o => (o.sess, o.outside))
        (exchange_recording l y.1 (y.2, []) packetAccounting _ {} acctResult)).symm

theorem after_exchangeStep (l : Link ν) (y : Session × ν) (es : List (Exchange ν)) :
    Run.after (exchangeStep l) y es = es.foldl (callStep l) y := by
  induction es generalizing y with
  | nil => rfl
  | cons e es ih => rw [Run.after_cons, ih, exchangeStep_fst, List.foldl_cons]

/-! ## What is recorded -/

/-- A relation between one point of a call and a later one, each given by the session and by
    what is recorded. Nothing happens but that numbers are taken and packets recorded, so it
    holds between any two points if a send keeps it. -/
structure Accrues (R : Session → List Header → Session → List Header → Prop) : Prop where
  refl : ∀ sess log, R sess log sess log
  trans : ∀ {s₁ s₂ s₃ : Session} {l₁ l₂ l₃ : List Header},
    R s₁ l₁ s₂ l₂ → R s₂ l₂ s₃ l₃ → R s₁ l₁ s₃ l₃
  sent : ∀ version ptype sess log, sess.nextSeq ≤ 255 →
    R sess log { sess with nextSeq := sess.nextSeq + 2 } (log ++ [nextHeader version ptype sess])

/-- Where a round of `Authenticate` leads. -/
def roundEnd : Round (ν × List Header) → Session × List Header
  | .done o => (o.sess, o.outside.2)
  | .again sess y => (sess, y.2)

section Accrues

variable {R : Session → List Header → Session → List Header → Prop}
variable {l : Link ν} {contFn : Option (ContFn ν)} {version : Version} {ptype : PacketType}
variable {body : Bytes} {sess sess' : Session} {y y' : ν × List Header}

theorem Accrues.send (hR : Accrues R) :
    R sess y.2 (Tacacs.Client.send (recording l) version ptype body sess y).sess
      (Tacacs.Client.send (recording l) version ptype body sess y).outside.2 := by
  rcases send_cases (recording l) version ptype body sess y with ⟨-, err, he⟩ | ⟨-, hle, he⟩
  · rw [he]
    exact hR.refl _ _
  · rw [he]
    exact hR.sent version ptype sess y.2 hle

theorem Accrues.continue (hR : Accrues R) {r : AuthenReply} :
    R sess y.2
      (roundEnd (authenticateContinue (recording l) (contFn.map unrecorded) version r sess y)).1
      (roundEnd
        (authenticateContinue (recording l) (contFn.map unrecorded) version r sess y)).2 := by
  unfold authenticateContinue
  cases contFn with
  | none => exact hR.refl _ _
  | some contFn =>
    dsimp only [Option.map, unrecorded]
    split
    · exact hR.refl _ _
    · split
      · exact hR.refl _ _
      · split
        · exact hR.send (y := ((contFn r y.1).2, y.2))
        · exact hR.send (y := ((contFn r y.1).2, y.2))

theorem Accrues.round (hR : Accrues R) (l : Link ν) (contFn : Option (ContFn ν))
    (version : Version) (sess : Session) (y : ν × List Header) :
    R sess y.2
      (roundEnd (authenticateRound (recording l) (contFn.map unrecorded) version sess y)).1
      (roundEnd (authenticateRound (recording l) (contFn.map unrecorded) version sess y)).2 := by
  unfold authenticateRound
  dsimp only [recording]
  split
  · exact hR.refl _ _
  · split
    · exact hR.refl _ _
    · split
      · exact hR.refl _ _
      · split
        · exact hR.refl _ _
        · exact hR.continue (l := l) (y := ((l.readPacket y.1).2, y.2))

theorem Accrues.loop (hR : Accrues R) :
    R sess y.2
      (authenticateLoop (recording l) (contFn.map unrecorded) version sess y).sess
      (authenticateLoop (recording l) (contFn.map unrecorded) version sess y).outside.2 := by
  fun_induction authenticateLoop (recording l) (contFn.map unrecorded) version sess y with
  | case1 sess y o hround =>
    have h := hR.round l contFn version sess y
    rw [hround] at h
    exact h
  | case2 sess y sess' y' hround ih =>
    have h := hR.round l contFn version sess y
    rw [hround] at h
    exact hR.trans h ih

end Accrues

/-- Packets are recorded and numbers are taken, and it remains the same session. -/
structure Grows (sess : Session) (log : List Header) (sess' : Session) (log' : List Header) :
    Prop where
  log : log <+: log'
  nextSeq : sess.nextSeq ≤ sess'.nextSeq
  sessionID : sess'.sessionID = sess.sessionID

theorem grows_accrues : Accrues Grows where
  refl _ _ := ⟨List.prefix_refl _, Nat.le_refl _, rfl⟩
  trans h h' := ⟨h.log.trans h'.log, h.nextSeq.trans h'.nextSeq, h'.sessionID.trans h.sessionID⟩
  sent _ _ _ _ _ := ⟨List.prefix_append _ _, Nat.le_add_right _ _, rfl⟩

/-! ## The first packet of a call -/

/-- What a call does once its first packet is out. -/
def Exchange.rest (l : Link ν) :
    Exchange ν → Session → ν × List Header → (Session × ν) × List Header
  | .authenticate contFn req, sess, y =>
      let o := authenticateLoop (recording l) (contFn.map unrecorded)
        (majorVersion <<< 4 ||| minorVersionFor req.type) sess y
      ((o.sess, o.outside.1), o.outside.2)
  | .request _, sess, y => ((sess, (l.readPacket y.1).2), y.2)

theorem Accrues.rest {R : Session → List Header → Session → List Header → Prop}
    (hR : Accrues R) (l : Link ν) (e : Exchange ν) (sess : Session) (y : ν × List Header) :
    R sess y.2 (e.rest l sess y).1.1 (e.rest l sess y).2 := by
  cases e with
  | authenticate contFn req => exact hR.loop
  | request req => exact hR.refl _ _

/-- What the two requests have in common; that they return different things is not seen here. -/
theorem exchange_recorded (l : Link ν) (y : Session × ν) {α : Type} (ptype : PacketType)
    (body : Go GoError Bytes) (zero : α) (result : Pkt → α × Option (Fault GoError)) :
    let o := exchange (recording l) ptype body zero result y.1 (y.2, [])
    ((o.sess, o.outside.1), o.outside.2) =
      match body with
      | .error _ => (y, [])
      | .ok sb =>
          let s := send (recording l) versionDefault ptype sb y.1 (y.2, [])
          match s.res with
          | .error _ => ((s.sess, s.outside.1), s.outside.2)
          | .ok () => ((s.sess, (l.readPacket s.outside.1).2), s.outside.2) := by
  unfold exchange
  cases body with
  | error f => rfl
  | ok sb =>
    dsimp only
    cases (send _ _ _ sb y.1 (y.2, [])).res with
    | error f => rfl
    | ok u =>
      dsimp only [recording]
      cases (l.readPacket _).1 <;> rfl

/-- A call, whichever it is: encode, send, and go on if that went well. -/
theorem exchangeStep_eq (l : Link ν) (y : Session × ν) (e : Exchange ν) :
    exchangeStep l y e =
      match e.body with
      | .error _ => (y, [])
      | .ok sb =>
          let s := send (recording l) e.version e.type sb y.1 (y.2, [])
          match s.res with
          | .error _ => ((s.sess, s.outside.1), s.outside.2)
          | .ok () => e.rest l s.sess s.outside := by
  cases e with
  | authenticate contFn req =>
    unfold exchangeStep authenticate
    dsimp only [Exchange.body, Exchange.version, Exchange.type, Exchange.rest]
    cases req.marshalBinary with
    | error f => rfl
    | ok sb =>
      dsimp only
      cases (send _ _ _ sb y.1 (y.2, [])).res <;> rfl
  | request req =>
    cases req with
    | authorize req => exact exchange_recorded l y packetAuthorization _ {} authorResult
    | account req => exact exchange_recorded l y packetAccounting _ {} acctResult

variable {l : Link ν}

/-- A call that does not get as far as sending leaves everything as it was. -/
theorem exchangeStep_of_not_sends {y : Session × ν} {e : Exchange ν} (h : ¬Sends l y e) :
    exchangeStep l y e = (y, []) := by
  rw [exchangeStep_eq]
  cases hb : e.body with
  | error f => rfl
  | ok sb =>
    rcases send_cases (recording l) e.version e.type sb y.1 (y.2, []) with
      ⟨-, err, he⟩ | ⟨hc, hle, -⟩
    · dsimp only
      rw [he]
      rfl
    · exact absurd ⟨⟨sb, hb⟩, hc, hle⟩ h

/-- A call that does starts with the next number of the session, which is then taken. -/
theorem Accrues.exchangeStep_of_sends {R : Session → List Header → Session → List Header → Prop}
    (hR : Accrues R) {y : Session × ν} {e : Exchange ν} (h : Sends l y e) :
    R { y.1 with nextSeq := y.1.nextSeq + 2 } [nextHeader e.version e.type y.1]
      (exchangeStep l y e).1.1 (exchangeStep l y e).2 := by
  obtain ⟨⟨sb, hb⟩, hc, hle⟩ := h
  rw [exchangeStep_eq, hb]
  rcases send_cases (recording l) e.version e.type sb y.1 (y.2, []) with
    ⟨hc' | hlt, -⟩ | ⟨-, -, he⟩
  · exact absurd hc hc'
  · exact absurd hle (Nat.not_le_of_lt hlt)
  · dsimp only
    rw [he]
    dsimp only [recording]
    cases (l.writePacket (nextHeader e.version e.type y.1) sb y.2).1 with
    | error f => exact hR.refl _ _
    | ok u => exact hR.rest l e { y.1 with nextSeq := y.1.nextSeq + 2 } (_, [nextHeader _ _ y.1])

/-- A call, whether it sends or not. -/
theorem Accrues.exchangeStep {R : Session → List Header → Session → List Header → Prop}
    (hR : Accrues R) (l : Link ν) (y : Session × ν) (e : Exchange ν) :
    R y.1 [] (Connection.exchangeStep l y e).1.1 (Connection.exchangeStep l y e).2 := by
  by_cases h : Sends l y e
  · exact hR.trans (hR.sent e.version e.type y.1 [] h.2.2) (hR.exchangeStep_of_sends h)
  · rw [exchangeStep_of_not_sends h]
    exact hR.refl _ _

/-! ## Runs -/

/-- None of these calls gets as far as sending. -/
def NoneSends (l : Link ν) (y : Session × ν) (es : List (Exchange ν)) : Prop :=
  ∀ pre e, pre ++ [e] <+: es → ¬Sends l (pre.foldl (callStep l) y) e

theorem noneSends_snoc {y : Session × ν} {es : List (Exchange ν)} {e : Exchange ν} :
    NoneSends l y (es ++ [e]) ↔ NoneSends l y es ∧ ¬Sends l (es.foldl (callStep l) y) e := by
  constructor
  · intro h
    exact ⟨fun pre e' hpre => h pre e' (hpre.trans (List.prefix_append _ _)),
      h es e (List.prefix_refl _)⟩
  · rintro ⟨hes, he⟩ pre e' hpre
    rcases List.prefix_concat_iff.mp hpre with heq | hpre
    · obtain ⟨rfl, hee⟩ := List.append_inj' heq rfl
      cases hee
      exact he
    · exact hes pre e' hpre

/-- A session is at its first number as long as nothing has been sent on it. -/
theorem nextSeq_eq_one_iff (l : Link ν) (id : UInt32) (x : ν) (es : List (Exchange ν)) :
    let sess := (es.foldl (callStep l) (newSession .client id, x)).1
    (sess.nextSeq = 1 ↔ NoneSends l (newSession .client id, x) es) ∧ 1 ≤ sess.nextSeq ∧
      sess.sessionID = id := by
  induction es using List.reverseRecOn with
  | nil =>
    refine ⟨⟨fun _ pre e hpre => ?_, fun _ => rfl⟩, Nat.le_refl 1, rfl⟩
    exact absurd (List.prefix_nil.mp hpre) (by simp)
  | append_singleton es e ih =>
    obtain ⟨hiff, hpos, hid⟩ := ih
    rw [noneSends_snoc, ← hiff, List.foldl_concat, ← exchangeStep_fst]
    by_cases hsends : Sends l (es.foldl (callStep l) (newSession .client id, x)) e
    · have hg := grows_accrues.exchangeStep_of_sends hsends
      have hseq := hg.nextSeq
      dsimp only at hseq ⊢
      refine ⟨⟨fun h1 => ?_, fun h => absurd hsends h.2⟩, by omega, hg.sessionID.trans hid⟩
      omega
    · rw [exchangeStep_of_not_sends hsends]
      exact ⟨⟨fun h1 => ⟨h1, hsends⟩, fun h => h.1⟩, hpos, hid⟩

/-- The first packet of a call that sends. -/
theorem head_of_sends {y : Session × ν} {e : Exchange ν} (h : Sends l y e) :
    (exchangeStep l y e).2.head? = some (nextHeader e.version e.type y.1) := by
  obtain ⟨tail, htail⟩ := (grows_accrues.exchangeStep_of_sends h).log
  rw [← htail]
  rfl

theorem nextHeader_seqNo_eq_one (version : Version) (ptype : PacketType) {sess : Session}
    (h : sess.nextSeq ≤ 255) :
    (nextHeader version ptype sess).seqNo = 1 ↔ sess.nextSeq = 1 := by
  rw [← UInt8.toNat_inj, Client.nextHeader_seqNo version ptype h]
  rfl

/-- What the server takes the START of an `Authenticate` for. -/
theorem startIn_incoming (c : Conn) {req : AuthenRequest} {sb : Bytes}
    (hsb : req.marshalBinary = .ok sb) (version : Version) {sess : Session}
    (h : sess.nextSeq ≤ 255) :
    let p := incoming c version packetAuthentication sess sb
    (startIn sess.sessionID p = some req ↔ sess.nextSeq = 1) ∧
      (IsContinue sess.sessionID p ↔ sess.nextSeq ≠ 1) := by
  intro p
  have hseq : p.hdr.seqNo = 1 ↔ sess.nextSeq = 1 :=
    nextHeader_seqNo_eq_one version packetAuthentication h
  have hdec : Packet.AuthenStart.unmarshalBinary p.body = .ok req :=
    authenStart_realises.decode_encode hsb
  rw [startIn_eq_some, hseq]
  refine ⟨⟨fun hs => hs.2.2.1, fun hs => ⟨rfl, rfl, hs, hdec⟩⟩, ?_⟩
  exact ⟨fun hc => mt hseq.mpr hc.2.2, fun hs => ⟨rfl, rfl, mt hseq.mp hs⟩⟩

/-- **Only one exchange of a client is a session.** Whatever is on the other side: the first
    packet of every call that sends one is number 1 if and only if no such call has another
    before it. And the server takes the START of an `Authenticate` for a START in just this
    case; otherwise it is a CONTINUE to it. -/
theorem firstPacket_iff (l : Link ν) (id : UInt32) (x : ν) (es : List (Exchange ν)) :
    let y := (newSession .client id, x)
    ((∀ hdrs ∈ Run.outputs (exchangeStep l) y es, ∀ hdr, hdrs.head? = some hdr → hdr.seqNo = 1) ↔
      ∀ pre e, pre ++ [e] <+: es → Sends l (pre.foldl (callStep l) y) e → NoneSends l y pre) ∧
    ∀ (c : Conn) pre contFn req sb, pre ++ [.authenticate contFn req] <+: es →
      req.marshalBinary = .ok sb →
      Sends l (pre.foldl (callStep l) y) (.authenticate contFn req) →
      let p := incoming c (majorVersion <<< 4 ||| minorVersionFor req.type) packetAuthentication
        (pre.foldl (callStep l) y).1 sb
      (startIn id p = some req ↔ NoneSends l y pre) ∧ (IsContinue id p ↔ ¬NoneSends l y pre) := by
  intro y
  refine ⟨⟨?_, ?_⟩, ?_⟩
  · intro h pre e hpre hsends
    have hmem : (exchangeStep l (Run.after (exchangeStep l) y pre) e).2
        ∈ Run.outputs (exchangeStep l) y es := Run.mem_outputs hpre
    rw [after_exchangeStep] at hmem
    have hhead := h _ hmem _ (head_of_sends hsends)
    exact (nextSeq_eq_one_iff l id x pre).1.mp ((nextHeader_seqNo_eq_one _ _ hsends.2.2).mp hhead)
  · intro h hdrs hmem hdr hhead
    obtain ⟨pre, e, post, rfl, rfl⟩ := Run.exists_of_mem_outputs hmem
    rw [after_exchangeStep] at hhead
    by_cases hsends : Sends l (pre.foldl (callStep l) y) e
    · have hpre : pre ++ [e] <+: pre ++ e :: post := ⟨post, by simp⟩
      rw [head_of_sends hsends] at hhead
      cases hhead
      exact (nextHeader_seqNo_eq_one _ _ hsends.2.2).mpr
        ((nextSeq_eq_one_iff l id x pre).1.mpr (h pre e hpre hsends))
    · rw [exchangeStep_of_not_sends hsends] at hhead
      cases hhead
  · intro c pre contFn req sb _ hsb hsends p
    obtain ⟨hone, -, hid⟩ := nextSeq_eq_one_iff l id x pre
    obtain ⟨hstart, hcont⟩ := startIn_incoming c hsb
      (majorVersion <<< 4 ||| minorVersionFor req.type) hsends.2.2
    rw [hid, hone] at hstart
    rw [hid] at hcont
    exact ⟨hstart, hcont.trans (not_congr hone)⟩

end Recording

/-! ## What becomes of the other exchanges -/

section Refused

variable {σ τ : Type} (s : Server σ) (md5 : Crypto.Md5) {c d : Conn} (clock : Clock)
variable {x : Pipe σ τ} {sess : Session} (hs : sess.nextSeq ≤ 255) (hne : sess.nextSeq ≠ 1)
variable (hnone : (sweepAll x.st (clock.sweeps x.turns)).sessions.get sess.sessionID = none)

include hs hne hnone in
theorem handleNext_refused (version : Version) (sb : Bytes) :
    let p := incoming c version packetAuthentication sess sb
    handleNext s d clock x p
      = { st := sweepAll x.st (clock.sweeps x.turns), reply := sendGenericError p.hdr } := by
  intro p
  have hseq : p.hdr.seqNo ≠ 1 :=
    mt (nextHeader_seqNo_eq_one version packetAuthentication hs).mp hne
  exact handle_forgotten rfl hseq hnone (clock.times x.turns)

include hs hne hnone in
/-- A START that is not number 1, for a session the server does not know: the client gets the
    header-only error, and the handler is not asked. -/
theorem authenticate_refused (hmode : d.mode = c.mode) (hsecret : d.secret = c.secret)
    (hx : Idle d x) (contFn : Option (ContFn (Pipe σ τ))) {req : AuthenRequest}
    (hreq : authenStartFormat.Fits req) :
    let o := authenticate (connect s md5 c d clock) contFn req sess x
    o.err = some (.err (errorPacket "authen")) ∧ o.outside.calls = x.calls := by
  intro o
  obtain ⟨sb, hsb, hlen⟩ := exists_startBody hreq
  have hv := version_valid req.type
  have hsend := connect_send s md5 clock hmode hsecret hx hv packetAuthentication hlen hs
  have hhandled := handleNext_refused s (c := c) (d := d) clock hs hne hnone
    (majorVersion <<< 4 ||| minorVersionFor req.type) sb
  dsimp only at hsend hhandled
  rw [hhandled] at hsend
  have ho : o = _ :=
    (authenticate_sent hsb hsend).trans (loop_refused s md5 clock hmode hsecret hv rfl)
  rw [ho]
  exact ⟨rfl, List.append_nil _⟩

end Refused

/-- A handler that permits everything, keeps no records and authenticates nobody. -/
def permissive : Handler Unit :=
  handlerFunc (fun _ _ => .ok { status := authenStatusFail })
    (fun ac => .ok { status := authorStatusPassAdd, args := ac.args, serverMsg := lit "ok" })
    (fun _ => .error .eof)

/-- After an `Authorize`, the START of an `Authenticate` on the same client has number 3, and it
    is refused. -/
theorem firstPacket_after_authorize :
    let cfg : Config Unit := { handler := permissive, mode := .tls }
    let l : Link (Pipe Unit Unit) :=
      connect (new cfg) default tlsConn tlsConn ⟨fun _ => ⟨0, 0⟩, fun _ => []⟩
    let y := callStep l (newSession .client 7, Pipe.fresh (State.init cfg ()) ())
      (.request (.authorize mayShow))
    (exchangeStep l y (.authenticate none loginBob)).2.head?.map (fun hdr => hdr.seqNo) = some 3 ∧
      (authenticate l none loginBob y.1 y.2).err = some (.err (errorPacket "authen")) ∧
      (authenticate l none loginBob y.1 y.2).outside.calls = y.2.calls := by
  intro cfg l y
  have hy : (y.1 = ⟨7, .client, 3⟩ ∧ y.2.st.sessions.get 7 = none) ∧ y.2.toServer = [] ∧
      y.2.toClient = [] ∧ y.2.loop = .later (connFlags tlsConn) := by decide +kernel
  -- that is all one needs to know of the `Authorize`
  clear_value y
  obtain ⟨sess, x⟩ := y
  dsimp only at hy ⊢
  obtain ⟨⟨rfl, hnone⟩, hserver, hclient, hloop⟩ := hy
  have hidle : Idle tlsConn x := ⟨hserver, hclient, Or.inr hloop⟩
  have hle : (⟨7, .client, 3⟩ : Session).nextSeq ≤ 255 := show 3 ≤ 255 by decide
  have hne : (⟨7, .client, 3⟩ : Session).nextSeq ≠ 1 := show 3 ≠ 1 by decide
  have hfits : authenStartFormat.Fits loginBob := ⟨by decide, by decide, by decide, by decide⟩
  have hsends : Sends l (⟨7, .client, 3⟩, x) (.authenticate none loginBob) := ⟨⟨_, rfl⟩, rfl, hle⟩
  have hrefused := authenticate_refused (new cfg) default ⟨fun _ => ⟨0, 0⟩, fun _ => []⟩ hle hne
    (x := x) hnone rfl rfl hidle none hfits
  refine ⟨?_, hrefused⟩
  rw [head_of_sends hsends]
  rfl

end Connection
end Proof
end Tacacs
