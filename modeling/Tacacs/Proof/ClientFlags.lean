import Tacacs.Proof.Client

/-!
# What a client takes for protected

The unencrypted flag of a reply decides whether the shared secret is applied to its body. On a
legacy connection it should be clear, since a peer that may set it needs no secret at all; on a
TLS connection `EnforceTLSFlagPolicy` wants it set on every packet, in both directions.

The client calls neither that policy nor the one of package `crypto`. It returns on whatever
reply decides the call, so it honours the flag exactly if no such reply of the stream has it
the wrong way round (`encryptionFlag_iff`).
-/

set_option autoImplicit false

namespace Tacacs
namespace Proof
namespace Client

open GoSem Tacacs.Client Tacacs.Transport Tacacs.Protocol
open Tacacs.Packet (Header)

/-! ## The property -/

/-- The unencrypted flag of `p` is as the mode of the connection has it. -/
def FitsMode (c : Conn) (p : Pkt) : Prop :=
  match c.mode with
  | .legacy => p.hdr.flags.has flagUnencrypted = false
  | .tls => p.hdr.flags.has flagUnencrypted = true

/-- A call returned without error only if the last thing that happened is that a reply with the
    property came in. -/
def ReturnsOn {α : Type} (good : Pkt → Prop) (o : Outcome α Line) : Prop :=
  o.err = none → ∃ pre p, o.outside.log = pre ++ [.received p] ∧ good p

section Stream

variable {md5 : Crypto.Md5} {c : Conn} {good : Pkt → Prop}

theorem returnsOn_received {α : Type} {o : Outcome α Line} {log : List Event} {p : Pkt}
    (hlog : o.outside.log = log ++ [.received p]) :
    ReturnsOn good o ↔ (o.err = none → good p) := by
  unfold ReturnsOn
  rw [hlog]
  constructor
  · intro h herr
    obtain ⟨pre, q, hpre, hq⟩ := h herr
    obtain ⟨-, hp⟩ := List.append_inj' hpre rfl
    cases hp
    exact hq
  · intro h herr
    exact ⟨log, p, rfl, h herr⟩

/-! ## Authorize and Account -/

section Exchange

variable {α : Type} {ptype : PacketType} {body : Go GoError Bytes} {zero : α}
variable {result : Pkt → α × Option (Fault GoError)} {sess : Session} {input : Bytes}
variable {usable : Pkt → Prop}

/-- A call that returned without error was sent, and read the first packet of the stream. -/
theorem exchange_returned {ch : Chance}
    (h : (exchange (overStream md5 c ch) ptype body zero result sess ⟨input, []⟩).err = none) :
    CanSend body sess ∧ ∃ p rest pre, c.readPacket md5 input = (.ok p, rest) ∧
      (result p).2 = none ∧
      (exchange (overStream md5 c ch) ptype body zero result sess ⟨input, []⟩).outside.log
        = pre ++ [.received p] := by
  unfold exchange at h ⊢
  cases hbody : body with
  | error f =>
    rw [hbody] at h
    cases h
  | ok sb =>
    rw [hbody] at h
    dsimp only at h ⊢
    rcases stream_send_cases md5 c ch versionDefault ptype sb sess ⟨input, []⟩ with
      ⟨f, sess', after, -, hs⟩ | ⟨hle, hs⟩
    · rw [hs] at h
      cases h
    · rw [hs] at h ⊢
      dsimp only at h ⊢
      rcases read_cases md5 c ch
          ⟨input, [] ++ [.sent (nextHeader versionDefault ptype sess)]⟩ with
        ⟨f, rest, hr⟩ | ⟨p, rest, hp, hr⟩
      · rw [hr] at h
        cases h
      · rw [hr] at h ⊢
        exact ⟨⟨⟨sb, rfl⟩, hle⟩, p, rest, _, hp, h, rfl⟩

theorem exchange_returnsOn_iff (hresult : ∀ p, (result p).2 = none ↔ usable p) :
    (∀ ch, ReturnsOn good
      (exchange (overStream md5 c ch) ptype body zero result sess ⟨input, []⟩)) ↔
      (CanSend body sess → ∀ p rest, c.readPacket md5 input = (.ok p, rest) →
        usable p → good p) := by
  constructor
  · rintro h ⟨⟨sb, rfl⟩, hle⟩ p rest hp huse
    have hcalm := h calm
    rw [calm_exchange hle hp] at hcalm
    exact (returnsOn_received rfl).mp hcalm ((hresult p).mpr huse)
  · intro h ch herr
    obtain ⟨hsend, p, rest, pre, hp, hacc, hlog⟩ := exchange_returned herr
    exact ⟨pre, p, hlog, h hsend p rest hp ((hresult p).mp hacc)⟩

end Exchange

/-! ## Authenticate -/

/-- A packet that makes `Authenticate` return without error: it has a body, the body is a reply,
    and the reply ends the login. -/
def Decides (p : Pkt) : Prop :=
  p.hdr.length ≠ 0 ∧ ∃ reply, Packet.AuthenReply.unmarshalBinary p.body = .ok reply ∧
    reply.status ∈ endStatuses

theorem decides_iff {p : Pkt} :
    Decides p ↔ ∃ r, authenReply p = .ok r ∧ isTerminal r.status = true := by
  rw [exists_authenReply_iff (P := fun status => isTerminal status = true)]
  simp only [isTerminal_normalize]
  exact Iff.rfl

/-- A reply that solicits an answer does not make it return without error. -/
theorem authenticateContinue_err {ν : Type} {l : Link ν} {contFn : Option (ContFn ν)}
    {version : Version} {r : AuthenReply} {sess : Session} {x : ν} {o : Outcome AuthenReply ν}
    (h : authenticateContinue l contFn version r sess x = .done o) : o.err ≠ none := by
  unfold authenticateContinue at h
  cases contFn with
  | none =>
    cases h
    exact Option.some_ne_none _
  | some contFn =>
    dsimp only at h
    split at h
    · cases h
      exact Option.some_ne_none _
    · split at h
      · cases h
        exact Option.some_ne_none _
      · split at h
        · cases h
          exact Option.some_ne_none _
        · cases h

/-- A round that made it return without error read a packet that decides. -/
theorem authenticateRound_returned {ch : Chance} {contFn : Option (ContFn Line)}
    {version : Version} {sess : Session} {x : Line} {o : Outcome AuthenReply Line}
    (h : authenticateRound (overStream md5 c ch) contFn version sess x = .done o)
    (herr : o.err = none) :
    ∃ p rest, c.readPacket md5 x.input = (.ok p, rest) ∧ Decides p ∧
      o.outside.log = x.log ++ [.received p] := by
  unfold authenticateRound at h
  rcases read_cases md5 c ch x with ⟨f, rest, hr⟩ | ⟨p, rest, hp, hr⟩
  · rw [hr] at h
    cases h
    cases herr
  rw [hr] at h
  dsimp only at h
  cases hrep : authenReply p with
  | error f =>
    rw [hrep] at h
    cases h
    cases herr
  | ok r =>
    rw [hrep] at h
    dsimp only at h
    by_cases hterm : isTerminal r.status = true
    · rw [if_pos hterm] at h
      cases h
      exact ⟨p, rest, hp, decides_iff.mpr ⟨r, hrep, hterm⟩, rfl⟩
    rw [if_neg hterm] at h
    by_cases hrestart : r.status = authenStatusRestart
    · rw [if_pos hrestart] at h
      cases h
      cases herr
    · rw [if_neg hrestart] at h
      exact absurd herr (authenticateContinue_err h)

/-- And so did the whole loop, one that it consults. -/
theorem authenticateLoop_returned {ch : Chance} {version : Version} {sess : Session} {x : Line}
    {seq : Nat} (user : Option (AuthenReply → List Event → Except GoError GoString))
    (hseq : sess.nextSeq = seq + 2)
    (herr : (authenticateLoop (overStream md5 c ch) (user.map asking) version sess x).err
      = none) :
    ∃ seq' p pre, Consulted md5 c seq x.input seq' p ∧ Decides p ∧
      (authenticateLoop (overStream md5 c ch) (user.map asking) version sess x).outside.log
        = pre ++ [.received p] := by
  induction sess, x using authenticateLoop.induct (overStream md5 c ch) (user.map asking) version
    generalizing seq with
  | case1 sess x o hdone =>
    rw [authenticateLoop_done hdone] at herr ⊢
    obtain ⟨p, rest, hp, hdec, hlog⟩ := authenticateRound_returned hdone herr
    exact ⟨seq, p, x.log, .next hp, hdec, hlog⟩
  | case2 sess x sess' x' hagain ih =>
    have hround := authenticateRound_rounds md5 c ch user version sess x
    rw [hagain] at hround
    rw [authenticateLoop_again hagain] at herr ⊢
    cases hround with
    | again hp hsol hle =>
      obtain ⟨seq', q, pre, hq, hdec, hlog⟩ := ih (congrArg (· + 2) hseq) herr
      exact ⟨seq', q, pre, .later hp hsol (hseq ▸ hle) hq, hdec, hlog⟩

theorem authenticate_returnsOn_iff (req : AuthenRequest) (sess : Session) (input : Bytes) :
    (∀ ch user, ReturnsOn good
      (authenticate (overStream md5 c ch) (Option.map asking user) req sess ⟨input, []⟩)) ↔
      (CanSend req.marshalBinary sess → ∀ seq p,
        Consulted md5 c sess.nextSeq input seq p → Decides p → good p) := by
  constructor
  · rintro h ⟨⟨sb, hsb⟩, hle⟩ seq p hp hdec
    obtain ⟨r, hrep, hterm⟩ := decides_iff.mp hdec
    have hcalm := h calm (some always)
    obtain ⟨sess', input', rest, log, -, hp', -, -, hloop⟩ :=
      calm_loop_reaches (majorVersion <<< 4 ||| minorVersionFor req.type)
        { sess with nextSeq := sess.nextSeq + 2 } hp (lastSent_sent [] _)
        (nextHeader_seqNo _ _ hle) rfl
    rw [Option.map, calm_authenticate _ hsb hle, hloop,
      authenticateLoop_done (calm_round_terminal _ sess' log hp' hrep hterm)] at hcalm
    exact (returnsOn_received rfl).mp hcalm rfl
  · intro h ch user herr
    unfold authenticate at herr ⊢
    cases hsb : req.marshalBinary with
    | error f =>
      rw [hsb] at herr
      cases herr
    | ok sb =>
      rw [hsb] at herr
      dsimp only at herr ⊢
      rcases stream_send_cases md5 c ch (majorVersion <<< 4 ||| minorVersionFor req.type)
          packetAuthentication sb sess ⟨input, []⟩ with ⟨f, sess', after, -, hs⟩ | ⟨hle, hs⟩
      · rw [hs] at herr
        cases herr
      · rw [hs] at herr ⊢
        obtain ⟨seq, p, pre, hp, hdec, hlog⟩ := authenticateLoop_returned user rfl herr
        exact ⟨pre, p, hlog, h ⟨⟨sb, hsb⟩, hle⟩ seq p hp hdec⟩

end Stream

/-! ## The theorem -/

/-- **The encryption flag.** For every connection, session, request and stream: whatever else
    happens to the client and whatever its user says, `Authenticate`, `Authorize` and `Account`
    return without error only on a reply whose flag fits the mode — if and only if the request
    cannot be sent at all, or no packet of the stream that would decide the call has the flag
    the wrong way round. -/
theorem encryptionFlag_iff (md5 : Crypto.Md5) (c : Conn) (sess : Session) (input : Bytes) :
    (∀ req, (∀ ch user, ReturnsOn (FitsMode c)
        (authenticate (overStream md5 c ch) (Option.map asking user) req sess ⟨input, []⟩)) ↔
      (CanSend req.marshalBinary sess → ∀ seq p,
        Consulted md5 c sess.nextSeq input seq p → Decides p → FitsMode c p)) ∧
    (∀ req, (∀ ch, ReturnsOn (FitsMode c)
        (authorize (overStream md5 c ch) req sess ⟨input, []⟩)) ↔
      (CanSend req.packet.marshalBinary sess → ∀ p rest,
        c.readPacket md5 input = (.ok p, rest) → UsableAuthor p → FitsMode c p)) ∧
    (∀ req, (∀ ch, ReturnsOn (FitsMode c)
        (account (overStream md5 c ch) req sess ⟨input, []⟩)) ↔
      (CanSend req.packet.marshalBinary sess → ∀ p rest,
        c.readPacket md5 input = (.ok p, rest) → UsableAcct p → FitsMode c p)) := by
  refine ⟨?_, ?_, ?_⟩
  · intro req
    exact authenticate_returnsOn_iff req sess input
  · intro req
    exact exchange_returnsOn_iff authorResult_accepts_iff
  · intro req
    exact exchange_returnsOn_iff acctResult_accepts_iff

/-! A login of `alice` over a legacy connection with a secret. The peer, who need not know it,
sends a PASS in cleartext, with the flag set; session, type and number are right. -/

def legacyClient : Conn :=
  { mode := .legacy, secret := lit "key", remoteAddr := lit "10.0.0.1:49" }

def cleartextPass : Bytes := [0xc0, 1, 2, 1, 0, 0, 0, 7, 0, 0, 0, 6] ++ [1, 0, 0, 0, 0, 0]

/-- The login succeeds. -/
theorem encryptionFlag_violated :
    (authenticate (overStream default legacyClient calm) none aliceLogin (newSession .client 7)
      ⟨cleartextPass, []⟩).err = none ∧
    (authenticate (overStream default legacyClient calm) none aliceLogin (newSession .client 7)
      ⟨cleartextPass, []⟩).value.status = authenStatusPass ∧
    ¬ReturnsOn (FitsMode legacyClient)
      (authenticate (overStream default legacyClient calm) none aliceLogin
        (newSession .client 7) ⟨cleartextPass, []⟩) := by
  let p : Pkt :=
    ⟨{ version := 0xc0, type := 1, seqNo := 2, flags := 1, sessionID := 7, length := 6 },
      [1, 0, 0, 0, 0, 0]⟩
  have hrun : authenticate (overStream default legacyClient calm) none aliceLogin
      (newSession .client 7) ⟨cleartextPass, []⟩ =
      { value := { status := authenStatusPass }, err := none,
        sess := { newSession .client 7 with nextSeq := 3 },
        outside := ⟨[], [.sent (nextHeader versionDefault packetAuthentication
          (newSession .client 7))] ++ [.received p]⟩ } := by
    rw [calm_authenticate none rfl (by decide)]
    exact authenticateLoop_done rfl
  rw [hrun]
  refine ⟨rfl, rfl, ?_⟩
  intro h
  have hfits := (returnsOn_received rfl).mp h rfl
  exact absurd (show p.hdr.flags.has flagUnencrypted = false from hfits) (by decide)

end Client
end Proof
end Tacacs
