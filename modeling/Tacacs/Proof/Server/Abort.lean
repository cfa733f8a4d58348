import Tacacs.Proof.Server.Passwords

/-!
# Aborted logins

A client aborts a login by a flag in a CONTINUE. The flag goes through the codec and the server
to the handler, and `ConfigHandler` does not look at it: an aborted login is a login. So it
succeeds if the message happens to be the password, and it leaves the session registered
if the handler asks for more.
-/

set_option autoImplicit false

namespace Tacacs
namespace Proof
namespace Server

open GoSem Tacacs.Packet Tacacs.Transport
open Tacacs.Server hiding AuthenStart AuthenContinue

variable {σ : Type}

/-! ## A CONTINUE that is let through -/

/-- `p` is a well-formed CONTINUE `ct` of the session `sctx`, with the number expected next. -/
structure Continues (st : State σ) (p : Pkt) (sctx : SessionContext) (ct : AuthenContinue) :
    Prop where
  type : p.hdr.type = packetAuthentication
  notStart : p.hdr.seqNo ≠ 1
  registered : st.sessions.get p.hdr.sessionID = some sctx
  expected : validateNextSeqNo p.hdr.seqNo sctx.lastOutboundSeq = .ok ()
  decodes : AuthenContinue.unmarshalBinary p.body = .ok ct

/-- It has the abort flag. -/
def Aborts (ct : AuthenContinue) : Prop :=
  ct.flags &&& continueFlagAbort = continueFlagAbort

section Continued

variable {st : State σ} {p : Pkt} {sctx : SessionContext} {ct : AuthenContinue}

theorem Continues.intake (h : Continues st p sctx ct) :
    intake (st.sessions.get p.hdr.sessionID) p.hdr p.body = .continued sctx ct := by
  unfold Server.intake
  rw [if_neg h.notStart, h.registered]
  dsimp only
  rw [h.expected]
  dsimp only
  rw [h.decodes]

/-- What the handler answers to it. -/
def answerTo (s : Server σ) (c : Conn) (st : State σ) (p : Pkt) (sctx : SessionContext)
    (ct : AuthenContinue) : Except GoError AuthenDecision :=
  (s.cfg.handler.authenticate (authenContext c p.hdr sctx.start) (some ct) st.handler).1

/-- The session stays or goes by the answer of the handler, and so does the reply. -/
theorem handle_continued (s : Server σ) (c : Conn) (t : Times) (h : Continues st p sctx ct) :
    ((handle s c t st p).st.sessions.get p.hdr.sessionID = none ↔
        staysOpen (answerTo s c st p sctx ct) = false) ∧
      (handle s c t st p).reply = replyTo p.hdr (answerTo s c st p sctx ct) := by
  have hacts := handle_acts s c t st p
  unfold react reactAuthen at hacts
  rw [if_pos h.type, h.intake] at hacts
  refine ⟨?_, hacts.reply⟩
  rw [hacts.get_self]
  show (if staysOpen (answerTo s c st p sctx ct) then some _ else none) = none ↔ _
  cases staysOpen (answerTo s c st p sctx ct) with
  | true => simp
  | false => simp

end Continued

theorem staysOpen_eq_false {res : Except GoError AuthenDecision} :
    staysOpen res = false ↔ ∀ dec, res = .ok dec → endsSession dec.status = true := by
  cases res with
  | error e => simp [staysOpen]
  | ok dec => simp [staysOpen]

/-! ## A `ConfigHandler` -/

/-- A user who passes is told nothing else. -/
theorem authenticateWith_pass_eq {bcrypt : Bcrypt} {store : UserStore} {allowPlaintext : Bool}
    {msg : GoString} {ac : AuthenContext} {cont : Option AuthenContinue}
    (h : (authenticateWith bcrypt store allowPlaintext msg ac cont).status = authenStatusPass) :
    authenticateWith bcrypt store allowPlaintext msg ac cont = { status := authenStatusPass } := by
  obtain ⟨u, password, hu, ht, hpres, hver⟩ := authenticateWith_pass_iff.mp h
  have hver' : u.verifyPassword bcrypt password u.passwordHash allowPlaintext = true :=
    verifyPassword_iff.mpr hver
  rw [authenticateWith_admitted hu ht, hpres]
  dsimp only
  rw [if_pos hver']

/-- To a CONTINUE a `ConfigHandler` says PASS or FAIL. -/
theorem authenticateWith_continue_ends {bcrypt : Bcrypt} {store : UserStore}
    {allowPlaintext : Bool} {msg : GoString} {ac : AuthenContext} {ct : AuthenContinue} :
    endsSession (authenticateWith bcrypt store allowPlaintext msg ac (some ct)).status = true := by
  rcases @authenticateWith_replies bcrypt store allowPlaintext msg ac (some ct) with
    ⟨hnone, -⟩ | hst | hst
  · cases hnone
  · rw [hst]
    decide
  · rw [hst]
    decide

/-- The packet is a reply that says PASS. -/
def SaysPass (q : Pkt) : Prop :=
  ∃ reply, AuthenReply.unmarshalBinary q.body = .ok reply ∧ reply.status = authenStatusPass

theorem saysPass_replyTo (hdr : Header) :
    SaysPass (replyTo hdr (.ok { status := authenStatusPass })) :=
  ⟨{ status := authenStatusPass }, rfl, rfl⟩

/-- The server says PASS to a CONTINUE exactly if the handler does, if that is one that tells
    nothing else with it. -/
theorem saysPass_iff {hdr : Header} {dec : AuthenDecision}
    (h : dec.status = authenStatusPass → dec = { status := authenStatusPass }) :
    SaysPass (replyTo hdr (.ok dec)) ↔ dec.status = authenStatusPass := by
  constructor
  · rintro ⟨reply, hreply, hpass⟩
    obtain ⟨dec', hdec', hst⟩ := replyTo_pass hreply hpass
    cases hdec'
    exact hst
  · intro hst
    rw [h hst]
    exact saysPass_replyTo hdr

/-! ## The theorem -/

/-- The message of the CONTINUE is the password of the user the session was opened for, whose
    entry admits the type. -/
def PasswordFits (bcrypt : Bcrypt) (users : UserConfig) (start : AuthenStart)
    (ct : AuthenContinue) : Prop :=
  ∃ u, userEntry users.users start.user = some u ∧ OwnTypeAdmits u start.type ∧
    Verifies bcrypt users.allowPlaintext u.passwordHash ct.userMsg

/-- What a `ConfigHandler` answers to a CONTINUE. -/
theorem configHandler_answer {bcrypt : Bcrypt} {compile : RegexpCompile} {users : UserConfig}
    {h : ConfigHandler} (hh : newConfigHandler compile (some users) = .ok h) {cfg : Config Unit}
    (hcfg : cfg.handler = h.handler bcrypt) (c : Conn) (st : State Unit) (p : Pkt)
    (sctx : SessionContext) (ct : AuthenContinue) :
    ∃ dec, answerTo (new cfg) c st p sctx ct = .ok dec ∧ endsSession dec.status = true ∧
      (dec.status = authenStatusPass → dec = { status := authenStatusPass }) ∧
      (dec.status = authenStatusPass ↔ PasswordFits bcrypt users sctx.start ct) := by
  obtain ⟨hstore, hucfg, -⟩ := newConfigHandler_ok hh
  refine ⟨authenticateWith bcrypt (newMemoryUserStore users.users) users.allowPlaintext
    (lit "unknown user") (authenContext c p.hdr sctx.start) (some ct), ?_,
    authenticateWith_continue_ends, authenticateWith_pass_eq, ?_⟩
  · show (cfg.handler.authenticate _ _ _).1 = _
    rw [hcfg, ← hstore, ← hucfg]
    rfl
  · rw [authenticateWith_pass_iff, lookup_newMemoryUserStore]
    constructor
    · rintro ⟨u, password, hu, ht, hpres, hver⟩
      cases hpres
      exact ⟨u, hu, ht, hver⟩
    · rintro ⟨u, hu, ht, hver⟩
      exact ⟨u, ct.userMsg, hu, ht, rfl, hver⟩

/-- **What becomes of an aborted login.** In every run, for every registered session and every
    well-formed CONTINUE of it that has the number expected and the abort flag. With any handler,
    the session is no longer registered afterwards if and only if the handler answers with an
    error, PASS, FAIL or ERROR. With a `ConfigHandler`, the session is no longer registered and no
    PASS is written if and only if the message is not the password. -/
theorem abortedLogin_iff (es : List Event) (c : Conn) (t : Times) (p : Pkt)
    (sctx : SessionContext) (ct : AuthenContinue) (_haborts : Aborts ct) :
    (∀ (σ : Type) (cfg : Config σ) (hs : σ),
      let st := Run.after (step (new cfg)) (State.init cfg hs) es
      Continues st p sctx ct →
        ((step (new cfg) st (.packet c t p)).1.sessions.get p.hdr.sessionID = none ↔
          ∀ dec, (cfg.handler.authenticate (authenContext c p.hdr sctx.start) (some ct)
            st.handler).1 = .ok dec → endsSession dec.status = true)) ∧
    ∀ (bcrypt : Bcrypt) (compile : RegexpCompile) (users : UserConfig) (h : ConfigHandler),
      newConfigHandler compile (some users) = .ok h →
      ∀ cfg : Config Unit, cfg.handler = h.handler bcrypt →
      let st := Run.after (step (new cfg)) (State.init cfg ()) es
      Continues st p sctx ct →
        ((∀ q, (step (new cfg) st (.packet c t p)).2.reply = some q → ¬SaysPass q) ∧
            (step (new cfg) st (.packet c t p)).1.sessions.get p.hdr.sessionID = none ↔
          ¬PasswordFits bcrypt users sctx.start ct) := by
  refine ⟨?_, ?_⟩
  · intro σ cfg hs st hcont
    exact (handle_continued (new cfg) c t hcont).1.trans staysOpen_eq_false
  · intro bcrypt compile users h hh cfg hcfg st hcont
    obtain ⟨dec, hanswer, hends, hplain, hfits⟩ :=
      configHandler_answer hh hcfg c st p sctx ct
    obtain ⟨hgone, hreply⟩ := handle_continued (new cfg) c t hcont
    rw [hanswer] at hgone hreply
    -- the session goes in any case, so only the reply is in question
    have hclosed := hgone.mpr (staysOpen_eq_false.mpr fun dec' hdec' => by
      cases hdec'
      exact hends)
    have hpass : SaysPass (handle (new cfg) c t st p).reply ↔
        PasswordFits bcrypt users sctx.start ct := by
      rw [hreply, saysPass_iff hplain, hfits]
    constructor
    · rintro ⟨hno, -⟩ hpassword
      exact hno _ rfl (hpass.mpr hpassword)
    · intro hno
      refine ⟨?_, hclosed⟩
      intro q hq hsays
      cases hq
      exact hno (hpass.mp hsays)

/-! `bob` opens an ASCII login on a server that knows the password, and aborts it. -/

def bobStarted : List Event := [.packet tlsConn ⟨0, 0⟩ (clearPkt 9 1 (asciiLogin "bob"))]

/-- A CONTINUE with the abort flag. -/
def abortWith (msg : String) : Pkt :=
  clearPkt 9 3 ([0, byteOf (lit msg).length, 0, 0, continueFlagAbort] ++ lit msg)

/-- The session of `bob`, after the password was asked for. -/
def bobSession : SessionContext where
  start := { action := 1, privLvl := 1, type := 1, service := 1, user := lit "bob", port := [],
             remAddr := [], data := [] }
  flags := 1
  remoteAddr := lit "10.0.0.1:4949"
  lastOutboundSeq := 2

theorem bob_continues (msg : String) (ct : AuthenContinue)
    (h : AuthenContinue.unmarshalBinary (abortWith msg).body = .ok ct) :
    Continues (Run.after (step (new bobServer)) (State.init bobServer ()) bobStarted)
      (abortWith msg) bobSession ct where
  type := rfl
  notStart := by show (3 : UInt8) ≠ 1; decide
  registered := rfl
  expected := rfl
  decodes := h

/-- Aborted with another text, the login is over, without a PASS. -/
theorem abortedLogin_over :
    let st := Run.after (step (new bobServer)) (State.init bobServer ()) bobStarted
    (∀ q, (step (new bobServer) st (.packet tlsConn ⟨1, 1⟩ (abortWith "bye"))).2.reply = some q →
        ¬SaysPass q) ∧
      (step (new bobServer) st (.packet tlsConn ⟨1, 1⟩ (abortWith "bye"))).1.sessions.get 9
        = none := by
  refine ((abortedLogin_iff bobStarted tlsConn ⟨1, 1⟩ (abortWith "bye") bobSession
    { userMsg := lit "bye", data := [], flags := continueFlagAbort } rfl).2 noBcrypt noRegexp
    bobConfig bobHandler rfl bobServer rfl (bob_continues "bye" _ rfl)).mpr ?_
  rintro ⟨u, hu, -, -, hver⟩
  cases hu
  exact absurd hver.2 (by decide)

/-- Aborted with the password for a text, it succeeds. -/
theorem abortedLogin_passes :
    let st := Run.after (step (new bobServer)) (State.init bobServer ()) bobStarted
    let o := step (new bobServer) st (.packet tlsConn ⟨1, 1⟩ (abortWith "secret"))
    (∃ ct, Continues st (abortWith "secret") bobSession ct ∧ Aborts ct) ∧
      ∃ q, o.2.reply = some q ∧ SaysPass q :=
  ⟨⟨_, bob_continues "secret" _ rfl, rfl⟩, _, rfl, { status := authenStatusPass }, rfl, rfl⟩

end Server
end Proof
end Tacacs
