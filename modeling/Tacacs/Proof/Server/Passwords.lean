import Tacacs.Proof.Server.Sequence
import Tacacs.Proof.Server.Users
import Tacacs.Proof.Packet.Bodies

/-!
# No PASS without the right password

Over a whole run the registry could mix things up in two ways: keep a START after a newer one
came in, or hold one session's START under another's id. `Remembers` rules out both: whatever is
registered under an id is **the last well-formed START received with that id**. It is kept by
every event, whatever the handler does.

The rest is reading a reply backwards: bytes that decode to PASS were encoded from a decision to
PASS, and `authenticateWith_pass_iff` says when that decision is made.
-/

set_option autoImplicit false

namespace Tacacs
namespace Proof
namespace Server

open GoSem Tacacs.Packet Tacacs.Transport
open Tacacs.Server hiding AuthenStart AuthenContinue

variable {σ : Type}

/-! ## What the registry remembers -/

/-- The last well-formed START for session `id` among some events. -/
def lastStart (id : UInt32) (es : List Event) : Option AuthenStart :=
  es.reverse.findSome? (startOf id)

theorem lastStart_snoc (id : UInt32) (es : List Event) (e : Event) :
    lastStart id (es ++ [e]) = (startOf id e).or (lastStart id es) := by
  unfold lastStart
  rw [List.reverse_append, List.reverse_singleton, List.singleton_append, List.findSome?_cons]
  cases startOf id e <;> rfl

/-- Every registered session has the START that came last for its id. -/
def Remembers (es : List Event) (st : State σ) : Prop :=
  ∀ id sctx, st.sessions.get id = some sctx → lastStart id es = some sctx.start

/-- Without a START for it, a session that is registered after an event was registered before
    it, with the same START. -/
theorem start_kept (s : Server σ) {st : State σ} {id : UInt32} {e : Event}
    {sctx : SessionContext} (he : startOf id e = none)
    (h : (step s st e).1.sessions.get id = some sctx) :
    ∃ sctx', st.sessions.get id = some sctx' ∧ sctx.start = sctx'.start := by
  cases e with
  | sweep now =>
    have h' : (st.sessions.sweepExpired now).get id = some sctx := h
    rw [get_sweepExpired] at h'
    exact ⟨sctx, (Option.filter_eq_some_iff.mp h').1, rfl⟩
  | packet c t p =>
    have h' : (handle s c t st p).st.sessions.get id = some sctx := h
    by_cases hp : p.hdr.type = packetAuthentication ∧ p.hdr.sessionID = id
    · obtain ⟨htype, rfl⟩ := hp
      have hacts := handle_acts s c t st p
      unfold react reactAuthen at hacts
      rw [if_pos htype] at hacts
      rw [hacts.get_self] at h'
      cases hi : intake (st.sessions.get p.hdr.sessionID) p.hdr p.body with
      | refused => rw [hi] at h'; exact ⟨sctx, h', rfl⟩
      | outOfSequence => rw [hi] at h'; cases h'
      | opened start =>
        obtain ⟨hseq, hb⟩ := intake_opened hi
        have hsome := startIn_eq_some.mpr ⟨htype, rfl, hseq, hb⟩
        rw [show startIn p.hdr.sessionID p = none from he] at hsome
        cases hsome
      | continued sctx' cont =>
        rw [hi] at h'
        exact ⟨sctx', (intake_continued hi).2.1, (answered_entry h').1⟩
    · rw [get_handle_other s c t st fun htype hid => hp ⟨htype, hid⟩] at h'
      exact ⟨sctx, h', rfl⟩

/-- One event keeps what the registry remembers true. -/
theorem remembers_step (s : Server σ) {es : List Event} {st : State σ} (h : Remembers es st)
    (e : Event) : Remembers (es ++ [e]) (step s st e).1 := by
  intro id sctx hget
  rw [lastStart_snoc]
  cases he : startOf id e with
  | some start =>
    have hwait := (turns_start s st he).2.waiting sctx hget
    rw [hwait.1]
    rfl
  | none =>
    obtain ⟨sctx', hget', hstart⟩ := start_kept s he hget
    rw [hstart]
    exact h id sctx' hget'

theorem remembers_run (s : Server σ) {st : State σ} (h : Remembers [] st) (es : List Event) :
    Remembers es (Run.after (step s) st es) :=
  Run.run_induction (step s) (fun es _ st => Remembers es st) h
    (fun _ _ _ e ih => remembers_step s ih e) es

theorem remembers_init (cfg : Config σ) (h : σ) : Remembers [] (State.init cfg h) := by
  intro id sctx hget
  cases hget

/-! ## Reading a reply backwards -/

/-- A reply that decodes to PASS was a decision to PASS. -/
theorem replyTo_pass {hdr : Header} {res : Except GoError AuthenDecision} {reply : AuthenReply}
    (h : AuthenReply.unmarshalBinary (replyTo hdr res).body = .ok reply)
    (hpass : reply.status = authenStatusPass) :
    ∃ dec, res = .ok dec ∧ dec.status = authenStatusPass := by
  cases res with
  | error e =>
    -- the body of `sendAuthenError` is a constant, and its status is ERROR
    have herr : AuthenReply.unmarshalBinary (sendAuthenError hdr).body
        = .ok { status := authenStatusError } := rfl
    rw [show (replyTo hdr (.error e)).body = (sendAuthenError hdr).body from rfl, herr] at h
    cases h
    exact absurd hpass (by decide)
  | ok dec =>
    refine ⟨dec, rfl, ?_⟩
    have h' : AuthenReply.unmarshalBinary
        (encodeReply hdr (replyBody dec).marshalBinary).body = .ok reply := h
    cases hm : (replyBody dec).marshalBinary with
    | error e =>
      rw [hm] at h'
      exact absurd h' (by simp [encodeReply, sendGenericError, AuthenReply.unmarshalBinary])
    | ok rb =>
      rw [hm] at h'
      have hback := Packet.authenReply_realises.decode_encode hm
      rw [show (encodeReply hdr (.ok rb)).body = rb from rfl, hback] at h'
      cases h'
      exact hpass

/-- Who was asked, when an authentication packet is answered with PASS. -/
theorem handle_pass {s : Server σ} {c : Conn} {t : Times} {st : State σ} {p : Pkt}
    {reply : AuthenReply} (htype : p.hdr.type = packetAuthentication)
    (h : AuthenReply.unmarshalBinary (handle s c t st p).reply.body = .ok reply)
    (hpass : reply.status = authenStatusPass) :
    ∃ start cont dec,
      (s.cfg.handler.authenticate (authenContext c p.hdr start) cont st.handler).1 = .ok dec ∧
      dec.status = authenStatusPass ∧
      ((p.hdr.seqNo = 1 ∧ AuthenStart.unmarshalBinary p.body = .ok start ∧ cont = none) ∨
        (p.hdr.seqNo ≠ 1 ∧
          (∃ sctx, st.sessions.get p.hdr.sessionID = some sctx ∧ start = sctx.start) ∧
          ∃ ct, AuthenContinue.unmarshalBinary p.body = .ok ct ∧ cont = some ct)) := by
  rw [(handle_acts s c t st p).reply] at h
  unfold react reactAuthen at h
  rw [if_pos htype] at h
  cases hi : intake (st.sessions.get p.hdr.sessionID) p.hdr p.body with
  | refused =>
    rw [hi] at h
    exact absurd h (by simp [sendGenericError, AuthenReply.unmarshalBinary])
  | outOfSequence =>
    rw [hi] at h
    exact absurd h (by simp [sendGenericError, AuthenReply.unmarshalBinary])
  | opened start =>
    rw [hi] at h
    obtain ⟨hseq, hb⟩ := intake_opened hi
    obtain ⟨dec, hdec, hst⟩ := replyTo_pass h hpass
    exact ⟨start, none, dec, hdec, hst, Or.inl ⟨hseq, hb, rfl⟩⟩
  | continued sctx ct =>
    rw [hi] at h
    obtain ⟨hseq, hget, -, hb⟩ := intake_continued hi
    obtain ⟨dec, hdec, hst⟩ := replyTo_pass h hpass
    exact ⟨sctx.start, some ct, dec, hdec, hst, Or.inr ⟨hseq, ⟨sctx, hget, rfl⟩, ct, hb, rfl⟩⟩

/-! ## The theorem -/

/-- The packet being answered carries a credential that fits `hash`: the data of a PAP START,
    or the message of a CONTINUE. -/
def CarriesPassword (bcrypt : Bcrypt) (allowPlaintext : Bool) (hash : GoString)
    (start : AuthenStart) (p : Pkt) : Prop :=
  (p.hdr.seqNo = 1 ∧ start.type = authenTypePAP ∧
      Verifies bcrypt allowPlaintext hash start.data) ∨
    (p.hdr.seqNo ≠ 1 ∧ ∃ ct, AuthenContinue.unmarshalBinary p.body = .ok ct ∧
      Verifies bcrypt allowPlaintext hash ct.userMsg)

/-- **No PASS without the right password.** In a run of a server whose handler is a
    `ConfigHandler`, after any events, a packet is answered with PASS only if the last
    well-formed START of its session names a configured user, whose type restriction admits the
    START and whose password the packet carries. -/
theorem pass_needs_password (bcrypt : Bcrypt) (compile : RegexpCompile) (users : UserConfig)
    (h : ConfigHandler) (hh : newConfigHandler compile (some users) = .ok h)
    (cfg : Config Unit) (hcfg : cfg.handler = h.handler bcrypt) (es : List Event) (c : Conn)
    (t : Times) (p q : Pkt) (reply : AuthenReply)
    (hq : (step (new cfg) (Run.after (step (new cfg)) (State.init cfg ()) es)
      (.packet c t p)).2.reply = some q)
    (htype : q.hdr.type = packetAuthentication)
    (hreply : AuthenReply.unmarshalBinary q.body = .ok reply)
    (hpass : reply.status = authenStatusPass) :
    ∃ start u, lastStart q.hdr.sessionID (es ++ [.packet c t p]) = some start ∧
      u ∈ users.users ∧ u.username = start.user ∧ u.passwordHash ≠ [] ∧
      (u.authType ≠ [] → authTypeMatches u.authType start.type = true) ∧
      CarriesPassword bcrypt users.allowPlaintext u.passwordHash start p := by
  have hq' : (handle (new cfg) c t (Run.after (step (new cfg)) (State.init cfg ()) es) p).reply
      = q := Option.some.inj hq
  have hhdr := handle_reply_hdr (new cfg) c t (Run.after (step (new cfg)) (State.init cfg ()) es) p
  rw [hq'] at hhdr
  have hid : q.hdr.sessionID = p.hdr.sessionID := by rw [hhdr]; rfl
  have hptype : p.hdr.type = packetAuthentication := by rw [← htype, hhdr]; rfl
  rw [← hq'] at hreply
  obtain ⟨start, cont, dec, hdec, hst, hfrom⟩ := handle_pass hptype hreply hpass
  obtain ⟨hstore, hucfg, -⟩ := newConfigHandler_ok hh
  -- the handler's decision, traced to the user entry and the credential
  have hasked : (new cfg).cfg.handler = h.handler bcrypt := hcfg
  rw [hasked] at hdec
  have hdec' := Except.ok.inj hdec
  rw [← hdec'] at hst
  obtain ⟨u, password, hu, ht, hpres, hver⟩ := authenticateWith_pass_iff.mp hst
  rw [hstore, lookup_newMemoryUserStore] at hu
  obtain ⟨hmem, hname⟩ := userEntry_mem hu
  rw [hucfg] at hver
  refine ⟨start, u, ?_, hmem, hname, hver.1, ht, ?_⟩
  · rw [hid, lastStart_snoc]
    rcases hfrom with ⟨hseq, hb, -⟩ | ⟨hseq, ⟨sctx, hget, rfl⟩, -⟩
    · rw [show startOf p.hdr.sessionID (.packet c t p) = some start from
        startIn_eq_some.mpr ⟨hptype, rfl, hseq, hb⟩]
      rfl
    · have hnone : startOf p.hdr.sessionID (.packet c t p) = none := by
        show startIn p.hdr.sessionID p = none
        unfold startIn
        rw [if_neg fun hall => hseq hall.2.2]
      rw [hnone]
      exact remembers_run (new cfg) (remembers_init cfg ()) es _ _ hget
  · rcases hfrom with ⟨hseq, -, rfl⟩ | ⟨hseq, -, ct, hb, rfl⟩
    · have hpres' : (if start.type = authenTypePAP then some start.data else none)
          = some password := hpres
      by_cases hpap : start.type = authenTypePAP
      · rw [if_pos hpap] at hpres'
        cases hpres'
        exact Or.inl ⟨hseq, hpap, hver⟩
      · rw [if_neg hpap] at hpres'
        cases hpres'
    · cases Option.some.inj hpres
      exact Or.inr ⟨hseq, ct, hb, hver⟩

/-! `bob` logs in with a plain-text password, allowed for development. -/

def bob : User := { username := lit "bob", passwordHash := lit "secret" }

def bobConfig : UserConfig := { users := [bob], allowPlaintext := true }

def bobHandler : ConfigHandler where
  store := newMemoryUserStore [bob]
  cfg := bobConfig
  resolved := (∅ : Resolved).insert (lit "bob") { user := bob, commands := [], services := [] }

def bobServer : Config Unit := { handler := bobHandler.handler noBcrypt, mode := .tls }

theorem pass_needs_password_bob :
    ∃ start u, lastStart 9 [.packet tlsConn ⟨0, 0⟩ (clearPkt 9 1 (asciiLogin "bob")),
        .packet tlsConn ⟨1, 1⟩ (clearPkt 9 3 (continueWith "secret"))] = some start ∧
      u ∈ bobConfig.users ∧ u.username = start.user ∧ u.passwordHash ≠ [] ∧
      (u.authType ≠ [] → authTypeMatches u.authType start.type = true) ∧
      CarriesPassword noBcrypt true u.passwordHash start (clearPkt 9 3 (continueWith "secret")) :=
  pass_needs_password noBcrypt noRegexp bobConfig bobHandler rfl bobServer rfl
    [.packet tlsConn ⟨0, 0⟩ (clearPkt 9 1 (asciiLogin "bob"))] tlsConn ⟨1, 1⟩
    (clearPkt 9 3 (continueWith "secret"))
    ⟨errorHeader (clearPkt 9 3 []).hdr, [1, 0, 0, 0, 0, 0]⟩ { status := authenStatusPass }
    (by decide) rfl rfl rfl

end Server
end Proof
end Tacacs
