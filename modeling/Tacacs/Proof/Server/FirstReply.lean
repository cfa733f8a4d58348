import Tacacs.Proof.Server.Users
import Tacacs.Cli.Aaa
import Tacacs.Protocol

/-!
# Who is asked for a password

An authenticator answers with PASS or FAIL, or it asks for a password (`authenticateWith_asks_iff`):
it asks whoever is configured, may use the type of the START and has not presented a credential.
The credential of a START is looked for in one place only, the data of a PAP START.

Two things follow that neither authenticator means to do. A user who is not configured is not
asked, so being asked tells that one is. And a START of type CHAP or MS-CHAP, which carries its
response, is answered with the question for a cleartext password.
-/

set_option autoImplicit false

namespace Tacacs
namespace Proof
namespace Server

open GoSem
open Tacacs.Server
open Tacacs.Protocol (isSingleExchange isTerminal)

/-! ## The question -/

theorem presented_eq_none {start : AuthenStart} {cont : Option AuthenContinue} :
    presented start cont = none ↔ cont = none ∧ start.type ≠ authenTypePAP := by
  unfold presented
  cases cont with
  | none => simp
  | some ct => simp

/-- Whoever is not asked has their answer. -/
theorem authenticateWith_terminal_iff {bcrypt : Bcrypt} {store : UserStore}
    {allowPlaintext : Bool} {msg : GoString} {ac : AuthenContext} {cont : Option AuthenContinue} :
    isTerminal (authenticateWith bcrypt store allowPlaintext msg ac cont).status = true ↔
      (authenticateWith bcrypt store allowPlaintext msg ac cont).status
        ≠ authenStatusGetPass := by
  rcases authenticateWith_replies with ⟨-, hst⟩ | hst | hst
  · rw [hst]
    decide
  · rw [hst]
    decide
  · rw [hst]
    decide

/-! ## Being asked tells that one is configured -/

/-- The configuration without the user of that name. -/
def withoutUser (name : GoString) (cfg : UserConfig) : UserConfig :=
  { cfg with users := cfg.users.filter fun u => decide (u.username ≠ name) }

theorem userEntry_withoutUser (name : GoString) (cfg : UserConfig) :
    userEntry (withoutUser name cfg).users name = none := by
  unfold userEntry withoutUser
  refine List.find?_eq_none.mpr fun u hu => ?_
  have hne := (List.mem_filter.mp (List.mem_reverse.mp hu)).2
  simpa using hne

theorem bcryptAuthenticator_eq (bcrypt : Bcrypt) (cfg : UserConfig) (ac : AuthenContext)
    (cont : Option AuthenContinue) :
    (Cli.newBcryptAuthenticator (some cfg)).authenticate bcrypt ac cont =
      .ok (authenticateWith bcrypt (newMemoryUserStore cfg.users) cfg.allowPlaintext
        (lit "invalid credentials") ac cont) := rfl

/-- **When the status does not tell whether a user is configured.** Take a user whose entry
    admits the type of the START, a packet that presents no credential of theirs, and the same
    configuration without the user. `BcryptAuthenticator.Authenticate` answers with the same
    status under both if and only if the packet is a CONTINUE or the START is of type PAP. -/
theorem status_conceals_user_iff (bcrypt : Bcrypt) (cfg : UserConfig) (ac : AuthenContext)
    (cont : Option AuthenContinue) (u : User)
    (hu : userEntry cfg.users ac.start.user = some u) (ht : OwnTypeAdmits u ac.start.type)
    (hbad : ∀ password, presented ac.start cont = some password →
      u.verifyPassword bcrypt password u.passwordHash cfg.allowPlaintext = false) :
    (∃ dec dec',
      (Cli.newBcryptAuthenticator (some cfg)).authenticate bcrypt ac cont = .ok dec ∧
      (Cli.newBcryptAuthenticator (some (withoutUser ac.start.user cfg))).authenticate bcrypt ac
        cont = .ok dec' ∧ dec.status = dec'.status) ↔
    cont ≠ none ∨ ac.start.type = authenTypePAP := by
  have hlook : (newMemoryUserStore cfg.users).lookup ac.start.user = some u := by
    rw [lookup_newMemoryUserStore, hu]
  have hlook' : (newMemoryUserStore (withoutUser ac.start.user cfg).users).lookup ac.start.user
      = none := by
    rw [lookup_newMemoryUserStore, userEntry_withoutUser]
  rw [bcryptAuthenticator_eq, bcryptAuthenticator_eq]
  have hpresented : (cont ≠ none ∨ ac.start.type = authenTypePAP) ↔
      presented ac.start cont ≠ none := by
    simp only [ne_eq, presented_eq_none, not_and_or, not_not]
  rw [hpresented]
  constructor
  · rintro ⟨dec, dec', hdec, hdec', heq⟩ hnone
    cases hdec
    cases hdec'
    rw [authenticateWith_asks_iff.mpr ⟨u, hlook, ht, hnone⟩, authenticateWith_unknown hlook'] at heq
    exact absurd heq (by decide)
  · intro hsome
    refine ⟨_, _, rfl, rfl, ?_⟩
    obtain ⟨password, hpassword⟩ := Option.ne_none_iff_exists'.mp hsome
    rw [authenticateWith_unknown hlook', authenticateWith_status hlook ht, hpassword]
    dsimp only
    rw [hbad password hpassword]
    rfl

/-- `frank` may use any type. -/
def frankConfig : UserConfig where
  users := [{ username := lit "frank", passwordHash := lit "pw" }]
  allowPlaintext := true

/-- A login of `frank`. -/
def frankLogin (type : AuthenType) (data : String) : AuthenContext where
  sessionID := 7
  seqNo := 1
  start := { action := 1, privLvl := 1, type, service := 1, user := lit "frank", port := [],
             remAddr := [], data := lit data }
  remoteAddr := []

/-- Over PAP, with a wrong password. -/
theorem status_conceals_frank :
    ∃ dec dec',
      (Cli.newBcryptAuthenticator (some frankConfig)).authenticate noBcrypt
        (frankLogin authenTypePAP "guess") none = .ok dec ∧
      (Cli.newBcryptAuthenticator (some (withoutUser (lit "frank") frankConfig))).authenticate
        noBcrypt (frankLogin authenTypePAP "guess") none = .ok dec' ∧ dec.status = dec'.status :=
  (status_conceals_user_iff noBcrypt frankConfig (frankLogin authenTypePAP "guess") none _ rfl
    (fun h => absurd rfl h) (by intro password h; cases h; decide)).mpr (Or.inr rfl)

/-- Over ASCII the first reply tells: `frank` is asked if configured, and failed if not. -/
theorem status_reveals_frank :
    (∃ u, userEntry frankConfig.users (lit "frank") = some u ∧
      OwnTypeAdmits u authenTypeASCII) ∧
    presented (frankLogin authenTypeASCII "").start none = none ∧
    (Cli.newBcryptAuthenticator (some frankConfig)).authenticate noBcrypt
      (frankLogin authenTypeASCII "") none
        = .ok { status := authenStatusGetPass, serverMsg := lit "Password:" } ∧
    (Cli.newBcryptAuthenticator (some (withoutUser (lit "frank") frankConfig))).authenticate
      noBcrypt (frankLogin authenTypeASCII "") none
        = .ok { status := authenStatusFail, serverMsg := lit "invalid credentials" } :=
  ⟨⟨_, rfl, fun h => absurd rfl h⟩, rfl, rfl, rfl⟩

/-! ## Types that are one exchange -/

/-- The START is answered for good, and no password is asked for. -/
def AnsweredAtOnce (res : Except GoError AuthenDecision) : Prop :=
  ∃ dec, res = .ok dec ∧ isTerminal dec.status = true ∧ dec.status ≠ authenStatusGetPass

theorem answeredAtOnce_iff {bcrypt : Bcrypt} {users : List User} {allowPlaintext : Bool}
    {msg : GoString} {ac : AuthenContext} :
    AnsweredAtOnce (.ok (authenticateWith bcrypt (newMemoryUserStore users) allowPlaintext msg ac
      none)) ↔
    ac.start.type = authenTypePAP ∨
      ∀ u, userEntry users ac.start.user = some u → ¬OwnTypeAdmits u ac.start.type := by
  have hasked : AnsweredAtOnce (.ok (authenticateWith bcrypt (newMemoryUserStore users)
      allowPlaintext msg ac none)) ↔
      ¬∃ u, userEntry users ac.start.user = some u ∧ OwnTypeAdmits u ac.start.type ∧
        presented ac.start none = none := by
    rw [← lookup_newMemoryUserStore, ← authenticateWith_asks_iff]
    constructor
    · rintro ⟨dec, hdec, -, hne⟩
      cases hdec
      exact hne
    · intro hne
      exact ⟨_, rfl, authenticateWith_terminal_iff.mpr hne, hne⟩
  rw [hasked, presented_eq_none]
  constructor
  · intro h
    by_cases hpap : ac.start.type = authenTypePAP
    · exact Or.inl hpap
    · exact Or.inr fun u hu ht => h ⟨u, hu, ht, rfl, hpap⟩
  · rintro (hpap | hno) ⟨u, hu, ht, -, hne⟩
    · exact hne hpap
    · exact hno u hu ht

/-- CHAP and the two kinds of MS-CHAP. -/
def isChallenge (type : AuthenType) : Bool :=
  type == authenTypeCHAP || type == authenTypeMSCHAP || type == authenTypeMSCHAPv2

/-- Of the types that are one exchange, PAP is the one without a challenge. -/
theorem isChallenge_eq_false {type : AuthenType} (h : isSingleExchange type = true) :
    isChallenge type = false ↔ type = authenTypePAP := by
  constructor
  · intro hno
    unfold isSingleExchange at h
    unfold isChallenge at hno
    simp only [Bool.or_assoc] at h hno
    rw [hno, Bool.or_false] at h
    exact eq_of_beq h
  · rintro rfl
    decide

/-- **When a single exchange is one.** Take any configuration, and a START of a type that
    `IsSingleExchange` calls a single exchange. Each of the two authenticators answers it for
    good if and only if the type has no challenge, or there is no user of that name whose entry
    admits the type. -/
theorem singleExchange_iff (bcrypt : Bcrypt) (compile : RegexpCompile) (cfg : UserConfig)
    (ac : AuthenContext) (htype : isSingleExchange ac.start.type = true) :
    (∀ h, newConfigHandler compile (some cfg) = .ok h →
      (AnsweredAtOnce (h.authenticate bcrypt ac none) ↔
        isChallenge ac.start.type = false ∨
          ∀ u, userEntry cfg.users ac.start.user = some u → ¬OwnTypeAdmits u ac.start.type)) ∧
    (AnsweredAtOnce ((Cli.newBcryptAuthenticator (some cfg)).authenticate bcrypt ac none) ↔
      isChallenge ac.start.type = false ∨
        ∀ u, userEntry cfg.users ac.start.user = some u → ¬OwnTypeAdmits u ac.start.type) := by
  rw [isChallenge_eq_false htype]
  refine ⟨?_, ?_⟩
  · intro h hh
    obtain ⟨hstore, hcfg, -⟩ := newConfigHandler_ok hh
    rw [ConfigHandler.authenticate, hstore, hcfg]
    exact answeredAtOnce_iff
  · rw [bcryptAuthenticator_eq]
    exact answeredAtOnce_iff

/-- Over PAP, `frank` is answered at once. -/
theorem singleExchange_pap :
    AnsweredAtOnce ((Cli.newBcryptAuthenticator (some frankConfig)).authenticate noBcrypt
      (frankLogin authenTypePAP "pw") none) :=
  (singleExchange_iff noBcrypt noRegexp frankConfig (frankLogin authenTypePAP "pw") rfl).2.mpr
    (Or.inl rfl)

/-- Over CHAP, both authenticators ask `frank` for the password. -/
theorem singleExchange_chap_asks :
    isSingleExchange authenTypeCHAP = true ∧
    (∃ h, newConfigHandler noRegexp (some frankConfig) = .ok h ∧
      h.authenticate noBcrypt (frankLogin authenTypeCHAP "response") none
        = .ok { status := authenStatusGetPass, serverMsg := lit "Password:" }) ∧
    (Cli.newBcryptAuthenticator (some frankConfig)).authenticate noBcrypt
      (frankLogin authenTypeCHAP "response") none
        = .ok { status := authenStatusGetPass, serverMsg := lit "Password:" } :=
  ⟨rfl, ⟨_, rfl, rfl⟩, rfl⟩

end Server
end Proof
end Tacacs
