import Tacacs.Cli.Commands
import Tacacs.Cli.Wiring
import Tacacs.Proof.Cli.Reload
import Tacacs.Proof.Interactive

/-!
# Logging in with `auth`

The command is run against the server of the same program. Between them are the wire formats, the
obfuscation of the bodies, the registry of sessions and the handler; what is left of all that is a
yes or a no, which is what the exit status says.

It is enough to know of a handler which passwords it accepts. The conversation then takes one
round or two (`talk_login`), and `authenticate_conversed` carries it over to the two ends of a
connection.
-/

set_option autoImplicit false

namespace Tacacs
namespace Proof
namespace Cli

open GoSem Tacacs.Cli Tacacs.Client Tacacs.Connection Tacacs.Protocol Tacacs.Transport
open Tacacs.Server (AuthenContext AuthenDecision Bcrypt Config Handler RegexpCompile State User
  UserConfig authTypeMatches authenticateWith)
open Tacacs.Packet (AuthenStart AuthenContinue)
open Tacacs.Proof.Packet (authenStartFormat authenStart_realises)
open Tacacs.Proof.Connection
open Tacacs.Proof.Server (OwnTypeAdmits Verifies authenticateWith_admitted lookup_newMemoryUserStore
  noBcrypt noRegexp presented userEntry verifyPassword_iff)

/-! ## Handlers that ask for a password -/

/-- Who may log in: for a user and a type the passwords that are accepted, or none if the user is
    turned away unheard. -/
abbrev Passwords := GoString → AuthenType → Option (GoString → Bool)

/-- What the answer to a login says. -/
def loginStatus (accepts : Passwords) (start : AuthenStart) (cont : Option AuthenContinue) :
    AuthenStatus :=
  match accepts start.user start.type with
  | none => authenStatusFail
  | some ok =>
      match presented start cont with
      | none => authenStatusGetPass
      | some password => if ok password then authenStatusPass else authenStatusFail

/-- The handler answers by the passwords that its state holds, and does not change it. -/
def AsksForPassword {σ : Type} (h : Handler σ) (accepts : σ → Passwords) : Prop :=
  ∀ ac cont hs, ∃ serverMsg : GoString, serverMsg.length ≤ 65530 ∧ h.authenticate ac cont hs =
    (.ok { status := loginStatus (accepts hs) ac.start cont, serverMsg }, hs)

section Login

variable (accepts : Passwords)

theorem loginStatus_cases (start : AuthenStart) (cont : Option AuthenContinue) :
    loginStatus accepts start cont = authenStatusPass ∨
      loginStatus accepts start cont = authenStatusFail ∨
      loginStatus accepts start cont = authenStatusGetPass := by
  unfold loginStatus
  split
  · exact .inr (.inl rfl)
  · split
    · exact .inr (.inr rfl)
    · split
      · exact .inl rfl
      · exact .inr (.inl rfl)

/-- The client reads the status as it was decided. -/
theorem status_replyOf (start : AuthenStart) (cont : Option AuthenContinue) (serverMsg : GoString) :
    (replyOf (.ok { status := loginStatus accepts start cont, serverMsg })).status =
      loginStatus accepts start cont := by
  show (if loginStatus accepts start cont = authenStatusFollow then authenStatusFail
    else loginStatus accepts start cont) = _
  rcases loginStatus_cases accepts start cont with h | h | h
  · rw [h]; rfl
  · rw [h]; rfl
  · rw [h]; rfl

/-- Either the login is decided, or the password is asked for. -/
theorem isDecision_loginStatus (start : AuthenStart) (cont : Option AuthenContinue) :
    isDecision (loginStatus accepts start cont) = true ∨
      (isDecision (loginStatus accepts start cont) = false ∧ presented start cont = none ∧
        ∃ ok, accepts start.user start.type = some ok) := by
  unfold loginStatus
  cases accepts start.user start.type with
  | none => exact .inl rfl
  | some ok =>
    cases hgiven : presented start cont with
    | none => exact .inr ⟨rfl, rfl, ok, rfl⟩
    | some password =>
      refine .inl ?_
      dsimp only
      split <;> rfl

theorem loginStatus_pass_iff (start : AuthenStart) (cont : Option AuthenContinue) :
    loginStatus accepts start cont = authenStatusPass ↔
      ∃ ok password, accepts start.user start.type = some ok ∧
        presented start cont = some password ∧ ok password = true := by
  unfold loginStatus
  cases accepts start.user start.type with
  | none => simp [show authenStatusFail ≠ authenStatusPass by decide]
  | some ok =>
    cases presented start cont with
    | none => simp [show authenStatusGetPass ≠ authenStatusPass by decide]
    | some password =>
      cases hok : ok password with
      | true => simp [hok]
      | false => simp [hok, show authenStatusFail ≠ authenStatusPass by decide]

end Login

section Asks

variable {σ : Type} {h : Handler σ} {accepts : σ → Passwords} (hasks : AsksForPassword h accepts)
include hasks

theorem AsksForPassword.sayable (ac : AuthenContext) (cont : Option AuthenContinue) (hs : σ) :
    Sayable (h.authenticate ac cont hs).1 := by
  obtain ⟨serverMsg, hlen, hanswer⟩ := hasks ac cont hs
  rw [hanswer]
  refine ⟨hlen, ?_⟩
  show loginStatus (accepts hs) ac.start cont ≠ authenStatusRestart
  rcases loginStatus_cases (accepts hs) ac.start cont with h | h | h
  · rw [h]; decide
  · rw [h]; decide
  · rw [h]; decide

/-- What the client reads. -/
theorem AsksForPassword.status (ac : AuthenContext) (cont : Option AuthenContinue) (hs : σ) :
    (replyOf (h.authenticate ac cont hs).1).status = loginStatus (accepts hs) ac.start cont := by
  obtain ⟨serverMsg, -, hanswer⟩ := hasks ac cont hs
  rw [hanswer]
  exact status_replyOf (accepts hs) ac.start cont serverMsg

theorem AsksForPassword.stays (ac : AuthenContext) (cont : Option AuthenContinue) (hs : σ) :
    (h.authenticate ac cont hs).2 = hs := by
  obtain ⟨serverMsg, -, hanswer⟩ := hasks ac cont hs
  rw [hanswer]

/-- A conversation in which the user always says `msg`: it is over after the START, or after the
    password was asked for once. -/
theorem talk_login (d : Conn) (id : UInt32) (req : AuthenStart) (msg : GoString) (hs : σ) :
    let t := talk h (fun _ (u : Unit) => (msg, u)) (turnContext d id req) 127 0 none hs ()
    t.err = none ∧ (t.value.status = authenStatusPass ↔
      ∃ ok, accepts hs req.user req.type = some ok ∧
        ok ((presented req none).getD msg) = true) := by
  intro t
  have hfirst : (replyOf (h.authenticate (turnContext d id req 0) none hs).1).status
      = loginStatus (accepts hs) req none := hasks.status _ none hs
  rcases isDecision_loginStatus (accepts hs) req none with hterm | ⟨hopen, hnone, ok, hok⟩
  · -- decided at once
    have ht : t = .decided _ _ _ _ := talk_terminal (hfirst ▸ hterm)
    rw [ht]
    refine ⟨rfl, ?_⟩
    show (replyOf _).status = _ ↔ _
    rw [hfirst, loginStatus_pass_iff]
    constructor
    · rintro ⟨ok, password, hok, hgiven, hpassword⟩
      exact ⟨ok, hok, by rw [hgiven]; exact hpassword⟩
    · rintro ⟨ok, hok, hpassword⟩
      cases hgiven : presented req none with
      | some password =>
        rw [hgiven] at hpassword
        exact ⟨ok, password, hok, rfl, hpassword⟩
      | none =>
        have hopen : loginStatus (accepts hs) req none = authenStatusGetPass := by
          unfold loginStatus
          rw [hok, hgiven]
        rw [hopen] at hterm
        exact absurd hterm (by decide)
  · -- asked, and answered
    have hsecond : (replyOf (h.authenticate (turnContext d id req 1) (some (continueOf msg))
        hs).1).status = loginStatus (accepts hs) req (some (continueOf msg)) :=
      hasks.status _ _ hs
    have hterm : isDecision (loginStatus (accepts hs) req (some (continueOf msg))) = true := by
      rcases isDecision_loginStatus (accepts hs) req (some (continueOf msg)) with
        hterm | ⟨-, hnone, -⟩
      · exact hterm
      · cases hnone
    have ht : t = .after _ _ _ _ := talk_succ (hfirst ▸ hopen)
    rw [hasks.stays, talk_terminal (hsecond ▸ hterm)] at ht
    rw [ht]
    refine ⟨rfl, ?_⟩
    show (replyOf _).status = _ ↔ _
    rw [hsecond, loginStatus_pass_iff, hnone, hok]
    constructor
    · rintro ⟨ok, password, hok, hgiven, hpassword⟩
      cases hgiven
      exact ⟨ok, hok, hpassword⟩
    · rintro ⟨ok, hok, hpassword⟩
      exact ⟨ok, msg, hok, rfl, hpassword⟩

end Asks

/-! ## `Authenticate` against such a handler -/

/-- What the user types when they are asked. -/
def typing {σ : Type} (line : Except GoError GoString) : ContFn (Pipe σ Unit) := fun r x =>
  (line, { x with asked := x.asked ++ [r] })

/-- A new connection to the server. -/
def dialed {σ : Type} (s : Tacacs.Server σ) (md5 : Crypto.Md5) (c d : Conn) (clock : Clock)
    (id : UInt32) (st : State σ) : Dialed (Pipe σ Unit) where
  link := connect s md5 c d clock
  sess := newSession .client id
  outside := Pipe.fresh st ()

section Authenticate

variable {σ : Type} (s : Tacacs.Server σ) (md5 : Crypto.Md5) {c d : Conn} (clock : Clock)
variable (hmode : d.mode = c.mode) (hsecret : d.secret = c.secret)
variable {st : State σ} {accepts : σ → Passwords} (hasks : AsksForPassword s.cfg.handler accepts)
variable {req : AuthenRequest} (id : UInt32)

/-- The login was accepted. -/
def Accepted (o : Outcome AuthenReply (Pipe σ Unit)) : Prop :=
  o.err = none ∧ o.value.status = authenStatusPass

/-- A START that does not fit into a packet is not sent. -/
theorem authenticate_misfit (l : Link (Pipe σ Unit)) (contFn : Option (ContFn (Pipe σ Unit)))
    (sess : Session) (x : Pipe σ Unit) (h : ¬authenStartFormat.Fits req) :
    ¬Accepted (authenticate l contFn req sess x) := by
  unfold authenticate
  cases hsb : req.marshalBinary with
  | ok sb => exact absurd ((authenStart_realises.encodes_iff req).mp ⟨sb, hsb⟩) h
  | error f => exact fun hacc => (by cases hacc.1)

include hmode hsecret hasks

/-- The first reply, for any `contFn`. -/
theorem authenticate_first (contFn : Option (ContFn (Pipe σ Unit)))
    (h : authenStartFormat.Fits req) :
    let l := connect s md5 c d clock
    let version := majorVersion <<< 4 ||| minorVersionFor req.type
    ∃ (r : AuthenReply) (sess : Session) (x x' : Pipe σ Unit),
      r.status = loginStatus (accepts st.handler) req none ∧
      authenticate l contFn req (newSession .client id) (Pipe.fresh st ())
        = authenticateLoop l contFn version sess x ∧
      authenticateRound l contFn version sess x =
        if isDecision r.status then .done { value := r, err := none, sess, outside := x' }
        else authenticateContinue l contFn version r sess x' := by
  intro l version
  obtain ⟨sb, hsb, hlen⟩ := exists_startBody h
  have hv : Tacacs.Version.valid version = true := version_valid req.type
  have hs : (newSession .client id).nextSeq ≤ 255 := show 1 ≤ 255 by decide
  have hsend := connect_send s md5 clock hmode hsecret (idle_fresh d st ()) hv
    packetAuthentication hlen hs
  have hcarries : NextCarries clock req id (Pipe.fresh st ()) 0 none
      (incoming c version packetAuthentication ⟨id, .client, 2 * 0 + 1⟩ sb) :=
    .start rfl rfl rfl hsb
  obtain ⟨hasked, -, -⟩ := handleNext_turn s (d := d) clock hcarries
  exact ⟨_, _, _, _, hasks.status (turnContext d id req 0) none st.handler,
    authenticate_sent hsb hsend,
    round_connect s md5 clock hmode hsecret hv (hasks.sayable _ none st.handler) hasked.reply⟩

/-- Nobody answers when the server asks. -/
def Mute (contFn : Option (ContFn (Pipe σ Unit))) : Prop :=
  contFn = none ∨ ∃ err, contFn = some (typing (.error err))

theorem authenticate_mute {contFn : Option (ContFn (Pipe σ Unit))} (hmute : Mute contFn)
    (h : authenStartFormat.Fits req) :
    Accepted (authenticate (connect s md5 c d clock) contFn req (newSession .client id)
      (Pipe.fresh st ())) ↔ loginStatus (accepts st.handler) req none = authenStatusPass := by
  obtain ⟨r, sess, x, x', hstatus, hloop, hround⟩ :=
    authenticate_first s md5 clock hmode hsecret hasks id contFn h
  rw [hloop, ← hstatus]
  cases hterm : isDecision r.status with
  | true =>
    rw [hterm, if_pos rfl] at hround
    rw [authenticateLoop_done hround]
    exact ⟨fun hacc => hacc.2, fun hpass => ⟨rfl, hpass⟩⟩
  | false =>
    rw [hterm, if_neg Bool.false_ne_true] at hround
    have hnot : r.status ≠ authenStatusPass := by
      rintro hpass
      rw [hpass] at hterm
      exact absurd hterm (by decide)
    refine iff_of_false ?_ hnot
    rcases hmute with rfl | ⟨err, rfl⟩
    · rw [authenticateLoop_done hround]
      exact fun hacc => (by cases hacc.1)
    · rw [authenticateLoop_done hround]
      exact fun hacc => (by cases hacc.1)

variable
  (hsweeps : ∀ n, ∀ now ∈ clock.sweeps (n + 1), now - (clock.times n).later ≤ st.sessions.ttl)

include hsweeps in
/-- The whole conversation, when the user types something. -/
theorem authenticate_typed {msg : GoString} (hmsg : msg.length ≤ 65531)
    (h : authenStartFormat.Fits req) :
    Accepted (authenticate (connect s md5 c d clock) (some (typing (.ok msg))) req
        (newSession .client id) (Pipe.fresh st ())) ↔
      ∃ ok, accepts st.handler req.user req.type = some ok ∧
        ok ((presented req none).getD msg) = true := by
  have hwent : Went (Pipe.fresh st ())
      (talk s.cfg.handler (fun _ u => (msg, u)) (turnContext d id req) 127 0 none st.handler ())
      (authenticate (connect s md5 c d clock) (some (typing (.ok msg))) req
        (newSession .client id) (Pipe.fresh st ())) :=
    (authenticate_conversed s md5 clock hmode hsecret id st h hasks.sayable
      (fun _ _ => hmsg) ()).1 fun n _ _ => hsweeps n
  obtain ⟨herr, hpass⟩ := talk_login hasks d id req msg st.handler
  rw [Accepted, hwent.err, hwent.value, herr, ← hpass]
  exact and_iff_right rfl

/-! ## `auth` -/

omit hmode hsecret hasks in
theorem authEnding_exitCode (o : Outcome AuthenReply (Pipe σ Unit)) :
    (authEnding o).exitCode = 0 ↔ Accepted o := by
  unfold authEnding Accepted
  cases o.err with
  | some err => cases err <;> simp [Ending.exitCode]
  | none => by_cases hpass : o.value.status = authenStatusPass <;> simp [Ending.exitCode, hpass]

/-- The user may log in with the password. -/
def Accepts (accepts : Passwords) (user : GoString) (type : AuthenType)
    (password : GoString) : Prop :=
  ∃ ok, accepts user type = some ok ∧ ok password = true

/-- What it takes to log in with `auth`: the password is in the START of a PAP login, and typed in
    an ASCII login, where `--password` must not be given. -/
def LogsIn (accepts : Passwords) (f : AuthFlags) (type : AuthenType)
    (line : Except GoError GoString) : Prop :=
  f.username.length ≤ 255 ∧ f.password.length ≤ 255 ∧
    ((type = authenTypePAP ∧ Accepts accepts f.username type f.password) ∨
      (type = authenTypeASCII ∧ f.password = [] ∧
        ∃ msg, line = .ok msg ∧ Accepts accepts f.username type msg))

include hsweeps in
theorem authenticate_accepted_iff {f : AuthFlags} {type : AuthenType}
    {line : Except GoError GoString} (hline : ∀ msg, line = .ok msg → msg.length ≤ 65531) :
    Accepted (authenticate (connect s md5 c d clock) (authContFn f type (typing line))
        (authRequest f type) (newSession .client id) (Pipe.fresh st ())) ↔
      LogsIn (accepts st.handler) f type line := by
  by_cases hfits : authenStartFormat.Fits (authRequest f type)
  case neg =>
    refine iff_of_false (authenticate_misfit _ _ _ _ hfits) ?_
    rintro ⟨huser, hpassword, -⟩
    have hport : portName.length ≤ 255 := by decide
    exact hfits ⟨huser, hport, Nat.zero_le _, hpassword⟩
  have huser : f.username.length ≤ 255 := hfits.1
  have hpassword : f.password.length ≤ 255 := hfits.2.2.2
  rw [LogsIn, and_iff_right huser, and_iff_right hpassword]
  by_cases hasked : type = authenTypeASCII ∧ f.password = []
  · -- the terminal is asked
    obtain ⟨rfl, hempty⟩ := hasked
    have hnot : authenTypeASCII ≠ authenTypePAP := by decide
    have hgiven : presented (authRequest f authenTypeASCII) none = none := by
      rw [presented]
      exact if_neg hnot
    rw [authContFn, if_pos ⟨rfl, hempty⟩]
    cases line with
    | ok msg =>
      rw [authenticate_typed s md5 clock hmode hsecret hasks id hsweeps (hline msg rfl) hfits,
        hgiven]
      constructor
      · exact fun haccepts => .inr ⟨rfl, hempty, msg, rfl, haccepts⟩
      · rintro (⟨htype, -⟩ | ⟨-, -, msg', hmsg, haccepts⟩)
        · exact absurd htype hnot
        · cases hmsg
          exact haccepts
    | error err =>
      rw [authenticate_mute s md5 clock hmode hsecret hasks id (.inr ⟨err, rfl⟩) hfits,
        loginStatus_pass_iff, hgiven]
      refine iff_of_false ?_ ?_
      · rintro ⟨_, _, _, hpresented, _⟩
        cases hpresented
      · rintro (⟨htype, -⟩ | ⟨-, -, msg', hmsg, -⟩)
        · exact absurd htype hnot
        · cases hmsg
  · -- nobody is
    rw [authContFn, if_neg hasked,
      authenticate_mute s md5 clock hmode hsecret hasks id (.inl rfl) hfits, loginStatus_pass_iff]
    constructor
    · rintro ⟨ok, password, hok, hpresented, hpassword⟩
      obtain ⟨htype, hdata⟩ := Option.ite_none_right_eq_some.mp hpresented
      cases hdata
      exact .inl ⟨htype, ok, hok, hpassword⟩
    · rintro (⟨htype, ok, hok, hpassword⟩ | ⟨htype, hempty, -⟩)
      · exact ⟨ok, f.password, hok, if_pos htype, hpassword⟩
      · exact absurd ⟨htype, hempty⟩ hasked

include hsweeps in
theorem runAuth_exitCode {f : AuthFlags} {line : Except GoError GoString}
    (hline : ∀ msg, line = .ok msg → msg.length ≤ 65531) :
    (runAuth f (.ok (dialed s md5 c d clock id st)) (typing line)).exitCode = 0 ↔
      f.username ≠ [] ∧
        ∃ type, parseAuthenType f.type = .ok type ∧ LogsIn (accepts st.handler) f type line := by
  unfold runAuth
  by_cases huser : f.username = []
  · rw [if_pos huser]
    exact iff_of_false (by decide) fun h => h.1 huser
  · rw [if_neg huser, and_iff_right huser]
    cases parseAuthenType f.type with
    | error err =>
      refine iff_of_false Nat.one_ne_zero ?_
      rintro ⟨_, htype, _⟩
      cases htype
    | ok type =>
      refine (authEnding_exitCode _).trans ?_
      refine (authenticate_accepted_iff s md5 clock hmode hsecret hasks id hsweeps hline).trans ?_
      constructor
      · exact fun h => ⟨type, rfl, h⟩
      · rintro ⟨_, htype, h⟩
        cases htype
        exact h

end Authenticate

/-- The types that a flag can name. -/
theorem parseAuthenType_iff {s : GoString} {type : AuthenType} :
    parseAuthenType s = .ok type ↔ (s, type) ∈ [(lit "ascii", authenTypeASCII),
      (lit "pap", authenTypePAP), (lit "chap", authenTypeCHAP), (lit "mschap", authenTypeMSCHAP),
      (lit "mschapv2", authenTypeMSCHAPv2)] := by
  constructor
  · unfold parseAuthenType
    intro h
    repeat' split at h
    all_goals cases h
    all_goals simp [*]
  · intro h
    simp only [List.mem_cons, Prod.mk.injEq, List.not_mem_nil, or_false] at h
    rcases h with ⟨rfl, rfl⟩ | ⟨rfl, rfl⟩ | ⟨rfl, rfl⟩ | ⟨rfl, rfl⟩ | ⟨rfl, rfl⟩ <;> rfl

theorem parseAuthenType_pap {s : GoString} :
    parseAuthenType s = .ok authenTypePAP ↔ s = lit "pap" := by
  rw [parseAuthenType_iff]
  simp [authenTypePAP, authenTypeASCII, authenTypeCHAP, authenTypeMSCHAP, authenTypeMSCHAPv2]

theorem parseAuthenType_ascii {s : GoString} :
    parseAuthenType s = .ok authenTypeASCII ↔ s = lit "ascii" := by
  rw [parseAuthenType_iff]
  simp [authenTypePAP, authenTypeASCII, authenTypeCHAP, authenTypeMSCHAP, authenTypeMSCHAPv2]

/-! ### The server of a configuration -/

section Config

variable {α : Type} {bcrypt : Bcrypt}

theorem ownTypeAdmits_iff {u : User} {type : AuthenType} :
    OwnTypeAdmits u type ↔ ¬(u.authType ≠ [] ∧ authTypeMatches u.authType type = false) := by
  rw [not_and, Bool.not_eq_false]
  rfl

/-- The passwords of the users in the store. -/
def storedPasswords (bcrypt : Bcrypt) (a : BcryptAuthenticator) : Passwords := fun user type =>
  match a.store.lookup user with
  | none => none
  | some u =>
      if u.authType ≠ [] ∧ authTypeMatches u.authType type = false then none
      else some fun password => u.verifyPassword bcrypt password u.passwordHash a.allowPlain

theorem authenticate_stored (bcrypt : Bcrypt) (a : BcryptAuthenticator) (ac : AuthenContext)
    (cont : Option AuthenContinue) : ∃ serverMsg : GoString, serverMsg.length ≤ 65530 ∧
      a.authenticate bcrypt ac cont =
        .ok { status := loginStatus (storedPasswords bcrypt a) ac.start cont, serverMsg } := by
  unfold BcryptAuthenticator.authenticate loginStatus storedPasswords
  cases hu : a.store.lookup ac.start.user with
  | none =>
    refine ⟨lit "invalid credentials", by decide, ?_⟩
    unfold authenticateWith
    rw [hu]
  | some u =>
    dsimp only
    by_cases hbarred : u.authType ≠ [] ∧ authTypeMatches u.authType ac.start.type = false
    · refine ⟨lit "auth type not allowed for user", by decide, ?_⟩
      unfold authenticateWith
      rw [hu, if_pos hbarred]
      dsimp only
      rw [if_pos hbarred]
    · rw [authenticateWith_admitted hu (ownTypeAdmits_iff.mpr hbarred), if_neg hbarred]
      cases presented ac.start cont with
      | none => exact ⟨lit "Password:", by decide, rfl⟩
      | some password =>
        dsimp only
        split
        · exact ⟨[], by decide, rfl⟩
        · exact ⟨lit "invalid credentials", by decide, rfl⟩

theorem asksForPassword_config (bcrypt : Bcrypt) (acct : Option (Accounter α)) :
    AsksForPassword (configHandler bcrypt none acct).handler
      fun w => storedPasswords bcrypt w.backends.auth := by
  intro ac cont w
  obtain ⟨serverMsg, hlen, hanswer⟩ := authenticate_stored bcrypt w.backends.auth ac cont
  refine ⟨serverMsg, hlen, ?_⟩
  show CompositeHandler.looked (returned _ (w.backends.auth.authenticate bcrypt ac cont), w) = _
  rw [hanswer]
  rfl

/-- Who may log in, in terms of the configuration. -/
theorem accepts_stored_iff {compile : RegexpCompile} {uc : UserConfig} {b : AaaBackends}
    (hstart : startBackends compile uc = .ok b) {user password : GoString} {type : AuthenType} :
    Accepts (storedPasswords bcrypt b.auth) user type password ↔
      ∃ u, userEntry uc.users user = some u ∧ OwnTypeAdmits u type ∧
        Verifies bcrypt uc.allowPlaintext u.passwordHash password := by
  obtain ⟨hstore, hplain, -⟩ := derivedFrom_startBackends hstart
  unfold Accepts storedPasswords
  rw [hstore, hplain, lookup_newMemoryUserStore]
  cases userEntry uc.users user with
  | none => simp
  | some u =>
    simp only [Option.some.injEq, exists_eq_left']
    rw [ownTypeAdmits_iff, ← verifyPassword_iff (u := u)]
    by_cases hbarred : u.authType ≠ [] ∧ authTypeMatches u.authType type = false
    · rw [if_pos hbarred]
      simp [hbarred]
    · rw [if_neg hbarred]
      simp only [Option.some.injEq, exists_eq_left']
      exact (and_iff_right hbarred).symm

/-- **Who gets in with `auth`.** For any server with the users of a configuration, in any state,
    and any connection to it on which the two ends agree: the command exits with status 0 if and
    only if there is an entry for the user that admits the type, and the password verifies against
    it. The password is `--password` in a PAP login and what is typed in an ASCII login. No other
    type gets in, and neither does an ASCII login with `--password`. -/
theorem auth_succeeds_iff (bcrypt : Bcrypt) (compile : RegexpCompile) (acct : Option (Accounter α))
    (s : Tacacs.Server (Parts α)) (hs : s.cfg.handler = (configHandler bcrypt none acct).handler)
    (md5 : Crypto.Md5) (c d : Conn) (clock : Clock) (hmode : d.mode = c.mode)
    (hsecret : d.secret = c.secret) (id : UInt32) (st : State (Parts α)) (uc : UserConfig)
    (hstart : startBackends compile uc = .ok st.handler.backends)
    (hsweeps : ∀ n, ∀ now ∈ clock.sweeps (n + 1), now - (clock.times n).later ≤ st.sessions.ttl)
    (f : AuthFlags) (line : Except GoError GoString)
    (hline : ∀ msg, line = .ok msg → msg.length ≤ 65531) :
    (runAuth f (.ok (dialed s md5 c d clock id st)) (typing line)).exitCode = 0 ↔
      (f.username ≠ [] ∧ f.username.length ≤ 255 ∧ f.password.length ≤ 255) ∧
        ∃ u password, userEntry uc.users f.username = some u ∧
          Verifies bcrypt uc.allowPlaintext u.passwordHash password ∧
          ((f.type = lit "pap" ∧ OwnTypeAdmits u authenTypePAP ∧ password = f.password) ∨
            (f.type = lit "ascii" ∧ OwnTypeAdmits u authenTypeASCII ∧ f.password = [] ∧
              line = .ok password)) := by
  have hasks : AsksForPassword s.cfg.handler fun w => storedPasswords bcrypt w.backends.auth :=
    hs ▸ asksForPassword_config bcrypt acct
  rw [runAuth_exitCode s md5 clock hmode hsecret hasks id hsweeps hline, and_assoc]
  refine and_congr_right fun _ => ?_
  constructor
  · rintro ⟨type, htype, huser, hpassword, ⟨rfl, haccepts⟩ | ⟨rfl, hempty, msg, hmsg, haccepts⟩⟩
    · obtain ⟨u, hu, hadmits, hverifies⟩ := (accepts_stored_iff hstart).mp haccepts
      exact ⟨⟨huser, hpassword⟩, u, f.password, hu, hverifies,
        .inl ⟨parseAuthenType_pap.mp htype, hadmits, rfl⟩⟩
    · obtain ⟨u, hu, hadmits, hverifies⟩ := (accepts_stored_iff hstart).mp haccepts
      exact ⟨⟨huser, hpassword⟩, u, msg, hu, hverifies,
        .inr ⟨parseAuthenType_ascii.mp htype, hadmits, hempty, hmsg⟩⟩
  · rintro ⟨⟨huser, hpassword⟩, u, password, hu, hverifies,
      ⟨htype, hadmits, rfl⟩ | ⟨htype, hadmits, hempty, hmsg⟩⟩
    · exact ⟨authenTypePAP, parseAuthenType_pap.mpr htype, huser, hpassword,
        .inl ⟨rfl, (accepts_stored_iff hstart).mpr ⟨u, hu, hadmits, hverifies⟩⟩⟩
    · exact ⟨authenTypeASCII, parseAuthenType_ascii.mpr htype, huser, hpassword,
        .inr ⟨rfl, hempty, password, hmsg,
          (accepts_stored_iff hstart).mpr ⟨u, hu, hadmits, hverifies⟩⟩⟩

/-- A user whose password is kept in plain text. -/
def plainConfig : UserConfig where
  users := [{ username := lit "bob", passwordHash := lit "secret" }]
  allowPlaintext := true

def plainBackends : AaaBackends where
  auth := newBcryptAuthenticator (some plainConfig)
  az := { rules := [] }

def plainServer : Config (Parts Unit) :=
  { handler := (configHandler noBcrypt none none).handler, mode := .legacy }

/-- `bob` types their password. -/
theorem auth_succeeds_iff_bob :
    let conn : Conn := { mode := .legacy, secret := lit "key", remoteAddr := lit "10.0.0.1:4949" }
    (runAuth { username := lit "bob", type := lit "ascii" }
      (.ok (dialed (Tacacs.Server.new plainServer) default conn conn
        ⟨fun _ => ⟨0, 0⟩, fun _ => []⟩ 7
        (State.init plainServer { backends := plainBackends, rest := () })))
      (typing (.ok (lit "secret")))).exitCode = 0 := by
  intro conn
  refine (auth_succeeds_iff noBcrypt noRegexp none (Tacacs.Server.new plainServer) rfl default conn
    conn ⟨fun _ => ⟨0, 0⟩, fun _ => []⟩ rfl rfl 7 _ plainConfig rfl ?_ _ _ ?_).mpr ?_
  · intro n now hnow
    cases hnow
  · intro msg hmsg
    cases hmsg
    decide
  · exact ⟨by decide, _, lit "secret", rfl, ⟨by decide, rfl, rfl⟩,
      .inr ⟨rfl, fun h => absurd rfl h, rfl, rfl⟩⟩

end Config

end Cli
end Proof
end Tacacs
