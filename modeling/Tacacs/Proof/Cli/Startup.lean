import Tacacs.Cli.Startup
import Tacacs.Proof.Cli.Commands
import Tacacs.Proof.Cli.External
import Tacacs.Proof.Yang.Load

/-!
# The server that a broken user file starts

A file that is refused as a user configuration is tried as a list of servers. The two have no key
in common, so a user file is a list of no servers, which is accepted; and the server then runs
with the account for tests. A reload does not do this: it keeps the users that it had.
-/

set_option autoImplicit false

namespace Tacacs
namespace Proof
namespace Cli

open GoSem Tacacs.Cli Tacacs.Client Tacacs.Connection Tacacs.Transport
open Tacacs.Server (State User UserConfig hasPrefix loadUserConfig validateUsers)
open Tacacs.Proof.Server (noBcrypt noRegexp)

variable {α σ κ κ' : Type}

/-! ## What is accepted as a user configuration -/

/-- An entry that `Validate` lets through, wherever it stands. -/
structure ValidUser (allowPlaintext : Bool) (u : User) : Prop where
  name : u.username ≠ []
  password : u.passwordHash ≠ []
  hashed : hasPrefix u.passwordHash (lit "$2") = true ∨ allowPlaintext = true

structure ValidUsers (uc : UserConfig) : Prop where
  entries : ∀ u ∈ uc.users, ValidUser uc.allowPlaintext u
  distinct : (uc.users.map User.username).Nodup

/-- One turn of the loop. -/
theorem validateUsers_cons (allowPlaintext : Bool) (i : Nat) (seen : List GoString) (u : User)
    (us : List User) : validateUsers allowPlaintext i seen (u :: us) = .ok () ↔
      ValidUser allowPlaintext u ∧ u.username ∉ seen ∧
        validateUsers allowPlaintext (i + 1) (u.username :: seen) us = .ok () := by
  rw [validateUsers]
  by_cases hname : u.username = []
  · rw [if_pos hname]
    exact iff_of_false (by simp) fun h => h.1.name hname
  rw [if_neg hname]
  by_cases hpassword : u.passwordHash = []
  · rw [if_pos hpassword]
    exact iff_of_false (by simp) fun h => h.1.password hpassword
  rw [if_neg hpassword]
  by_cases hseen : u.username ∈ seen
  · rw [if_pos hseen]
    exact iff_of_false (by simp) fun h => h.2.1 hseen
  rw [if_neg hseen]
  by_cases hplain : hasPrefix u.passwordHash (lit "$2") = false ∧ allowPlaintext = false
  · rw [if_pos ⟨hpassword, hplain⟩]
    refine iff_of_false (by simp) fun h => ?_
    rcases h.1.hashed with hhashed | hallowed
    · rw [hplain.1] at hhashed
      cases hhashed
    · rw [hplain.2] at hallowed
      cases hallowed
  · rw [if_neg fun h => hplain h.2]
    have hvalid : ValidUser allowPlaintext u := ⟨hname, hpassword, by
      cases hhash : hasPrefix u.passwordHash (lit "$2") with
      | true => exact .inl rfl
      | false => exact .inr (by simpa [hhash] using hplain)⟩
    rw [and_iff_right hvalid, and_iff_right hseen]

theorem validateUsers_ok (allowPlaintext : Bool) (us : List User) (i : Nat)
    (seen : List GoString) : validateUsers allowPlaintext i seen us = .ok () ↔
      (∀ u ∈ us, ValidUser allowPlaintext u ∧ u.username ∉ seen) ∧
        (us.map User.username).Nodup := by
  induction us generalizing i seen with
  | nil => simp [validateUsers]
  | cons u us ih =>
    rw [validateUsers_cons, ih]
    simp only [List.mem_cons, List.map_cons, List.nodup_cons, List.mem_map]
    grind

theorem validate_ok_iff (uc : UserConfig) : uc.validate = .ok () ↔ ValidUsers uc := by
  unfold UserConfig.validate
  rw [validateUsers_ok]
  constructor
  · rintro ⟨hentries, hdistinct⟩
    exact ⟨fun u hu => (hentries u hu).1, hdistinct⟩
  · intro h
    exact ⟨fun u hu => ⟨h.entries u hu, List.not_mem_nil⟩, h.distinct⟩

theorem loadUserConfig_document (doc : Document σ κ κ') :
    (∃ err, loadUserConfig (usersFile (.ok doc)) = .error err) ↔
      ¬∃ uc, doc.users = .ok uc ∧ ValidUsers uc := by
  unfold usersFile
  dsimp only
  cases doc.users with
  | error err => exact iff_of_true ⟨_, rfl⟩ (by simp)
  | ok uc =>
    simp only [Except.ok.injEq, exists_eq_left', ← validate_ok_iff]
    show (∃ err, (do uc.validate; return uc) = .error err) ↔ _
    cases uc.validate with
    | error err => exact iff_of_true ⟨err, rfl⟩ (by simp)
    | ok _ => exact iff_of_false (by rintro ⟨err, h⟩; cases h) (by simp)

/-! ## Which handler is chosen -/

theorem chooseHandler_test_iff (env : Outside α) {f : HandlerFlags} (hconfig : f.config ≠ [])
    (file : Except GoError (Document σ κ κ')) :
    chooseHandler env f file = .ok .test ↔
      (∃ err, loadUserConfig (usersFile file) = .error err) ∧
        ∃ cfg, Yang.load (treeFile file) = .ok cfg := by
  unfold chooseHandler
  rw [if_neg hconfig]
  cases loadUserConfig (usersFile file) with
  | error err =>
    cases Yang.load (treeFile file) with
    | error err' => simp
    | ok cfg => simp
  | ok uc =>
    refine iff_of_false (fun h => ?_) fun h => (by obtain ⟨⟨_, herr⟩, _⟩ := h; cases herr)
    obtain ⟨backends, -, hrest⟩ := bind_eq_ok.mp h
    obtain ⟨external, -, hrest⟩ := bind_eq_ok.mp hrest
    obtain ⟨acct, -, hchosen⟩ := bind_eq_ok.mp hrest
    cases hchosen

/-- **A refused user file opens the server.** Let the file of `--config` have none of the keys of a
    list of servers, as a user file has not. The server starts with the handler for tests if and
    only if its users do not decode, or some entry is refused: one without a name or a password,
    with a password in plain text that is not allowed, or with a name that was there before. This
    is so whatever `--auth-backend` and the accounting flags say. And whoever shares a secret with
    that server logs in as `admin`. -/
theorem refused_users_open_server (env : Outside α) (f : HandlerFlags) (hconfig : f.config ≠ [])
    (doc : Document σ κ κ') (htree : doc.tree = {}) :
    (chooseHandler env f (.ok doc) = .ok .test ↔
      ¬∃ uc, doc.users = .ok uc ∧ ValidUsers uc) ∧
    ∀ (s : Tacacs.Server Unit), s.cfg.handler = staticHandler →
      ∀ (md5 : Crypto.Md5) (c d : Conn) (clock : Clock) (id : UInt32) (st : State Unit),
      d.mode = c.mode → d.secret = c.secret →
      (∀ n, ∀ now ∈ clock.sweeps (n + 1), now - (clock.times n).later ≤ st.sessions.ttl) →
      (runAuth { username := lit "admin", password := lit "admin123", type := lit "pap" }
        (.ok (dialed s md5 c d clock id st)) (typing (.error .eof))).exitCode = 0 := by
  constructor
  · have hload : ∃ cfg, Yang.load (treeFile (.ok doc)) = .ok cfg := by
      refine ⟨{}, ?_⟩
      show Yang.load (.ok doc.tree) = _
      rw [htree]
      rfl
    rw [chooseHandler_test_iff env hconfig, and_iff_left hload, loadUserConfig_document]
  · intro s hs md5 c d clock id st hmode hsecret hsweeps
    apply (static_auth s hs md5 clock hmode hsecret id st hsweeps _ ?_).mpr
    · exact ⟨rfl, .inl ⟨rfl, rfl⟩⟩
    · intro msg hmsg
      cases hmsg

/-- Surroundings in which everything can be had. -/
def everythingWorks : Outside Unit where
  compile := noRegexp
  bcrypt := noBcrypt
  fmt := sprintfFirst
  parse _ := .ok (lit "https")
  world := yesWorld
  accounters := ⟨.ok fun _ w => (({ status := acctStatusSuccess }, none), w),
    fun _ => .ok fun _ w => (({ status := acctStatusSuccess }, none), w)⟩

/-- The second user has no password. -/
def disabledUser : Document Unit Unit Unit where
  users := .ok { users := [{ username := lit "ivan", passwordHash := lit "$2a" },
    { username := lit "judy", passwordHash := [] }] }
  tree := {}

/-- `ivan` would be asked for by HTTP. -/
theorem refused_users_open_server_disabled :
    chooseHandler everythingWorks
      { config := lit "users.yaml", backend := { authBackend := lit "http" } }
      (.ok disabledUser) = .ok .test := by
  apply (refused_users_open_server everythingWorks _ (by decide) disabledUser rfl).1.mpr
  rintro ⟨uc, huc, hvalid⟩
  cases huc
  exact (hvalid.entries _ (.tail _ (.head _))).password rfl

end Cli
end Proof
end Tacacs
