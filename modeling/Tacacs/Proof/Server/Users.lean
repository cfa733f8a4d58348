import Tacacs.Server.UserConfig
import Tacacs.Lib.Assoc

/-!
# What an authentication depends on

`Authenticate` looks at three things: the entry in force under the user name, whether that
entry's own `AuthType` admits the type of the START, and the credential the packet presents.
`authenticateWith_pass_iff` and `authenticateWith_fail_iff` say so once; who passes and who
fails is read off them.

`userEntry` is the entry in force: a map filled in a loop keeps the last.
-/

set_option autoImplicit false

namespace Tacacs
namespace Proof
namespace Server

open GoSem
open Tacacs.Server

/-! ## The entry in force -/

/-- Of the entries with one name the last one counts. -/
def userEntry (users : List User) (name : GoString) : Option User :=
  users.reverse.find? fun u => decide (u.username = name)

theorem lookup_newMemoryUserStore (users : List User) (name : GoString) :
    (newMemoryUserStore users).lookup name = userEntry users name := by
  unfold newMemoryUserStore userEntry
  rw [Assoc.lookup_foldl_insert User.username (fun u => u)]
  simp

theorem userEntry_mem {users : List User} {name : GoString} {u : User}
    (h : userEntry users name = some u) : u ∈ users ∧ u.username = name := by
  have hmem := List.mem_of_find?_eq_some h
  have hname := List.find?_some h
  exact ⟨List.mem_reverse.mp hmem, by simpa using hname⟩

theorem userEntry_exists {users : List User} {u : User} (h : u ∈ users) :
    ∃ v, userEntry users u.username = some v :=
  Option.isSome_iff_exists.mp
    (List.find?_isSome.mpr ⟨u, List.mem_reverse.mpr h, by simp⟩)

/-- A configuration that `Resolve` accepts makes a handler. -/
theorem newConfigHandler_of_resolve {compile : RegexpCompile} {cfg : UserConfig}
    {resolved : Resolved} (h : cfg.resolve compile = .ok resolved) :
    newConfigHandler compile (some cfg)
      = .ok { store := newMemoryUserStore cfg.users, cfg, resolved } := by
  unfold newConfigHandler
  dsimp only [Option.getD_some]
  rw [h]
  rfl

/-- The two views a `ConfigHandler` keeps are of the configuration it was built from. -/
theorem newConfigHandler_ok {compile : RegexpCompile} {users : UserConfig} {h : ConfigHandler}
    (hh : newConfigHandler compile (some users) = .ok h) :
    h.store = newMemoryUserStore users.users ∧ h.cfg = users ∧
      users.resolve compile = .ok h.resolved := by
  unfold newConfigHandler at hh
  cases hr : users.resolve compile with
  | error e =>
    simp only [Option.getD_some, hr] at hh
    cases hh
  | ok resolved =>
    simp only [Option.getD_some, hr] at hh
    cases hh
    exact ⟨rfl, rfl, rfl⟩

/-! ## Passwords and types -/

/-- A password fits a stored hash: by bcrypt if the hash says so, otherwise only where plain
    text is allowed, and literally. -/
def Verifies (bcrypt : Bcrypt) (allowPlaintext : Bool) (hash password : GoString) : Prop :=
  hash ≠ [] ∧
    if hasPrefix hash (lit "$2") then bcrypt.compareHashAndPassword hash password = true
    else allowPlaintext = true ∧ password = hash

theorem verifyPassword_iff {bcrypt : Bcrypt} {u : User} {password hash : GoString}
    {allowPlaintext : Bool} :
    u.verifyPassword bcrypt password hash allowPlaintext = true ↔
      Verifies bcrypt allowPlaintext hash password := by
  unfold User.verifyPassword Verifies
  by_cases hne : hash = []
  · simp [hne]
  by_cases hpre : hasPrefix hash (lit "$2") = true
  · simp [hne, hpre]
  cases allowPlaintext with
  | true => simp [hne, hpre]
  | false => simp [hne, hpre]

/-- The user's own `AuthType`, if set, admits the type. -/
def OwnTypeAdmits (u : User) (type : AuthenType) : Prop :=
  u.authType ≠ [] → authTypeMatches u.authType type = true

/-- The credential a packet presents: the data of a PAP START, the message of a CONTINUE. -/
def presented (start : AuthenStart) : Option AuthenContinue → Option GoString
  | none => if start.type = authenTypePAP then some start.data else none
  | some cont => some cont.userMsg

section Authenticate

variable {bcrypt : Bcrypt} {store : UserStore} {allowPlaintext : Bool} {msg : GoString}
variable {ac : AuthenContext} {cont : Option AuthenContinue}

/-- The answer to a user whose entry admits the type. -/
theorem authenticateWith_admitted {u : User} (hu : store.lookup ac.start.user = some u)
    (ht : OwnTypeAdmits u ac.start.type) :
    authenticateWith bcrypt store allowPlaintext msg ac cont =
      match presented ac.start cont with
      | none => { status := authenStatusGetPass, serverMsg := lit "Password:" }
      | some password =>
          if u.verifyPassword bcrypt password u.passwordHash allowPlaintext then
            { status := authenStatusPass }
          else { status := authenStatusFail, serverMsg := lit "invalid credentials" } := by
  have hno : ¬(u.authType ≠ [] ∧ authTypeMatches u.authType ac.start.type = false) := by
    rintro ⟨h1, h2⟩
    rw [ht h1] at h2
    cases h2
  unfold authenticateWith
  rw [hu]
  dsimp only
  rw [if_neg hno]
  unfold presented
  cases cont with
  | none =>
    dsimp only
    by_cases hpap : ac.start.type = authenTypePAP
    · rw [if_pos hpap, if_pos hpap]
    · rw [if_neg hpap, if_neg hpap]
  | some ct => rfl

theorem authenticateWith_status {u : User} (hu : store.lookup ac.start.user = some u)
    (ht : OwnTypeAdmits u ac.start.type) :
    (authenticateWith bcrypt store allowPlaintext msg ac cont).status =
      match presented ac.start cont with
      | none => authenStatusGetPass
      | some password =>
          if u.verifyPassword bcrypt password u.passwordHash allowPlaintext then authenStatusPass
          else authenStatusFail := by
  rw [authenticateWith_admitted hu ht]
  cases presented ac.start cont with
  | none => rfl
  | some password =>
    dsimp only
    split <;> rfl

theorem authenticateWith_unknown (hu : store.lookup ac.start.user = none) :
    (authenticateWith bcrypt store allowPlaintext msg ac cont).status = authenStatusFail := by
  unfold authenticateWith
  rw [hu]

theorem authenticateWith_barred {u : User} (hu : store.lookup ac.start.user = some u)
    (ht : ¬OwnTypeAdmits u ac.start.type) :
    (authenticateWith bcrypt store allowPlaintext msg ac cont).status = authenStatusFail := by
  have hyes : u.authType ≠ [] ∧ authTypeMatches u.authType ac.start.type = false := by
    obtain ⟨h1, h2⟩ := Classical.not_imp.mp ht
    exact ⟨h1, by simpa using h2⟩
  unfold authenticateWith
  rw [hu]
  dsimp only
  rw [if_pos hyes]

/-- A password that was looked at decides between PASS and FAIL. -/
theorem verified_pass_iff {b : Bool} :
    (if b then authenStatusPass else authenStatusFail) = authenStatusPass ↔ b = true := by
  cases b <;> decide

theorem verified_fail_iff {b : Bool} :
    (if b then authenStatusPass else authenStatusFail) = authenStatusFail ↔ ¬b = true := by
  cases b <;> decide

/-- Whoever it is about is turned away unheard, or what is presented decides. -/
theorem authenticateWith_cases :
    ((∀ u, store.lookup ac.start.user = some u → ¬OwnTypeAdmits u ac.start.type) ∧
      (authenticateWith bcrypt store allowPlaintext msg ac cont).status = authenStatusFail) ∨
    ∃ u, store.lookup ac.start.user = some u ∧ OwnTypeAdmits u ac.start.type ∧
      (authenticateWith bcrypt store allowPlaintext msg ac cont).status =
        match presented ac.start cont with
        | none => authenStatusGetPass
        | some password =>
            if u.verifyPassword bcrypt password u.passwordHash allowPlaintext then authenStatusPass
            else authenStatusFail := by
  cases hu : store.lookup ac.start.user with
  | none =>
    refine Or.inl ⟨?_, authenticateWith_unknown hu⟩
    intro u h
    cases h
  | some u =>
    by_cases ht : OwnTypeAdmits u ac.start.type
    · exact Or.inr ⟨u, rfl, ht, authenticateWith_status hu ht⟩
    · refine Or.inl ⟨?_, authenticateWith_barred hu ht⟩
      intro u' h
      cases h
      exact ht

/-- Nothing was presented and a password is asked for, or the answer is PASS or FAIL. -/
theorem authenticateWith_replies :
    (presented ac.start cont = none ∧
      (authenticateWith bcrypt store allowPlaintext msg ac cont).status = authenStatusGetPass) ∨
    (authenticateWith bcrypt store allowPlaintext msg ac cont).status = authenStatusPass ∨
    (authenticateWith bcrypt store allowPlaintext msg ac cont).status = authenStatusFail := by
  rcases authenticateWith_cases with ⟨-, hst⟩ | ⟨u, -, -, hst⟩
  · exact Or.inr (Or.inr hst)
  · rw [hst]
    cases presented ac.start cont with
    | none => exact Or.inl ⟨rfl, rfl⟩
    | some password =>
      dsimp only
      split
      · exact Or.inr (Or.inl rfl)
      · exact Or.inr (Or.inr rfl)

/-- **Who passes.** -/
theorem authenticateWith_pass_iff :
    (authenticateWith bcrypt store allowPlaintext msg ac cont).status = authenStatusPass ↔
      ∃ u password, store.lookup ac.start.user = some u ∧ OwnTypeAdmits u ac.start.type ∧
        presented ac.start cont = some password ∧
        Verifies bcrypt allowPlaintext u.passwordHash password := by
  rcases authenticateWith_cases with ⟨hno, hst⟩ | ⟨u, hu, ht, hst⟩
  · rw [hst]
    refine ⟨fun h => absurd h (by decide), ?_⟩
    rintro ⟨u, password, hu, ht, -⟩
    exact absurd ht (hno u hu)
  · rw [hst]
    cases presented ac.start cont with
    | none =>
      dsimp only
      refine ⟨fun h => absurd h (by decide), ?_⟩
      rintro ⟨_, password, -, -, h, -⟩
      cases h
    | some password =>
      dsimp only
      rw [verified_pass_iff, verifyPassword_iff]
      constructor
      · intro hv
        exact ⟨u, password, hu, ht, rfl, hv⟩
      · rintro ⟨u', password', hu', -, h, hv⟩
        cases hu.symm.trans hu'
        cases h
        exact hv

/-- **Who is asked** for a password. -/
theorem authenticateWith_asks_iff :
    (authenticateWith bcrypt store allowPlaintext msg ac cont).status = authenStatusGetPass ↔
      ∃ u, store.lookup ac.start.user = some u ∧ OwnTypeAdmits u ac.start.type ∧
        presented ac.start cont = none := by
  constructor
  · intro hask
    rcases authenticateWith_cases with ⟨-, hst⟩ | ⟨u, hu, ht, -⟩
    · exact absurd (hst.symm.trans hask) (by decide)
    · rcases authenticateWith_replies with ⟨hnone, -⟩ | hst | hst
      · exact ⟨u, hu, ht, hnone⟩
      · exact absurd (hst.symm.trans hask) (by decide)
      · exact absurd (hst.symm.trans hask) (by decide)
  · rintro ⟨u, hu, ht, hnone⟩
    rw [authenticateWith_status hu ht, hnone]

/-- **Who fails**, among the users there are. -/
theorem authenticateWith_fail_iff {u : User} (hu : store.lookup ac.start.user = some u) :
    (authenticateWith bcrypt store allowPlaintext msg ac cont).status = authenStatusFail ↔
      ¬OwnTypeAdmits u ac.start.type ∨ ∃ password, presented ac.start cont = some password ∧
        ¬Verifies bcrypt allowPlaintext u.passwordHash password := by
  by_cases ht : OwnTypeAdmits u ac.start.type
  · rw [authenticateWith_status hu ht]
    cases hp : presented ac.start cont with
    | none =>
      dsimp only
      refine ⟨fun h => absurd h (by decide), ?_⟩
      rintro (h | ⟨password, h, -⟩)
      · exact absurd ht h
      · cases h
    | some password =>
      dsimp only
      rw [verified_fail_iff, verifyPassword_iff]
      constructor
      · intro hv
        exact Or.inr ⟨password, rfl, hv⟩
      · rintro (h | ⟨password', h1, hv⟩)
        · exact absurd ht h
        · cases h1
          exact hv
  · rw [authenticateWith_barred hu ht]
    exact ⟨fun _ => Or.inl ht, fun _ => rfl⟩

end Authenticate

/-! For configurations with plain-text passwords and without patterns: bcrypt and the regexp
compiler are never consulted. -/

def noBcrypt : Bcrypt := ⟨fun _ _ => false⟩

def noRegexp : RegexpCompile := fun _ => .error []

end Server
end Proof
end Tacacs
