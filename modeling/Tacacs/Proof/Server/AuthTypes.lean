import Tacacs.Proof.Server.Resolve
import Tacacs.Cli.Aaa

/-!
# Inherited authentication types

`Resolve` computes the type a user is restricted to: its own, or else the first one set among
its groups. That is `resolvedAuthType`, read off the configuration, and `resolve_authType` says
that the resolved user carries it.

`Authenticate` does not look there. It consults the store, which holds the users as written, so
an inherited restriction bars nobody: it is met only where the password fails anyway.
-/

set_option autoImplicit false

namespace Tacacs
namespace Proof
namespace Server

open GoSem
open Tacacs.Server

/-- **The resolved user carries the type it is restricted to.** -/
theorem resolve_authType {compile : RegexpCompile} {cfg : UserConfig} {resolved : Resolved}
    (h : cfg.resolve compile = .ok resolved) {name : GoString} {u : User}
    (hu : userEntry cfg.users name = some u) :
    ∃ ru, resolved.lookup name = some ru ∧ ru.user.authType = resolvedAuthType cfg u := by
  refine ⟨expandedUser compile cfg u, ?_, rfl⟩
  rw [lookup_resolved h, hu, Option.map_some]

/-! ## `Authenticate` does not ask for it -/

/-- With a resolved type that rejects the START, the entry's own type does so exactly if it is
    set. -/
theorem ownType_bars_iff {cfg : UserConfig} {u : User} {type : AuthenType}
    (hrej : authTypeMatches (resolvedAuthType cfg u) type = false) :
    ¬OwnTypeAdmits u type ↔ u.authType ≠ [] := by
  constructor
  · intro hbar
    exact (Classical.not_imp.mp hbar).1
  · intro hset hadmits
    have hres : resolvedAuthType cfg u = u.authType := firstSet_cons_of_ne hset
    rw [hres, hadmits hset] at hrej
    cases hrej

/-- **When an inherited restriction is enforced.** Let the resolved type of the user in force
    reject the START; an empty type rejects nothing, so it is set. Then both authenticators fail
    the user exactly if the entry has a type of its own, or the packet presents a password that
    does not fit. -/
theorem resolvedAuthType_enforced_iff (bcrypt : Bcrypt) (compile : RegexpCompile)
    (cfg : UserConfig) (h : ConfigHandler) (hh : newConfigHandler compile (some cfg) = .ok h)
    (ac : AuthenContext) (cont : Option AuthenContinue) (u : User)
    (hu : userEntry cfg.users ac.start.user = some u)
    (hrej : authTypeMatches (resolvedAuthType cfg u) ac.start.type = false) :
    (∃ ru, h.resolved.lookup ac.start.user = some ru ∧
      ru.user.authType = resolvedAuthType cfg u) ∧
    ((∃ dec, h.authenticate bcrypt ac cont = .ok dec ∧ dec.status = authenStatusFail) ∧
        (∃ dec, (Cli.newBcryptAuthenticator (some cfg)).authenticate bcrypt ac cont = .ok dec ∧
          dec.status = authenStatusFail) ↔
      u.authType ≠ [] ∨ ∃ password, presented ac.start cont = some password ∧
        ¬Verifies bcrypt cfg.allowPlaintext u.passwordHash password) := by
  obtain ⟨hstore, hcfg, hres⟩ := newConfigHandler_ok hh
  refine ⟨resolve_authType hres hu, ?_⟩
  have hlook : (newMemoryUserStore cfg.users).lookup ac.start.user = some u := by
    rw [lookup_newMemoryUserStore, hu]
  -- both authenticators are `authenticateWith`, over the same store
  have hfail : ∀ msg, (authenticateWith bcrypt (newMemoryUserStore cfg.users) cfg.allowPlaintext
      msg ac cont).status = authenStatusFail ↔ u.authType ≠ [] ∨
        ∃ password, presented ac.start cont = some password ∧
          ¬Verifies bcrypt cfg.allowPlaintext u.passwordHash password := by
    intro msg
    rw [authenticateWith_fail_iff hlook, ownType_bars_iff hrej]
  have hconfig : h.authenticate bcrypt ac cont = .ok (authenticateWith bcrypt
      (newMemoryUserStore cfg.users) cfg.allowPlaintext (lit "unknown user") ac cont) := by
    rw [ConfigHandler.authenticate, hstore, hcfg]
  constructor
  · rintro ⟨⟨dec, hdec, hst⟩, -⟩
    rw [hconfig] at hdec
    cases hdec
    exact (hfail _).mp hst
  · intro hcond
    exact ⟨⟨_, hconfig, (hfail _).mpr hcond⟩, ⟨_, rfl, (hfail _).mpr hcond⟩⟩

/-- A group of PAP users, and two of its members: `carol` inherits the type, `dave` has it set
    in the entry itself. -/
def papConfig : UserConfig where
  users := [{ username := lit "carol", passwordHash := lit "$2a", groups := [lit "ops"] },
    { username := lit "dave", passwordHash := lit "$2b", authType := lit "pap",
      groups := [lit "ops"] }]
  groups := [{ name := lit "ops", authType := lit "pap" }]

/-- An ASCII login. -/
def asciiContext (user : String) : AuthenContext where
  sessionID := 7
  seqNo := 1
  start := { action := 1, privLvl := 1, type := authenTypeASCII, service := 1, user := lit user,
             port := [], remAddr := [], data := [] }
  remoteAddr := []

/-- `dave` is failed, as the type in the entry asks for. -/
theorem resolvedAuthType_enforced_dave :
    ∃ h, newConfigHandler noRegexp (some papConfig) = .ok h ∧
      ((∃ dec, h.authenticate noBcrypt (asciiContext "dave") none = .ok dec ∧
          dec.status = authenStatusFail) ∧
        ∃ dec, (Cli.newBcryptAuthenticator (some papConfig)).authenticate noBcrypt
          (asciiContext "dave") none = .ok dec ∧ dec.status = authenStatusFail) :=
  ⟨_, rfl, (resolvedAuthType_enforced_iff noBcrypt noRegexp papConfig _ rfl (asciiContext "dave")
    none _ rfl (by decide)).2.mpr (Or.inl (by decide))⟩

/-- `carol` is asked for a password over ASCII, by both authenticators, although the resolved
    type is PAP. -/
theorem resolvedAuthType_ignored_carol :
    ∃ h u, newConfigHandler noRegexp (some papConfig) = .ok h ∧
      userEntry papConfig.users (lit "carol") = some u ∧
      resolvedAuthType papConfig u = lit "pap" ∧
      authTypeMatches (lit "pap") authenTypeASCII = false ∧
      h.authenticate noBcrypt (asciiContext "carol") none
        = .ok { status := authenStatusGetPass, serverMsg := lit "Password:" } ∧
      (Cli.newBcryptAuthenticator (some papConfig)).authenticate noBcrypt (asciiContext "carol")
        none = .ok { status := authenStatusGetPass, serverMsg := lit "Password:" } :=
  ⟨_, _, rfl, rfl, rfl, rfl, rfl, rfl⟩

end Server
end Proof
end Tacacs
