import Tacacs.Lib.Run
import Tacacs.Cli.Server
import Tacacs.Proof.Server.Users

/-!
# Hot reload

The callback has four stages that can fail, and it updates two components one after the other.
Only the update of the first can fail, and it fails before it changes anything; so a callback
either leaves both as they were, or sets both from one configuration (`watchCallback_cases`).
-/

set_option autoImplicit false

namespace Tacacs
namespace Proof
namespace Cli

open GoSem Tacacs.Server Tacacs.Cli
open Tacacs.Proof.Server

variable {compile : RegexpCompile}

/-- The user store, the plaintext policy and the rule list all come from one configuration. -/
structure DerivedFrom (compile : RegexpCompile) (uc : UserConfig) (b : AaaBackends) : Prop where
  store : b.auth.store = newMemoryUserStore uc.users
  allowPlain : b.auth.allowPlain = uc.allowPlaintext
  rules : ∃ rules, userConfigToRules compile uc = .ok rules ∧
    compileRules compile 0 rules = .ok b.az.rules

/-- The start-up configuration, or the last one whose callback returned nil. -/
def lastLoaded (uc : UserConfig) (callbacks : List (ConfigFile × Option GoError)) : UserConfig :=
  callbacks.foldl (fun uc c =>
    match c with
    | (.decoded cfg, none) => cfg
    | _ => uc) uc

theorem derivedFrom_startBackends {uc : UserConfig} {b : AaaBackends}
    (h : startBackends compile uc = .ok b) : DerivedFrom compile uc b := by
  unfold startBackends at h
  cases hrules : userConfigToRules compile uc with
  | error err => rw [hrules] at h; cases h
  | ok rules =>
    rw [hrules] at h
    dsimp only at h
    unfold newCommandAuthorizer at h
    cases hc : compileRules compile 0 rules with
    | error e => rw [hc] at h; cases h
    | ok compiled =>
      rw [hc] at h
      cases h
      exact ⟨rfl, rfl, rules, hrules, hc⟩

theorem loadUserConfig_ok {file : ConfigFile} {uc : UserConfig}
    (h : loadUserConfig file = .ok uc) : file = .decoded uc := by
  cases file with
  | unreadable err => cases h
  | undecodable err => cases h
  | decoded cfg =>
    unfold loadUserConfig at h
    dsimp only at h
    cases hv : cfg.validate with
    | error e => rw [hv] at h; cases h
    | ok _ =>
      rw [hv] at h
      cases h
      rfl

/-- **All or nothing.** A callback that fails changes neither component; one that succeeds read a
    configuration, and leaves both derived from it. -/
theorem watchCallback_cases (compile : RegexpCompile) (b : AaaBackends) (file : ConfigFile) :
    (∃ err, watchCallback compile (lit "local") b file = (b, some err)) ∨
      ∃ uc b', file = .decoded uc ∧ watchCallback compile (lit "local") b file = (b', none) ∧
        DerivedFrom compile uc b' := by
  unfold watchCallback
  cases hload : loadUserConfig file with
  | error err => exact Or.inl ⟨err, rfl⟩
  | ok uc =>
    dsimp only
    cases hrules : userConfigToRules compile uc with
    | error err => exact Or.inl ⟨err, rfl⟩
    | ok rules =>
      dsimp only
      unfold CommandAuthorizer.reload
      cases hc : compileRules compile 0 rules with
      | error e => exact Or.inl ⟨_, rfl⟩
      | ok compiled =>
        refine Or.inr ⟨uc, _, loadUserConfig_ok hload, if_pos rfl, ?_⟩
        exact ⟨rfl, rfl, rules, hrules, hc⟩

/-- **Hot reload is all or nothing.** After each callback, whatever the file held at each of
    them, the authenticator and the authorizer are both derived from the last configuration for
    which the callback returned nil, or from the one at start-up if there is none. -/
theorem hotReload_consistent (compile : RegexpCompile) (uc : UserConfig) (b : AaaBackends)
    (hstart : startBackends compile uc = .ok b) (files : List ConfigFile) :
    let step := watchCallback compile (lit "local")
    DerivedFrom compile (lastLoaded uc (files.zip (Run.outputs step b files)))
      (Run.after step b files) := by
  intro step
  have hrun := Run.run_induction step
    (fun is os t => is.length = os.length ∧ DerivedFrom compile (lastLoaded uc (is.zip os)) t)
    ⟨rfl, derivedFrom_startBackends hstart⟩ ?_ files
  · exact hrun.2
  rintro is os t file ⟨hlen, hderived⟩
  refine ⟨by simp [hlen], ?_⟩
  have hlast : lastLoaded uc ((is ++ [file]).zip (os ++ [(step t file).2]))
      = lastLoaded (lastLoaded uc (is.zip os)) [(file, (step t file).2)] := by
    unfold lastLoaded
    rw [List.zip_append hlen, List.foldl_append]
    rfl
  rw [hlast]
  rcases watchCallback_cases compile t file with ⟨err, herr⟩ | ⟨cfg, b', hfile, hok, hcfg⟩
  · rw [show step t file = (t, some err) from herr]
    cases file <;> exact hderived
  · rw [show step t file = (b', none) from hok, hfile]
    exact hcfg

/-- One user without rules. -/
def loginConfig (name : String) : UserConfig where
  users := [{ username := lit name, passwordHash := lit "$2a" }]

/-- The file goes bad, then holds a new configuration, then one that refers to a group it does
    not declare: the new configuration stays. -/
theorem hotReload_consistent_thrice :
    ∃ b, startBackends noRegexp (loginConfig "ivan") = .ok b ∧
      DerivedFrom noRegexp (loginConfig "judy")
        (Run.after (watchCallback noRegexp (lit "local")) b
          [.unreadable .eof, .decoded (loginConfig "judy"),
            .decoded { users := [{ username := lit "mallory", passwordHash := lit "$2a",
                                   groups := [lit "wheel"] }] }]) :=
  ⟨_, rfl, hotReload_consistent noRegexp (loginConfig "ivan") _ rfl
    [.unreadable .eof, .decoded (loginConfig "judy"),
      .decoded { users := [{ username := lit "mallory", passwordHash := lit "$2a",
                             groups := [lit "wheel"] }] }]⟩

end Cli
end Proof
end Tacacs
