import Tacacs.Proof.Server.Resolve
import Tacacs.Proof.Server.Rules

/-!
# Which rule decides a command

`Authorize` runs first match over a list that `Resolve` put together. Here the two are composed
and read off the configuration: the rules of the user come first and those of its groups after
them, in the order the user lists the groups, so that a user can override a group.
-/

set_option autoImplicit false

namespace Tacacs
namespace Proof
namespace Server

open GoSem
open Tacacs.Server

/-! ## Matching a rule as it is written -/

/-- The pattern fits the command. An empty pattern fits every command; a rule that was compiled
    and had its pattern emptied afterwards keeps the compiled one. -/
def patternFits (compile : RegexpCompile) (cmd : GoString) (r : CommandRule) : Bool :=
  if r.pattern = [] then (r.re.map fun re => re.matchString cmd).getD true
  else
    match compile r.pattern with
    | .ok re => re.matchString cmd
    | .error _ => false

/-- The pattern fits, and the request has each AVP of `Match`. -/
def ruleFits (compile : RegexpCompile) (cmd : GoString) (args : List Argument)
    (r : CommandRule) : Bool :=
  patternFits compile cmd r &&
    r.match.all fun m => args.any fun a => decide (a.name = m.name ∧ a.value = m.value)

theorem matches_compiledRule {compile : RegexpCompile} {r : CommandRule}
    (h : Compiles compile r) (cmd : GoString) (args : List Argument) :
    (compiledRule compile r).matches cmd args = ruleFits compile cmd args r := by
  have havp : ∀ m : Argument, argPresentAVP args m
      = args.any fun a => decide (a.name = m.name ∧ a.value = m.value) := by
    intro m
    unfold argPresentAVP
    congr 1
    funext a
    rw [Bool.eq_iff_iff]
    simp
  unfold CommandRule.matches ruleFits patternFits compiledRule
  simp only [havp]
  by_cases hp : r.pattern = []
  · rw [if_pos hp, if_pos hp]
    cases r.re <;> rfl
  · obtain ⟨re, hre⟩ := h.resolve_left hp
    rw [if_neg hp, if_neg hp, hre]

theorem verdict_compiledRule (compile : RegexpCompile) (r : CommandRule) :
    verdict (compiledRule compile r) = verdict r := by
  unfold compiledRule
  split
  · rfl
  · split <;> rfl

/-- First match over compiled rules is first match over the rules as they are written. -/
theorem verdict_firstMatch_compiled {compile : RegexpCompile} {rs : List CommandRule}
    (h : ∀ r ∈ rs, Compiles compile r) (cmd : GoString) (args : List Argument) :
    (firstMatch (rs.map (compiledRule compile)) cmd args).map verdict
      = (rs.find? (ruleFits compile cmd args)).map verdict := by
  induction rs with
  | nil => rfl
  | cons r rs ih =>
    obtain ⟨hr, hrs⟩ := List.forall_mem_cons.mp h
    have hm := matches_compiledRule hr cmd args
    rw [List.map_cons]
    cases hfits : ruleFits compile cmd args r with
    | true =>
      rw [firstMatch_cons_of_matches (hm.trans hfits), List.find?_cons_of_pos hfits,
        Option.map_some, Option.map_some, verdict_compiledRule]
    | false =>
      rw [firstMatch_cons_of_not (hm.trans hfits), List.find?_cons_of_neg (by simp [hfits]),
        ih hrs]

/-! ## The decision -/

theorem plainAction_of_mem_rulesOf {cfg : UserConfig} {u : User} (hu : u ∈ cfg.users)
    (husers : ∀ u ∈ cfg.users, ∀ r ∈ u.commands, PlainAction r)
    (hgroups : ∀ g ∈ cfg.groups, ∀ r ∈ g.commands, PlainAction r) :
    ∀ r ∈ rulesOf cfg u, PlainAction r := by
  intro r hr
  rcases List.mem_append.mp hr with hr | hr
  · exact husers u hu r hr
  · obtain ⟨g, hg, hr⟩ := List.mem_flatMap.mp hr
    exact hgroups g (mem_groups_of_mem_groupsOf hg) r hr

/-- **Which rule decides.** For a configuration that `Resolve` accepts, in which no two users
    share a name and every action is one of the two constants: a command of a configured user is
    decided by the first rule that fits, among its own and then those of its groups in the order
    it lists them, and by the flat policy if none does; a user that is not in the configuration
    fails. -/
theorem authorize_precedence (compile : RegexpCompile) (cfg : UserConfig) (resolved : Resolved)
    (hres : cfg.resolve compile = .ok resolved)
    (hdistinct : (cfg.users.map User.username).Nodup)
    (husers : ∀ u ∈ cfg.users, ∀ r ∈ u.commands, PlainAction r)
    (hgroups : ∀ g ∈ cfg.groups, ∀ r ∈ g.commands, PlainAction r) :
    ∃ h, newConfigHandler compile (some cfg) = .ok h ∧
      (∀ u ∈ cfg.users, ∀ ac : AuthorContext, ac.user = u.username →
        ∀ cmd, ac.args.find? isCmd = some cmd → cmd.value ≠ [] →
        ∃ dec, h.authorize ac = .ok dec ∧
          match (u.commands ++ (groupsOf cfg u).flatMap Group.commands).find?
              (ruleFits compile cmd.value ac.args) with
          | some r =>
              if r.action = actionDeny then dec.status = authorStatusFail
              else r.action = actionPermit ∧
                dec.status = (if r.passRepl then authorStatusPassRepl else authorStatusPassAdd) ∧
                dec.args = r.setValues
          | none =>
              dec.status = if cfg.policy.allows cmd.value then authorStatusPassAdd
                else authorStatusFail) ∧
      ∀ ac : AuthorContext, (∀ u ∈ cfg.users, u.username ≠ ac.user) →
        ∃ dec, h.authorize ac = .ok dec ∧ dec.status = authorStatusFail := by
  have hwf := (resolve_ok_iff.mp hres).1
  let h : ConfigHandler := ⟨newMemoryUserStore cfg.users, cfg, resolved⟩
  refine ⟨h, newConfigHandler_of_resolve hres, ?_, ?_⟩
  · intro u hu ac huser cmd hfirst hne
    have hcmd := extractCmd_of_find? hfirst
    have hlook : h.resolved.lookup ac.user = some (expandedUser compile cfg u) := by
      rw [huser]
      exact (lookup_resolved hres _).trans (by rw [userEntry_of_mem hdistinct hu]; rfl)
    have hauth := authorize_eq hlook (hcmd ▸ hne)
    have hcommands : (expandedUser compile cfg u).commands
        = (rulesOf cfg u).map (compiledRule compile) := rfl
    rw [hcommands, verdict_firstMatch_compiled (compiles_of_mem_rulesOf hwf hu), hcmd] at hauth
    refine ⟨_, hauth, ?_⟩
    have hplain := plainAction_of_mem_rulesOf hu husers hgroups
    change match (rulesOf cfg u).find? (ruleFits compile cmd.value ac.args) with
      | some r => _
      | none => _
    cases hr : (rulesOf cfg u).find? (ruleFits compile cmd.value ac.args) with
    | none =>
      dsimp only [Option.map_none, Option.getD_none, h]
      split <;> rfl
    | some r =>
      dsimp only [Option.map_some, Option.getD_some]
      unfold verdict
      by_cases hdeny : r.action = actionDeny
      · rw [if_pos hdeny, if_pos hdeny]
      · rw [if_neg hdeny, if_neg hdeny]
        exact ⟨(hplain r (List.mem_of_find?_eq_some hr)).resolve_right hdeny, rfl, rfl⟩
  · intro ac hnone
    have hentry : userEntry cfg.users ac.user = none := by
      refine List.find?_eq_none.mpr fun u hu => ?_
      simpa using hnone u (List.mem_reverse.mp hu)
    refine ⟨{ status := authorStatusFail }, ?_, rfl⟩
    unfold ConfigHandler.authorize
    rw [lookup_resolved hres, hentry]
    rfl

/-- `grace` denies what is asked on line `vty1`, and lists a group that permits everything. -/
def overrideConfig : UserConfig where
  users := [{ username := lit "grace", passwordHash := lit "$2a", groups := [lit "ops"],
              commands := [{ action := actionDeny,
                             «match» := [{ mandatory := true, name := lit "line",
                                           value := lit "vty1" }] }] }]
  groups := [{ name := lit "ops", commands := [{ action := actionPermit, passRepl := true }] }]

/-- On `vty1` the rule of the user decides, elsewhere that of the group. -/
theorem authorize_precedence_override :
    ∃ h, newConfigHandler noRegexp (some overrideConfig) = .ok h ∧
      (∃ dec, h.authorize { reloadRequest with
          user := lit "grace"
          args := reloadRequest.args ++ [{ mandatory := true, name := lit "line",
                                           value := lit "vty1" }] } = .ok dec ∧
        dec.status = authorStatusFail) ∧
      ∃ dec, h.authorize { reloadRequest with user := lit "grace" } = .ok dec ∧
        dec.status = authorStatusPassRepl := by
  obtain ⟨h, hh, hknown, -⟩ := authorize_precedence noRegexp overrideConfig _ rfl (by decide)
    (by intro u hu r hr
        rw [List.mem_singleton.mp hu] at hr
        rw [List.mem_singleton.mp hr]
        exact Or.inr rfl)
    (by intro g hg r hr
        rw [List.mem_singleton.mp hg] at hr
        rw [List.mem_singleton.mp hr]
        exact Or.inl rfl)
  refine ⟨h, hh, ?_, ?_⟩
  · exact hknown _ (List.mem_singleton_self _) _ rfl _ rfl (by decide)
  · obtain ⟨dec, hdec, -, hstatus, -⟩ := hknown _ (List.mem_singleton_self _)
      { reloadRequest with user := lit "grace" } rfl _ rfl (by decide)
    exact ⟨dec, hdec, hstatus⟩

end Server
end Proof
end Tacacs
