import Tacacs.Proof.Server.Precedence

/-!
# What counts as a command

Both authorizers take the value of the first AVP named `cmd` for the command, and the empty
string where there is none. So they cannot tell a request **without** a command from one whose
first `cmd` is empty, and the two go wrong in opposite ways.

`ConfigHandler.Authorize` takes the second for the first: a request with an empty `cmd` in front
is not a command to it, whatever other `cmd` follows, and what is not a command is permitted.
`CommandAuthorizer.Authorize` takes the first for the second: it runs the patterns on the empty
string, and a pattern that matches it decides about requests that name no command.
-/

set_option autoImplicit false

namespace Tacacs
namespace Proof
namespace Server

open GoSem
open Tacacs.Server

/-! ## A request that is not a command -/

/-- What the rules, and then the policy, say of a command. -/
def ruling (rules : List CommandRule) (policy : Policy) (cmd : GoString) (args : List Argument) :
    AuthorDecision :=
  (matchCommand rules cmd args).getD
    (if policy.allows cmd then { status := authorStatusPassAdd }
      else { status := authorStatusFail, serverMsg := lit "command not authorized" })

theorem authorize_eq_ruling {h : ConfigHandler} {ac : AuthorContext} {ru : ResolvedUser}
    (hu : h.resolved.lookup ac.user = some ru) (hcmd : extractCmd ac.args ≠ []) :
    h.authorize ac = .ok (ruling ru.commands h.cfg.policy (extractCmd ac.args) ac.args) := by
  rw [authorize_eq hu hcmd, ruling, matchCommand_eq]

theorem matchService_status {services : List Service} {args : List Argument}
    {dec : AuthorDecision} (h : matchService services args = some dec) :
    dec.status = authorStatusPassRepl := by
  induction services with
  | nil => cases h
  | cons s ss ih =>
    unfold matchService at h
    cases hm : serviceMatches s args with
    | false =>
      rw [hm] at h
      exact ih h
    | true =>
      rw [hm] at h
      cases h
      rfl

/-- A known user is never refused what is not a command. -/
theorem authorize_nonCommand {h : ConfigHandler} {ac : AuthorContext} {ru : ResolvedUser}
    (hu : h.resolved.lookup ac.user = some ru) (hcmd : extractCmd ac.args = [])
    {dec : AuthorDecision} (hdec : h.authorize ac = .ok dec) : dec.status ≠ authorStatusFail := by
  unfold ConfigHandler.authorize at hdec
  rw [hu] at hdec
  dsimp only at hdec
  rw [if_pos hcmd] at hdec
  cases hm : matchService ru.services ac.args with
  | some d =>
    rw [hm] at hdec
    cases hdec
    rw [matchService_status hm]
    decide
  | none =>
    rw [hm] at hdec
    cases hdec
    decide

/-- **When a denied command stays denied.** For a configuration that `Resolve` accepts, a
    configured user and a request that names a command: if the rules of the user, and then the
    policy, fail each command the request names, the request is failed if and only if the first
    AVP named `cmd` has a value. -/
theorem deniedCommand_fails_iff (compile : RegexpCompile) (cfg : UserConfig)
    (resolved : Resolved) (hres : cfg.resolve compile = .ok resolved) :
    ∃ h, newConfigHandler compile (some cfg) = .ok h ∧
      ∀ u ∈ cfg.users, ∀ ac : AuthorContext, ac.user = u.username →
        ∃ ru, resolved.lookup u.username = some ru ∧
          ((∃ a ∈ ac.args, isCmd a = true ∧ a.value ≠ []) →
            (∀ a ∈ ac.args, isCmd a = true → a.value ≠ [] →
              (ruling ru.commands cfg.policy a.value ac.args).status = authorStatusFail) →
            ((∃ dec, h.authorize ac = .ok dec ∧ dec.status = authorStatusFail) ↔
              ∀ a, ac.args.find? isCmd = some a → a.value ≠ [])) := by
  refine ⟨⟨newMemoryUserStore cfg.users, cfg, resolved⟩, newConfigHandler_of_resolve hres, ?_⟩
  intro u hu ac huser
  obtain ⟨v, hv⟩ := userEntry_exists hu
  have hru : resolved.lookup u.username = some (expandedUser compile cfg v) := by
    rw [lookup_resolved hres, hv, Option.map_some]
  refine ⟨expandedUser compile cfg v, hru, ?_⟩
  rintro ⟨a₀, ha₀, hcmd₀, -⟩ hdenied
  obtain ⟨a, hfirst⟩ : ∃ a, ac.args.find? isCmd = some a :=
    Option.isSome_iff_exists.mp (List.find?_isSome.mpr ⟨a₀, ha₀, hcmd₀⟩)
  have hextract := extractCmd_of_find? hfirst
  have hlook : (⟨newMemoryUserStore cfg.users, cfg, resolved⟩ : ConfigHandler).resolved.lookup
      ac.user = some (expandedUser compile cfg v) := by
    rw [huser]
    exact hru
  constructor
  · rintro ⟨dec, hdec, hfail⟩ a' ha' hempty
    rw [hfirst] at ha'
    cases ha'
    exact authorize_nonCommand hlook (hextract.trans hempty) hdec hfail
  · intro hvalue
    have hne : extractCmd ac.args ≠ [] := by
      rw [hextract]
      exact hvalue a hfirst
    refine ⟨_, authorize_eq_ruling hlook hne, ?_⟩
    rw [hextract]
    exact hdenied a (List.mem_of_find?_eq_some hfirst) (by simpa using List.find?_some hfirst)
      (hvalue a hfirst)

/-- `erin` may run nothing. -/
def idleConfig : UserConfig where
  users := [{ username := lit "erin", passwordHash := lit "$2a" }]

/-- With `cmd=reload` in front, `erin` is refused. -/
theorem deniedCommand_fails_reload :
    ∃ h, newConfigHandler noRegexp (some idleConfig) = .ok h ∧
      ∃ dec, h.authorize reloadRequest = .ok dec ∧ dec.status = authorStatusFail := by
  obtain ⟨h, hh, huser⟩ := deniedCommand_fails_iff noRegexp idleConfig _ rfl
  obtain ⟨ru, hru, hiff⟩ := huser _ (List.mem_singleton_self _) reloadRequest rfl
  cases hru
  refine ⟨h, hh, (hiff ⟨_, List.mem_singleton_self _, by decide, by decide⟩ ?_).mpr ?_⟩
  · intro a ha _ _
    cases List.mem_singleton.mp ha
    rfl
  · intro a ha
    cases ha
    decide

/-- The same request with an empty `cmd` before the other. -/
def smuggledRequest : AuthorContext :=
  { reloadRequest with
    args := { mandatory := true, name := lit "cmd", value := [] } :: reloadRequest.args }

/-- `reload` is refused by the rules and the policy, and now it is permitted. -/
theorem deniedCommand_smuggled :
    ∃ h ru, newConfigHandler noRegexp (some idleConfig) = .ok h ∧
      h.resolved.lookup (lit "erin") = some ru ∧
      (∃ a ∈ smuggledRequest.args, isCmd a = true ∧ a.value ≠ []) ∧
      (∀ a ∈ smuggledRequest.args, isCmd a = true → a.value ≠ [] →
        (ruling ru.commands idleConfig.policy a.value smuggledRequest.args).status
          = authorStatusFail) ∧
      h.authorize smuggledRequest = .ok { status := authorStatusPassAdd } := by
  refine ⟨_, _, rfl, rfl, ?_, ?_, rfl⟩
  · exact ⟨_, List.mem_cons_of_mem _ (List.mem_singleton_self _), by decide, by decide⟩
  · intro a ha _ hne
    rcases List.mem_cons.mp ha with rfl | ha
    · exact absurd rfl hne
    · cases List.mem_singleton.mp ha
      rfl

/-! ## Patterns on the empty string -/

/-- The request has every AVP the rule asks for. -/
def avpsPresent (r : CommandRule) (args : List Argument) : Bool :=
  r.match.all fun m => argPresentAVP args m

theorem avpsPresent_of_matches {r : CommandRule} {cmd : GoString} {args : List Argument}
    (h : r.matches cmd args = true) : avpsPresent r args = true := by
  unfold CommandRule.matches at h
  exact (Bool.and_eq_true _ _ |>.mp h).2

/-- A rule without a pattern that permits, and whose AVPs the request has. -/
def AvpPermit (r : CommandRule) (args : List Argument) : Prop :=
  r.pattern = [] ∧ r.action = actionPermit ∧ avpsPresent r args = true

/-- A rule that does not deny, although it has a pattern or an action that is no action. -/
def Loose (r : CommandRule) : Prop :=
  r.action ≠ actionDeny ∧ (r.pattern ≠ [] ∨ r.action ≠ actionPermit)

theorem verdict_status (r : CommandRule) :
    (verdict r).status = authorStatusFail ↔ r.action = actionDeny := by
  unfold verdict
  by_cases hdeny : r.action = actionDeny
  · rw [if_pos hdeny]
    exact ⟨fun _ => hdeny, fun _ => rfl⟩
  · rw [if_neg hdeny]
    have hpass : ∀ b : Bool, (if b then authorStatusPassRepl else authorStatusPassAdd)
        ≠ authorStatusFail := by decide
    exact ⟨fun h => absurd h (hpass r.passRepl), fun h => absurd h hdeny⟩

/-- What the rules say of a request that names no command. -/
theorem authorize_noCommand (a : Cli.CommandAuthorizer) {ac : AuthorContext}
    (hcmd : ∀ arg ∈ ac.args, isCmd arg = false) :
    a.authorize ac = .ok (((firstMatch a.rules [] ac.args).map verdict).getD
      { status := authorStatusFail, serverMsg := lit "no matching rule" }) := by
  unfold Cli.CommandAuthorizer.authorize
  rw [extractCmd_eq_nil hcmd, authorizeRules_eq]

/-- **When the rules for AVPs alone decide.** For any rules and any request that names no
    command: it is permitted only on a rule without a pattern, with the action permit and with
    all its AVPs in the request, and otherwise denied — if and only if the first rule that fits
    the request, its pattern run on the empty string, is not loose, or such a rule is there as
    well. -/
theorem noCommand_permitted_iff (a : Cli.CommandAuthorizer) (ac : AuthorContext)
    (hcmd : ∀ arg ∈ ac.args, isCmd arg = false) :
    (∃ dec, a.authorize ac = .ok dec ∧
      (dec.status = authorStatusPassAdd ∨ dec.status = authorStatusPassRepl →
        ∃ r ∈ a.rules, AvpPermit r ac.args) ∧
      ((¬∃ r ∈ a.rules, AvpPermit r ac.args) → dec.status = authorStatusFail)) ↔
    ∀ r, firstMatch a.rules [] ac.args = some r → Loose r →
      ∃ r ∈ a.rules, AvpPermit r ac.args := by
  rw [authorize_noCommand a hcmd]
  constructor
  · rintro ⟨dec, hdec, -, hdenied⟩ r hr ⟨haction, -⟩
    rw [hr] at hdec
    cases hdec
    by_contra hnone
    exact haction ((verdict_status r).mp (hdenied hnone))
  · intro h
    refine ⟨_, rfl, ?_⟩
    cases hr : firstMatch a.rules [] ac.args with
    | none => exact ⟨fun hpass => absurd hpass (by decide), fun _ => rfl⟩
    | some r =>
      have hmem : r ∈ a.rules := List.mem_of_find?_eq_some hr
      have hfits : r.matches [] ac.args = true := by simpa using List.find?_some hr
      -- a rule that does not deny is loose, or it is one for AVPs alone
      have hpermit : r.action ≠ actionDeny → ∃ r ∈ a.rules, AvpPermit r ac.args := by
        intro haction
        by_cases hloose : r.pattern ≠ [] ∨ r.action ≠ actionPermit
        · exact h r hr ⟨haction, hloose⟩
        · obtain ⟨hpattern, haction⟩ := not_or.mp hloose
          exact ⟨r, hmem, not_not.mp hpattern, not_not.mp haction, avpsPresent_of_matches hfits⟩
      have hdenied : (¬∃ r ∈ a.rules, AvpPermit r ac.args) →
          (verdict r).status = authorStatusFail := by
        intro hnone
        exact (verdict_status r).mpr (not_not.mp (mt hpermit hnone))
      refine ⟨?_, hdenied⟩
      intro hpass
      refine hpermit fun hdeny => ?_
      have hpass' : (verdict r).status = authorStatusPassAdd ∨
          (verdict r).status = authorStatusPassRepl := hpass
      rw [(verdict_status r).mpr hdeny] at hpass'
      exact absurd hpass' (by decide)

/-- A request for a PPP session. -/
def pppRequest : AuthorContext :=
  { reloadRequest with args := [{ mandatory := true, name := lit "service", value := lit "ppp" }] }

/-- Rules for commands of which none is loose deny the request. -/
theorem noCommand_permitted_denied :
    ∃ dec, (Cli.CommandAuthorizer.mk [{ action := actionDeny }]).authorize pppRequest = .ok dec ∧
      ((¬∃ r ∈ [({ action := actionDeny } : CommandRule)], AvpPermit r pppRequest.args) →
        dec.status = authorStatusFail) := by
  obtain ⟨dec, hdec, -, hdenied⟩ :=
    (noCommand_permitted_iff ⟨[{ action := actionDeny }]⟩ pppRequest (by decide)).mpr (by
      intro r hr hloose
      cases hr
      exact absurd rfl hloose.1)
  exact ⟨dec, hdec, hdenied⟩

/-- The pattern `.*`, which matches every text. -/
def anything : RegexpCompile := fun _ => .ok ⟨fun _ => true⟩

/-- A rule that permits every command, with a pattern that says so, permits the PPP session:
    there is no rule without a pattern. -/
theorem noCommand_permitted_anyway :
    ∃ a, Cli.newCommandAuthorizer anything [{ action := actionPermit, pattern := lit ".*" }]
        = .ok a ∧
      (∀ arg ∈ pppRequest.args, isCmd arg = false) ∧
      (¬∃ r ∈ a.rules, AvpPermit r pppRequest.args) ∧
      a.authorize pppRequest = .ok { status := authorStatusPassAdd } := by
  refine ⟨_, rfl, by decide, ?_, rfl⟩
  rintro ⟨r, hr, hpattern, -⟩
  cases List.mem_singleton.mp hr
  exact absurd hpattern (by decide)

end Server
end Proof
end Tacacs
