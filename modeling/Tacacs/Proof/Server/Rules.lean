import Tacacs.Cli.Aaa

/-!
# Command rules, first match

`matchCommand` and the loop of `CommandAuthorizer.Authorize` are written out twice in the
source. Both take the first rule that matches and give its `verdict`; they differ in what they
do when there is none.

The command of a request is the value of its first AVP named `cmd`, and nothing if it has none.

A verdict is decided by one comparison, with the constant `"deny"`. Every other action permits,
the empty one included, so a rule means what it says exactly if its action is one of the two
constants.
-/

set_option autoImplicit false

namespace Tacacs
namespace Proof
namespace Server

open GoSem
open Tacacs.Server

/-! ## The AVP named `cmd` -/

/-- The name is `cmd`, in any case. -/
def isCmd (a : Argument) : Bool := equalFold a.name (lit "cmd")

theorem extractCmd_eq (args : List Argument) :
    extractCmd args = ((args.find? isCmd).map Argument.value).getD [] := by
  induction args with
  | nil => rfl
  | cons a args ih =>
    unfold extractCmd
    cases h : equalFold a.name (lit "cmd") with
    | true =>
      rw [List.find?_cons_of_pos (show isCmd a = true from h)]
      rfl
    | false =>
      rw [List.find?_cons_of_neg (show ¬isCmd a = true by simp [isCmd, h])]
      exact ih

theorem extractCmd_of_find? {args : List Argument} {a : Argument}
    (h : args.find? isCmd = some a) : extractCmd args = a.value := by
  rw [extractCmd_eq, h]
  rfl

theorem extractCmd_eq_nil {args : List Argument} (h : ∀ a ∈ args, isCmd a = false) :
    extractCmd args = [] := by
  have hnone : args.find? isCmd = none := by
    refine List.find?_eq_none.mpr fun a ha => ?_
    simp [h a ha]
  rw [extractCmd_eq, hnone]
  rfl

/-! ## Both loops are first match -/

/-- The first rule that matches a request. -/
def firstMatch (rules : List CommandRule) (cmd : GoString) (args : List Argument) :
    Option CommandRule :=
  rules.find? fun r => r.matches cmd args

/-- What a matching rule decides. -/
def verdict (r : CommandRule) : AuthorDecision :=
  if r.action = actionDeny then
    { status := authorStatusFail, serverMsg := lit "command denied by policy" }
  else
    { status := if r.passRepl then authorStatusPassRepl else authorStatusPassAdd,
      args := r.setValues }

theorem firstMatch_cons_of_matches {r : CommandRule} {rs : List CommandRule} {cmd : GoString}
    {args : List Argument} (h : r.matches cmd args = true) :
    firstMatch (r :: rs) cmd args = some r := List.find?_cons_of_pos h

theorem firstMatch_cons_of_not {r : CommandRule} {rs : List CommandRule} {cmd : GoString}
    {args : List Argument} (h : r.matches cmd args = false) :
    firstMatch (r :: rs) cmd args = firstMatch rs cmd args :=
  List.find?_cons_of_neg (by simp [h])

theorem matchCommand_eq (rules : List CommandRule) (cmd : GoString) (args : List Argument) :
    matchCommand rules cmd args = (firstMatch rules cmd args).map verdict := by
  induction rules with
  | nil => rfl
  | cons r rs ih =>
    unfold matchCommand
    cases hm : r.matches cmd args with
    | false =>
      rw [firstMatch_cons_of_not hm]
      exact ih
    | true =>
      rw [firstMatch_cons_of_matches hm]
      unfold verdict
      by_cases ha : r.action = actionDeny
      · simp [ha]
      · simp [ha]

theorem authorizeRules_eq (rules : List CommandRule) (cmd : GoString) (args : List Argument) :
    Cli.authorizeRules cmd args rules = ((firstMatch rules cmd args).map verdict).getD
      { status := authorStatusFail, serverMsg := lit "no matching rule" } := by
  induction rules with
  | nil => rfl
  | cons r rs ih =>
    unfold Cli.authorizeRules
    cases hm : r.matches cmd args with
    | false =>
      rw [firstMatch_cons_of_not hm]
      exact ih
    | true =>
      rw [firstMatch_cons_of_matches hm]
      rfl

/-- What `Authorize` answers to a command of a known user. -/
theorem authorize_eq {h : ConfigHandler} {ac : AuthorContext} {ru : ResolvedUser}
    (hu : h.resolved.lookup ac.user = some ru) (hcmd : extractCmd ac.args ≠ []) :
    h.authorize ac = .ok (((firstMatch ru.commands (extractCmd ac.args) ac.args).map verdict).getD
      (if h.cfg.policy.allows (extractCmd ac.args) then { status := authorStatusPassAdd }
        else { status := authorStatusFail, serverMsg := lit "command not authorized" })) := by
  unfold ConfigHandler.authorize
  rw [hu]
  dsimp only
  rw [if_neg hcmd, matchCommand_eq]
  cases firstMatch ru.commands (extractCmd ac.args) ac.args with
  | some r => rfl
  | none =>
    dsimp only [Option.map_none, Option.getD_none]
    split <;> rfl

/-- A command request of a known user is decided by the first rule that matches. -/
theorem authorize_of_firstMatch {h : ConfigHandler} {ac : AuthorContext} {ru : ResolvedUser}
    {r : CommandRule} (hu : h.resolved.lookup ac.user = some ru)
    (hcmd : extractCmd ac.args ≠ [])
    (hr : firstMatch ru.commands (extractCmd ac.args) ac.args = some r) :
    h.authorize ac = .ok (verdict r) := by
  rw [authorize_eq hu hcmd, hr]
  rfl

/-! ## When a rule means what it says -/

/-- A decision made on the strength of `r` is fail-closed: it passes only if the action is
    `"permit"`, and fails on any other action. -/
def FailClosed (r : CommandRule) (dec : AuthorDecision) : Prop :=
  (dec.status = authorStatusPassAdd ∨ dec.status = authorStatusPassRepl →
      r.action = actionPermit) ∧
    (r.action ≠ actionPermit → dec.status = authorStatusFail)

/-- The action is one of the two constants. -/
def PlainAction (r : CommandRule) : Prop := r.action = actionPermit ∨ r.action = actionDeny

theorem verdict_failClosed_iff (r : CommandRule) : FailClosed r (verdict r) ↔ PlainAction r := by
  unfold FailClosed PlainAction verdict
  by_cases hdeny : r.action = actionDeny
  · rw [if_pos hdeny]
    refine ⟨fun _ => Or.inr hdeny, fun _ => ⟨?_, fun _ => rfl⟩⟩
    rintro (h | h)
    · exact absurd h (by decide)
    · exact absurd h (by decide)
  · rw [if_neg hdeny]
    have hpass : (if r.passRepl then authorStatusPassRepl else authorStatusPassAdd)
          = authorStatusPassAdd ∨
        (if r.passRepl then authorStatusPassRepl else authorStatusPassAdd)
          = authorStatusPassRepl := by
      cases r.passRepl with
      | true => exact Or.inr rfl
      | false => exact Or.inl rfl
    constructor
    · rintro ⟨h, -⟩
      exact Or.inl (h hpass)
    · rintro (h | h)
      · exact ⟨fun _ => h, fun hne => absurd h hne⟩
      · exact absurd h hdeny

/-- What takes its decision from the first match is fail-closed on it exactly if the action is
    plain. -/
theorem failClosed_iff_of_verdict {first : Option CommandRule} {decides : AuthorDecision → Prop}
    (h : ∀ r, first = some r → ∀ dec, decides dec ↔ verdict r = dec) :
    (∀ r dec, first = some r → decides dec → FailClosed r dec) ↔
      ∀ r, first = some r → PlainAction r := by
  constructor
  · intro hclosed r hr
    exact (verdict_failClosed_iff r).mp (hclosed r _ hr ((h r hr _).mpr rfl))
  · intro hplain r dec hr hdec
    cases (h r hr dec).mp hdec
    exact (verdict_failClosed_iff r).mpr (hplain r hr)

/-- **When the rules are fail-closed.** For any rules and any request, `matchCommand`,
    `ConfigHandler.Authorize` and `CommandAuthorizer.Authorize` are fail-closed on the rule that
    decides exactly if its action is one of the two constants. -/
theorem rules_failClosed_iff (rules : List CommandRule) (cmd : GoString) (args : List Argument)
    (h : ConfigHandler) (a : Cli.CommandAuthorizer) (ac : AuthorContext) (ru : ResolvedUser) :
    ((∀ r dec, firstMatch rules cmd args = some r → matchCommand rules cmd args = some dec →
        FailClosed r dec) ↔
      ∀ r, firstMatch rules cmd args = some r → PlainAction r) ∧
    (h.resolved.lookup ac.user = some ru → extractCmd ac.args ≠ [] →
      ((∀ r dec, firstMatch ru.commands (extractCmd ac.args) ac.args = some r →
          h.authorize ac = .ok dec → FailClosed r dec) ↔
        ∀ r, firstMatch ru.commands (extractCmd ac.args) ac.args = some r → PlainAction r)) ∧
    ((∀ r dec, firstMatch a.rules (extractCmd ac.args) ac.args = some r →
        a.authorize ac = .ok dec → FailClosed r dec) ↔
      ∀ r, firstMatch a.rules (extractCmd ac.args) ac.args = some r → PlainAction r) := by
  -- in each case the decision is the verdict of the first match
  refine ⟨?_, ?_, ?_⟩
  · apply failClosed_iff_of_verdict
    intro r hr dec
    rw [matchCommand_eq, hr, Option.map_some, Option.some.injEq]
  · intro hu hcmd
    apply failClosed_iff_of_verdict
    intro r hr dec
    rw [authorize_of_firstMatch hu hcmd hr, Except.ok.injEq]
  · apply failClosed_iff_of_verdict
    intro r hr dec
    rw [Cli.CommandAuthorizer.authorize, authorizeRules_eq, hr, Except.ok.injEq]
    rfl

/-- A user whose only rule has no action. -/
def emptyActionConfig : UserConfig where
  users := [{ username := lit "erin", passwordHash := lit "$2a", commands := [{ action := [] }] }]

/-- A request to run `reload`. -/
def reloadRequest : AuthorContext where
  sessionID := 7
  seqNo := 1
  method := 0
  privLvl := 1
  type := 1
  service := 1
  user := lit "erin"
  port := []
  remAddr := []
  args := [{ mandatory := true, name := lit "cmd", value := lit "reload" }]
  remoteAddr := []

/-- The rule without an action permits `reload`, in all three places. -/
theorem emptyAction_permits :
    matchCommand [{ action := [] }] (lit "reload") reloadRequest.args
        = some { status := authorStatusPassAdd } ∧
      (∃ h, newConfigHandler (fun _ => .error []) (some emptyActionConfig) = .ok h ∧
        h.authorize reloadRequest = .ok { status := authorStatusPassAdd }) ∧
      (∃ a, Cli.newCommandAuthorizer (fun _ => .error []) [{ action := [] }] = .ok a ∧
        a.authorize reloadRequest = .ok { status := authorStatusPassAdd }) :=
  ⟨rfl, ⟨_, rfl, rfl⟩, ⟨_, rfl, rfl⟩⟩

end Server
end Proof
end Tacacs
