import Mathlib.Data.List.Infix
import Tacacs.Cli.Server
import Tacacs.Proof.Server.Resolve
import Tacacs.Proof.Server.Rules

/-!
# The flat policy as rules

The command-line server turns the flat policy into regular expressions and puts them behind the
structured rules, so that the command authorizer decides as `ConfigHandler` does. A pattern with
a trailing `" *"` becomes `^….*$`, and there the two part: in a regular expression `.` stops at a
newline, in `matchCmd` nothing does.

A command with a newline can be matched by a pattern of the policy and not by its translation
(`misses`). Whether that shows in the decision depends on which of the patterns it happens to
(`NewlineSafe`).
-/

set_option autoImplicit false

namespace Tacacs
namespace Proof
namespace Cli

open GoSem Tacacs.Server Tacacs.Cli
open Tacacs.Proof.Server

/-! ## What is assumed of regular expressions -/

def newline : UInt8 := 0x0a

/-- `^`, a quoted string, `$`. -/
def literalPattern (s : GoString) : GoString := lit "^" ++ quoteMeta s ++ lit "$"

/-- `^`, a quoted string, `.*$`. -/
def wildcardPattern (s : GoString) : GoString := lit "^" ++ quoteMeta s ++ lit ".*$"

/-- `regexp.Compile`, with what the translation relies on: a quoted string matches itself, the
    anchors hold, and `.*` matches what has no newline. Nothing is said of other patterns. -/
structure GoRegexp where
  compile : RegexpCompile
  literal : ∀ s, ∃ re, compile (literalPattern s) = .ok re ∧
    ∀ t, re.matchString t = true ↔ t = s
  wildcard : ∀ s, ∃ re, compile (wildcardPattern s) = .ok re ∧
    ∀ t, re.matchString t = true ↔ ∃ rest, t = s ++ rest ∧ newline ∉ rest

section Quoting

theorem quoteMeta_cons (c : UInt8) (s : GoString) :
    quoteMeta (c :: s) = quoteByte c ++ quoteMeta s := List.flatMap_cons

/-- The quoted bytes are a code in which no word begins another. -/
theorem quoteByte_append_inj {c d : UInt8} {s t : Bytes}
    (h : quoteByte d ++ t = quoteByte c ++ s) : d = c ∧ t = s := by
  have hslash : (0x5c : UInt8) ∈ specialBytes := by decide
  unfold quoteByte at h
  by_cases hd : d ∈ specialBytes
  · rw [if_pos hd] at h
    by_cases hc : c ∈ specialBytes
    · rw [if_pos hc] at h
      cases h
      exact ⟨rfl, rfl⟩
    · rw [if_neg hc] at h
      cases h
      exact absurd hslash hc
  · rw [if_neg hd] at h
    by_cases hc : c ∈ specialBytes
    · rw [if_pos hc] at h
      cases h
      exact absurd hslash hd
    · rw [if_neg hc] at h
      cases h
      exact ⟨rfl, rfl⟩

theorem quoteByte_ne_nil (c : UInt8) : quoteByte c ≠ [] := by
  unfold quoteByte
  split <;> exact List.cons_ne_nil _ _

/-- What begins with a quoted string is the quotation of something that begins with it. -/
theorem quoteMeta_eq_append {s t rest : Bytes} (h : quoteMeta t = quoteMeta s ++ rest) :
    ∃ u, t = s ++ u ∧ quoteMeta u = rest := by
  induction s generalizing t with
  | nil => exact ⟨t, rfl, h⟩
  | cons c s ih =>
    rw [quoteMeta_cons, List.append_assoc] at h
    cases t with
    | nil =>
      have hnil := List.append_eq_nil_iff.mp h.symm
      exact absurd hnil.1 (quoteByte_ne_nil c)
    | cons d t =>
      rw [quoteMeta_cons] at h
      obtain ⟨rfl, htail⟩ := quoteByte_append_inj h
      obtain ⟨u, rfl, hu⟩ := ih htail
      exact ⟨u, rfl, hu⟩

theorem quoteMeta_injective {s t : GoString} (h : quoteMeta t = quoteMeta s) : t = s := by
  obtain ⟨u, rfl, hu⟩ := quoteMeta_eq_append (h.trans (List.append_nil (quoteMeta s)).symm)
  cases u with
  | nil => exact List.append_nil s
  | cons c u =>
    rw [quoteMeta_cons] at hu
    exact absurd (List.append_eq_nil_iff.mp hu).1 (quoteByte_ne_nil c)

/-- No literal pattern is a wildcard pattern: a quoted dot has a backslash before it. -/
theorem quoteMeta_ne_wildcard (s t : GoString) : quoteMeta t ≠ quoteMeta s ++ lit ".*" := by
  intro h
  obtain ⟨u, -, hu⟩ := quoteMeta_eq_append h
  rw [show lit ".*" = [0x2e, 0x2a] from rfl] at hu
  cases u with
  | nil => cases hu
  | cons c u =>
    rw [quoteMeta_cons] at hu
    unfold quoteByte at hu
    by_cases hc : c ∈ specialBytes
    · rw [if_pos hc] at hu
      have hfirst : (0x5c : UInt8) = 0x2e := (List.cons.inj hu).1
      exact absurd hfirst (by decide)
    · rw [if_neg hc] at hu
      have hfirst : c = 0x2e := (List.cons.inj hu).1
      rw [hfirst] at hc
      exact hc (by decide)

theorem literalPattern_inj {s t : GoString} (h : literalPattern t = literalPattern s) : t = s :=
  quoteMeta_injective (List.append_cancel_left (List.append_cancel_right h))

theorem wildcardPattern_inj {s t : GoString} (h : wildcardPattern t = wildcardPattern s) :
    t = s :=
  quoteMeta_injective (List.append_cancel_left (List.append_cancel_right h))

theorem literalPattern_ne_wildcardPattern (s t : GoString) :
    literalPattern t ≠ wildcardPattern s := by
  intro h
  have hwild : wildcardPattern s = lit "^" ++ (quoteMeta s ++ lit ".*") ++ lit "$" := by
    rw [← List.append_assoc, List.append_assoc]
    rfl
  rw [hwild] at h
  exact quoteMeta_ne_wildcard s t (List.append_cancel_left (List.append_cancel_right h))

end Quoting

/-- What the least engine does: it knows the two kinds of pattern and no other. -/
def leastMatch (pat t : GoString) : Bool :=
  pat == literalPattern t ||
    t.inits.any fun s => pat == wildcardPattern s && !(t.drop s.length).contains newline

theorem leastMatch_literal (s t : GoString) :
    leastMatch (literalPattern s) t = true ↔ t = s := by
  have hwild : (t.inits.any fun u =>
      literalPattern s == wildcardPattern u && !(t.drop u.length).contains newline) = false := by
    rw [List.any_eq_false]
    intro u _
    rw [beq_eq_false_iff_ne.mpr (literalPattern_ne_wildcardPattern u s)]
    exact Bool.false_ne_true
  unfold leastMatch
  rw [hwild, Bool.or_false, beq_iff_eq]
  exact ⟨fun h => (literalPattern_inj h).symm, fun h => by rw [h]⟩

theorem leastMatch_wildcard (s t : GoString) :
    leastMatch (wildcardPattern s) t = true ↔ ∃ rest, t = s ++ rest ∧ newline ∉ rest := by
  have hlit : (wildcardPattern s == literalPattern t) = false :=
    beq_eq_false_iff_ne.mpr (literalPattern_ne_wildcardPattern s t).symm
  simp only [leastMatch, hlit, Bool.false_or, List.any_eq_true, List.mem_inits, Bool.and_eq_true,
    beq_iff_eq, Bool.not_eq_true', List.contains_eq_mem, decide_eq_false_iff_not]
  constructor
  · rintro ⟨u, ⟨rest, rfl⟩, hpat, hrest⟩
    cases wildcardPattern_inj hpat
    rw [List.drop_left] at hrest
    exact ⟨rest, rfl, hrest⟩
  · rintro ⟨rest, rfl, hrest⟩
    refine ⟨s, List.prefix_append s rest, rfl, ?_⟩
    rw [List.drop_left]
    exact hrest

instance : Inhabited GoRegexp where
  default :=
    { compile := fun pat => .ok ⟨leastMatch pat⟩
      literal := fun s => ⟨_, rfl, leastMatch_literal s⟩
      wildcard := fun s => ⟨_, rfl, leastMatch_wildcard s⟩ }

/-! ## A pattern and its translation -/

/-- The translation of a pattern fails to match where the pattern does: the command has a
    newline in the part that the wildcard stands for. -/
def misses (pat cmd : GoString) : Bool :=
  matchCmd pat cmd && hasSuffix pat (lit " *") && (cmd.drop (pat.length - 1)).contains newline

/-- What the translation of a pattern matches. -/
def globMatches (pat cmd : GoString) : Bool := matchCmd pat cmd && !misses pat cmd

/-- With a wildcard at the end, equality is a case of the prefix. -/
theorem matchCmd_wildcard {pat cmd : GoString} (h : hasSuffix pat (lit " *") = true) :
    matchCmd pat cmd = true ↔ pat.dropLast <+: cmd := by
  unfold matchCmd
  rw [if_pos h]
  by_cases heq : pat = cmd
  · rw [if_pos heq, ← heq]
    exact iff_of_true rfl (List.dropLast_prefix pat)
  · rw [if_neg heq]
    exact List.isPrefixOf_iff_prefix

theorem globMatches_wildcard {pat cmd : GoString} (h : hasSuffix pat (lit " *") = true) :
    globMatches pat cmd = true ↔ ∃ rest, cmd = pat.dropLast ++ rest ∧ newline ∉ rest := by
  have hmisses : misses pat cmd
      = (matchCmd pat cmd && (cmd.drop pat.dropLast.length).contains newline) := by
    unfold misses
    rw [h, Bool.and_true, List.length_dropLast]
  unfold globMatches
  rw [hmisses]
  simp only [Bool.and_eq_true, Bool.not_eq_true', Bool.and_eq_false_imp, matchCmd_wildcard h,
    List.contains_eq_mem, decide_eq_false_iff_not]
  constructor
  · rintro ⟨⟨rest, rfl⟩, hrest⟩
    have hnot := hrest (List.prefix_append _ rest)
    rw [List.drop_left] at hnot
    exact ⟨rest, rfl, hnot⟩
  · rintro ⟨rest, rfl, hrest⟩
    refine ⟨List.prefix_append _ rest, fun _ => ?_⟩
    rw [List.drop_left]
    exact hrest

theorem globMatches_literal {pat cmd : GoString} (h : hasSuffix pat (lit " *") = false) :
    globMatches pat cmd = true ↔ cmd = pat := by
  have hmisses : misses pat cmd = false := by
    unfold misses
    rw [h, Bool.and_false, Bool.false_and]
  have hmatch : matchCmd pat cmd = true ↔ pat = cmd := by
    unfold matchCmd
    rw [h]
    simp
  unfold globMatches
  rw [hmisses, Bool.not_false, Bool.and_true, hmatch]
  exact eq_comm

theorem compile_globToRegex (R : GoRegexp) (pat : GoString) :
    ∃ re, R.compile (globToRegex pat) = .ok re ∧
      ∀ cmd, re.matchString cmd = globMatches pat cmd := by
  unfold globToRegex
  cases h : hasSuffix pat (lit " *") with
  | true =>
    obtain ⟨re, hre, hmatch⟩ := R.wildcard pat.dropLast
    refine ⟨re, hre, fun cmd => ?_⟩
    rw [Bool.eq_iff_iff, hmatch, globMatches_wildcard h]
  | false =>
    obtain ⟨re, hre, hmatch⟩ := R.literal pat
    refine ⟨re, hre, fun cmd => ?_⟩
    rw [Bool.eq_iff_iff, hmatch, globMatches_literal h]

theorem compile_globRule (R : GoRegexp) (action : CommandAction) (pat : GoString) :
    ∃ re, (globRule action pat).compile R.compile
        = .ok { globRule action pat with re := some re } ∧
      ∀ cmd, re.matchString cmd = globMatches pat cmd := by
  obtain ⟨re, hre, hmatch⟩ := compile_globToRegex R pat
  have hne : globToRegex pat ≠ [] := by
    unfold globToRegex
    split <;> exact List.cons_ne_nil _ _
  refine ⟨re, ?_, hmatch⟩
  unfold CommandRule.compile globRule
  dsimp only
  rw [if_neg hne, hre]

/-! ## Compiling rules -/

/-- The rule is as `Compile` leaves it. -/
def Compiled (compile : RegexpCompile) (r : CommandRule) : Prop := r.compile compile = .ok r

theorem compiled_compiledRule {compile : RegexpCompile} {r : CommandRule}
    (h : Compiles compile r) : Compiled compile (compiledRule compile r) :=
  compile_ok_iff.mpr ⟨compiles_compiledRule h, (compiledRule_idem r).symm⟩

/-- A configuration of one user resolves to that user, and the rules are compiled. -/
theorem resolve_singleton {compile : RegexpCompile} {cfg : UserConfig} {u : User}
    (hone : cfg.users = [u]) {resolved : Resolved} (h : cfg.resolve compile = .ok resolved) :
    ∃ ru, resolved.lookup u.username = some ru ∧ ∀ r ∈ ru.commands, Compiled compile r := by
  have hu : u ∈ cfg.users := hone ▸ List.mem_singleton_self u
  refine ⟨expandedUser compile cfg u, ?_, ?_⟩
  · rw [lookup_resolved h, hone]
    simp [userEntry]
  · intro r hr
    obtain ⟨r₀, hr₀, rfl⟩ := List.mem_map.mp hr
    exact compiled_compiledRule (compiles_of_mem_rulesOf (resolve_ok_iff.mp h).1 hu r₀ hr₀)

/-! ## The decision of the translated policy -/

/-- The translations of some patterns, compiled. -/
def compiledGlobs (compile : RegexpCompile) (action : CommandAction) (pats : List GoString) :
    List CommandRule := (pats.map (globRule action)).map (compiledRule compile)

theorem compiles_globRule (R : GoRegexp) (action : CommandAction) (pat : GoString) :
    Compiles R.compile (globRule action pat) := by
  obtain ⟨re, hre, -⟩ := compile_globRule R action pat
  exact (compile_ok_iff.mp hre).1

/-- They decide where one of the patterns matches. -/
theorem firstMatch_compiledGlobs (R : GoRegexp) (action : CommandAction) (pats : List GoString)
    (cmd : GoString) (args : List Argument) :
    (firstMatch (compiledGlobs R.compile action pats) cmd args).map verdict
      = if pats.any (globMatches · cmd) then some (verdict { action }) else none := by
  induction pats with
  | nil => rfl
  | cons pat pats ih =>
    obtain ⟨re, hre, hmatch⟩ := compile_globRule R action pat
    obtain ⟨-, hcompiled⟩ := compile_ok_iff.mp hre
    have hmatches : (compiledRule R.compile (globRule action pat)).matches cmd args
        = globMatches pat cmd := by
      rw [← hcompiled]
      exact (Bool.and_true _).trans (hmatch cmd)
    have hcons : compiledGlobs R.compile action (pat :: pats)
        = compiledRule R.compile (globRule action pat) :: compiledGlobs R.compile action pats :=
      rfl
    rw [hcons]
    cases hm : globMatches pat cmd with
    | true =>
      rw [firstMatch_cons_of_matches (hmatches.trans hm), ← hcompiled, List.any_cons, hm]
      rfl
    | false =>
      rw [firstMatch_cons_of_not (hmatches.trans hm), ih, List.any_cons, hm, Bool.false_or]

/-- What the translated policy decides, if it decides. -/
def policyVerdict (p : Policy) (cmd : GoString) : Option AuthorDecision :=
  if p.denyCommands.any (globMatches · cmd) then
    some { status := authorStatusFail, serverMsg := lit "command denied by policy" }
  else if p.allowCommands.any (globMatches · cmd) then some { status := authorStatusPassAdd }
  else none

/-- The authorizer over compiled rules followed by a translated policy. -/
theorem authorizer_of_rules (R : GoRegexp) {rules : List CommandRule}
    (hrules : ∀ r ∈ rules, Compiled R.compile r) (p : Policy) :
    ∃ a, newCommandAuthorizer R.compile (rules ++ policyRules p) = .ok a ∧
      ∀ ac, a.authorize ac
        = .ok (((matchCommand rules (extractCmd ac.args) ac.args).or
            (policyVerdict p (extractCmd ac.args))).getD
              { status := authorStatusFail, serverMsg := lit "no matching rule" }) := by
  let denies := compiledGlobs R.compile actionDeny p.denyCommands
  let permits := compiledGlobs R.compile actionPermit p.allowCommands
  have hall : compileRules R.compile 0 (rules ++ policyRules p)
      = .ok (rules ++ (denies ++ permits)) := by
    refine compileRules_ok_iff.mpr ⟨?_, ?_⟩
    · intro r hr
      rcases List.mem_append.mp hr with hr | hr
      · exact (compile_ok_iff.mp (hrules r hr)).1
      · rcases List.mem_append.mp hr with hr | hr
        · obtain ⟨pat, -, rfl⟩ := List.mem_map.mp hr
          exact compiles_globRule R actionDeny pat
        · obtain ⟨pat, -, rfl⟩ := List.mem_map.mp hr
          exact compiles_globRule R actionPermit pat
    · have hsame : rules.map (compiledRule R.compile) = rules := by
        refine (List.map_congr_left fun r hr => ?_).trans (List.map_id rules)
        exact (compile_ok_iff.mp (hrules r hr)).2.symm
      unfold policyRules
      rw [List.map_append, List.map_append, hsame]
      rfl
  refine ⟨⟨rules ++ (denies ++ permits)⟩, ?_, ?_⟩
  · unfold newCommandAuthorizer
    rw [hall]
  · intro ac
    generalize hcmd : extractCmd ac.args = cmd
    have hfirst : (firstMatch (rules ++ (denies ++ permits)) cmd ac.args).map verdict
        = (matchCommand rules cmd ac.args).or (policyVerdict p cmd) := by
      have happend : firstMatch (rules ++ (denies ++ permits)) cmd ac.args
          = (firstMatch rules cmd ac.args).or
              ((firstMatch denies cmd ac.args).or (firstMatch permits cmd ac.args)) := by
        unfold firstMatch
        rw [List.find?_append, List.find?_append]
      rw [happend, Option.map_or, Option.map_or, ← matchCommand_eq,
        firstMatch_compiledGlobs R actionDeny, firstMatch_compiledGlobs R actionPermit]
      unfold policyVerdict
      cases p.denyCommands.any (globMatches · cmd) <;> rfl
    unfold CommandAuthorizer.authorize
    rw [hcmd, authorizeRules_eq, hfirst]

/-! ## When the two authorizers agree -/

/-- A newline in the command does not show in what the policy decides: a denial matches also in
    translation; or no denial matches, and some permission does in translation or none does at
    all; or a denial matches, and no permission does in translation. -/
def NewlineSafe (p : Policy) (cmd : GoString) : Prop :=
  (∃ pat ∈ p.denyCommands, matchCmd pat cmd = true ∧ misses pat cmd = false) ∨
  ((∀ pat ∈ p.denyCommands, matchCmd pat cmd = false) ∧
    ((∃ pat ∈ p.allowCommands, matchCmd pat cmd = true ∧ misses pat cmd = false) ∨
      ∀ pat ∈ p.allowCommands, matchCmd pat cmd = false)) ∨
  ((∃ pat ∈ p.denyCommands, matchCmd pat cmd = true) ∧
    ∀ pat ∈ p.allowCommands, matchCmd pat cmd = true → misses pat cmd = true)

/-- The two decide alike, up to the message. -/
def SameAnswer (dec dec' : AuthorDecision) : Prop :=
  dec'.status = dec.status ∧ dec'.args = dec.args

theorem any_globMatches {pats : List GoString} {cmd : GoString} :
    pats.any (globMatches · cmd) = true ↔
      ∃ pat ∈ pats, matchCmd pat cmd = true ∧ misses pat cmd = false := by
  simp [globMatches]

theorem any_globMatches_false {pats : List GoString} {cmd : GoString} :
    pats.any (globMatches · cmd) = false ↔
      ∀ pat ∈ pats, matchCmd pat cmd = true → misses pat cmd = true := by
  simp [globMatches]

theorem any_matchCmd_of_globMatches (pats : List GoString) (cmd : GoString)
    (h : pats.any (globMatches · cmd) = true) : pats.any (matchCmd · cmd) = true := by
  obtain ⟨pat, hpat, hm, -⟩ := any_globMatches.mp h
  exact List.any_eq_true.mpr ⟨pat, hpat, hm⟩

theorem newlineSafe_iff (p : Policy) (cmd : GoString) :
    NewlineSafe p cmd ↔
      p.denyCommands.any (globMatches · cmd) = true ∨
      (p.denyCommands.any (matchCmd · cmd) = false ∧
        (p.allowCommands.any (globMatches · cmd) = true ∨
          p.allowCommands.any (matchCmd · cmd) = false)) ∨
      (p.denyCommands.any (matchCmd · cmd) = true ∧
        p.allowCommands.any (globMatches · cmd) = false) := by
  unfold NewlineSafe
  rw [any_globMatches, any_globMatches, any_globMatches_false]
  simp

/-- Where no structured rule matches, the policy and its translation decide alike exactly where
    the newlines do no harm. -/
theorem policy_permits_iff (p : Policy) (cmd : GoString) :
    ((p.denyCommands.any (globMatches · cmd) = false ∧
        p.allowCommands.any (globMatches · cmd) = true) ↔ p.allows cmd = true) ↔
      NewlineSafe p cmd := by
  rw [newlineSafe_iff]
  unfold Policy.allows
  have hdeny := any_matchCmd_of_globMatches p.denyCommands cmd
  have hallow := any_matchCmd_of_globMatches p.allowCommands cmd
  revert hdeny hallow
  cases p.denyCommands.any (globMatches · cmd) <;> cases p.denyCommands.any (matchCmd · cmd) <;>
    cases p.allowCommands.any (globMatches · cmd) <;>
    cases p.allowCommands.any (matchCmd · cmd) <;> simp

/-- The status of an answer without arguments. -/
def statusOf (permitted : Prop) [Decidable permitted] : AuthorStatus :=
  if permitted then authorStatusPassAdd else authorStatusFail

theorem statusOf_eq_passAdd {P : Prop} [Decidable P] : statusOf P = authorStatusPassAdd ↔ P := by
  unfold statusOf
  by_cases h : P
  · simp [h]
  · rw [if_neg h]
    exact iff_of_false (by decide) h

theorem statusOf_inj {P Q : Prop} [Decidable P] [Decidable Q] :
    statusOf P = statusOf Q ↔ (P ↔ Q) := by
  by_cases h : Q
  · have hq : statusOf Q = authorStatusPassAdd := statusOf_eq_passAdd.mpr h
    rw [hq, statusOf_eq_passAdd]
    exact ⟨fun hp => iff_of_true hp h, fun hpq => hpq.mpr h⟩
  · have hq : statusOf Q = authorStatusFail := if_neg h
    rw [hq]
    constructor
    · intro hs
      refine iff_of_false (fun hp => ?_) h
      rw [statusOf_eq_passAdd.mpr hp] at hs
      exact absurd hs (by decide)
    · intro hpq
      exact if_neg fun hp => h (hpq.mp hp)

/-- The answer of the translated policy, the default being the one of the authorizer. -/
theorem policyVerdict_answer (p : Policy) (cmd : GoString) :
    let dec := (policyVerdict p cmd).getD
      { status := authorStatusFail, serverMsg := lit "no matching rule" }
    dec.status = statusOf (p.denyCommands.any (globMatches · cmd) = false ∧
        p.allowCommands.any (globMatches · cmd) = true) ∧ dec.args = [] := by
  unfold policyVerdict statusOf
  cases p.denyCommands.any (globMatches · cmd) <;>
    cases p.allowCommands.any (globMatches · cmd) <;> exact ⟨rfl, rfl⟩

/-- What `ConfigHandler` answers to a command of a known user. -/
theorem authorize_command {h : ConfigHandler} {ac : AuthorContext} {ru : ResolvedUser}
    (hu : h.resolved.lookup ac.user = some ru) (hcmd : extractCmd ac.args ≠ []) :
    ∃ dec, h.authorize ac = .ok ((matchCommand ru.commands (extractCmd ac.args) ac.args).getD dec) ∧
      dec.status = statusOf (h.cfg.policy.allows (extractCmd ac.args) = true) ∧ dec.args = [] := by
  refine ⟨_, by rw [authorize_eq hu hcmd, matchCommand_eq], ?_⟩
  unfold statusOf
  split <;> exact ⟨rfl, rfl⟩

/-- **The two authorizers.** For a configuration of one user that `Resolve` accepts, and a
    command of that user, `ConfigHandler` and the command authorizer over the translated
    configuration answer with the same status and arguments if and only if a structured rule
    decides or the newlines do no harm; and for any policy, its translation permits a command
    exactly when `Policy.Allows` does, if and only if the newlines do no harm. -/
theorem authorizers_agree_iff (R : GoRegexp) :
    (∀ (cfg : UserConfig) (u : User) (resolved : Resolved) (ac : AuthorContext),
      cfg.users = [u] → cfg.resolve R.compile = .ok resolved → ac.user = u.username →
      ∀ cmd, ac.args.find? isCmd = some cmd → cmd.value ≠ [] →
      ∃ h rules a ru dec dec', newConfigHandler R.compile (some cfg) = .ok h ∧
        userConfigToRules R.compile cfg = .ok rules ∧
        newCommandAuthorizer R.compile rules = .ok a ∧
        resolved.lookup u.username = some ru ∧
        h.authorize ac = .ok dec ∧ a.authorize ac = .ok dec' ∧
        (SameAnswer dec dec' ↔
          (matchCommand ru.commands cmd.value ac.args).isSome = true ∨
            NewlineSafe cfg.policy cmd.value)) ∧
    ∀ p : Policy, ∃ a, newCommandAuthorizer R.compile (policyRules p) = .ok a ∧
      ∀ ac, let cmd := ((ac.args.find? isCmd).map Argument.value).getD []
        ∃ dec, a.authorize ac = .ok dec ∧
          ((dec.status = authorStatusPassAdd ↔ p.allows cmd = true) ↔ NewlineSafe p cmd) := by
  constructor
  · intro cfg u resolved ac hone hres huser cmd hfirst hne
    have hcmd := extractCmd_of_find? hfirst
    obtain ⟨ru, hru, hcompiled⟩ := resolve_singleton hone hres
    obtain ⟨a, ha, hauth⟩ := authorizer_of_rules R hcompiled cfg.policy
    let h : ConfigHandler := ⟨newMemoryUserStore cfg.users, cfg, resolved⟩
    have hu : h.resolved.lookup ac.user = some ru := huser ▸ hru
    obtain ⟨dec, hdec, hstatus, hargs⟩ := authorize_command hu (hcmd ▸ hne)
    refine ⟨h, ru.commands ++ policyRules cfg.policy, a, ru, _, _, ?_, ?_, ha, hru, hdec, hauth ac,
      ?_⟩
    · unfold newConfigHandler
      dsimp only [Option.getD_some]
      rw [hres]
      rfl
    · unfold userConfigToRules
      rw [hres, hone]
      show Except.ok (([u].flatMap fun u => _) ++ _) = _
      rw [List.flatMap_singleton, hru]
    · rw [hcmd] at hstatus ⊢
      cases matchCommand ru.commands cmd.value ac.args with
      | some dec => exact iff_of_true ⟨rfl, rfl⟩ (Or.inl rfl)
      | none =>
        obtain ⟨hstatus', hargs'⟩ := policyVerdict_answer cfg.policy cmd.value
        rw [← policy_permits_iff, Option.none_or]
        unfold SameAnswer
        rw [hstatus', hargs', Option.getD_none, hstatus, hargs, statusOf_inj]
        simp [h]
  · intro p
    have hnone : ∀ r ∈ ([] : List CommandRule), Compiled R.compile r := fun r hr => by cases hr
    obtain ⟨a, ha, hauth⟩ := authorizer_of_rules R hnone p
    refine ⟨a, ha, fun ac => ⟨_, hauth ac, ?_⟩⟩
    rw [← extractCmd_eq]
    obtain ⟨hstatus, -⟩ := policyVerdict_answer p (extractCmd ac.args)
    rw [← policy_permits_iff, show matchCommand [] (extractCmd ac.args) ac.args = none from rfl,
      Option.none_or, hstatus, statusOf_eq_passAdd]

/-- A user without rules, and a policy that permits `show` with anything after it. -/
def showConfig : UserConfig where
  users := [{ username := lit "erin", passwordHash := lit "$2a" }]
  policy := { allowCommands := [lit "show *"] }

/-- A request to run `show` on two lines. -/
def showRequest : AuthorContext :=
  { reloadRequest with
      args := [{ mandatory := true, name := lit "cmd", value := lit "show a\nb" }] }

/-- The policy permits the command, and its translation does not, whatever the engine makes of
    other patterns. -/
theorem showRequest_differs (R : GoRegexp) :
    ∃ h rules a, newConfigHandler R.compile (some showConfig) = .ok h ∧
      userConfigToRules R.compile showConfig = .ok rules ∧
      newCommandAuthorizer R.compile rules = .ok a ∧
      h.authorize showRequest = .ok { status := authorStatusPassAdd } ∧
      a.authorize showRequest
        = .ok { status := authorStatusFail, serverMsg := lit "no matching rule" } := by
  have hnone : ∀ r ∈ ([] : List CommandRule), Compiled R.compile r := fun r hr => by cases hr
  obtain ⟨a, ha, hauth⟩ := authorizer_of_rules R hnone showConfig.policy
  refine ⟨_, _, a, rfl, rfl, ha, rfl, ?_⟩
  rw [hauth]
  rfl

theorem authorizers_differ_at_newline :
    let R : GoRegexp := default
    ∃ h rules a, newConfigHandler R.compile (some showConfig) = .ok h ∧
      userConfigToRules R.compile showConfig = .ok rules ∧
      newCommandAuthorizer R.compile rules = .ok a ∧
      h.authorize showRequest = .ok { status := authorStatusPassAdd } ∧
      a.authorize showRequest
        = .ok { status := authorStatusFail, serverMsg := lit "no matching rule" } :=
  showRequest_differs default

end Cli
end Proof
end Tacacs
