import Tacacs.Proof.Server.Resolve

/-!
# Where a pattern matches

`CommandRule` documents its pattern as anchored at the start. `Compile` compiles the pattern as it
is written, and `MatchString` looks for a match anywhere in the text, so a rule fits a command
that the pattern matches somewhere. A rule is anchored where the pattern is: the leftmost match
must not begin further on.

Of `regexp` nothing is assumed but this search. What a pattern matches is a parameter: `Spans`
says which stretches of a text are matches of a pattern, in that text, so that `^` and `\b` have
a meaning.
-/

set_option autoImplicit false

namespace Tacacs
namespace Proof
namespace Server

open GoSem
open Tacacs.Server

/-- `text[i:j]`, where it stands in `text`, is a match of `pattern`. -/
abbrev Spans := (pattern text : GoString) → (i j : Nat) → Prop

/-- The pattern has a match that begins at `i`. -/
def MatchesFrom (spans : Spans) (pattern text : GoString) (i : Nat) : Prop :=
  ∃ j, i ≤ j ∧ j ≤ text.length ∧ spans pattern text i j

/-- What is assumed of `regexp`: `MatchString` is true exactly if some substring matches. -/
def SearchesText (compile : RegexpCompile) (spans : Spans) : Prop :=
  ∀ pattern re, compile pattern = .ok re → ∀ text,
    re.matchString text = true ↔ ∃ i, MatchesFrom spans pattern text i

/-- The leftmost match begins at `i`. -/
def Leftmost (spans : Spans) (pattern text : GoString) (i : Nat) : Prop :=
  MatchesFrom spans pattern text i ∧ ∀ k < i, ¬MatchesFrom spans pattern text k

/-- Where there is a match, one of them is leftmost. -/
theorem exists_leftmost {spans : Spans} {pattern text : GoString} {i : Nat}
    (h : MatchesFrom spans pattern text i) : ∃ k, Leftmost spans pattern text k := by
  induction i using Nat.strong_induction_on with
  | _ i ih =>
    by_cases hearlier : ∃ k < i, MatchesFrom spans pattern text k
    · obtain ⟨k, hk, hmatch⟩ := hearlier
      exact ih k hk hmatch
    · exact ⟨i, h, fun k hk hmatch => hearlier ⟨k, hk, hmatch⟩⟩

section Compiled

variable {compile : RegexpCompile} {spans : Spans} {r r' : CommandRule}

theorem compile_pattern (hpat : r.pattern ≠ []) (hc : r.compile compile = .ok r') :
    ∃ re, compile r.pattern = .ok re ∧ r' = { r with re := some re } := by
  unfold CommandRule.compile at hc
  rw [if_neg hpat] at hc
  cases hre : compile r.pattern with
  | error e =>
    rw [hre] at hc
    cases hc
  | ok re =>
    rw [hre] at hc
    cases hc
    exact ⟨re, rfl, rfl⟩

/-- What a compiled rule fits. -/
theorem matches_iff (hsearch : SearchesText compile spans) (hpat : r.pattern ≠ [])
    (hc : r.compile compile = .ok r') (cmd : GoString) (args : List Argument) :
    r'.matches cmd args = true ↔ (∃ i, MatchesFrom spans r.pattern cmd i) ∧
      ∀ m ∈ r.match, argPresentAVP args m = true := by
  obtain ⟨re, hre, rfl⟩ := compile_pattern hpat hc
  unfold CommandRule.matches
  dsimp only
  rw [Bool.and_eq_true, hsearch _ _ hre, List.all_eq_true]

end Compiled

/-- **When a rule is anchored.** For every pattern that compiles, every command and every
    request: a rule fits only if its pattern matches from the first character of the command on,
    if and only if the request lacks an AVP of the rule, or the leftmost match of the pattern in
    the command begins at its first character. So the pattern is anchored for all commands and
    requests exactly if its leftmost match in any text is at the start of the text. -/
theorem pattern_anchored_iff (compile : RegexpCompile) (spans : Spans)
    (hsearch : SearchesText compile spans) (r r' : CommandRule) (hpat : r.pattern ≠ [])
    (hc : r.compile compile = .ok r') :
    (∀ cmd args, (r'.matches cmd args = true → MatchesFrom spans r.pattern cmd 0) ↔
      (∃ m ∈ r.match, argPresentAVP args m = false) ∨
        ∀ i, Leftmost spans r.pattern cmd i → i = 0) ∧
    ((∀ cmd args, r'.matches cmd args = true → MatchesFrom spans r.pattern cmd 0) ↔
      ∀ cmd i, Leftmost spans r.pattern cmd i → i = 0) := by
  have hpoint : ∀ cmd args, (r'.matches cmd args = true → MatchesFrom spans r.pattern cmd 0) ↔
      (∃ m ∈ r.match, argPresentAVP args m = false) ∨
        ∀ i, Leftmost spans r.pattern cmd i → i = 0 := by
    intro cmd args
    rw [matches_iff hsearch hpat hc]
    constructor
    · intro h
      by_cases havps : ∃ m ∈ r.match, argPresentAVP args m = false
      · exact Or.inl havps
      · refine Or.inr fun i hleft => ?_
        have hpresent : ∀ m ∈ r.match, argPresentAVP args m = true := by
          intro m hm
          rw [← Bool.not_eq_false]
          exact fun hfalse => havps ⟨m, hm, hfalse⟩
        by_contra hne
        exact hleft.2 0 (Nat.pos_of_ne_zero hne) (h ⟨⟨i, hleft.1⟩, hpresent⟩)
    · rintro (⟨m, hm, hfalse⟩ | hleft) ⟨⟨i, hi⟩, hpresent⟩
      · rw [hpresent m hm] at hfalse
        cases hfalse
      · obtain ⟨k, hk⟩ := exists_leftmost hi
        exact hleft k hk ▸ hk.1
  refine ⟨hpoint, ?_, ?_⟩
  · -- a request that has the AVPs of the rule, and no others
    intro h cmd
    refine ((hpoint cmd r.match).mp (h cmd r.match)).resolve_left ?_
    rintro ⟨m, hm, hfalse⟩
    have hpresent : argPresentAVP r.match m = true := by
      unfold argPresentAVP
      exact List.any_eq_true.mpr ⟨m, hm, by simp⟩
    rw [hpresent] at hfalse
    cases hfalse
  · intro h cmd args
    exact (hpoint cmd args).mpr (Or.inr (h cmd))

/-! ## Patterns without special characters

Such a pattern matches itself. -/

def literalSpans : Spans := fun pattern text i j => (text.drop i).take (j - i) = pattern

def literalMatch (pattern text : GoString) : Bool :=
  (List.range (text.length + 1)).any fun i => pattern.isPrefixOf (text.drop i)

/-- `regexp.Compile` on them. -/
def literalCompile : RegexpCompile := fun pattern => .ok ⟨literalMatch pattern⟩

theorem literal_searchesText : SearchesText literalCompile literalSpans := by
  intro pattern re hre text
  cases hre
  show literalMatch pattern text = true ↔ _
  unfold literalMatch
  rw [List.any_eq_true]
  constructor
  · rintro ⟨i, hi, hpre⟩
    have hi' : i ≤ text.length := Nat.le_of_lt_succ (List.mem_range.mp hi)
    have hpre' := List.isPrefixOf_iff_prefix.mp hpre
    have hlen := hpre'.length_le
    rw [List.length_drop] at hlen
    refine ⟨i, i + pattern.length, Nat.le_add_right _ _, by omega, ?_⟩
    unfold literalSpans
    rw [Nat.add_sub_cancel_left]
    exact (List.prefix_iff_eq_take.mp hpre').symm
  · rintro ⟨i, j, hij, hj, hspan⟩
    refine ⟨i, List.mem_range.mpr (by omega), List.isPrefixOf_iff_prefix.mpr ?_⟩
    rw [← (hspan : (text.drop i).take (j - i) = pattern)]
    exact List.take_prefix _ _

/-- A rule that permits `show`. -/
def showRule : CommandRule := { action := actionPermit, pattern := lit "show" }

def showCompiled : CommandRule := { showRule with re := some ⟨literalMatch (lit "show")⟩ }

/-- On `show version` it is anchored. -/
theorem pattern_anchored_show :
    showCompiled.matches (lit "show version") [] = true ∧
      MatchesFrom literalSpans (lit "show") (lit "show version") 0 := by
  have hanchored := (pattern_anchored_iff literalCompile literalSpans literal_searchesText showRule
    showCompiled (by decide) rfl).1 (lit "show version") []
  have hstart : MatchesFrom literalSpans (lit "show") (lit "show version") 0 :=
    ⟨4, by decide, by decide, rfl⟩
  refine ⟨by decide, hanchored.mpr (Or.inr ?_) (by decide)⟩
  intro i hleft
  by_contra hne
  exact hleft.2 0 (Nat.pos_of_ne_zero hne) hstart

/-- It fits `no show`, which the pattern does not match from its first character on. -/
theorem pattern_not_anchored :
    SearchesText literalCompile literalSpans ∧
      showRule.compile literalCompile = .ok showCompiled ∧
      showCompiled.matches (lit "no show") [] = true ∧
      ¬MatchesFrom literalSpans showRule.pattern (lit "no show") 0 := by
  refine ⟨literal_searchesText, rfl, by decide, ?_⟩
  rintro ⟨j, -, hj, hspan⟩
  have hall : ∀ j ≤ (lit "no show").length,
      ((lit "no show").drop 0).take (j - 0) ≠ lit "show" := by decide
  exact hall j hj hspan

end Server
end Proof
end Tacacs
