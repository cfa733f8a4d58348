import Mathlib.Data.List.Basic
import Tacacs.Types

/-!
# Arguments and their text

An argument is written as its name, a separator and its value. `ParseArgument` cuts at the first
separator, so the text determines the argument as long as the name has no separator in it and is
there at all (`WellNamed`). Then reading and writing are each other's inverse, and everything about
`ParseArgument` is in one equivalence (`parseArgument_iff`).
-/

set_option autoImplicit false

namespace Tacacs
namespace Proof
namespace Arguments

open GoSem

/-- An argument that can be told from its text. -/
def WellNamed (a : Argument) : Prop :=
  a.name ≠ [] ∧ argSeparatorMandatory ∉ a.name ∧ argSeparatorOptional ∉ a.name

/-- The scan of `ParseArgument` passes over a name. -/
theorem parseArgumentFrom_name {name : GoString} (hm : argSeparatorMandatory ∉ name)
    (ho : argSeparatorOptional ∉ name) (seen rest : GoString) :
    parseArgumentFrom seen (name ++ rest) = parseArgumentFrom (seen ++ name) rest := by
  induction name generalizing seen with
  | nil => rw [List.append_nil, List.nil_append]
  | cons b name ih =>
    have hb : ¬(b = argSeparatorMandatory ∨ b = argSeparatorOptional) := by
      rintro (rfl | rfl)
      · exact hm List.mem_cons_self
      · exact ho List.mem_cons_self
    rw [List.cons_append, parseArgumentFrom, if_neg hb,
      ih (fun h => hm (List.mem_cons_of_mem b h)) (fun h => ho (List.mem_cons_of_mem b h)),
      List.append_assoc, List.singleton_append]

theorem parseArgument_string {a : Argument} (h : WellNamed a) :
    parseArgument a.string = .ok a := by
  obtain ⟨mandatory, name, value⟩ := a
  obtain ⟨hne, hm, ho⟩ := h
  have hne : name ≠ [] := hne
  unfold parseArgument Argument.string
  rw [List.append_assoc, parseArgumentFrom_name hm ho, List.nil_append, List.singleton_append]
  cases mandatory with
  | true => simp [parseArgumentFrom, hne]
  | false => simp [parseArgumentFrom, hne, argSeparatorMandatory, argSeparatorOptional]

/-- What the scan returns was seen or is still ahead, and it has passed no separator. -/
theorem parseArgumentFrom_ok {seen s : GoString} {a : Argument}
    (hm : argSeparatorMandatory ∉ seen) (ho : argSeparatorOptional ∉ seen)
    (h : parseArgumentFrom seen s = .ok a) : WellNamed a ∧ a.string = seen ++ s := by
  induction s generalizing seen with
  | nil => cases h
  | cons b rest ih =>
    unfold parseArgumentFrom at h
    by_cases hb : b = argSeparatorMandatory ∨ b = argSeparatorOptional
    · rw [if_pos hb] at h
      by_cases hne : seen = []
      · rw [if_pos hne] at h
        cases h
      · rw [if_neg hne] at h
        cases h
        refine ⟨⟨hne, hm, ho⟩, ?_⟩
        have hsep : (if (b == argSeparatorMandatory) = true then argSeparatorMandatory
            else argSeparatorOptional) = b := by
          rcases hb with rfl | rfl
          · rfl
          · rfl
        unfold Argument.string
        dsimp only
        rw [hsep, List.append_assoc, List.singleton_append]
    · rw [if_neg hb] at h
      obtain ⟨hbm, hbo⟩ := not_or.mp hb
      have hm' : argSeparatorMandatory ∉ seen ++ [b] := by
        simp [hm, Ne.symm hbm]
      have ho' : argSeparatorOptional ∉ seen ++ [b] := by
        simp [ho, Ne.symm hbo]
      obtain ⟨hnamed, hstring⟩ := ih hm' ho' h
      refine ⟨hnamed, ?_⟩
      rw [hstring, List.append_assoc, List.singleton_append]

/-- `ParseArgument` reads exactly the texts of well-named arguments. -/
theorem parseArgument_iff {s : GoString} {a : Argument} :
    parseArgument s = .ok a ↔ WellNamed a ∧ a.string = s := by
  constructor
  · intro h
    exact parseArgumentFrom_ok List.not_mem_nil List.not_mem_nil h
  · rintro ⟨hnamed, rfl⟩
    exact parseArgument_string hnamed

/-! ## Where the first separator is -/

def isSeparator (b : UInt8) : Bool := b == argSeparatorMandatory || b == argSeparatorOptional

theorem isSeparator_eq_false {b : UInt8} :
    isSeparator b = false ↔ b ≠ argSeparatorMandatory ∧ b ≠ argSeparatorOptional := by
  simp [isSeparator]

/-- A name without separators, as the scan sees it. -/
theorem separatorFree_iff {name : GoString} :
    (argSeparatorMandatory ∉ name ∧ argSeparatorOptional ∉ name) ↔
      ∀ b ∈ name, isSeparator b = false := by
  constructor
  · rintro ⟨hm, ho⟩ b hb
    refine isSeparator_eq_false.mpr ⟨?_, ?_⟩
    · rintro rfl
      exact hm hb
    · rintro rfl
      exact ho hb
  · intro h
    exact ⟨fun hm => (isSeparator_eq_false.mp (h _ hm)).1 rfl,
      fun ho => (isSeparator_eq_false.mp (h _ ho)).2 rfl⟩

/-- The first separator of a text is the one after the name. -/
theorem findIdx?_string {a : Argument} (h : WellNamed a) :
    a.string.findIdx? isSeparator = some a.name.length := by
  have hnone : a.name.findIdx? isSeparator = none :=
    List.findIdx?_eq_none_iff.mpr (separatorFree_iff.mp h.2)
  have hsep : isSeparator (if a.mandatory then argSeparatorMandatory else argSeparatorOptional)
      = true := by
    cases a.mandatory with
    | true => rfl
    | false => rfl
  unfold Argument.string
  rw [List.append_assoc, List.findIdx?_append, hnone, Option.none_or, List.singleton_append,
    List.findIdx?_cons, if_pos hsep, Option.map_some, Nat.zero_add]

/-- A text that has one, further on, is the text of an argument. -/
theorem exists_of_findIdx? {s : GoString} {i : Nat} (h : s.findIdx? isSeparator = some i)
    (hi : i ≠ 0) : ∃ a, WellNamed a ∧ a.string = s := by
  obtain ⟨hlt, hsep, hbefore⟩ := List.findIdx?_eq_some_iff_getElem.mp h
  refine ⟨⟨s[i] == argSeparatorMandatory, s.take i, s.drop (i + 1)⟩, ⟨?_, ?_⟩, ?_⟩
  · intro hnil
    have hlen := congrArg List.length hnil
    rw [List.length_take_of_le (Nat.le_of_lt hlt)] at hlen
    exact hi hlen
  · refine separatorFree_iff.mpr ?_
    intro b hb
    obtain ⟨j, hj, rfl⟩ := List.mem_iff_getElem.mp hb
    have hji : j < i := by
      rw [List.length_take_of_le (Nat.le_of_lt hlt)] at hj
      exact hj
    rw [List.getElem_take]
    simpa using hbefore j hji
  · have hb : (if (s[i] == argSeparatorMandatory) = true then argSeparatorMandatory
        else argSeparatorOptional) = s[i] := by
      by_cases hm : s[i] = argSeparatorMandatory
      · rw [hm]
        rfl
      · have ho : s[i] = argSeparatorOptional := by
          simpa [isSeparator, hm] using hsep
        rw [ho]
        rfl
    unfold Argument.string
    dsimp only
    rw [hb, List.append_assoc, List.singleton_append, List.getElem_cons_drop,
      List.take_append_drop]

/-- **The text of an argument.** A string is accepted exactly if it has a separator and the first
    one is not at its beginning; the argument has a name without separators and this text. And
    every argument with such a name is read back from its text. -/
theorem argument_text_roundTrip (s : GoString) :
    ((∃ a, parseArgument s = .ok a) ↔ ∃ i, s.findIdx? isSeparator = some i ∧ i ≠ 0) ∧
    (∀ a, parseArgument s = .ok a → a.name ≠ [] ∧ argSeparatorMandatory ∉ a.name ∧
      argSeparatorOptional ∉ a.name ∧ a.string = s) ∧
    ∀ a : Argument, a.name ≠ [] → argSeparatorMandatory ∉ a.name → argSeparatorOptional ∉ a.name →
      parseArgument a.string = .ok a := by
  refine ⟨⟨?_, ?_⟩, ?_, ?_⟩
  · rintro ⟨a, ha⟩
    obtain ⟨hnamed, rfl⟩ := parseArgument_iff.mp ha
    refine ⟨a.name.length, findIdx?_string hnamed, ?_⟩
    exact fun hzero => hnamed.1 (List.length_eq_zero_iff.mp hzero)
  · rintro ⟨i, hfirst, hi⟩
    obtain ⟨a, hnamed, hstring⟩ := exists_of_findIdx? hfirst hi
    exact ⟨a, parseArgument_iff.mpr ⟨hnamed, hstring⟩⟩
  · intro a ha
    obtain ⟨⟨hne, hm, ho⟩, hstring⟩ := parseArgument_iff.mp ha
    exact ⟨hne, hm, ho, hstring⟩
  · intro a hne hm ho
    exact parseArgument_string ⟨hne, hm, ho⟩

example : parseArgument (lit "route*a=b*c")
    = .ok { mandatory := false, name := lit "route", value := lit "a=b*c" } := by decide

end Arguments
end Proof
end Tacacs
