import Tacacs.Avp
import Tacacs.Proof.Arguments

/-!
# Numbered attributes

The name of a numbered attribute is a base and a number in decimal, and there is one place where
the one ends and the other begins: the last `#`, or the end of the last byte that is no digit. The
two builders refuse exactly the bases for which this would not be so.

On the wire such an argument is a text. A numbered name has the separators of its base, so that the
peer reads the base, the number and the value back exactly if the base has none.
-/

set_option autoImplicit false

namespace Tacacs
namespace Proof
namespace Avp

open GoSem GoText
open Tacacs.Proof.Arguments (WellNamed parseArgument_iff)

theorem newIndexedArg_iff {name : ArgName} {n : Int} {value : GoString} {mandatory : Bool}
    {a : Argument} :
    newIndexedArg name n value mandatory = .ok a ↔
      0 < n ∧ 0x23 ∉ name ∧ a = ⟨mandatory, name ++ 0x23 :: decimal n.natAbs, value⟩ := by
  unfold newIndexedArg
  by_cases hn : 0 < n
  · rw [if_neg (Int.not_le.mpr hn), decimalInt_of_pos hn]
    by_cases hname : 0x23 ∈ name
    · simp [hname]
    · simp [hn, hname, eq_comm]
  · simp [hn, Int.not_lt.mp hn]

theorem endsInDigit_eq_false {name : ArgName} :
    name.getLast?.any isDigit = false ↔ ∀ b ∈ name.getLast?, isDigit b = false := by
  cases name.getLast? <;> simp

theorem newJuniperNumberedArg_iff {name : ArgName} {n : Int} {value : GoString} {mandatory : Bool}
    {a : Argument} :
    newJuniperNumberedArg name n value mandatory = .ok a ↔
      0 < n ∧ (∀ b ∈ name.getLast?, isDigit b = false) ∧
        a = ⟨mandatory, name ++ decimal n.natAbs, value⟩ := by
  rw [← endsInDigit_eq_false]
  unfold newJuniperNumberedArg
  by_cases hn : 0 < n
  · rw [if_neg (Int.not_le.mpr hn), decimalInt_of_pos hn]
    cases name.getLast?.any isDigit with
    | true => simp
    | false => simp [hn, eq_comm]
  · simp [hn, Int.not_lt.mp hn]

/-- Two positive numbers with the same digits. -/
theorem eq_of_decimal {m n : Int} (hm : 0 < m) (hn : 0 < n)
    (h : decimal m.natAbs = decimal n.natAbs) : m = n := by
  have hnat := decimal_inj.mp h
  omega

/-- The name of a numbered attribute determines its base and its number. -/
theorem numbered_name_inj (name name' : ArgName) (n n' : Int) (value value' : GoString)
    (mandatory mandatory' : Bool) (a a' : Argument) :
    (newIndexedArg name n value mandatory = .ok a →
      newIndexedArg name' n' value' mandatory' = .ok a' →
      a.name = a'.name → name = name' ∧ n = n') ∧
    (newJuniperNumberedArg name n value mandatory = .ok a →
      newJuniperNumberedArg name' n' value' mandatory' = .ok a' →
      a.name = a'.name → name = name' ∧ n = n') := by
  constructor
  · intro h h' heq
    obtain ⟨hn, -, rfl⟩ := newIndexedArg_iff.mp h
    obtain ⟨hn', -, rfl⟩ := newIndexedArg_iff.mp h'
    have hsep : ∀ k, (0x23 : UInt8) ∉ decimal k := not_mem_decimal (by decide)
    obtain ⟨hname, hdigits⟩ := (append_cons_inj (hsep _) (hsep _)).mp heq
    exact ⟨hname, eq_of_decimal hn hn' hdigits⟩
  · intro h h' heq
    obtain ⟨hn, hlast, rfl⟩ := newJuniperNumberedArg_iff.mp h
    obtain ⟨hn', hlast', rfl⟩ := newJuniperNumberedArg_iff.mp h'
    have hdigit : ∀ k, ∀ b ∈ decimal k, isDigit b := fun k b => isDigit_of_mem_decimal
    obtain ⟨hname, hdigits⟩ :=
      (append_digits_inj hlast hlast' (hdigit _) (hdigit _)).mp heq
    exact ⟨hname, eq_of_decimal hn hn' hdigits⟩

/-- Two values of the twelfth route, and two of a number that stands alone. -/
theorem numbered_name_inj_twelve :
    let a : Argument := ⟨true, lit "route#12", lit "x"⟩
    let a' : Argument := ⟨false, lit "route#12", lit "y"⟩
    let b : Argument := ⟨true, lit "12", lit "x"⟩
    let b' : Argument := ⟨false, lit "12", lit "y"⟩
    (newIndexedArg (lit "route") 12 (lit "x") true = .ok a ∧
      newIndexedArg (lit "route") 12 (lit "y") false = .ok a' ∧
      lit "route" = lit "route" ∧ (12 : Int) = 12) ∧
    newJuniperNumberedArg [] 12 (lit "x") true = .ok b ∧
      newJuniperNumberedArg [] 12 (lit "y") false = .ok b' ∧
      ([] : ArgName) = [] ∧ (12 : Int) = 12 := by
  intro a a' b b'
  have ha : newIndexedArg (lit "route") 12 (lit "x") true = .ok a := by decide
  have ha' : newIndexedArg (lit "route") 12 (lit "y") false = .ok a' := by decide
  have hb : newJuniperNumberedArg [] 12 (lit "x") true = .ok b := by decide
  have hb' : newJuniperNumberedArg [] 12 (lit "y") false = .ok b' := by decide
  exact ⟨⟨ha, ha', (numbered_name_inj _ _ _ _ _ _ _ _ a a').1 ha ha' rfl⟩,
    hb, hb', (numbered_name_inj _ _ _ _ _ _ _ _ b b').2 hb hb' rfl⟩

/-! ## On the wire -/

/-- A name without the separators of arguments. -/
def Separable (name : ArgName) : Prop :=
  argSeparatorMandatory ∉ name ∧ argSeparatorOptional ∉ name

/-- Digits are no separators, so that a numbered name has those of its base. -/
theorem wellNamed_append_decimal {base : GoString} {mandatory : Bool} {n : Nat}
    {value : GoString} :
    WellNamed ⟨mandatory, base ++ decimal n, value⟩ ↔ Separable base := by
  have hm : argSeparatorMandatory ∉ decimal n := not_mem_decimal (by decide) n
  have ho : argSeparatorOptional ∉ decimal n := not_mem_decimal (by decide) n
  simp [WellNamed, Separable, decimal_ne_nil, hm, ho]

theorem newIndexedArg_text_iff {name : ArgName} {n : Int} {value : GoString} {mandatory : Bool}
    {a : Argument} (h : newIndexedArg name n value mandatory = .ok a) :
    parseArgument a.string = .ok a ↔ Separable name := by
  obtain ⟨-, -, rfl⟩ := newIndexedArg_iff.mp h
  -- the `#` counts to the base, and is no separator
  have hsplit : name ++ 0x23 :: decimal n.natAbs = (name ++ [0x23]) ++ decimal n.natAbs := by simp
  have hhash : Separable (name ++ [0x23]) ↔ Separable name := by
    simp [Separable, argSeparatorMandatory, argSeparatorOptional]
  rw [parseArgument_iff, and_iff_left rfl, hsplit, wellNamed_append_decimal, hhash]

theorem newJuniperNumberedArg_text_iff {name : ArgName} {n : Int} {value : GoString}
    {mandatory : Bool} {a : Argument} (h : newJuniperNumberedArg name n value mandatory = .ok a) :
    parseArgument a.string = .ok a ↔ Separable name := by
  obtain ⟨-, -, rfl⟩ := newJuniperNumberedArg_iff.mp h
  rw [parseArgument_iff, and_iff_left rfl, wellNamed_append_decimal]

/-- The attributes that Junos repeats. -/
def juniperNumbered : List ArgName :=
  [argNameAllowCommands, argNameDenyCommands, argNameAllowConfiguration, argNameDenyConfiguration,
    argNameUserPermissions]

/-- None of them ends in a digit or has a separator in it. -/
theorem juniperNumbered_plain {name : ArgName} (h : name ∈ juniperNumbered) :
    (∀ b ∈ name.getLast?, isDigit b = false) ∧ Separable name := by
  have hall : juniperNumbered.all fun name =>
      !name.getLast?.any isDigit && (!name.contains argSeparatorMandatory &&
        !name.contains argSeparatorOptional) := by decide
  have hname := List.all_eq_true.mp hall name h
  simp only [Bool.and_eq_true, Bool.not_eq_true', endsInDigit_eq_false,
    List.contains_eq_mem, decide_eq_false_iff_not] at hname
  exact hname

/-- Their builders. -/
def juniperBuilders : List (Int → GoString → Bool → Except GoError Argument) :=
  [allowCommandsNumberedArg, denyCommandsNumberedArg, allowConfigurationNumberedArg,
    denyConfigurationNumberedArg, userPermissionsNumberedArg]

/-- **A numbered argument survives its text** exactly if its base has no separator: neither builder
    looks for one. The attributes of Junos have none, so each of them can be numbered with every
    positive number and is read back with it. -/
theorem numbered_text_iff :
    (∀ name n value mandatory a, newIndexedArg name n value mandatory = .ok a →
      (parseArgument a.string = .ok a ↔ Separable name)) ∧
    (∀ name n value mandatory a, newJuniperNumberedArg name n value mandatory = .ok a →
      (parseArgument a.string = .ok a ↔ Separable name)) ∧
    ∀ build ∈ juniperBuilders, ∀ n, 0 < n → ∀ value mandatory,
      ∃ a, build n value mandatory = .ok a ∧ parseArgument a.string = .ok a := by
  refine ⟨fun _ _ _ _ _ => newIndexedArg_text_iff, fun _ _ _ _ _ => newJuniperNumberedArg_text_iff,
    ?_⟩
  intro build hbuild n hn value mandatory
  have heq : juniperBuilders = juniperNumbered.map newJuniperNumberedArg := rfl
  rw [heq] at hbuild
  obtain ⟨name, hname, rfl⟩ := List.mem_map.mp hbuild
  obtain ⟨hlast, hplain⟩ := juniperNumbered_plain hname
  have hbuilt : newJuniperNumberedArg name n value mandatory =
      .ok ⟨mandatory, name ++ decimal n.natAbs, value⟩ :=
    newJuniperNumberedArg_iff.mpr ⟨hn, hlast, rfl⟩
  exact ⟨_, hbuilt, (newJuniperNumberedArg_text_iff hbuilt).mpr hplain⟩

/-- A second set of commands is read back; a base with a separator is cut at it. -/
theorem numbered_text_iff_commands :
    (∃ a, denyCommandsNumberedArg 2 (lit "clear .*") true = .ok a ∧
      parseArgument a.string = .ok a) ∧
    ∃ a, newIndexedArg (lit "a=b") 1 (lit "x") true = .ok a ∧ parseArgument a.string ≠ .ok a := by
  refine ⟨numbered_text_iff.2.2 _ (by simp [juniperBuilders]) 2 (by decide) _ _, _, rfl, ?_⟩
  intro h
  have hplain := (numbered_text_iff.1 (lit "a=b") 1 (lit "x") true _ rfl).mp h
  exact absurd hplain.1 (by decide)

end Avp
end Proof
end Tacacs
