import Mathlib.Data.List.AList

/-!
# Maps built by inserting in order

A Go map filled in a loop keeps, under each key, the value of the **last** entry that had it.
A loop that refuses a key it has seen fills the map from a list of distinct keys (`Fresh`), and
then the last entry under a key is also the first.
-/

set_option autoImplicit false

namespace Assoc

variable {α κ β : Type} [DecidableEq κ]

theorem lookup_foldl_insert (key : α → κ) (val : α → β) (l : List α)
    (m : AList fun _ : κ => β) (k : κ) :
    (l.foldl (fun m a => m.insert (key a) (val a)) m).lookup k
      = ((l.reverse.find? fun a => decide (key a = k)).map val).or (m.lookup k) := by
  induction l generalizing m with
  | nil => rfl
  | cons a l ih =>
    rw [List.foldl_cons, ih, List.reverse_cons, List.find?_append]
    cases l.reverse.find? fun a => decide (key a = k) with
    | some b => rfl
    | none =>
      by_cases hk : key a = k
      · subst hk
        simp
      · simp [hk, AList.lookup_insert_ne (Ne.symm hk)]

theorem mem_foldl_insert (key : α → κ) (val : α → β) (l : List α) (m : AList fun _ : κ => β)
    (k : κ) :
    k ∈ l.foldl (fun m a => m.insert (key a) (val a)) m ↔ (∃ a ∈ l, key a = k) ∨ k ∈ m := by
  rw [← AList.lookup_isSome, lookup_foldl_insert, Option.isSome_or, Bool.or_eq_true,
    Option.isSome_map, List.find?_isSome, AList.lookup_isSome]
  simp

/-! ## Distinct keys -/

/-- No key twice in the list, and none that the map has. -/
def Fresh (key : α → κ) (m : AList fun _ : κ => β) (l : List α) : Prop :=
  (l.map key).Nodup ∧ ∀ a ∈ l, key a ∉ m

omit [DecidableEq κ] in
@[simp] theorem fresh_nil (key : α → κ) (m : AList fun _ : κ => β) : Fresh key m [] := by
  simp [Fresh]

omit [DecidableEq κ] in
theorem fresh_empty (key : α → κ) (l : List α) :
    Fresh key (∅ : AList fun _ : κ => β) l ↔ (l.map key).Nodup := by
  simp [Fresh]

/-- One turn of a loop that refuses the keys it has seen. -/
theorem fresh_cons (key : α → κ) (m : AList fun _ : κ => β) (a : α) (v : β) (l : List α) :
    Fresh key m (a :: l) ↔ key a ∉ m ∧ Fresh key (m.insert (key a) v) l := by
  simp only [Fresh, List.map_cons, List.nodup_cons, List.mem_map, List.mem_cons,
    AList.mem_insert, not_or, forall_eq_or_imp, not_exists, not_and]
  constructor
  · rintro ⟨⟨hne, hnodup⟩, ha, hl⟩
    exact ⟨ha, hnodup, fun b hb => ⟨hne b hb, hl b hb⟩⟩
  · rintro ⟨ha, hnodup, hl⟩
    exact ⟨⟨fun b hb => (hl b hb).1, hnodup⟩, ha, fun b hb => (hl b hb).2⟩

theorem find?_reverse_of_nodup (key : α → κ) {l : List α} (h : (l.map key).Nodup) (k : κ) :
    l.reverse.find? (fun a => decide (key a = k)) = l.find? fun a => decide (key a = k) := by
  induction l with
  | nil => rfl
  | cons a l ih =>
    obtain ⟨ha, hl⟩ := List.nodup_cons.mp h
    rw [List.reverse_cons, List.find?_append, ih hl]
    by_cases hk : key a = k
    · have hnone : (l.find? fun b => decide (key b = k)) = none := by
        refine List.find?_eq_none.mpr fun b hb heq => ha ?_
        rw [hk, ← of_decide_eq_true heq]
        exact List.mem_map_of_mem hb
      simp [hk, hnone]
    · simp [hk]

end Assoc
