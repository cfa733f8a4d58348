import Mathlib.Data.List.DropRight
import Tacacs.Lib.Go

/-!
# Lines of text

`strings.Split` at a separator of several bytes, and `strings.TrimRight`. A text of lines is
`sep.intercalate lines`; its users need two facts about it:

> splitting it gives the lines back (`split_intercalate`), and trimming it drops the empty lines
> at its end (`trimRightSet_intercalate`).

Both are for lines without a byte of the separator. The second is why a text that is trimmed
before it is split may have fewer lines than were written.
-/

set_option autoImplicit false

namespace GoText

open GoSem

/-! ## Splitting -/

/-- `split` after `skip` more bytes of a separator. -/
def splitAfter (sep : Bytes) : Nat → Bytes → List Bytes
  | _, [] => [[]]
  | skip + 1, _ :: s => splitAfter sep skip s
  | 0, b :: s =>
      if sep.isPrefixOf (b :: s) then [] :: splitAfter sep (sep.length - 1) s
      else (splitAfter sep 0 s).modifyHead (b :: ·)

/-- `strings.Split`, for a separator that is not empty. -/
def split (sep s : Bytes) : List Bytes := splitAfter sep 0 s

theorem splitAfter_eq (sep s : Bytes) : ∀ skip : Nat,
    splitAfter sep skip s = split sep (s.drop skip) := by
  induction s with
  | nil => intro skip; simp [split, splitAfter]
  | cons b s ih =>
    intro skip
    cases skip with
    | zero => rfl
    | succ skip => exact ih skip

section Separator

variable {x : UInt8} {sep : Bytes}

theorem split_cons {b : UInt8} (h : b ≠ x) (s : Bytes) :
    split (x :: sep) (b :: s) = (split (x :: sep) s).modifyHead (b :: ·) := by
  have hsep : ¬ (x :: sep).isPrefixOf (b :: s) := by
    simp [List.isPrefixOf, h.symm]
  rw [split, splitAfter, if_neg hsep]
  rfl

theorem split_separator (s : Bytes) :
    split (x :: sep) (x :: sep ++ s) = [] :: split (x :: sep) s := by
  have hsep : (x :: sep).isPrefixOf (x :: (sep ++ s)) := by
    rw [List.isPrefixOf_iff_prefix]
    exact List.prefix_append (x :: sep) s
  rw [List.cons_append, split, splitAfter, if_pos hsep, splitAfter_eq]
  simp

theorem split_of_not_mem {w : Bytes} (h : x ∉ w) : split (x :: sep) w = [w] := by
  induction w with
  | nil => rfl
  | cons b w ih =>
    rw [List.mem_cons, not_or] at h
    rw [split_cons (Ne.symm h.1), ih h.2]
    rfl

theorem split_append {w : Bytes} (h : x ∉ w) (s : Bytes) :
    split (x :: sep) (w ++ (x :: sep ++ s)) = w :: split (x :: sep) s := by
  induction w with
  | nil => exact split_separator s
  | cons b w ih =>
    rw [List.mem_cons, not_or] at h
    rw [List.cons_append, split_cons (Ne.symm h.1), ih h.2]
    rfl

theorem split_intercalate {ws : List Bytes} (h : ∀ w ∈ ws, x ∉ w) (hne : ws ≠ []) :
    split (x :: sep) ((x :: sep).intercalate ws) = ws := by
  induction ws with
  | nil => exact absurd rfl hne
  | cons w ws ih =>
    have hw := h w (List.mem_cons_self ..)
    cases ws with
    | nil => rw [List.intercalate_singleton, split_of_not_mem hw]
    | cons v ws =>
      rw [List.intercalate_cons_cons, List.append_assoc, split_append hw,
        ih (fun u hu => h u (List.mem_cons_of_mem w hu)) (List.cons_ne_nil v ws)]

end Separator

/-! ## Trimming -/

/-- `strings.TrimRight`, for a cutset in ASCII. -/
def trimRightSet (cutset s : Bytes) : Bytes := s.rdropWhile cutset.contains

theorem trimRightSet_append {cutset t : Bytes} (h : ∀ b ∈ t, b ∈ cutset) (s : Bytes) :
    trimRightSet cutset (s ++ t) = trimRightSet cutset s := by
  have hdrop : ∀ b ∈ t.reverse, cutset.contains b = true := by
    intro b hb
    rw [List.contains_eq_mem, decide_eq_true_iff]
    exact h b (List.mem_reverse.mp hb)
  rw [trimRightSet, trimRightSet, List.rdropWhile, List.rdropWhile, List.reverse_append,
    List.dropWhile_append_of_pos hdrop]

theorem trimRightSet_append_of_ne_nil {cutset w : Bytes} (hne : w ≠ []) (h : ∀ b ∈ w, b ∉ cutset)
    (s : Bytes) : trimRightSet cutset (s ++ w) = s ++ w := by
  apply List.rdropWhile_eq_self_iff.mpr
  intro hl
  rw [List.getLast_append_of_ne_nil hl hne, List.contains_eq_mem, decide_eq_true_iff]
  exact h _ (List.getLast_mem hne)

theorem intercalate_concat {α : Type} (sep : List α) {ws : List (List α)} (hne : ws ≠ [])
    (w : List α) : sep.intercalate (ws ++ [w]) = sep.intercalate ws ++ (sep ++ w) := by
  induction ws with
  | nil => exact absurd rfl hne
  | cons v ws ih =>
    cases ws with
    | nil => simp
    | cons u ws =>
      have hrest := ih (List.cons_ne_nil u ws)
      rw [List.cons_append] at hrest
      rw [List.cons_append, List.cons_append, List.intercalate_cons_cons, hrest,
        List.intercalate_cons_cons, ← List.append_assoc (v ++ sep)]

/-- Trimmed of its separators, a text of lines is without the empty lines at its end. -/
theorem trimRightSet_intercalate {sep : Bytes} {ws : List Bytes}
    (h : ∀ w ∈ ws, ∀ b ∈ w, b ∉ sep) :
    trimRightSet sep (sep.intercalate ws) = sep.intercalate (ws.rdropWhile List.isEmpty) := by
  induction ws using List.reverseRecOn with
  | nil => rfl
  | append_singleton ws w ih =>
    have hinit := ih fun v hv => h v (List.mem_append_left _ hv)
    have hw := h w (by simp)
    by_cases hempty : w = []
    · subst hempty
      rw [List.rdropWhile_concat_pos _ _ _ rfl, ← hinit]
      by_cases hws : ws = []
      · subst hws
        rfl
      · rw [intercalate_concat sep hws, List.append_nil, trimRightSet_append fun b hb => hb]
    · rw [List.rdropWhile_concat_neg _ _ _ (by simp [hempty])]
      by_cases hws : ws = []
      · subst hws
        rw [List.nil_append, List.intercalate_singleton]
        exact trimRightSet_append_of_ne_nil hempty hw []
      · rw [intercalate_concat sep hws, ← List.append_assoc]
        exact trimRightSet_append_of_ne_nil hempty hw _

end GoText
