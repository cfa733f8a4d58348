import Mathlib.Data.List.Basic
import Mathlib.Data.List.Forall2

/-!
# Streams of frames

A reader takes one value off the front of a stream, or fails. Reading a stream is reading until
the first failure; it ends because a read that succeeds takes something away.

A `Frame` of a value is a piece of stream that reads as that value **whatever follows it**, and
that reads as an error when it is cut. From these two facts about one frame come both facts
about many, each by one induction on the list of frames:

* `readAll_frames` — frames one after the other read as their values, in order;
* `readAll_cut` — a stream cut anywhere reads as the values of the frames before the cut, and
  then fails.
-/

set_option autoImplicit false

namespace Frames

variable {β ε α : Type}

/-- One read: the value or an error, and what is left of the stream. -/
structure Reader (β ε α : Type) where
  read : List β → Except ε α × List β
  consumes : ∀ {s a rest}, read s = (.ok a, rest) → rest.length < s.length

/-- What reading a stream to its first error gives: the values, the error, what is left. -/
structure Result (β ε α : Type) where
  values : List α
  error : ε
  rest : List β

def Reader.readAll (R : Reader β ε α) (s : List β) : Result β ε α :=
  match _h : R.read s with
  | (.error e, rest) => ⟨[], e, rest⟩
  | (.ok a, rest) =>
      let r := R.readAll rest
      ⟨a :: r.values, r.error, r.rest⟩
termination_by s.length
decreasing_by exact R.consumes _h

section Laws

variable {R : Reader β ε α} {E : ε → Prop}

theorem readAll_error {s rest : List β} {e : ε} (h : R.read s = (.error e, rest)) :
    R.readAll s = ⟨[], e, rest⟩ := by
  rw [Reader.readAll]
  split
  · rename_i e' rest' h'
    rw [h] at h'
    cases h'
    rfl
  · rename_i a rest' h'
    rw [h] at h'
    cases h'

theorem readAll_ok {s rest : List β} {a : α} (h : R.read s = (.ok a, rest)) :
    R.readAll s = ⟨a :: (R.readAll rest).values, (R.readAll rest).error,
      (R.readAll rest).rest⟩ := by
  rw [Reader.readAll]
  split
  · rename_i e rest' h'
    rw [h] at h'
    cases h'
  · rename_i a' rest' h'
    rw [h] at h'
    cases h'
    rfl

/-- The first value of a stream, and the others as those of what is left. -/
theorem readAll_values_cons {s : List β} {a : α} {as : List α}
    (h : (R.readAll s).values = a :: as) :
    ∃ rest, R.read s = (.ok a, rest) ∧ (R.readAll rest).values = as := by
  cases hread : R.read s with
  | mk res rest =>
    cases res with
    | error e =>
      rw [readAll_error hread] at h
      cases h
    | ok b =>
      rw [readAll_ok hread] at h
      cases h
      exact ⟨rest, rfl, rfl⟩

/-- `f` is a frame of `a`. Cut anywhere, it is used up and reads as one of the errors `E`. -/
structure Frame (R : Reader β ε α) (E : ε → Prop) (f : List β) (a : α) : Prop where
  whole : ∀ rest, R.read (f ++ rest) = (.ok a, rest)
  cut : ∀ g, g <+: f → g ≠ f → ∃ e, E e ∧ R.read g = (.error e, [])

theorem readAll_frames {fs : List (List β)} {as : List α} (h : List.Forall₂ (Frame R E) fs as)
    (tail : List β) :
    R.readAll (fs.flatten ++ tail) = ⟨as ++ (R.readAll tail).values, (R.readAll tail).error,
      (R.readAll tail).rest⟩ := by
  induction h with
  | nil => rfl
  | @cons f a fs as hf _ ih =>
    rw [List.flatten_cons, List.append_assoc, readAll_ok (hf.whole _), ih]
    rfl

/-- Where a stream of frames is cut: after `k` whole frames, and before the end of the next. -/
theorem readAll_cut {fs : List (List β)} {as : List α} (h : List.Forall₂ (Frame R E) fs as)
    {s : List β} (hs : s <+: fs.flatten) (hne : s ≠ fs.flatten) :
    ∃ k < fs.length, (fs.take k).flatten.length ≤ s.length ∧
      s.length < (fs.take (k + 1)).flatten.length ∧
      (R.readAll s).values = as.take k ∧ E (R.readAll s).error ∧ (R.readAll s).rest = [] := by
  induction h generalizing s with
  | nil => exact absurd (List.prefix_nil.mp hs) hne
  | @cons f a fs as hf _ ih =>
    rw [List.flatten_cons] at hs hne
    by_cases hlen : f.length ≤ s.length
    · -- the first frame is whole, and the cut is in what follows it
      obtain ⟨s', rfl⟩ := List.prefix_of_prefix_length_le (List.prefix_append f _) hs hlen
      have hs' := (List.prefix_append_right_inj f).mp hs
      have hne' : s' ≠ fs.flatten := fun heq => hne (by rw [heq])
      obtain ⟨k, hk, hle, hlt, hvals, hend⟩ := ih hs' hne'
      refine ⟨k + 1, Nat.succ_lt_succ hk, ?_, ?_, ?_⟩
      · rw [List.take_succ_cons, List.flatten_cons, List.length_append, List.length_append]
        exact Nat.add_le_add_left hle _
      · rw [List.take_succ_cons, List.flatten_cons, List.length_append, List.length_append]
        exact Nat.add_lt_add_left hlt _
      · rw [readAll_ok (hf.whole s'), List.take_succ_cons, hvals]
        exact ⟨rfl, hend⟩
    · -- the cut is in the first frame, which then reads as nothing
      have hpre : s <+: f :=
        List.prefix_of_prefix_length_le hs (List.prefix_append f _) (Nat.le_of_not_le hlen)
      have hcut : s ≠ f := fun heq => hlen (Nat.le_of_eq (congrArg List.length heq.symm))
      obtain ⟨e, he, hread⟩ := hf.cut s hpre hcut
      refine ⟨0, Nat.succ_pos _, Nat.zero_le _, ?_, ?_⟩
      · rw [List.take_succ_cons, List.take_zero, List.flatten_cons, List.flatten_nil,
          List.append_nil]
        exact Nat.lt_of_not_le hlen
      · rw [readAll_error hread]
        exact ⟨rfl, he, rfl⟩

end Laws

end Frames
