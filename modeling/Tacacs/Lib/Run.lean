import Mathlib.Data.List.Basic
import Mathlib.Data.List.Induction

/-!
# Runs of a machine

A machine is a function `step : σ → ι → σ × ο`: it takes one input, moves and answers. A run
feeds it a list of inputs; `after` is where it ends and `outputs` is what it answered, one
output an input.

There are eight ways to say something about every run, each proved by one induction:

* `run_induction` — what holds of an empty run and survives one more step holds of every run.
  It sees the inputs, the outputs and the state, so an invariant may speak of the **history**.
* `forall_prefix_iff` — if from a good moment exactly the steps that meet a condition lead to a
  good moment, then a run is good throughout if and only if all its steps meet the condition.
* `forall_prefix_iff₂` — the same for two runs on the same inputs.
* `exists_of_mem_outputs` — an output was given by a step taken from a state the run had
  reached, which turns a fact about one step into a fact about one moment of a run.
* `outputs_unwinding` — two runs on the same inputs look alike to an observer, as soon as each
  step does. This is the unwinding condition of noninterference.
* `outputs_purge` — inputs whose steps an observer cannot notice may be left out.
* `reached_of_sublist` — what some inputs bring about one after the other, and no input undoes, is
  reached by every run that takes them in this order, whatever comes between. This is how far
  fairness goes for a finite run.
* `refines` — a machine that answers as its specification does, step by step, does so in a run.
-/

set_option autoImplicit false

namespace Run

variable {σ ι ο : Type}

/-- The state after a run. -/
def after (step : σ → ι → σ × ο) (s : σ) : List ι → σ
  | [] => s
  | i :: is => after step (step s i).1 is

/-- The outputs of a run. -/
def outputs (step : σ → ι → σ × ο) (s : σ) : List ι → List ο
  | [] => []
  | i :: is => (step s i).2 :: outputs step (step s i).1 is

section Laws

variable {step : σ → ι → σ × ο}

@[simp] theorem after_nil (s : σ) : after step s [] = s := rfl

@[simp] theorem after_cons (s : σ) (i : ι) (is : List ι) :
    after step s (i :: is) = after step (step s i).1 is := rfl

@[simp] theorem outputs_nil (s : σ) : outputs step s [] = [] := rfl

@[simp] theorem outputs_cons (s : σ) (i : ι) (is : List ι) :
    outputs step s (i :: is) = (step s i).2 :: outputs step (step s i).1 is := rfl

/-- Every output was given by some step of the run. -/
theorem exists_of_mem_outputs {s : σ} {is : List ι} {o : ο} (h : o ∈ outputs step s is) :
    ∃ pre i post, is = pre ++ i :: post ∧ o = (step (after step s pre) i).2 := by
  induction is generalizing s with
  | nil => cases h
  | cons i is ih =>
    cases h with
    | head => exact ⟨[], i, is, rfl, rfl⟩
    | tail _ h =>
      obtain ⟨pre, j, post, rfl, ho⟩ := ih h
      exact ⟨i :: pre, j, post, rfl, ho⟩

/-- Every step of a run gave one of its outputs. -/
theorem mem_outputs {s : σ} {is pre : List ι} {i : ι} (h : pre ++ [i] <+: is) :
    (step (after step s pre) i).2 ∈ outputs step s is := by
  obtain ⟨post, rfl⟩ := h
  induction pre generalizing s with
  | nil => exact List.mem_cons_self
  | cons j pre ih => exact List.mem_cons_of_mem _ ih

/-- **Induction over runs.** `P` sees the inputs so far, the outputs so far and the state. -/
theorem run_induction (step : σ → ι → σ × ο) (P : List ι → List ο → σ → Prop) {s : σ}
    (nil : P [] [] s)
    (snoc : ∀ is os t i, P is os t → P (is ++ [i]) (os ++ [(step t i).2]) (step t i).1)
    (is : List ι) : P is (outputs step s is) (after step s is) := by
  -- generalised to a run already under way: `is₀`, `os₀` and `t` are what it did so far
  have h : ∀ is is₀ os₀ t, P is₀ os₀ t →
      P (is₀ ++ is) (os₀ ++ outputs step t is) (after step t is) := by
    intro is
    induction is with
    | nil =>
      intro is₀ os₀ t ht
      simpa using ht
    | cons i is ih =>
      intro is₀ os₀ t ht
      have hi := ih _ _ _ (snoc is₀ os₀ t i ht)
      simpa using hi
  exact h is [] [] s nil

theorem after_snoc (s : σ) (is : List ι) (i : ι) :
    after step s (is ++ [i]) = (step (after step s is) i).1 := by
  induction is generalizing s with
  | nil => rfl
  | cons j is ih => exact ih _

theorem outputs_snoc (s : σ) (is : List ι) (i : ι) :
    outputs step s (is ++ [i]) = outputs step s is ++ [(step (after step s is) i).2] := by
  induction is generalizing s with
  | nil => rfl
  | cons j is ih => rw [List.cons_append, outputs_cons, ih, outputs_cons, List.cons_append,
      after_cons]

theorem after_append (s : σ) (is js : List ι) :
    after step s (is ++ js) = after step (after step s is) js := by
  induction is generalizing s with
  | nil => rfl
  | cons i is ih => exact ih _

theorem outputs_append (s : σ) (is js : List ι) :
    outputs step s (is ++ js) = outputs step s is ++ outputs step (after step s is) js := by
  induction is generalizing s with
  | nil => rfl
  | cons i is ih => rw [List.cons_append, outputs_cons, ih, outputs_cons, List.cons_append,
      after_cons]

/-- **Progress.** `P todo` holds where the inputs `todo` are still to come: any step keeps it, and a
    step with the first of them leaves the others. -/
theorem reached_of_sublist {P : List ι → σ → Prop}
    (keep : ∀ todo t i, P todo t → P todo (step t i).1)
    (move : ∀ i todo t, P (i :: todo) t → P todo (step t i).1) {todo is : List ι}
    (hsub : todo.Sublist is) {s : σ} (h : P todo s) : P [] (after step s is) := by
  induction hsub generalizing s with
  | slnil => exact h
  | cons i _ ih => exact ih (keep _ s i h)
  | cons_cons i _ ih => exact ih (move i _ s h)

/-- What holds at first and survives the steps that meet a condition, holds throughout a run
    whose steps all meet it. `P` sees the outputs so far and the state; `C` is a condition on a
    step, seen from the state it is taken in. -/
theorem forall_prefix {P : List ο → σ → Prop} {C : σ → ι → Prop} {s : σ} (nil : P [] s)
    (snoc : ∀ os t i, P os t → C t i → P (os ++ [(step t i).2]) (step t i).1) {is : List ι}
    (h : ∀ pre i, pre ++ [i] <+: is → C (after step s pre) i) :
    ∀ pre, pre <+: is → P (outputs step s pre) (after step s pre) := by
  intro pre
  induction pre using List.reverseRecOn with
  | nil => exact fun _ => nil
  | append_singleton pre i ih =>
    intro hpre
    have hnow := ih ((List.prefix_append pre [i]).trans hpre)
    rw [outputs_snoc, after_snoc]
    exact snoc _ _ i hnow (h pre i hpre)

/-- **A run is good throughout iff its steps are.** -/
theorem forall_prefix_iff {P : List ο → σ → Prop} {C : σ → ι → Prop} {s : σ} (nil : P [] s)
    (snoc : ∀ os t i, P os t → (P (os ++ [(step t i).2]) (step t i).1 ↔ C t i)) (is : List ι) :
    (∀ pre, pre <+: is → P (outputs step s pre) (after step s pre)) ↔
      ∀ pre i, pre ++ [i] <+: is → C (after step s pre) i := by
  constructor
  · intro h pre i hpre
    have hnow := h pre ((List.prefix_append pre [i]).trans hpre)
    have hnext := h (pre ++ [i]) hpre
    rw [outputs_snoc, after_snoc] at hnext
    exact (snoc _ _ i hnow).mp hnext
  · exact forall_prefix nil fun os t i hnow hc => (snoc os t i hnow).mpr hc

/-- **Two runs are good throughout iff their steps are.** `P` and `C` see both. -/
theorem forall_prefix_iff₂ {P : List ο → List ο → σ → σ → Prop} {C : σ → σ → ι → Prop} {s t : σ}
    (nil : P [] [] s t)
    (snoc : ∀ os os' s t i, P os os' s t →
      (P (os ++ [(step s i).2]) (os' ++ [(step t i).2]) (step s i).1 (step t i).1 ↔ C s t i))
    (is : List ι) :
    (∀ pre, pre <+: is →
      P (outputs step s pre) (outputs step t pre) (after step s pre) (after step t pre)) ↔
      ∀ pre i, pre ++ [i] <+: is → C (after step s pre) (after step t pre) i := by
  constructor
  · intro h pre i hpre
    have hnow := h pre ((List.prefix_append pre [i]).trans hpre)
    have hnext := h (pre ++ [i]) hpre
    rw [outputs_snoc, outputs_snoc, after_snoc, after_snoc] at hnext
    exact (snoc _ _ _ _ i hnow).mp hnext
  · intro h pre
    induction pre using List.reverseRecOn with
    | nil => exact fun _ => nil
    | append_singleton pre i ih =>
      intro hpre
      have hnow := ih ((List.prefix_append pre [i]).trans hpre)
      rw [outputs_snoc, outputs_snoc, after_snoc, after_snoc]
      exact (snoc _ _ _ _ i hnow).mpr (h pre i hpre)

/-- An invariant of the steps on inputs of one kind is an invariant of the runs on them. -/
theorem after_invariant {P : σ → Prop} {G : ι → Prop} {s : σ}
    (hstep : ∀ t i, P t → G i → P (step t i).1) (hs : P s) {is : List ι}
    (his : ∀ i ∈ is, G i) : P (after step s is) := by
  induction is generalizing s with
  | nil => exact hs
  | cons i is ih =>
    refine ih (hstep s i hs (his i List.mem_cons_self)) ?_
    intro j hj
    exact his j (List.mem_cons_of_mem i hj)

/-- **Unwinding.** If related states answer alike, to an observer `obs`, and stay related,
    then whole runs from related states answer alike. -/
theorem outputs_unwinding {ω : Type} {R : σ → σ → Prop} {obs : ο → ω}
    (hstep : ∀ s t i, R s t →
      obs (step s i).2 = obs (step t i).2 ∧ R (step s i).1 (step t i).1)
    {s t : σ} (h : R s t) (is : List ι) :
    (outputs step s is).map obs = (outputs step t is).map obs := by
  induction is generalizing s t with
  | nil => rfl
  | cons i is ih =>
    obtain ⟨hobs, hR⟩ := hstep s t i h
    rw [outputs_cons, outputs_cons, List.map_cons, List.map_cons, hobs, ih hR]

/-- **Purging.** If the inputs that are not kept show nothing to `obs` and leave the state
    related to itself, a run shows what the run on the kept inputs shows. -/
theorem outputs_purge {ω : Type} {R : σ → σ → Prop} {obs : ο → Option ω} {keep : ι → Bool}
    (hskip : ∀ s t i, R s t → keep i = false → obs (step s i).2 = none ∧ R (step s i).1 t)
    (hkeep : ∀ s t i, R s t → keep i = true →
      obs (step s i).2 = obs (step t i).2 ∧ R (step s i).1 (step t i).1)
    {s t : σ} (h : R s t) (is : List ι) :
    (outputs step s is).filterMap obs = (outputs step t (is.filter keep)).filterMap obs := by
  induction is generalizing s t with
  | nil => rfl
  | cons i is ih =>
    rw [outputs_cons, List.filterMap_cons]
    cases hi : keep i with
    | false =>
      obtain ⟨hobs, hR⟩ := hskip s t i h hi
      rw [hobs, List.filter_cons_of_neg (by simp [hi]), ih hR]
    | true =>
      obtain ⟨hobs, hR⟩ := hkeep s t i h hi
      rw [hobs, List.filter_cons_of_pos hi, outputs_cons, List.filterMap_cons, ih hR]

/-- **Refinement.** `spec` is a machine on the same inputs, `R` relates the states of the two,
    and `C` says which inputs the specification admits in which state. -/
theorem refines {α π : Type} (spec : α → ι → α × π) (out : π → ο) {R : σ → α → Prop}
    {C : α → ι → Prop}
    (hstep : ∀ s a i, R s a → C a i →
      (step s i).2 = out (spec a i).2 ∧ R (step s i).1 (spec a i).1)
    {s : σ} {a : α} (h : R s a) {is : List ι}
    (his : ∀ pre i, pre ++ [i] <+: is → C (after spec a pre) i) :
    outputs step s is = (outputs spec a is).map out ∧ R (after step s is) (after spec a is) := by
  induction is generalizing s a with
  | nil => exact ⟨rfl, h⟩
  | cons i is ih =>
    obtain ⟨hout, hR⟩ := hstep s a i h (his [] i ⟨is, rfl⟩)
    have htail := ih hR fun pre j hj => his (i :: pre) j (List.cons_prefix_cons.mpr ⟨rfl, hj⟩)
    rw [outputs_cons, outputs_cons, List.map_cons, hout, htail.1]
    exact ⟨rfl, htail.2⟩

end Laws

end Run
