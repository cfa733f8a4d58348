import Mathlib.Logic.Basic

/-!
# Programs as trees of operations

A `Script` says which operation comes next and how to go on with its answer; it does not say what
the operations do. What they do is a *handler*: a program of some monad for each of them, and
`run` puts the programs in the place of the operations. One script then has as many meanings as
there are handlers, and a fact about the shape of the script holds for all of them.

Where the operations are requests to something outside, what can be said of the script is which
requests it makes upon which answers: `Yields` relates a script to the traces it may leave and to
the result it then has, with no assumption on what answers. A rule on what may be requested when
is a `Monitor`; `Obeys` is the logic to show that a script keeps to it.
-/

set_option autoImplicit false

/-- Operations, each with the type of its answers. -/
structure Signature where
  Op : Type
  Answer : Op → Type

inductive Script (S : Signature) (α : Type) where
  | done (a : α)
  | step (op : S.Op) (next : S.Answer op → Script S α)

namespace Script

variable {S : Signature} {α β : Type}

def bind (s : Script S α) (f : α → Script S β) : Script S β :=
  match s with
  | done a => f a
  | step op next => step op fun answer => (next answer).bind f

instance : Monad (Script S) where
  pure := done
  bind := bind

/-- One operation, and its answer. -/
def perform (op : S.Op) : Script S (S.Answer op) := step op done

/-- The script, with a program for each operation. -/
def run {m : Type → Type} [Monad m] (handler : ∀ op, m (S.Answer op)) : Script S α → m α
  | done a => pure a
  | step op next => handler op >>= fun answer => run handler (next answer)

section Run

variable {m : Type → Type} [Monad m] [LawfulMonad m] (handler : ∀ op, m (S.Answer op))

theorem run_bind (s : Script S α) (f : α → Script S β) :
    (s >>= f).run handler = s.run handler >>= fun a => (f a).run handler := by
  induction s with
  | done a => exact (pure_bind (m := m) a fun a => (f a).run handler).symm
  | step op next ih =>
    have hnext : (fun answer => ((next answer) >>= f).run handler) = fun answer =>
        (next answer).run handler >>= fun a => (f a).run handler := funext ih
    show (handler op >>= fun answer => ((next answer) >>= f).run handler) = _
    rw [hnext]
    exact (bind_assoc (m := m) _ _ _).symm

theorem run_perform (op : S.Op) : (perform op).run handler = handler op :=
  bind_pure (m := m) _

end Run

/-! ## Answers from outside -/

/-- The operations that were performed, each with its answer. -/
abbrev Trace (S : Signature) := List (Σ op, S.Answer op)

/-- With the answers of the trace, and whatever gave them, the script performs the operations of
    the trace and ends with the result. -/
inductive Yields : Script S α → Trace S → α → Prop where
  | done (a : α) : Yields (.done a) [] a
  | step {op : S.Op} {next : S.Answer op → Script S α} {answer : S.Answer op} {tr : Trace S}
      {a : α} : Yields (next answer) tr a → Yields (.step op next) (⟨op, answer⟩ :: tr) a

/-- What surrounds the script, over a state of its own. -/
abbrev World (S : Signature) (σ : Type) := ∀ op, σ → S.Answer op × σ

/-- The script in such surroundings: its result, and what it leaves. -/
def within {σ : Type} (world : World S σ) : Script S α → σ → α × σ
  | .done a, w => (a, w)
  | .step op next, w => (next (world op w).1).within world (world op w).2

/-- What it has performed there. -/
def traceIn {σ : Type} (world : World S σ) : Script S α → σ → Trace S
  | .done _, _ => []
  | .step op next, w =>
      ⟨op, (world op w).1⟩ :: (next (world op w).1).traceIn world (world op w).2

theorem yields_within {σ : Type} (world : World S σ) (s : Script S α) (w : σ) :
    s.Yields (s.traceIn world w) (s.within world w).1 := by
  induction s generalizing w with
  | done a => exact .done a
  | step op next ih => exact .step (ih (world op w).1 (world op w).2)

theorem yields_done {a b : α} {tr : Trace S} (h : Yields (.done a) tr b) : tr = [] ∧ b = a := by
  cases h
  exact ⟨rfl, rfl⟩

theorem yields_pure {a b : α} {tr : Trace S} (h : Yields (pure a) tr b) : tr = [] ∧ b = a :=
  yields_done h

/-- First the one script, then the other. -/
theorem yields_bind {s : Script S α} {f : α → Script S β} {tr : Trace S} {b : β}
    (h : (s >>= f).Yields tr b) :
    ∃ a tr₁ tr₂, tr = tr₁ ++ tr₂ ∧ s.Yields tr₁ a ∧ (f a).Yields tr₂ b := by
  induction s generalizing tr with
  | done a => exact ⟨a, [], tr, rfl, .done a, h⟩
  | step op next ih =>
    have h' : Yields (.step op fun answer => next answer >>= f) tr b := h
    cases h' with
    | step hnext =>
      obtain ⟨a, tr₁, tr₂, rfl, h₁, h₂⟩ := ih _ hnext
      exact ⟨a, _, tr₂, rfl, .step h₁, h₂⟩

theorem yields_perform_bind {op : S.Op} {f : S.Answer op → Script S β} {tr : Trace S} {b : β}
    (h : (perform op >>= f).Yields tr b) :
    ∃ answer tr', tr = ⟨op, answer⟩ :: tr' ∧ (f answer).Yields tr' b := by
  have h' : Yields (.step op f) tr b := h
  cases h' with
  | step hnext => exact ⟨_, _, rfl, hnext⟩

/-! ## Monitors -/

/-- A monitor looks at each request and its answer. It says whether the request was in order, and
    if so, where that leaves it. -/
abbrev Monitor (S : Signature) (μ : Type) := μ → (Σ op, S.Answer op) → Option μ

/-- Where the monitor is after a trace, if all of it was in order. -/
def follow {μ : Type} (watch : Monitor S μ) : μ → Trace S → Option μ
  | m, [] => some m
  | m, e :: tr => (watch m e).bind fun m => follow watch m tr

section Monitors

variable {μ : Type} {watch : Monitor S μ} {m : μ}

/-- Whatever the answers, all requests are in order, and `Q` relates the result to where the
    monitor is at the end. -/
def Obeys (watch : Monitor S μ) : Script S α → μ → (α → μ → Prop) → Prop
  | .done a, m, Q => Q a m
  | .step op next, m, Q =>
      ∀ answer, ∃ m', watch m ⟨op, answer⟩ = some m' ∧ (next answer).Obeys watch m' Q

theorem Obeys.mono {s : Script S α} {Q Q' : α → μ → Prop} (h : s.Obeys watch m Q)
    (hQ : ∀ a m, Q a m → Q' a m) : s.Obeys watch m Q' := by
  induction s generalizing m with
  | done a => exact hQ a m h
  | step op next ih =>
    intro answer
    obtain ⟨m', hwatch, hnext⟩ := h answer
    exact ⟨m', hwatch, ih answer hnext⟩

theorem Obeys.pure {a : α} {Q : α → μ → Prop} (h : Q a m) :
    Obeys watch (Pure.pure a : Script S α) m Q := h

theorem Obeys.perform {op : S.Op} {Q : S.Answer op → μ → Prop}
    (h : ∀ answer, ∃ m', watch m ⟨op, answer⟩ = some m' ∧ Q answer m') :
    (Script.perform op).Obeys watch m Q := h

theorem Obeys.bind {s : Script S α} {f : α → Script S β} {Q : α → μ → Prop} {R : β → μ → Prop}
    (hs : s.Obeys watch m Q) (hf : ∀ a m, Q a m → (f a).Obeys watch m R) :
    (s >>= f).Obeys watch m R := by
  induction s generalizing m with
  | done a => exact hf a m hs
  | step op next ih =>
    intro answer
    obtain ⟨m', hwatch, hnext⟩ := hs answer
    exact ⟨m', hwatch, ih answer hnext⟩

theorem Obeys.follow {s : Script S α} {Q : α → μ → Prop} (h : s.Obeys watch m Q)
    {tr : Trace S} {a : α} (htr : s.Yields tr a) :
    ∃ m', Script.follow watch m tr = some m' ∧ Q a m' := by
  induction htr generalizing m with
  | done a => exact ⟨m, rfl, h⟩
  | @step op next answer tr a _ ih =>
    obtain ⟨m', hwatch, hnext⟩ := h answer
    obtain ⟨m'', hfollow, hQ⟩ := ih hnext
    refine ⟨m'', ?_, hQ⟩
    rw [Script.follow, hwatch]
    exact hfollow

end Monitors

end Script
