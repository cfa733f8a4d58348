import Mathlib.Logic.Basic

/-!
# Programs that leave a trace

A thread works on a state it shares with others, and logs what can be seen of it. Its programs
are in the state monad. It comes to the shared state by `access`, one indivisible operation at a
time; what other threads have done to the state before its `k`-th access is `others k`, any
function at all.

A specification `Spec P m Q` has a precondition on the shared state and a postcondition on the
result, the shared state and **the piece of log that `m` adds**. The rules are those of the
monad and of the two operations. With any `others`, `Spec` is about all interleavings; with
`alone` it is about a thread that is not disturbed.
-/

set_option autoImplicit false

namespace Traced

variable {σ ε α β : Type}

/-- Where a thread stands. -/
structure Thread (σ ε : Type) where
  shared : σ
  accesses : Nat := 0
  log : List ε := []

abbrev Prog (σ ε α : Type) := StateM (Thread σ ε) α

def emit (e : ε) : Prog σ ε Unit := fun t => ((), { t with log := t.log ++ [e] })

/-- One operation on the shared state. -/
def access (others : Nat → σ → σ) (f : σ → α × σ) : Prog σ ε α := fun t =>
  let r := f (others t.accesses t.shared)
  (r.1, { t with shared := r.2, accesses := t.accesses + 1 })

/-- Nobody else comes to the shared state. -/
def alone : Nat → σ → σ := fun _ s => s

/-- From a shared state with `P`, the program adds a piece to the log such that `Q`. -/
def Spec (P : σ → Prop) (m : Prog σ ε α) (Q : α → σ → List ε → Prop) : Prop :=
  ∀ t, P t.shared → ∃ es, (m t).2.log = t.log ++ es ∧ Q (m t).1 (m t).2.shared es

section Rules

variable {P P' : σ → Prop} {m : Prog σ ε α} {Q Q' : α → σ → List ε → Prop}

theorem Spec.mono (h : Spec P m Q) (hp : ∀ s, P' s → P s) (hq : ∀ a s es, Q a s es → Q' a s es) :
    Spec P' m Q' := by
  intro t ht
  obtain ⟨es, hlog, hes⟩ := h t (hp _ ht)
  exact ⟨es, hlog, hq _ _ _ hes⟩

theorem Spec.pure {a : α} (h : ∀ s, P s → Q a s []) : Spec P (pure a) Q := by
  intro t ht
  exact ⟨[], (List.append_nil _).symm, h _ ht⟩

theorem Spec.emit {Q : Unit → σ → List ε → Prop} {e : ε} (h : ∀ s, P s → Q () s [e]) :
    Spec P (emit e) Q := by
  intro t ht
  exact ⟨[e], rfl, h _ ht⟩

theorem Spec.access {others : Nat → σ → σ} {f : σ → α × σ}
    (h : ∀ k s, P s → Q (f (others k s)).1 (f (others k s)).2 []) :
    Spec P (access others f) Q := by
  intro t ht
  exact ⟨[], (List.append_nil _).symm, h _ _ ht⟩

/-- What the second program adds comes after what the first one did. -/
theorem Spec.bind {f : α → Prog σ ε β} {R : β → σ → List ε → Prop} (hm : Spec P m Q)
    (hf : ∀ a s es, Q a s es → Spec (fun s' => s' = s) (f a) fun b s' es' => R b s' (es ++ es')) :
    Spec P (m >>= f) R := by
  intro t ht
  obtain ⟨es, hlog, hes⟩ := hm t ht
  obtain ⟨es', hlog', hes'⟩ := hf _ _ es hes (m t).2 rfl
  refine ⟨es ++ es', ?_, hes'⟩
  show ((f (m t).1) (m t).2).2.log = _
  rw [hlog', hlog, List.append_assoc]

end Rules

end Traced
