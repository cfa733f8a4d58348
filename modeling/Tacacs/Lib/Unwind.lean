import Tacacs.Lib.Script
import Tacacs.Lib.Traced

/-!
# Programs that may panic

A program of `Lib/Traced.lean` with a local variable of type `ρ`, which may panic with a value of
type `π`. A panic skips what would have come after it and undoes nothing: the shared state, the
log and the variable stay as they were left. `recovering m k` is Go's deferred function that
recovers: `k` runs exactly if `m` panics, with the value of the panic.

Two things can be said of such programs. `Ends P m Q` is a specification as in `Lib/Traced.lean`,
whose postcondition also sees the variable and whether the program panicked. `Mirrors view m m'`
says that `m` does not panic and does what `m'`, a program of `Lib/Traced.lean`, does: the same to
the shared state, and the same log, to one who sees of it what `view` shows.
-/

set_option autoImplicit false

namespace Unwind

open Traced (Thread)

variable {π ρ σ ε α β ω : Type}

abbrev Prog (π ρ σ ε α : Type) := ExceptT π (StateT ρ (Traced.Prog σ ε)) α

/-- The outcome (a result, or the value of a panic), the variable, and the thread. -/
def exec (m : Prog π ρ σ ε α) (r : ρ) (t : Thread σ ε) : (Except π α × ρ) × Thread σ ε := m r t

/-! ## Operations -/

def emit (e : ε) : Prog π ρ σ ε Unit := fun r t => ((.ok (), r), { t with log := t.log ++ [e] })

def access (others : Nat → σ → σ) (f : σ → α × σ) : Prog π ρ σ ε α := fun r t =>
  let a := Traced.access others f t
  ((.ok a.1, r), a.2)

/-- An access that may panic; the state is what the panic left behind. -/
def accessOrPanic (others : Nat → σ → σ) (f : σ → Except π α × σ) : Prog π ρ σ ε α := fun r t =>
  let a := Traced.access others f t
  ((a.1, r), a.2)

/-- An answer that lies outside the program: it depends on the moment, which is the number of
    things logged before. -/
def ask (answer : Nat → α) : Prog π ρ σ ε α := fun r t => ((.ok (answer t.log.length), r), t)

def getVar : Prog π ρ σ ε ρ := fun r t => ((.ok r, r), t)

def modifyVar (f : ρ → ρ) : Prog π ρ σ ε Unit := fun r t => ((.ok (), f r), t)

/-- A deferred function that recovers. -/
def recovering (m : Prog π ρ σ ε α) (k : π → Prog π ρ σ ε α) : Prog π ρ σ ε α := fun r t =>
  match m r t with
  | ((.ok a, r), t) => ((.ok a, r), t)
  | ((.error v, r), t) => k v r t

/-- A program run with a fresh variable; what it left in the variable is returned with it. -/
def withVar {ρ' : Type} (m : Prog π ρ' σ ε α) (r' : ρ') : Prog π ρ σ ε (α × ρ') := fun r t =>
  match m r' t with
  | ((.ok a, r'), t) => ((.ok (a, r'), r), t)
  | ((.error v, _), t) => ((.error v, r), t)

/-! ## How programs run -/

section Exec

variable {r : ρ} {t : Thread σ ε}

@[simp] theorem exec_pure (a : α) :
    exec (pure a : Prog π ρ σ ε α) r t = ((.ok a, r), t) := rfl

theorem exec_bind_ok {m : Prog π ρ σ ε α} {f : α → Prog π ρ σ ε β} {a : α} {r' : ρ}
    {t' : Thread σ ε} (h : exec m r t = ((.ok a, r'), t')) :
    exec (m >>= f) r t = exec (f a) r' t' := by
  have hm : m r t = ((.ok a, r'), t') := h
  show exec (fun r t => (match m r t with
    | ((x, r), t) => (ExceptT.bindCont f x) r t)) r t = _
  simp only [exec, hm]
  rfl

theorem exec_bind_error {m : Prog π ρ σ ε α} {f : α → Prog π ρ σ ε β} {v : π} {r' : ρ}
    {t' : Thread σ ε} (h : exec m r t = ((.error v, r'), t')) :
    exec (m >>= f) r t = ((.error v, r'), t') := by
  have hm : m r t = ((.error v, r'), t') := h
  show exec (fun r t => (match m r t with
    | ((x, r), t) => (ExceptT.bindCont f x) r t)) r t = _
  simp only [exec, hm]
  rfl

theorem exec_recovering_ok {m : Prog π ρ σ ε α} {k : π → Prog π ρ σ ε α} {a : α} {r' : ρ}
    {t' : Thread σ ε} (h : exec m r t = ((.ok a, r'), t')) :
    exec (recovering m k) r t = ((.ok a, r'), t') := by
  have hm : m r t = ((.ok a, r'), t') := h
  simp [exec, recovering, hm]

theorem exec_recovering_error {m : Prog π ρ σ ε α} {k : π → Prog π ρ σ ε α} {v : π} {r' : ρ}
    {t' : Thread σ ε} (h : exec m r t = ((.error v, r'), t')) :
    exec (recovering m k) r t = exec (k v) r' t' := by
  have hm : m r t = ((.error v, r'), t') := h
  simp [exec, recovering, hm]

theorem exec_withVar_ok {ρ' : Type} {m : Prog π ρ' σ ε α} {a : α} {r₀ r' : ρ'}
    {t' : Thread σ ε} (h : exec m r₀ t = ((.ok a, r'), t')) :
    exec (withVar m r₀) r t = ((.ok (a, r'), r), t') := by
  have hm : m r₀ t = ((.ok a, r'), t') := h
  simp [exec, withVar, hm]

theorem exec_withVar_error {ρ' : Type} {m : Prog π ρ' σ ε α} {v : π} {r₀ r' : ρ'}
    {t' : Thread σ ε} (h : exec m r₀ t = ((.error v, r'), t')) :
    exec (withVar m r₀) r t = ((.error v, r), t') := by
  have hm : m r₀ t = ((.error v, r'), t') := h
  simp [exec, withVar, hm]

end Exec

/-! ## Specifications -/

/-- From a variable and a shared state with `P`, the program ends, in a result or in a panic, and
    adds a piece to the log such that `Q`. -/
def Ends (P : ρ → σ → Prop) (m : Prog π ρ σ ε α)
    (Q : Except π α → ρ → σ → List ε → Prop) : Prop :=
  ∀ r t, P r t.shared → ∃ es, (exec m r t).2.log = t.log ++ es ∧
    Q (exec m r t).1.1 (exec m r t).1.2 (exec m r t).2.shared es

section Rules

variable {P P' : ρ → σ → Prop} {m : Prog π ρ σ ε α} {Q Q' : Except π α → ρ → σ → List ε → Prop}

theorem Ends.mono (h : Ends P m Q) (hp : ∀ r s, P' r s → P r s)
    (hq : ∀ x r s es, Q x r s es → Q' x r s es) : Ends P' m Q' := by
  intro r t ht
  obtain ⟨es, hlog, hes⟩ := h r t (hp _ _ ht)
  exact ⟨es, hlog, hq _ _ _ _ hes⟩

theorem Ends.pure {a : α} (h : ∀ r s, P r s → Q (.ok a) r s []) :
    Ends P (pure a : Prog π ρ σ ε α) Q := by
  intro r t ht
  exact ⟨[], (List.append_nil _).symm, h _ _ ht⟩

theorem Ends.emit {Q : Except π Unit → ρ → σ → List ε → Prop} {e : ε}
    (h : ∀ r s, P r s → Q (.ok ()) r s [e]) : Ends P (emit e) Q := by
  intro r t ht
  exact ⟨[e], rfl, h _ _ ht⟩

theorem Ends.access {others : Nat → σ → σ} {f : σ → α × σ}
    (h : ∀ k r s, P r s → Q (.ok (f (others k s)).1) r (f (others k s)).2 []) :
    Ends P (access others f) Q := by
  intro r t ht
  exact ⟨[], (List.append_nil _).symm, h _ _ _ ht⟩

theorem Ends.accessOrPanic {others : Nat → σ → σ} {f : σ → Except π α × σ}
    (h : ∀ k r s, P r s → Q (f (others k s)).1 r (f (others k s)).2 []) :
    Ends P (accessOrPanic others f) Q := by
  intro r t ht
  exact ⟨[], (List.append_nil _).symm, h _ _ _ ht⟩

theorem Ends.ask {answer : Nat → α} (h : ∀ n r s, P r s → Q (.ok (answer n)) r s []) :
    Ends P (ask answer) Q := by
  intro r t ht
  exact ⟨[], (List.append_nil _).symm, h _ _ _ ht⟩

theorem Ends.getVar {Q : Except π ρ → ρ → σ → List ε → Prop}
    (h : ∀ r s, P r s → Q (.ok r) r s []) : Ends P getVar Q := by
  intro r t ht
  exact ⟨[], (List.append_nil _).symm, h _ _ ht⟩

theorem Ends.modifyVar {Q : Except π Unit → ρ → σ → List ε → Prop} {f : ρ → ρ}
    (h : ∀ r s, P r s → Q (.ok ()) (f r) s []) : Ends P (modifyVar f) Q := by
  intro r t ht
  exact ⟨[], (List.append_nil _).symm, h _ _ ht⟩

/-- What the second program adds comes after what the first one did, unless that panicked. -/
theorem Ends.bind {f : α → Prog π ρ σ ε β} {R : Except π β → ρ → σ → List ε → Prop}
    (hm : Ends P m Q)
    (hf : ∀ a r s es, Q (.ok a) r s es →
      Ends (fun r' s' => r' = r ∧ s' = s) (f a) fun b r' s' es' => R b r' s' (es ++ es'))
    (hpanic : ∀ v r s es, Q (.error v) r s es → R (.error v) r s es) : Ends P (m >>= f) R := by
  intro r t ht
  obtain ⟨es, hlog, hes⟩ := hm r t ht
  rcases hrun : exec m r t with ⟨⟨v | a, r'⟩, t'⟩
  all_goals rw [hrun] at hlog hes
  · rw [exec_bind_error hrun]
    exact ⟨es, hlog, hpanic _ _ _ _ hes⟩
  · obtain ⟨es', hlog', hes'⟩ := hf _ _ _ es hes r' t' ⟨rfl, rfl⟩
    rw [exec_bind_ok hrun]
    refine ⟨es ++ es', ?_, hes'⟩
    rw [hlog', hlog, List.append_assoc]

theorem Ends.recovering {k : π → Prog π ρ σ ε α} {R : Except π α → ρ → σ → List ε → Prop}
    (hm : Ends P m Q) (hok : ∀ a r s es, Q (.ok a) r s es → R (.ok a) r s es)
    (hk : ∀ v r s es, Q (.error v) r s es →
      Ends (fun r' s' => r' = r ∧ s' = s) (k v) fun b r' s' es' => R b r' s' (es ++ es')) :
    Ends P (recovering m k) R := by
  intro r t ht
  obtain ⟨es, hlog, hes⟩ := hm r t ht
  rcases hrun : exec m r t with ⟨⟨v | a, r'⟩, t'⟩
  all_goals rw [hrun] at hlog hes
  · obtain ⟨es', hlog', hes'⟩ := hk _ _ _ es hes r' t' ⟨rfl, rfl⟩
    rw [exec_recovering_error hrun]
    refine ⟨es ++ es', ?_, hes'⟩
    rw [hlog', hlog, List.append_assoc]
  · rw [exec_recovering_ok hrun]
    exact ⟨es, hlog, hok _ _ _ _ hes⟩

theorem Ends.withVar {ρ' : Type} {m : Prog π ρ' σ ε α} {r₀ : ρ'}
    {Q : Except π α → ρ' → σ → List ε → Prop} {R : Except π (α × ρ') → ρ → σ → List ε → Prop}
    (hm : Ends (fun r' s => r' = r₀ ∧ ∃ r, P r s) m Q)
    (hok : ∀ a r' r s es, Q (.ok a) r' s es → R (.ok (a, r')) r s es)
    (hpanic : ∀ v r' r s es, Q (.error v) r' s es → R (.error v) r s es) :
    Ends P (withVar m r₀) R := by
  intro r t ht
  obtain ⟨es, hlog, hes⟩ := hm r₀ t ⟨rfl, r, ht⟩
  rcases hrun : exec m r₀ t with ⟨⟨v | a, r'⟩, t'⟩
  all_goals rw [hrun] at hlog hes
  · rw [exec_withVar_error hrun]
    exact ⟨es, hlog, hpanic _ _ _ _ _ hes⟩
  · rw [exec_withVar_ok hrun]
    exact ⟨es, hlog, hok _ _ _ _ _ hes⟩

end Rules

/-! ## Programs that do the same -/

/-- The same shared state, and the same log as far as it is seen. -/
structure Matches (view : ε → Option ω) (t : Thread σ ε) (t' : Thread σ ω) : Prop where
  shared : t.shared = t'.shared
  accesses : t.accesses = t'.accesses
  log : t.log.filterMap view = t'.log

/-- `m` returns, does what `m'` does, and `R` relates its result and its variable to the result
    of `m'`. -/
def Mirrors (view : ε → Option ω) (P : ρ → Prop) (m : Prog π ρ σ ε α) (m' : Traced.Prog σ ω β)
    (R : α → ρ → β → Prop) : Prop :=
  ∀ r t t', P r → Matches view t t' → ∃ a r₁ t₁, exec m r t = ((.ok a, r₁), t₁) ∧
    R a r₁ (m' t').1 ∧ Matches view t₁ (m' t').2

/-- `m` returns and adds to the log what is not seen. -/
def Silent (view : ε → Option ω) (m : Prog π ρ σ ε α) : Prop :=
  ∀ r t, ∃ a es, exec m r t = ((.ok a, r), { t with log := t.log ++ es }) ∧
    es.filterMap view = []

section Mirrors

variable {γ δ : Type} {view : ε → Option ω} {P : ρ → Prop} {m : Prog π ρ σ ε α}
  {m' : Traced.Prog σ ω β} {R : α → ρ → β → Prop}

theorem Mirrors.mono {P' : ρ → Prop} {R' : α → ρ → β → Prop} (h : Mirrors view P m m' R)
    (hp : ∀ r, P' r → P r) (hr : ∀ a r b, R a r b → R' a r b) : Mirrors view P' m m' R' := by
  intro r t t' hP ht
  obtain ⟨a, r₁, t₁, hrun, hR, ht₁⟩ := h r t t' (hp r hP) ht
  exact ⟨a, r₁, t₁, hrun, hr _ _ _ hR, ht₁⟩

theorem Mirrors.pure {a : α} {b : β} (h : ∀ r, P r → R a r b) :
    Mirrors view P (pure a : Prog π ρ σ ε α) (pure b) R := by
  intro r t t' hP ht
  exact ⟨a, r, t, rfl, h r hP, ht⟩

theorem Mirrors.emit {e : ε} {o : ω} (h : view e = some o) :
    Mirrors view P (emit e : Prog π ρ σ ε Unit) (Traced.emit o) fun _ r _ => P r := by
  intro r t t' hP ht
  refine ⟨(), r, { t with log := t.log ++ [e] }, rfl, hP, ht.shared, ht.accesses, ?_⟩
  have hlog : (t.log ++ [e]).filterMap view = t.log.filterMap view ++ [o] := by simp [h]
  rw [hlog, ht.log]
  rfl

theorem Mirrors.access {others : Nat → σ → σ} {f : σ → α × σ} :
    Mirrors view P (access others f : Prog π ρ σ ε α) (Traced.access others f)
      fun a r b => P r ∧ a = b := by
  intro r t t' hP ht
  have hsame : others t.accesses t.shared = others t'.accesses t'.shared := by
    rw [ht.accesses, ht.shared]
  refine ⟨_, r, _, rfl, ⟨hP, ?_⟩, ?_, ?_, ht.log⟩
  · exact congrArg (fun s => (f s).1) hsame
  · exact congrArg (fun s => (f s).2) hsame
  · exact congrArg (· + 1) ht.accesses

theorem Mirrors.bind {f : α → Prog π ρ σ ε γ} {f' : β → Traced.Prog σ ω δ}
    {R' : γ → ρ → δ → Prop} (hm : Mirrors view P m m' R)
    (hf : ∀ a r b, R a r b → Mirrors view (· = r) (f a) (f' b) R') :
    Mirrors view P (m >>= f) (m' >>= f') R' := by
  intro r t t' hP ht
  obtain ⟨a, r₁, t₁, hrun, hR, ht₁⟩ := hm r t t' hP ht
  rw [exec_bind_ok hrun]
  exact hf a r₁ _ hR r₁ t₁ _ rfl ht₁

/-- A panic that does not come needs no recovery. -/
theorem Mirrors.recovering {k : π → Prog π ρ σ ε α} (hm : Mirrors view P m m' R) :
    Mirrors view P (recovering m k) m' R := by
  intro r t t' hP ht
  obtain ⟨a, r₁, t₁, hrun, hR, ht₁⟩ := hm r t t' hP ht
  exact ⟨a, r₁, t₁, exec_recovering_ok hrun, hR, ht₁⟩

theorem Mirrors.withVar {ρ' : Type} {m : Prog π ρ' σ ε α} {r₀ : ρ'} {Q : α → ρ' → β → Prop}
    (hm : Mirrors view (· = r₀) m m' Q) :
    Mirrors view P (withVar m r₀) m' fun a r b => P r ∧ Q a.1 a.2 b := by
  intro r t t' hP ht
  obtain ⟨a, r₁, t₁, hrun, hR, ht₁⟩ := hm r₀ t t' rfl ht
  exact ⟨(a, r₁), r, t₁, exec_withVar_ok hrun, ⟨hP, hR⟩, ht₁⟩

/-- If the operations of a script do the same under two handlers, so does the script. -/
theorem Mirrors.run {S : Signature} {handler : ∀ op, Prog π ρ σ ε (S.Answer op)}
    {handler' : ∀ op, Traced.Prog σ ω (S.Answer op)}
    (h : ∀ op, Mirrors view P (handler op) (handler' op) fun a r b => P r ∧ a = b)
    (s : Script S α) :
    Mirrors view P (s.run handler) (s.run handler') fun a r b => P r ∧ a = b := by
  induction s with
  | done a => exact Mirrors.pure fun _ hP => ⟨hP, rfl⟩
  | step op next ih =>
    refine Mirrors.bind (h op) ?_
    rintro a r _ ⟨hP, rfl⟩
    exact (ih a).mono (fun _ hr => hr ▸ hP) fun _ _ _ hR => hR

/-- What is not seen may come before. -/
theorem Silent.then {q : Prog π ρ σ ε γ} {f : γ → Prog π ρ σ ε α} (hq : Silent view q)
    (hf : ∀ c, Mirrors view P (f c) m' R) : Mirrors view P (q >>= f) m' R := by
  intro r t t' hP ht
  obtain ⟨c, es, hrun, hes⟩ := hq r t
  rw [exec_bind_ok hrun]
  refine hf c r _ t' hP ⟨ht.shared, ht.accesses, ?_⟩
  have hlog : (t.log ++ es).filterMap view = t.log.filterMap view := by simp [hes]
  exact hlog.trans ht.log

/-- What is not seen may come after. -/
theorem Mirrors.thenSilent {f : α → Prog π ρ σ ε γ} (hm : Mirrors view P m m' R)
    (hf : ∀ a, Silent view (f a)) :
    Mirrors view P (m >>= f) m' fun _ r b => ∃ a, R a r b := by
  intro r t t' hP ht
  obtain ⟨a, r₁, t₁, hrun, hR, ht₁⟩ := hm r t t' hP ht
  obtain ⟨c, es, hrun', hes⟩ := hf a r₁ t₁
  rw [exec_bind_ok hrun, hrun']
  refine ⟨c, r₁, _, rfl, ⟨a, hR⟩, ht₁.shared, ht₁.accesses, ?_⟩
  have hlog : (t₁.log ++ es).filterMap view = t₁.log.filterMap view := by simp [hes]
  exact hlog.trans ht₁.log

theorem Silent.ends {P : ρ → σ → Prop} (hm : Silent view m) :
    Ends P m fun o r s es => (∃ a, o = .ok a) ∧ P r s ∧ es.filterMap view = [] := by
  intro r t ht
  obtain ⟨a, es, hrun, hes⟩ := hm r t
  rw [hrun]
  exact ⟨es, rfl, ⟨a, rfl⟩, ht, hes⟩

theorem Silent.pure {a : α} : Silent view (pure a : Prog π ρ σ ε α) := fun r t =>
  ⟨a, [], by simp, rfl⟩

theorem Silent.emit {e : ε} (h : view e = none) : Silent view (emit e : Prog π ρ σ ε Unit) :=
  fun _ _ => ⟨(), [e], rfl, by simp [h]⟩

theorem Silent.ask {answer : Nat → α} : Silent view (ask answer : Prog π ρ σ ε α) := fun r t =>
  ⟨answer t.log.length, [], by simp [Unwind.ask, exec], rfl⟩

theorem Silent.getVar : Silent view (getVar : Prog π ρ σ ε ρ) := fun r t =>
  ⟨r, [], by simp [Unwind.getVar, exec], rfl⟩

theorem Silent.bind {f : α → Prog π ρ σ ε γ} (hm : Silent view m) (hf : ∀ a, Silent view (f a)) :
    Silent view (m >>= f) := by
  intro r t
  obtain ⟨a, es, hrun, hes⟩ := hm r t
  obtain ⟨c, es', hrun', hes'⟩ := hf a r { t with log := t.log ++ es }
  refine ⟨c, es ++ es', ?_, ?_⟩
  · rw [exec_bind_ok hrun, hrun', List.append_assoc]
  · rw [List.filterMap_append, hes, hes', List.append_nil]

end Mirrors

end Unwind
