import Tacacs.Proof.Cli.Sockets

/-!
# The drain ends

When the listener is closed, `runServer` waits for the goroutines of the connections, and after
`--shutdown-timeout` it cancels their context and closes their sockets. From then on a goroutine
has at most three steps left: the turn of `ServeConn` that finds the context cancelled, and the
two deferred calls. A scheduler that lets each goroutine take them ends the wait, in whatever order
it does so.

The measure is how far a goroutine is from its end (`rank`). No step takes it back, and each of the
three takes it forward; `Run.reached_of_sublist` makes a run of that.
-/

set_option autoImplicit false

namespace Tacacs
namespace Proof
namespace Cli

open GoSem Tacacs.Server Tacacs.Cli
open Tacacs.Proof.Server (askAgain)

variable {σ : Type} {o : Options}

/-! ## How far a goroutine is -/

/-- Without a semaphore there is one deferred call less. -/
def rank (o : Options) : Phase → Nat
  | .serving => 0
  | .returned => if o.semCap.isSome then 1 else 2
  | .released => 2
  | .finished | .rejected => 3

/-- The rank of the `i`-th socket; one that is not there needs nothing more. -/
def rankAt (o : Options) (as : List Accepted) (i : Nat) : Nat :=
  ((as[i]?).map fun a => rank o a.phase).getD 3

theorem rankAt_of_getElem? {as : List Accepted} {i : Nat} {a : Accepted} (h : as[i]? = some a) :
    rankAt o as i = rank o a.phase := by
  rw [rankAt, h]
  rfl

theorem rankAt_set_self {as : List Accepted} {i : Nat} {a : Accepted} (h : as[i]? = some a)
    (b : Accepted) : rankAt o (as.set i b) i = rank o b.phase := by
  obtain ⟨hi, -⟩ := List.getElem?_eq_some_iff.mp h
  exact rankAt_of_getElem? (by simp [hi])

theorem rankAt_of_none {as : List Accepted} {i : Nat} (h : as[i]? = none) : rankAt o as i = 3 := by
  rw [rankAt, h]
  rfl

/-- Replacing a socket by one that is as far or further. -/
theorem rankAt_set_le {as : List Accepted} {i : Nat} {a b : Accepted} (h : as[i]? = some a)
    (hrank : rank o a.phase ≤ rank o b.phase) (j : Nat) :
    rankAt o as j ≤ rankAt o (as.set i b) j := by
  by_cases hij : i = j
  · subst hij
    rw [rankAt_of_getElem? h, rankAt_set_self h]
    exact hrank
  · rw [rankAt, rankAt, List.getElem?_set_ne hij]

/-! ## What the steps do to it -/

variable (s : Server σ) (md5 : Crypto.Md5)

theorem rank_le_three (p : Phase) : rank o p ≤ 3 := by
  unfold rank
  repeat' split
  all_goals decide

theorem ended_of_rank {p : Phase} (h : 3 ≤ rank o p) : p = .finished ∨ p = .rejected := by
  cases p with
  | serving => cases h
  | returned =>
    rw [rank] at h
    split at h <;> omega
  | released => exact absurd h (by rw [rank]; decide)
  | finished => exact .inl rfl
  | rejected => exact .inr rfl

theorem one_le_rank {p : Phase} (h : p ≠ .serving) : 1 ≤ rank o p := by
  cases p with
  | serving => exact absurd rfl h
  | returned =>
    rw [rank]
    split
    · exact Nat.le_refl 1
    · exact Nat.le_succ 1
  | released => exact Nat.le_succ 1
  | finished => exact Nat.le_add_left 1 2
  | rejected => exact Nat.le_add_left 1 2

theorem serve_rank_le (l : Listener σ) (i : Nat) (e : Env) (j : Nat) :
    rankAt o l.sockets j ≤ rankAt o (l.serve s md5 i e).sockets j := by
  unfold Listener.serve
  cases hi : l.sockets[i]? with
  | none => exact Nat.le_refl _
  | some a =>
    dsimp only
    split
    · next ha => exact rankAt_set_le hi (by rw [ha]; exact Nat.zero_le _) j
    · exact Nat.le_refl _

theorem release_rank_le (l : Listener σ) (i j : Nat) :
    rankAt o l.sockets j ≤ rankAt o (l.release o i).sockets j := by
  unfold Listener.release
  cases hi : l.sockets[i]? with
  | none => exact Nat.le_refl _
  | some a =>
    dsimp only
    split
    · next ha =>
      refine rankAt_set_le hi ?_ j
      rw [ha.2, rank, if_pos ha.1]
      exact Nat.le_succ 1
    · exact Nat.le_refl _

theorem untrack_rank_le (l : Listener σ) (i j : Nat) :
    rankAt o l.sockets j ≤ rankAt o (l.untrack o i).sockets j := by
  unfold Listener.untrack
  cases hi : l.sockets[i]? with
  | none => exact Nat.le_refl _
  | some a =>
    dsimp only
    by_cases ha : a.phase = (if o.semCap.isSome then .released else .returned)
    · rw [if_pos ha]
      exact rankAt_set_le hi (rank_le_three a.phase) j
    · rw [if_neg ha]

theorem forceClose_rank (as : List Accepted) (j : Nat) :
    rankAt o (as.map Accepted.forceClose) j = rankAt o as j := by
  have hphase : ∀ a : Accepted, a.forceClose.phase = a.phase := by
    intro a
    unfold Accepted.forceClose
    split <;> rfl
  unfold rankAt
  rw [List.getElem?_map, Option.map_map]
  simp [Function.comp_def, hphase]

/-- No step takes a goroutine back, once nothing is accepted any more. -/
theorem step_rank_le {l : Listener σ} (hclosed : l.listening = false) (act : LoopAct) (j : Nat) :
    rankAt o l.sockets j ≤ rankAt o (l.step s md5 o act).1.sockets j := by
  cases act with
  | accept remote input => simp [Listener.step, hclosed]
  | acceptError => exact Nat.le_refl _
  | listenerClosed => exact Nat.le_refl _
  | serve i e => exact serve_rank_le s md5 l i e j
  | release i => exact release_rank_le l i j
  | untrack i => exact untrack_rank_le l i j
  | drainTimeout =>
    simp only [Listener.step, hclosed, Bool.false_eq_true, if_false, forceClose_rank]
    exact Nat.le_refl _
  | sweep now => exact Nat.le_refl _

/-- A turn of `ServeConn` under a cancelled context is its last. -/
theorem serveIteration_cancelled {c : Transport.Conn} {e : Env} {err : GoError}
    (h : e.ctxErr = some err) (st : State σ) (loop : Loop) (input : Bytes) :
    ∃ err', (serveIteration s md5 c e st loop input).loop = .returned err' := by
  unfold serveIteration
  cases loop with
  | returned err' => exact ⟨err', rfl⟩
  | first => exact ⟨some err, by simp [h]⟩
  | later connFlags => exact ⟨some err, by simp [h]⟩

theorem serve_cancelled {l : Listener σ} (hcancelled : l.cancelled = true) (i : Nat) (e : Env) :
    1 ≤ rankAt o (l.serve s md5 i e).sockets i := by
  unfold Listener.serve
  cases hi : l.sockets[i]? with
  | none =>
    dsimp only
    rw [rankAt_of_none hi]
    decide
  | some a =>
    dsimp only
    split
    · obtain ⟨err, hreturned⟩ := serveIteration_cancelled s md5 (c := a.conn) (e := l.env a e)
        (if_pos hcancelled) l.st a.loop a.input
      rw [rankAt_set_self hi, hreturned]
      exact one_le_rank fun h => (by cases h)
    · next ha =>
      rw [rankAt_of_getElem? hi]
      exact one_le_rank ha

theorem release_forward {l : Listener σ} {i : Nat} (h : 1 ≤ rankAt o l.sockets i) :
    2 ≤ rankAt o (l.release o i).sockets i := by
  unfold Listener.release
  cases hi : l.sockets[i]? with
  | none =>
    dsimp only
    rw [rankAt_of_none hi]
    decide
  | some a =>
    rw [rankAt_of_getElem? hi] at h
    dsimp only
    split
    · rw [rankAt_set_self hi]
      exact Nat.le_refl 2
    · next ha =>
      rw [rankAt_of_getElem? hi]
      cases hphase : a.phase with
      | serving =>
        rw [hphase] at h
        cases h
      | returned =>
        have hnone : ¬o.semCap.isSome = true := fun hsome => ha ⟨hsome, hphase⟩
        rw [rank, if_neg hnone]
      | released => exact Nat.le_refl 2
      | finished => exact Nat.le_succ 2
      | rejected => exact Nat.le_succ 2

/-- Without a semaphore nothing is released. -/
def ReleasesWithSem (o : Options) (as : List Accepted) : Prop :=
  o.semCap.isSome = false → ∀ a ∈ as, a.phase ≠ .released

theorem untrack_forward {l : Listener σ} {i : Nat} (hsem : ReleasesWithSem o l.sockets)
    (h : 2 ≤ rankAt o l.sockets i) : 3 ≤ rankAt o (l.untrack o i).sockets i := by
  unfold Listener.untrack
  cases hi : l.sockets[i]? with
  | none =>
    dsimp only
    rw [rankAt_of_none hi]
  | some a =>
    rw [rankAt_of_getElem? hi] at h
    have hmem := List.mem_of_getElem? hi
    dsimp only
    by_cases ha : a.phase = (if o.semCap.isSome then .released else .returned)
    · rw [if_pos ha, rankAt_set_self hi]
      exact Nat.le_refl 3
    · rw [if_neg ha, rankAt_of_getElem? hi]
      cases hsome : o.semCap.isSome with
      | true =>
        rw [hsome, if_pos rfl] at ha
        cases hphase : a.phase with
        | serving => simp [hphase, rank] at h
        | returned => simp [hphase, rank, hsome] at h
        | released => exact absurd hphase ha
        | finished => exact Nat.le_refl 3
        | rejected => exact Nat.le_refl 3
      | false =>
        rw [hsome, if_neg Bool.false_ne_true] at ha
        cases hphase : a.phase with
        | serving => simp [hphase, rank] at h
        | returned => exact absurd hphase ha
        | released => exact absurd hphase (hsem hsome a hmem)
        | finished => exact Nat.le_refl 3
        | rejected => exact Nat.le_refl 3

/-! ## What holds throughout -/

/-- The semaphore counts the goroutines that hold a slot, and the tracker knows no goroutine that
    has ended. -/
structure Kept (o : Options) (as : List Accepted) (n : Nat) : Prop where
  sem : o.semCap.isSome = true → n = as.countP holds
  released : ReleasesWithSem o as
  untracked : ∀ a ∈ as, a.phase = .finished ∨ a.phase = .rejected → a.tracked = false

/-- One more socket. -/
theorem Kept.accepted {as : List Accepted} {n m : Nat} (h : Kept o as n) {a : Accepted}
    (hphase : a.phase = .serving ∨ (a.phase = .rejected ∧ a.tracked = false))
    (hsem : o.semCap.isSome = true → m = n + if holds a then 1 else 0) :
    Kept o (as ++ [a]) m := by
  refine ⟨fun hsome => ?_, fun hnone => ?_, forall_mem_snoc h.untracked fun hend => ?_⟩
  · rw [hsem hsome, h.sem hsome, List.countP_append, List.countP_singleton]
  · apply forall_mem_snoc (h.released hnone)
    rcases hphase with hserving | ⟨hrejected, -⟩
    · rw [hserving]; decide
    · rw [hrejected]; decide
  · rcases hphase with hserving | ⟨-, huntracked⟩
    · rw [hserving] at hend
      rcases hend with hend | hend <;> cases hend
    · exact huntracked

/-- One socket is replaced. -/
theorem Kept.replaced {pre post : List Accepted} {n m : Nat} {a b : Accepted}
    (h : Kept o (pre ++ a :: post) n)
    (hreleased : o.semCap.isSome = false → b.phase ≠ .released)
    (huntracked : b.phase = .finished ∨ b.phase = .rejected → b.tracked = false)
    (hsem : o.semCap.isSome = true →
      m + (if holds a then 1 else 0) = n + if holds b then 1 else 0) :
    Kept o (pre ++ b :: post) m := by
  refine ⟨fun hsome => ?_, fun hnone => ?_, (forall_mem_replace h.untracked).mpr huntracked⟩
  · have hcount := h.sem hsome
    have hmoved := hsem hsome
    rw [List.countP_append, List.countP_cons] at hcount ⊢
    omega
  · exact (forall_mem_replace (h.released hnone)).mpr (hreleased hnone)

theorem Kept.forceClosed {as : List Accepted} {n : Nat} (h : Kept o as n) :
    Kept o (as.map Accepted.forceClose) n := by
  have hsame : ∀ a : Accepted, a.forceClose.phase = a.phase ∧ a.forceClose.tracked = a.tracked := by
    intro a
    unfold Accepted.forceClose
    split
    · exact ⟨rfl, rfl⟩
    · exact ⟨rfl, rfl⟩
  refine ⟨fun hsome => ?_, fun hnone => ?_, ?_⟩
  · rw [h.sem hsome, List.countP_map]
    refine List.countP_congr fun a _ => ?_
    rw [Function.comp_apply, holds, holds, (hsame a).1]
  · rw [List.forall_mem_map]
    intro a ha
    rw [(hsame a).1]
    exact h.released hnone a ha
  · rw [List.forall_mem_map]
    intro a ha
    rw [(hsame a).1, (hsame a).2]
    exact h.untracked a ha

theorem kept_accept {l : Listener σ} (h : Kept o l.sockets l.sem) (remote : GoString)
    (input : Bytes) : Kept o (l.accept o remote input).sockets (l.accept o remote input).sem := by
  unfold Listener.accept
  cases hcap : o.semCap with
  | none =>
    refine h.accepted (.inl rfl) fun hsome => ?_
    rw [hcap] at hsome
    cases hsome
  | some n =>
    dsimp only
    split
    · exact h.accepted (.inl rfl) fun _ => rfl
    · exact h.accepted (.inr ⟨rfl, rfl⟩) fun _ => rfl

/-- A goroutine is in `ServeConn`, or has just returned from it. -/
theorem loop_phase (loop : Loop) : Loop.phase loop = .serving ∨ Loop.phase loop = .returned := by
  cases loop with
  | returned err => exact .inr rfl
  | first => exact .inl rfl
  | later connFlags => exact .inl rfl

theorem kept_serve {l : Listener σ} (h : Kept o l.sockets l.sem) (i : Nat) (e : Env) :
    Kept o (l.serve s md5 i e).sockets (l.serve s md5 i e).sem := by
  unfold Listener.serve
  cases hi : l.sockets[i]? with
  | none => exact h
  | some a =>
    dsimp only
    split
    · next ha =>
      obtain ⟨pre, post, hsockets, hset⟩ := exists_split_set hi
      rw [hsockets] at h
      dsimp only
      rw [hset]
      have hheld : holds a = true := by simp [holds, ha]
      generalize serveIteration s md5 a.conn (l.env a e) l.st a.loop a.input = r
      have hphase := loop_phase r.loop
      generalize Loop.phase r.loop = p at hphase ⊢
      rcases hphase with rfl | rfl
      · refine h.replaced (fun _ hend => (by cases hend)) ?_ fun _ => (by rw [hheld]; rfl)
        rintro (hend | hend) <;> cases hend
      · refine h.replaced (fun _ hend => (by cases hend)) ?_ fun _ => (by rw [hheld]; rfl)
        rintro (hend | hend) <;> cases hend
    · exact h

theorem kept_release {l : Listener σ} (h : Kept o l.sockets l.sem) (i : Nat) :
    Kept o (l.release o i).sockets (l.release o i).sem := by
  rcases release_cases o l i with hsame | ⟨pre, a, post, -, hsome, ha, hbefore, hafter, hsem⟩
  · rw [hsame]
    exact h
  · have hheld : holds a = true := by simp [holds, ha]
    rw [hbefore] at h
    have hcount := h.sem hsome
    rw [List.countP_append, List.countP_cons_of_pos hheld] at hcount
    rw [hafter, hsem]
    refine h.replaced (fun hnone => ?_) (fun hend => ?_) (fun _ => ?_)
    · rw [hsome] at hnone
      cases hnone
    · rcases hend with hend | hend <;> cases hend
    · rw [if_pos hheld]
      show l.sem - 1 + 1 = l.sem + 0
      omega

theorem kept_untrack {l : Listener σ} (h : Kept o l.sockets l.sem) (i : Nat) :
    Kept o (l.untrack o i).sockets (l.untrack o i).sem := by
  rcases untrack_cases o l i with ⟨hsame, -⟩ | ⟨pre, a, post, -, ha, hbefore, hafter, hsem⟩
  · rw [hsame]
    exact h
  · rw [hbefore] at h
    rw [hafter, hsem]
    refine h.replaced (fun _ hend => (by cases hend)) (fun _ => rfl) (fun hsome => ?_)
    -- with a semaphore the slot was given back before
    rw [hsome, if_pos rfl] at ha
    have hfree : holds a = false := by simp [holds, ha]
    rw [hfree]
    rfl

theorem kept_step {l : Listener σ} (h : Kept o l.sockets l.sem) (act : LoopAct) :
    Kept o (l.step s md5 o act).1.sockets (l.step s md5 o act).1.sem := by
  cases act with
  | acceptError => exact h
  | listenerClosed => exact h
  | sweep now => exact h
  | serve i e => exact kept_serve s md5 h i e
  | release i => exact kept_release h i
  | untrack i => exact kept_untrack h i
  | accept remote input =>
    unfold Listener.step
    dsimp only
    split
    · exact kept_accept h remote input
    · exact h
  | drainTimeout =>
    unfold Listener.step
    dsimp only
    split
    · exact h
    · exact h.forceClosed

/-! ## The drain -/

/-- The context is cancelled, and `n` sockets have been accepted in all. -/
structure Draining (o : Options) (n : Nat) (l : Listener σ) : Prop where
  closed : l.listening = false
  cancelled : l.cancelled = true
  kept : Kept o l.sockets l.sem
  length : l.sockets.length = n

/-- The parts that the goroutines leave alone. -/
structure Frame (l l' : Listener σ) : Prop where
  listening : l'.listening = l.listening
  cancelled : l'.cancelled = l.cancelled
  length : l'.sockets.length = l.sockets.length

theorem serve_frame (l : Listener σ) (i : Nat) (e : Env) : Frame l (l.serve s md5 i e) := by
  unfold Listener.serve
  split
  · exact ⟨rfl, rfl, rfl⟩
  · split
    · exact ⟨rfl, rfl, List.length_set⟩
    · exact ⟨rfl, rfl, rfl⟩

theorem release_frame (l : Listener σ) (i : Nat) : Frame l (l.release o i) := by
  unfold Listener.release
  split
  · exact ⟨rfl, rfl, rfl⟩
  · split
    · exact ⟨rfl, rfl, List.length_set⟩
    · exact ⟨rfl, rfl, rfl⟩

theorem untrack_frame (l : Listener σ) (i : Nat) : Frame l (l.untrack o i) := by
  unfold Listener.untrack
  cases l.sockets[i]? with
  | none => exact ⟨rfl, rfl, rfl⟩
  | some a =>
    dsimp only
    by_cases ha : a.phase = (if o.semCap.isSome then .released else .returned)
    · rw [if_pos ha]
      exact ⟨rfl, rfl, List.length_set⟩
    · rw [if_neg ha]
      exact ⟨rfl, rfl, rfl⟩

theorem Draining.frame {n : Nat} {l l' : Listener σ} (h : Draining o n l) (hframe : Frame l l')
    (hkept : Kept o l'.sockets l'.sem) : Draining o n l' :=
  ⟨hframe.listening.trans h.closed, hframe.cancelled.trans h.cancelled, hkept,
    hframe.length.trans h.length⟩

theorem draining_step {n : Nat} {l : Listener σ} (h : Draining o n l) (act : LoopAct) :
    Draining o n (l.step s md5 o act).1 := by
  have hkept := kept_step s md5 h.kept act
  cases act with
  | serve i e => exact h.frame (serve_frame s md5 l i e) hkept
  | release i => exact h.frame (release_frame l i) hkept
  | untrack i => exact h.frame (untrack_frame l i) hkept
  | accept remote input =>
    rw [Listener.step, h.closed, if_neg Bool.false_ne_true]
    exact h
  | acceptError => exact h
  | listenerClosed => exact ⟨rfl, h.cancelled, hkept, h.length⟩
  | drainTimeout =>
    rw [Listener.step, h.closed, if_neg Bool.false_ne_true] at hkept ⊢
    exact ⟨rfl, rfl, hkept, (List.length_map _).trans h.length⟩
  | sweep now => exact ⟨h.closed, h.cancelled, hkept, h.length⟩

/-- The goroutine `i` has so many of its last three steps to take. -/
structure Owes (o : Options) (n i : Nat) (e : Env) (todo : List LoopAct) (l : Listener σ) :
    Prop where
  draining : Draining o n l
  rank : 3 - todo.length ≤ rankAt o l.sockets i
  steps : todo <:+ [.serve i e, .release i, .untrack i]

theorem owes_step {n i : Nat} {e : Env} {todo : List LoopAct} {l : Listener σ}
    (h : Owes o n i e todo l) (act : LoopAct) : Owes o n i e todo (l.step s md5 o act).1 :=
  ⟨draining_step s md5 h.draining act,
    h.rank.trans (step_rank_le s md5 h.draining.closed act i), h.steps⟩

theorem owes_move {n i : Nat} {e : Env} {act : LoopAct} {todo : List LoopAct} {l : Listener σ}
    (h : Owes o n i e (act :: todo) l) : Owes o n i e todo (l.step s md5 o act).1 := by
  refine ⟨draining_step s md5 h.draining act, ?_, (List.suffix_cons act todo).trans h.steps⟩
  have hrank := h.rank
  have hsteps := h.steps
  simp only [List.suffix_cons_iff, List.cons.injEq, List.suffix_nil, reduceCtorEq, or_false]
    at hsteps
  rcases hsteps with ⟨rfl, rfl⟩ | ⟨rfl, rfl⟩ | ⟨rfl, rfl⟩
  · exact serve_cancelled s md5 h.draining.cancelled i e
  · exact release_forward hrank
  · exact untrack_forward h.draining.kept.released hrank

/-- **The drain ends.** Take any run of the accept loop that has closed the listener, on any
    connections in any state, and let the drain time out. If in what follows each goroutine gets
    to take three more steps, in its own order and with anything in between, they have all ended:
    `wg.Wait` returns. Nothing is left in the tracker, and no slot is taken. -/
theorem drain_ends (s : Server σ) (md5 : Crypto.Md5) (o : Options) (st : State σ)
    (acts more : List LoopAct) :
    let l := Run.after (Listener.step s md5 o) { st } acts
    let final := Run.after (Listener.step s md5 o) { st } (acts ++ .drainTimeout :: more)
    l.listening = false →
    (∀ i < l.sockets.length, ∃ e, [.serve i e, .release i, .untrack i].Sublist more) →
    (∀ a ∈ final.sockets, (a.phase = .finished ∨ a.phase = .rejected) ∧ a.tracked = false) ∧
      (o.semCap.isSome = true → final.sem = 0) := by
  intro l final hclosed hfair
  have hkept : Kept o l.sockets l.sem := by
    refine Run.run_induction (Listener.step s md5 o) (fun _ _ l => Kept o l.sockets l.sem) ?_
      (fun _ _ l act h => kept_step s md5 h act) acts
    exact ⟨fun _ => rfl, fun _ a ha => (by cases ha), fun a ha => (by cases ha)⟩
  -- the timeout cancels the context, and finds the listener closed
  have hdraining : Draining o l.sockets.length (l.step s md5 o .drainTimeout).1 := by
    rw [Listener.step, hclosed, if_neg Bool.false_ne_true]
    exact ⟨rfl, rfl, hkept.forceClosed, List.length_map _⟩
  have hfinal : final = Run.after (Listener.step s md5 o) (l.step s md5 o .drainTimeout).1 more :=
    Run.after_append ..
  have hdone : Draining o l.sockets.length final := by
    rw [hfinal]
    exact Run.run_induction (Listener.step s md5 o) (fun _ _ l' => Draining o l.sockets.length l')
      hdraining (fun _ _ l' act h => draining_step s md5 h act) more
  have hrank : ∀ i, 3 ≤ rankAt o final.sockets i := by
    intro i
    by_cases hi : i < l.sockets.length
    · obtain ⟨e, hsteps⟩ := hfair i hi
      have howes : Owes o l.sockets.length i e [.serve i e, .release i, .untrack i]
          (l.step s md5 o .drainTimeout).1 := ⟨hdraining, Nat.zero_le _, List.suffix_refl _⟩
      rw [hfinal]
      have hreached := Run.reached_of_sublist (P := Owes o l.sockets.length i e)
        (fun _ _ act h => owes_step s md5 h act) (fun _ _ _ h => owes_move s md5 h) hsteps howes
      exact hreached.rank
    · rw [rankAt_of_none]
      rw [List.getElem?_eq_none_iff, hdone.length]
      exact Nat.le_of_not_lt hi
  have hphase : ∀ a ∈ final.sockets, a.phase = .finished ∨ a.phase = .rejected := by
    intro a ha
    obtain ⟨i, hi⟩ := List.getElem?_of_mem ha
    have hrank := hrank i
    rw [rankAt_of_getElem? hi] at hrank
    exact ended_of_rank hrank
  refine ⟨fun a ha => ⟨hphase a ha, hdone.kept.untracked a ha (hphase a ha)⟩, fun hsome => ?_⟩
  rw [hdone.kept.sem hsome, List.countP_eq_zero]
  intro a ha
  rcases hphase a ha with hp | hp
  · simp [holds, hp]
  · simp [holds, hp]

/-- A client is connected and says nothing, and another has been turned away. -/
theorem drain_ends_silent :
    let cfg : Config Unit := { handler := askAgain, mode := .tls }
    let o : Options := { maxConns := 1, mode := .tls, secret := [] }
    let final := Run.after (Listener.step (new cfg) default o) { st := State.init cfg () }
      ([.accept (lit "10.0.0.1:5000") [], .accept (lit "10.0.0.2:5000") [], .listenerClosed] ++
        .drainTimeout ::
          [.serve 0 { t := ⟨0, 0⟩ }, .serve 1 { t := ⟨0, 0⟩ }, .release 1, .untrack 1, .release 0,
            .untrack 0])
    (∀ a ∈ final.sockets, (a.phase = .finished ∨ a.phase = .rejected) ∧ a.tracked = false) ∧
      (o.semCap.isSome = true → final.sem = 0) := by
  intro cfg o
  apply drain_ends (new cfg) default o (State.init cfg ())
    [.accept (lit "10.0.0.1:5000") [], .accept (lit "10.0.0.2:5000") [], .listenerClosed]
  · rfl
  · intro i hi
    have hcases : i = 0 ∨ i = 1 := by
      have hlt : i < 2 := hi
      omega
    rcases hcases with rfl | rfl
    · exact ⟨{ t := ⟨0, 0⟩ },
        .cons_cons _ (.cons _ (.cons _ (.cons _ (.cons_cons _ (.cons_cons _ .slnil)))))⟩
    · exact ⟨{ t := ⟨0, 0⟩ },
        .cons _ (.cons_cons _ (.cons_cons _ (.cons_cons _ (.cons _ (.cons _ .slnil)))))⟩

end Cli
end Proof
end Tacacs
