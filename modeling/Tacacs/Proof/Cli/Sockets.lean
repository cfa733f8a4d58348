import Tacacs.Cli.Server
import Tacacs.Lib.Run
import Tacacs.Proof.Server.Sequence

/-!
# Sockets of the accept loop

A socket is accepted, served and forgotten, and nobody closes it: `ServeConn` returns with the
socket open, and the deferred calls of its goroutine give back the slot and the tracker entry
only. Sockets are closed in two places, when the loop turns one away and when a drain takes too
long.

So the number of open sockets is bounded by the capacity exactly as long as no goroutine ends on
an open socket (`sockets_bounded`), which is to say during the drain; two clients one after the
other are enough to exceed a capacity of one (`sockets_leak`).

The proof counts holders: a goroutine holds a slot until its first deferred call has run
(`Accepted.holds`), and `sem` is the number of those that do.
-/

set_option autoImplicit false

namespace Tacacs
namespace Proof
namespace Cli

open GoSem Tacacs.Server Tacacs.Cli
open Tacacs.Proof.Server (askAgain)

variable {σ : Type}

/-! ## Properties of a state -/

/-- Every accepted socket is closed or tracked. -/
def AccountedFor (l : Listener σ) : Prop := ∀ a ∈ l.sockets, a.closed = true ∨ a.tracked = true

/-- The number of accepted sockets that are not closed. -/
def openSockets (l : Listener σ) : Nat := l.sockets.countP fun a => !a.closed

/-- The goroutine has not given its slot back. -/
def holds (a : Accepted) : Bool := a.phase = .serving ∨ a.phase = .returned

/-- A step that forgets a socket, by its tracker entry, forgets a closed one. -/
def UntracksClosed (o : Options) (l : Listener σ) : LoopAct → Prop
  | .untrack i => ∀ a, l.sockets[i]? = some a →
      a.phase = (if o.semCap.isSome then .released else .returned) → a.closed = true
  | _ => True

/-- A step that gives up a slot does so for a closed socket. -/
def ReleasesClosed (o : Options) (l : Listener σ) : LoopAct → Prop
  | .release i => ∀ a, l.sockets[i]? = some a →
      o.semCap.isSome = true ∧ a.phase = .returned → a.closed = true
  | _ => True

/-! ## What a step does to the sockets -/

/-- One socket changes, the others do not. -/
theorem exists_split_set {α : Type} {l : List α} {i : Nat} {a : α} (h : l[i]? = some a) :
    ∃ pre post, l = pre ++ a :: post ∧ ∀ b, l.set i b = pre ++ b :: post := by
  obtain ⟨hi, rfl⟩ := List.getElem?_eq_some_iff.mp h
  have hset : ∀ b, l.set i b = l.take i ++ b :: l.drop (i + 1) := by
    intro b
    rw [List.set_eq_take_append_cons_drop, if_pos hi]
  exact ⟨l.take i, l.drop (i + 1), (List.set_getElem_self hi).symm.trans (hset _), hset⟩

/-- What a step other than a deferred call can do to the sockets and the semaphore. -/
inductive Moves (o : Options) : List Accepted → Nat → List Accepted → Nat → Prop where
  | same (as : List Accepted) (n : Nat) : Moves o as n as n
  | unlimited {as : List Accepted} {n : Nat} {a : Accepted} (hcap : o.semCap = none)
      (ha : holds a = true) (ht : a.tracked = true) : Moves o as n (as ++ [a]) n
  | admitted {as : List Accepted} {n cap : Nat} {a : Accepted} (hcap : o.semCap = some cap)
      (hn : n < cap) (ha : holds a = true) (ht : a.tracked = true) :
      Moves o as n (as ++ [a]) (n + 1)
  | rejected {as : List Accepted} {n : Nat} {a : Accepted} (ha : holds a = false)
      (hc : a.closed = true) : Moves o as n (as ++ [a]) n
  | served {pre post : List Accepted} {n : Nat} {a b : Accepted} (ha : holds a = true)
      (hb : holds b = true) (ht : b.tracked = a.tracked) (hc : b.closed = a.closed) :
      Moves o (pre ++ a :: post) n (pre ++ b :: post) n
  | forceClosed (as : List Accepted) (n : Nat) : Moves o as n (as.map Accepted.forceClose) n

theorem accept_moves (o : Options) (l : Listener σ) (remote : GoString) (input : Bytes) :
    Moves o l.sockets l.sem (l.accept o remote input).sockets (l.accept o remote input).sem := by
  unfold Listener.accept
  cases hcap : o.semCap with
  | none => exact .unlimited hcap rfl rfl
  | some cap =>
    dsimp only
    by_cases hn : l.sem < cap
    · rw [if_pos hn]
      exact .admitted hcap hn rfl rfl
    · rw [if_neg hn]
      exact .rejected rfl rfl

theorem serve_moves (s : Server σ) (md5 : Crypto.Md5) (o : Options) (l : Listener σ) (i : Nat)
    (e : Env) :
    Moves o l.sockets l.sem (l.serve s md5 i e).sockets (l.serve s md5 i e).sem := by
  unfold Listener.serve
  cases hi : l.sockets[i]? with
  | none => exact .same _ _
  | some a =>
    dsimp only
    by_cases ha : a.phase = .serving
    · rw [if_pos ha]
      obtain ⟨pre, post, hsockets, hset⟩ := exists_split_set hi
      dsimp only
      rw [hset, hsockets]
      refine .served (by simp [holds, ha]) ?_ rfl rfl
      unfold holds Loop.phase
      dsimp only
      split <;> rfl
    · rw [if_neg ha]
      exact .same _ _

/-- `<-sem`, or nothing. -/
theorem release_cases (o : Options) (l : Listener σ) (i : Nat) :
    l.release o i = l ∨
      ∃ pre a post, l.sockets[i]? = some a ∧ o.semCap.isSome = true ∧ a.phase = .returned ∧
        l.sockets = pre ++ a :: post ∧
        (l.release o i).sockets = pre ++ { a with phase := .released } :: post ∧
        (l.release o i).sem = l.sem - 1 := by
  unfold Listener.release
  cases hi : l.sockets[i]? with
  | none => exact Or.inl rfl
  | some a =>
    dsimp only
    by_cases ha : o.semCap.isSome = true ∧ a.phase = .returned
    · rw [if_pos ha]
      obtain ⟨pre, post, hsockets, hset⟩ := exists_split_set hi
      exact Or.inr ⟨pre, a, post, rfl, ha.1, ha.2, hsockets, hset _, rfl⟩
    · rw [if_neg ha]
      exact Or.inl rfl

/-- `tracker.remove(conn)`, or nothing. -/
theorem untrack_cases (o : Options) (l : Listener σ) (i : Nat) :
    (l.untrack o i = l ∧ UntracksClosed o l (.untrack i)) ∨
      ∃ pre a post, l.sockets[i]? = some a ∧
        a.phase = (if o.semCap.isSome then .released else .returned) ∧
        l.sockets = pre ++ a :: post ∧
        (l.untrack o i).sockets = pre ++ { a with phase := .finished, tracked := false } :: post ∧
        (l.untrack o i).sem = l.sem := by
  unfold Listener.untrack
  cases hi : l.sockets[i]? with
  | none =>
    refine Or.inl ⟨rfl, ?_⟩
    intro a ha
    rw [hi] at ha
    cases ha
  | some a =>
    dsimp only
    by_cases ha : a.phase = (if o.semCap.isSome then .released else .returned)
    · rw [if_pos ha]
      obtain ⟨pre, post, hsockets, hset⟩ := exists_split_set hi
      exact Or.inr ⟨pre, a, post, rfl, ha, hsockets, hset _, rfl⟩
    · rw [if_neg ha]
      refine Or.inl ⟨rfl, ?_⟩
      intro b hb hphase
      rw [hi] at hb
      cases hb
      exact absurd hphase ha

/-- A step is a deferred call or one of the moves. -/
theorem step_cases (s : Server σ) (md5 : Crypto.Md5) (o : Options) (l : Listener σ)
    (act : LoopAct) :
    (∃ i, act = .release i) ∨ (∃ i, act = .untrack i) ∨
      (UntracksClosed o l act ∧ Moves o l.sockets l.sem (l.step s md5 o act).1.sockets
        (l.step s md5 o act).1.sem) := by
  cases act with
  | release i => exact Or.inl ⟨i, rfl⟩
  | untrack i => exact Or.inr (Or.inl ⟨i, rfl⟩)
  | accept remote input =>
    refine Or.inr (Or.inr ⟨trivial, ?_⟩)
    unfold Listener.step
    dsimp only
    split
    · exact accept_moves o l remote input
    · exact .same _ _
  | serve i e => exact Or.inr (Or.inr ⟨trivial, serve_moves s md5 o l i e⟩)
  | drainTimeout =>
    refine Or.inr (Or.inr ⟨trivial, ?_⟩)
    unfold Listener.step
    dsimp only
    split
    · exact .same _ _
    · exact .forceClosed _ _
  | acceptError => exact Or.inr (Or.inr ⟨trivial, .same _ _⟩)
  | listenerClosed => exact Or.inr (Or.inr ⟨trivial, .same _ _⟩)
  | sweep now => exact Or.inr (Or.inr ⟨trivial, .same _ _⟩)

/-! ## Closed or tracked -/

theorem forceClose_accounted {a : Accepted} (h : a.closed = true ∨ a.tracked = true) :
    a.forceClose.closed = true ∨ a.forceClose.tracked = true := by
  unfold Accepted.forceClose
  split
  · exact Or.inl rfl
  · exact h

/-- A change of one socket keeps a property of all iff the new socket has it. -/
theorem forall_mem_replace {α : Type} {Q : α → Prop} {pre post : List α} {a b : α}
    (h : ∀ x ∈ pre ++ a :: post, Q x) : (∀ x ∈ pre ++ b :: post, Q x) ↔ Q b := by
  rw [List.forall_mem_append, List.forall_mem_cons] at h ⊢
  exact ⟨fun hall => hall.2.1, fun hb => ⟨h.1, hb, h.2.2⟩⟩

theorem forall_mem_snoc {α : Type} {Q : α → Prop} {as : List α} {a : α} (h : ∀ x ∈ as, Q x)
    (ha : Q a) : ∀ x ∈ as ++ [a], Q x :=
  List.forall_mem_append.mpr ⟨h, List.forall_mem_singleton.mpr ha⟩

theorem moves_accounted {o : Options} {as bs : List Accepted} {n m : Nat}
    (hmove : Moves o as n bs m) (h : ∀ a ∈ as, a.closed = true ∨ a.tracked = true) :
    ∀ a ∈ bs, a.closed = true ∨ a.tracked = true := by
  cases hmove with
  | same => exact h
  | unlimited _ _ ht => exact forall_mem_snoc h (Or.inr ht)
  | admitted _ _ _ ht => exact forall_mem_snoc h (Or.inr ht)
  | rejected _ hc => exact forall_mem_snoc h (Or.inl hc)
  | @served pre post _ a b _ _ ht hc =>
    refine (forall_mem_replace h).mpr ?_
    rw [ht, hc]
    exact h a (List.mem_append_right _ List.mem_cons_self)
  | forceClosed =>
    intro b hb
    obtain ⟨a, ha, rfl⟩ := List.mem_map.mp hb
    exact forceClose_accounted (h a ha)

theorem accounted_step_iff (s : Server σ) (md5 : Crypto.Md5) (o : Options) {l : Listener σ}
    (act : LoopAct) (h : AccountedFor l) :
    AccountedFor (l.step s md5 o act).1 ↔ UntracksClosed o l act := by
  rcases step_cases s md5 o l act with ⟨i, rfl⟩ | ⟨i, rfl⟩ | ⟨htrue, hmove⟩
  · refine iff_of_true ?_ trivial
    show AccountedFor (l.release o i)
    rcases release_cases o l i with hsame | ⟨pre, a, post, -, -, -, hbefore, hafter, -⟩
    · rw [hsame]
      exact h
    · unfold AccountedFor at h ⊢
      rw [hbefore] at h
      rw [hafter]
      exact (forall_mem_replace h).mpr (h a (List.mem_append_right _ List.mem_cons_self))
  · show AccountedFor (l.untrack o i) ↔ _
    rcases untrack_cases o l i with ⟨hsame, htrue⟩ | ⟨pre, a, post, hi, hphase, hbefore, hafter, -⟩
    · rw [hsame]
      exact iff_of_true h htrue
    · -- what is left of the socket is whether it is closed
      unfold AccountedFor at h ⊢
      rw [hbefore] at h
      rw [hafter, forall_mem_replace h]
      constructor
      · rintro (hc | ht) b hb -
        · rw [hi] at hb
          cases hb
          exact hc
        · cases ht
      · exact fun hc => Or.inl (hc a hi hphase)
  · exact iff_of_true (moves_accounted hmove h) htrue

/-! ## Open sockets and slots -/

/-- The slots are held by the goroutines that have not given them back, and every other socket
    is closed. -/
structure Slots (o : Options) (as : List Accepted) (n : Nat) : Prop where
  count : o.semCap.isSome = true → n = as.countP holds
  cap : ∀ k, o.semCap = some k → n ≤ k
  closed : ∀ a ∈ as, holds a = false → a.closed = true

theorem moves_slots {o : Options} {as bs : List Accepted} {n m : Nat}
    (hmove : Moves o as n bs m) (h : Slots o as n) : Slots o bs m := by
  cases hmove with
  | same => exact h
  | unlimited hcap ha _ =>
    refine ⟨fun hsome => ?_, h.cap, forall_mem_snoc h.closed fun hn => ?_⟩
    · rw [hcap] at hsome
      cases hsome
    · rw [ha] at hn
      cases hn
  | @admitted _ _ cap a hcap hn ha _ =>
    refine ⟨fun hsome => ?_, fun k hk => ?_, forall_mem_snoc h.closed fun hn => ?_⟩
    · rw [List.countP_append, List.countP_singleton, if_pos ha, ← h.count hsome]
    · rw [hcap] at hk
      cases hk
      exact hn
    · rw [ha] at hn
      cases hn
  | rejected ha hc =>
    refine ⟨fun hsome => ?_, h.cap, forall_mem_snoc h.closed fun _ => hc⟩
    rw [List.countP_append, List.countP_singleton, if_neg (by simp [ha]), Nat.add_zero]
    exact h.count hsome
  | @served pre post _ a b ha hb _ hc =>
    refine ⟨fun hsome => ?_, h.cap, (forall_mem_replace h.closed).mpr fun hn => ?_⟩
    · rw [h.count hsome, List.countP_append, List.countP_append, List.countP_cons_of_pos ha,
        List.countP_cons_of_pos hb]
    · rw [hb] at hn
      cases hn
  | forceClosed =>
    have hholds : ∀ a : Accepted, holds a.forceClose = holds a := by
      intro a
      unfold Accepted.forceClose
      split <;> rfl
    refine ⟨fun hsome => ?_, h.cap, ?_⟩
    · rw [h.count hsome, List.countP_map]
      exact List.countP_congr fun a _ => by rw [Function.comp_apply, hholds]
    · intro b hb hn
      obtain ⟨a, ha, rfl⟩ := List.mem_map.mp hb
      rw [hholds] at hn
      unfold Accepted.forceClose
      split
      · rfl
      · exact h.closed a ha hn

theorem slots_step (s : Server σ) (md5 : Crypto.Md5) (o : Options) {l : Listener σ}
    {act : LoopAct} (h : Slots o l.sockets l.sem) (hrel : ReleasesClosed o l act)
    (hun : UntracksClosed o l act) :
    Slots o (l.step s md5 o act).1.sockets (l.step s md5 o act).1.sem := by
  rcases step_cases s md5 o l act with ⟨i, rfl⟩ | ⟨i, rfl⟩ | ⟨-, hmove⟩
  · show Slots o (l.release o i).sockets (l.release o i).sem
    rcases release_cases o l i with hsame | ⟨pre, a, post, hi, hcap, hphase, hbefore, hafter, hsem⟩
    · rw [hsame]
      exact h
    · have hclosed := hrel a hi ⟨hcap, hphase⟩
      have hheld : holds a = true := by simp [holds, hphase]
      rw [hbefore] at h
      have hcount := h.count hcap
      rw [List.countP_append, List.countP_cons_of_pos hheld] at hcount
      rw [hafter, hsem]
      refine ⟨fun _ => ?_, fun k hk => ?_, (forall_mem_replace h.closed).mpr fun _ => hclosed⟩
      · rw [List.countP_append, List.countP_cons_of_neg (by simp [holds]), hcount]
        omega
      · exact Nat.le_trans (Nat.sub_le _ _) (h.cap k hk)
  · show Slots o (l.untrack o i).sockets (l.untrack o i).sem
    rcases untrack_cases o l i with ⟨hsame, -⟩ | ⟨pre, a, post, hi, hphase, hbefore, hafter, hsem⟩
    · rw [hsame]
      exact h
    · have hclosed := hun a hi hphase
      rw [hbefore] at h
      rw [hafter, hsem]
      refine ⟨fun hcap => ?_, h.cap, (forall_mem_replace h.closed).mpr fun _ => hclosed⟩
      -- with a semaphore the slot was given back before
      rw [hcap, if_pos rfl] at hphase
      rw [h.count hcap, List.countP_append, List.countP_append,
        List.countP_cons_of_neg (by simp [holds, hphase]),
        List.countP_cons_of_neg (by simp [holds])]
  · exact moves_slots hmove h

theorem openSockets_le {o : Options} {l : Listener σ} (h : Slots o l.sockets l.sem)
    (hmax : 0 < o.maxConns) : (openSockets l : Int) ≤ o.maxConns := by
  have hcap : o.semCap = some o.maxConns.toNat := if_pos hmax
  have hcount := h.count (by rw [hcap]; rfl)
  have hle := h.cap _ hcap
  have hopen : openSockets l ≤ l.sockets.countP holds := by
    refine List.countP_mono_left fun a ha hopen => ?_
    cases hh : holds a with
    | true => rfl
    | false =>
      rw [h.closed a ha hh] at hopen
      cases hopen
  omega

/-! ## Runs -/

/-- **Which sockets are left open.** In a run of the accept loop every accepted socket is at all
    times closed or tracked if and only if each socket is closed by the time it is untracked;
    and if each is closed by the time its slot is given back as well, the open sockets are at no
    time more than `maxConns`. -/
theorem sockets_bounded (s : Server σ) (md5 : Crypto.Md5) (o : Options) (st : State σ)
    (acts : List LoopAct) :
    ((∀ pre, pre <+: acts → AccountedFor (Run.after (Listener.step s md5 o) { st } pre)) ↔
      ∀ pre act, pre ++ [act] <+: acts →
        UntracksClosed o (Run.after (Listener.step s md5 o) { st } pre) act) ∧
    ((∀ pre act, pre ++ [act] <+: acts →
        UntracksClosed o (Run.after (Listener.step s md5 o) { st } pre) act ∧
        ReleasesClosed o (Run.after (Listener.step s md5 o) { st } pre) act) →
      ∀ pre, pre <+: acts →
        AccountedFor (Run.after (Listener.step s md5 o) { st } pre) ∧
        (0 < o.maxConns →
          (openSockets (Run.after (Listener.step s md5 o) { st } pre) : Int) ≤ o.maxConns)) := by
  have hiff := Run.forall_prefix_iff (P := fun _ (l : Listener σ) => AccountedFor l)
    (s := ({ st } : Listener σ)) (fun a ha => by cases ha)
    (fun _ l act hl => accounted_step_iff s md5 o act hl) acts
  refine ⟨hiff, ?_⟩
  intro hcond pre hpre
  refine ⟨hiff.mpr (fun pre act h => (hcond pre act h).1) pre hpre, fun hmax => ?_⟩
  refine openSockets_le ?_ hmax
  refine Run.forall_prefix (P := fun _ (l : Listener σ) => Slots o l.sockets l.sem)
    (C := fun l act => UntracksClosed o l act ∧ ReleasesClosed o l act) ?_
    (fun _ l act hl hc => slots_step s md5 o hl hc.2 hc.1) hcond pre hpre
  refine ⟨fun _ => rfl, fun _ _ => Nat.zero_le _, fun a ha => ?_⟩
  cases ha

/-- A capacity of one, and two clients: the first hangs up, its goroutine ends, and the second is
    accepted. The first socket is neither closed nor tracked, and two sockets are open. -/
theorem sockets_leak :
    let cfg : Config Unit := { handler := askAgain, mode := .tls }
    let o : Options := { maxConns := 1, mode := .tls, secret := [] }
    let l := Run.after (Listener.step (new cfg) default o) { st := State.init cfg () }
      [.accept (lit "10.0.0.1:5000") [], .serve 0 { t := ⟨0, 0⟩ }, .release 0, .untrack 0,
        .accept (lit "10.0.0.2:5000") []]
    l.sockets.map (fun a => (a.closed, a.tracked)) = [(false, false), (false, true)] ∧
      openSockets l = 2 ∧ o.maxConns = 1 := by
  decide

end Cli
end Proof
end Tacacs
