import Tacacs.Lib.Run
import Tacacs.Yang.Watch

/-!
# Watching a file

An event is put into the queue together with the change it announces, and it is taken from the
queue before the flag is set that leads to the next load. So as long as the last load has not
seen what the file holds, there is an event in the queue or the flag is set (`Tracks`). Nothing
else is needed, and it does not matter what others do with what the callback works on.

What a step can do is said once, by `Moves`; the invariants go over its cases.
-/

set_option autoImplicit false

namespace Tacacs
namespace Proof
namespace Yang

open GoSem Tacacs.Yang

variable {φ τ ι ο : Type} {w : Watched φ τ} {use : τ → ι → τ × ο} {ls : List (Load φ)}
  {s s' : Watcher φ τ} {a : WatchAct φ} {o : Option (Load φ)}

/-! ## Steps -/

/-- From `s` to `s'`, with a call of `fn` or without one. -/
inductive Moves (w : Watched φ τ) (s : Watcher φ τ) :
    WatchAct φ → Watcher φ τ → Option (Load φ) → Prop where
  | unwatched (contents : φ) : s.phase = .start →
      Moves w s (.change contents) { s with file := contents } none
  | changed (contents : φ) : s.phase ≠ .start →
      Moves w s (.change contents) { s with file := contents, phase := s.phase.disturbed,
                                            events := s.events ++ [w.name] } none
  | reported (name : GoString) :
      Moves w s (.other name) { s with events := s.events ++ [name] } none
  | cancelled : Moves w s .cancel { s with cancelled := true } none
  | began : s.phase = .start → Moves w s (.added none) { s with phase := .loading true } none
  | loaded (clean : Bool) (seen contents : φ) : s.phase = .loading clean →
      contents = (if clean then s.file else seen) →
      Moves w s (.loaded seen) { s with state := (w.fn s.state contents).1, phase := .waiting }
        (some ⟨contents, (w.fn s.state contents).2⟩)
  | took (name : GoString) (events : List GoString) : s.phase = .waiting →
      s.events = name :: events →
      Moves w s .event { s with events, pending := s.pending || decide (w.Own name) } none
  | fired : s.phase = .waiting → s.pending = true →
      Moves w s .tick { s with pending := false, phase := .loading true } none
  | ended {a : WatchAct φ} : (∀ contents, a ≠ .change contents) →
      Moves w s a { s with phase := .stopped } none
  | stayed {a : WatchAct φ} : (∀ contents, a ≠ .change contents) → Moves w s a s none

theorem step_moves (w : Watched φ τ) (s : Watcher φ τ) (a : WatchAct φ) :
    Moves w s a (w.step s a).1 (w.step s a).2 := by
  unfold Watched.step
  cases a with
  | change contents =>
    obtain ⟨file, state, phase, events, pending, cancelled⟩ := s
    cases phase with
    | start => exact .unwatched contents rfl
    | loading clean => exact .changed contents fun h => (by cases h)
    | waiting => exact .changed contents fun h => (by cases h)
    | stopped => exact .changed contents fun h => (by cases h)
  | other name =>
    dsimp only [Watcher.report]
    split
    · exact .stayed (by simp)
    · exact .reported name
  | cancel => exact .cancelled
  | added err =>
    dsimp only
    split
    · next hphase => exact .began hphase
    · exact .ended (by simp)
    · exact .stayed (by simp)
  | loaded seen =>
    dsimp only
    split
    · next clean hphase => exact .loaded clean seen _ hphase rfl
    · exact .stayed (by simp)
  | done =>
    dsimp only
    split
    · split
      · exact .ended (by simp)
      · exact .stayed (by simp)
    · exact .stayed (by simp)
  | event =>
    dsimp only
    split
    · next name events hphase hevents => exact .took name events hphase hevents
    · exact .stayed (by simp)
  | error err => exact .stayed (by simp)
  | closed =>
    dsimp only
    split
    · exact .ended (by simp)
    · exact .stayed (by simp)
  | tick =>
    dsimp only
    split
    · next hphase hpending => exact .fired hphase hpending
    · exact .stayed (by simp)

/-- A step calls `fn` once, or leaves what it works on as it is. -/
theorem Moves.state (h : Moves w s a s' o) :
    (∃ seen contents, a = .loaded seen ∧ o = some ⟨contents, (w.fn s.state contents).2⟩ ∧
      s'.state = (w.fn s.state contents).1) ∨ (o = none ∧ s'.state = s.state) := by
  cases h with
  | loaded clean seen contents _ _ => exact .inl ⟨seen, contents, rfl, rfl, rfl⟩
  | unwatched | changed | reported | cancelled | began | took | fired | ended | stayed =>
    exact .inr ⟨rfl, rfl⟩

theorem loads_snoc (os : List (Option (Load φ) ⊕ ο)) (o : Option (Load φ) ⊕ ο) :
    loads (os ++ [o]) = loads os ++ (o.elim id fun _ => none).toList := by
  unfold loads
  rw [List.filterMap_append]
  cases o with
  | inl load => cases load <;> rfl
  | inr o => rfl

/-! ## No change goes unnoticed -/

/-- The last load has seen what the file holds. -/
def Current (ls : List (Load φ)) (s : Watcher φ τ) : Prop :=
  ls.getLast?.map Load.contents = some s.file

/-- An event about the file is in the queue. -/
def Announced (w : Watched φ τ) (s : Watcher φ τ) : Prop := ∃ name ∈ s.events, w.Own name

structure Tracks (w : Watched φ τ) (ls : List (Load φ)) (s : Watcher φ τ) : Prop where
  waiting : s.phase = .waiting → Current ls s ∨ s.pending = true ∨ Announced w s
  disturbed : s.phase = .loading false → Announced w s

theorem Announced.mono (h : Announced w s) (hsub : ∀ name ∈ s.events, name ∈ s'.events) :
    Announced w s' := by
  obtain ⟨name, hmem, hown⟩ := h
  exact ⟨name, hsub name hmem, hown⟩

theorem current_snoc (l : Load φ) (hfile : l.contents = s.file) : Current (ls ++ [l]) s := by
  rw [Current, List.getLast?_concat]
  exact congrArg some hfile

theorem Moves.tracks (hm : Moves w s a s' o) (h : Tracks w ls s) :
    Tracks w (ls ++ o.toList) s' := by
  have hname : w.Own w.name := w.base_name
  cases hm with
  | unwatched contents hphase =>
    exact ⟨fun hw => (by rw [hphase] at hw; cases hw), fun hd => (by rw [hphase] at hd; cases hd)⟩
  | changed contents _ =>
    have hann : Announced w { s with file := contents, phase := s.phase.disturbed,
                                     events := s.events ++ [w.name] } :=
      ⟨w.name, List.mem_append_right _ (.head _), hname⟩
    exact ⟨fun _ => .inr (.inr hann), fun _ => hann⟩
  | reported name =>
    rw [Option.toList_none, List.append_nil]
    refine ⟨fun hphase => ?_, fun hphase => ?_⟩
    · rcases h.waiting hphase with hcur | hpending | hann
      · exact .inl hcur
      · exact .inr (.inl hpending)
      · exact .inr (.inr (hann.mono fun _ => List.mem_append_left _))
    · exact (h.disturbed hphase).mono fun _ => List.mem_append_left _
  | cancelled =>
    rw [Option.toList_none, List.append_nil]
    exact ⟨h.waiting, h.disturbed⟩
  | began _ => exact ⟨fun hw => (by cases hw), fun hd => (by cases hd)⟩
  | loaded clean seen contents hphase hseen =>
    refine ⟨fun _ => ?_, fun hd => (by cases hd)⟩
    cases clean with
    | true => exact .inl (current_snoc _ hseen)
    | false => exact .inr (.inr ((h.disturbed hphase).mono fun _ hmem => hmem))
  | took name events hphase hevents =>
    rw [Option.toList_none, List.append_nil]
    refine ⟨fun _ => ?_, fun hd => (by rw [hphase] at hd; cases hd)⟩
    rcases h.waiting hphase with hcur | hpending | ⟨name', hmem, hown⟩
    · exact .inl hcur
    · exact .inr (.inl (by simp [hpending]))
    · rw [hevents] at hmem
      cases hmem with
      | head => exact .inr (.inl (by simp [hown]))
      | tail _ hmem => exact .inr (.inr ⟨name', hmem, hown⟩)
  | fired _ _ => exact ⟨fun hw => (by cases hw), fun hd => (by cases hd)⟩
  | ended _ => exact ⟨fun hw => (by cases hw), fun hd => (by cases hd)⟩
  | stayed _ =>
    rw [Option.toList_none, List.append_nil]
    exact h

theorem Tracks.current (h : Tracks w ls s) (hphase : s.phase = .waiting)
    (hpending : s.pending = false) (htaken : ¬Announced w s) : Current ls s := by
  rcases h.waiting hphase with hcur | hpending' | hann
  · exact hcur
  · rw [hpending] at hpending'
    cases hpending'
  · exact absurd hann htaken

/-- What survives the steps that meet a condition survives a run of such steps, if it does not
    look at what others use. -/
theorem watch_induction (w : Watched φ τ) (use : τ → ι → τ × ο)
    (P : List (Load φ) → Watcher φ τ → Prop) (C : WatchAct φ → Prop)
    (huse : ∀ ls s state, P ls s → P ls { s with state })
    (hstep : ∀ ls s a s' o, C a → Moves w s a s' o → P ls s → P (ls ++ o.toList) s')
    (os : List (Option (Load φ) ⊕ ο)) (s : Watcher φ τ) (h : P (loads os) s)
    (acts : List (WatchAct φ ⊕ ι)) (hacts : ∀ a, .inl a ∈ acts → C a) :
    P (loads (os ++ Run.outputs (w.stepWith use) s acts)) (Run.after (w.stepWith use) s acts) := by
  refine Run.run_induction (w.stepWith use)
    (fun is os' s => (∀ a, .inl a ∈ is → C a) → P (loads (os ++ os')) s) ?_ ?_ acts hacts
  · intro _
    rw [List.append_nil]
    exact h
  · intro is os' s a ih his
    have hnow := ih fun a ha => his a (List.mem_append_left _ ha)
    rw [← List.append_assoc, loads_snoc]
    cases a with
    | inl a => exact hstep _ s a _ _ (his a (by simp)) (step_moves w s a) hnow
    | inr i =>
      show P (_ ++ []) _
      rw [List.append_nil]
      exact huse _ s _ hnow

theorem tracks_run (w : Watched φ τ) (use : τ → ι → τ × ο) (file : φ) (state : τ)
    (acts : List (WatchAct φ ⊕ ι)) :
    Tracks w (loads (Run.outputs (w.stepWith use) { file, state } acts))
      (Run.after (w.stepWith use) { file, state } acts) := by
  refine watch_induction w use (Tracks w) (fun _ => True) (fun _ _ _ h => ⟨h.waiting, h.disturbed⟩)
    (fun _ _ _ _ _ _ hm h => hm.tracks h) [] _ ?_ acts fun _ _ => trivial
  exact ⟨fun h => (by cases h), fun h => (by cases h)⟩

/-! ## Catching up -/

/-- The loads have seen the file as it is, or the one under way will. -/
structure Settled (ls : List (Load φ)) (s : Watcher φ τ) : Prop where
  waiting : s.phase = .waiting → Current ls s
  undisturbed : s.phase ≠ .loading false

theorem Moves.settled (hm : Moves w s a s' o) (ha : ∀ contents, a ≠ .change contents)
    (h : Settled ls s) : Settled (ls ++ o.toList) s' := by
  cases hm with
  | unwatched contents _ => exact absurd rfl (ha contents)
  | changed contents _ => exact absurd rfl (ha contents)
  | reported | cancelled | took | stayed =>
    rw [Option.toList_none, List.append_nil]
    exact ⟨h.waiting, h.undisturbed⟩
  | began | fired | ended => exact ⟨fun hw => (by cases hw), fun hd => (by cases hd)⟩
  | loaded clean seen contents hphase hseen =>
    refine ⟨fun _ => ?_, fun hd => (by cases hd)⟩
    cases clean with
    | true => exact current_snoc _ hseen
    | false => exact absurd hphase h.undisturbed

/-- A tick finds what the events have left, or there is nothing to be done. -/
theorem Tracks.settled_tick (h : Tracks w ls s) (hphase : s.phase = .waiting)
    (htaken : ¬Announced w s) :
    (w.step s .tick).2 = none ∧ Settled ls (w.step s .tick).1 := by
  dsimp only [Watched.step]
  rw [hphase]
  cases hpending : s.pending with
  | true => exact ⟨rfl, fun hw => (by cases hw), fun hd => (by cases hd)⟩
  | false =>
    exact ⟨rfl, fun _ => h.current hphase hpending htaken,
      fun hd => (by rw [hphase] at hd; cases hd)⟩

/-- **No change is lost.** Let the files of the directory change at any time, even while the file
    is being read, and let others use what the callback works on as they like. Once the goroutine
    has taken the events about the file from the queue, one tick is enough: whenever it waits
    again after that, and the file was not changed meanwhile, the last load has seen the file as
    it is. The watch is put in place before the first load, so this holds from the beginning. -/
theorem watchFile_misses_no_change (w : Watched φ τ) (use : τ → ι → τ × ο) (file : φ) (state : τ)
    (acts more : List (WatchAct φ ⊕ ι)) :
    let init : Watcher φ τ := { file, state }
    let run := acts ++ .inl .tick :: more
    let s := Run.after (w.stepWith use) init acts
    let s' := Run.after (w.stepWith use) init run
    s.phase = .waiting → (∀ name ∈ s.events, ¬w.Own name) →
      (∀ a, .inl a ∈ more → ∀ contents, a ≠ .change contents) → s'.phase = .waiting →
      Current (loads (Run.outputs (w.stepWith use) init run)) s' := by
  intro init run s s' hphase htaken hmore hwaiting
  have htracks : Tracks w (loads (Run.outputs (w.stepWith use) init acts)) s :=
    tracks_run w use file state acts
  have hnone : ¬Announced w s := by
    rintro ⟨name, hmem, hown⟩
    exact htaken name hmem hown
  obtain ⟨hout, htick⟩ := htracks.settled_tick hphase hnone
  have hnext : Settled (loads (Run.outputs (w.stepWith use) init acts ++ [.inl none]))
      (w.step s .tick).1 := by
    rw [loads_snoc]
    simpa using htick
  have hsettled := watch_induction w use Settled
    (fun a => ∀ contents, a ≠ .change contents) (fun _ _ _ h => ⟨h.waiting, h.undisturbed⟩)
    (fun _ _ _ _ _ ha hm h => hm.settled ha h) _ _ hnext more hmore
  have hrun : Run.outputs (w.stepWith use) init run = Run.outputs (w.stepWith use) init acts ++
      [.inl none] ++ Run.outputs (w.stepWith use) (w.step s .tick).1 more := by
    rw [Run.outputs_append, Run.outputs_cons, ← hout, List.append_assoc]
    rfl
  have hafter : s' = Run.after (w.stepWith use) (w.step s .tick).1 more := Run.after_append ..
  rw [hafter] at hwaiting ⊢
  rw [hrun]
  exact hsettled.waiting hwaiting

def usersFile : Watched Nat Unit where
  path := lit "conf/users.yaml"
  fn _ _ := ((), none)
  name := lit "conf/users.yaml"
  base_name := rfl

/-- The file is changed while it is loaded for the first time. -/
theorem watchFile_misses_no_change_early :
    let init : Watcher Nat Unit := { file := 0, state := () }
    let step := usersFile.stepWith fun (_ : Unit) (_ : Unit) => ((), ())
    let run := [.inl (.added none), .inl (.change 1), .inl (.loaded 7), .inl .event] ++
      .inl .tick :: [.inl (.loaded 0)]
    Current (loads (Run.outputs step init run)) (Run.after step init run) :=
  watchFile_misses_no_change usersFile _ 0 () _ [.inl (.loaded 0)] rfl (by decide)
    (by rintro a ha contents rfl; simp at ha) rfl

/-! ## No load without a reason -/

def busy : WatchPhase → Nat
  | .start => 1
  | .loading _ => 1
  | .waiting => 0
  | .stopped => 0

/-- The loads that are under way or will come of what is known already, at most. -/
def owed (w : Watched φ τ) (s : Watcher φ τ) : Nat :=
  busy s.phase + s.pending.toNat + s.events.countP fun name => decide (w.Own name)

/-- What puts an event about the file into the queue. -/
def reports (w : Watched φ τ) : WatchAct φ ⊕ ι → Bool
  | .inl (.change _) => true
  | .inl (.other name) => decide (w.Own name)
  | _ => false

def isTick : WatchAct φ ⊕ ι → Bool
  | .inl .tick => true
  | _ => false

theorem busy_disturbed (phase : WatchPhase) :
    busy phase.disturbed = busy phase := by
  cases phase <;> rfl

theorem Moves.owed_le (hm : Moves w s a s' o) :
    o.toList.length + owed w s' ≤ owed w s + (reports w (.inl a : WatchAct φ ⊕ ι)).toNat := by
  have hname : w.Own w.name := w.base_name
  cases hm with
  | unwatched contents _ => simp [owed]
  | changed contents _ => simp [owed, busy_disturbed, reports, hname]; omega
  | reported name =>
    by_cases hown : w.Own name
    · simp [owed, reports, hown]; omega
    · simp [owed, reports, hown]
  | cancelled => simp [owed]
  | began hphase => simp [owed, hphase, busy]
  | loaded clean seen contents hphase _ => simp [owed, hphase, busy]; omega
  | took name events hphase hevents =>
    by_cases hown : w.Own name
    · cases hpending : s.pending <;> simp [owed, hphase, hevents, hown, hpending] <;> omega
    · simp [owed, hphase, hevents, hown]
  | fired hphase hpending => simp [owed, hphase, hpending, busy]
  | ended _ => simp [owed, busy]; omega
  | stayed _ => simp

theorem Moves.busy_le (hm : Moves w s a s' o) :
    o.toList.length + busy s'.phase ≤
      busy s.phase + (isTick (.inl a : WatchAct φ ⊕ ι)).toNat := by
  cases hm with
  | unwatched | reported | cancelled | took | stayed => simp
  | changed contents _ => simp [busy_disturbed]
  | began hphase => simp [hphase, busy]
  | loaded clean seen contents hphase _ => simp [hphase, busy]
  | fired hphase _ => simp [hphase, busy, isTick]
  | ended _ => simp [busy]

/-- If each load is paid for by a step, there are no more loads than such steps. -/
theorem loads_length_le (w : Watched φ τ) (use : τ → ι → τ × ο) (paid : Watcher φ τ → Nat)
    (pays : WatchAct φ ⊕ ι → Bool) (huse : ∀ s state, paid { s with state } = paid s)
    (hstep : ∀ s a s' o, Moves w s a s' o →
      o.toList.length + paid s' ≤ paid s + (pays (.inl a)).toNat)
    (s : Watcher φ τ) (acts : List (WatchAct φ ⊕ ι)) :
    (loads (Run.outputs (w.stepWith use) s acts)).length ≤ paid s + acts.countP pays := by
  have hrun := Run.run_induction (w.stepWith use)
    (fun is os s' => (loads os).length + paid s' ≤ paid s + is.countP pays)
    (s := s) (by simp [loads]) ?_ acts
  · omega
  · intro is os s' a h
    rw [loads_snoc, List.length_append, List.countP_append, List.countP_singleton]
    cases a with
    | inl a =>
      have ha := hstep s' a _ _ (step_moves w s' a)
      simp only [Watched.stepWith, Sum.elim_inl, id]
      cases hpays : pays (.inl a) <;> simp [hpays] at ha ⊢ <;> omega
    | inr i =>
      simp only [Watched.stepWith, Sum.elim_inr, Option.toList_none, List.length_nil, huse]
      omega

/-- **Changes are gathered.** Besides the first load there is at most one load for each event about
    the file, and at most one for each tick, however many events there were. What happens to the
    other files of the directory leads to no load. -/
theorem watchFile_gathers_changes (w : Watched φ τ) (use : τ → ι → τ × ο) (file : φ) (state : τ)
    (acts : List (WatchAct φ ⊕ ι)) :
    let ls := loads (Run.outputs (w.stepWith use) { file, state } acts)
    ls.length ≤ 1 + acts.countP (reports w) ∧ ls.length ≤ 1 + acts.countP isTick :=
  ⟨loads_length_le w use (owed w) (reports w) (fun _ _ => rfl) (fun _ _ _ _ h => h.owed_le) _ acts,
    loads_length_le w use (fun s => busy s.phase) isTick (fun _ _ => rfl)
      (fun _ _ _ _ h => h.busy_le) _ acts⟩

/-! ## The channel of `Watch` -/

section Channel

variable {κ : Type} {load : φ → Except GoError κ}

/-- What the receiver has received or may still receive. -/
def delivered (feed : Feed κ) : List κ := feed.received ++ feed.chan.toList

/-- The configurations among the loads. -/
def configs (load : φ → Except GoError κ) (ls : List (Load φ)) : List κ :=
  ls.filterMap fun l => (load l.contents).toOption

theorem configs_append (ls ls' : List (Load φ)) :
    configs load (ls ++ ls') = configs load ls ++ configs load ls' :=
  List.filterMap_append

theorem delivered_receive (feed : Feed κ) :
    delivered (feed.receive ()).1 = delivered feed := by
  unfold Feed.receive delivered
  cases hchan : feed.chan with
  | none => simp [hchan]
  | some cfg => simp

/-- With room in the channel what was loaded is delivered, and without room it is not. -/
theorem delivered_send (feed : Feed κ) (contents : φ) (err : Option GoError) :
    delivered (feed.send load contents).1 = delivered feed ++
      if feed.chan.isNone then configs load [⟨contents, err⟩] else [] := by
  unfold Feed.send delivered configs
  cases hload : load contents with
  | error err => simp [hload, Except.toOption]
  | ok cfg =>
    cases hchan : feed.chan with
    | none => simp [hload, Except.toOption]
    | some old => simp [hchan]

theorem configs_singleton {l : Load φ} {cfg : κ} (h : load l.contents = .ok cfg) :
    configs load [l] = [cfg] := by
  simp [configs, h, Except.toOption]

section Step

variable {path name : GoString} {h : base name = base path} {s : Watcher φ (Feed κ)}

theorem stepWith_delivered (a : WatchAct φ ⊕ Unit) :
    let r := (watch load path name h).stepWith Feed.receive s a
    delivered r.1.state = delivered s.state ++
      if s.state.chan.isNone then configs load (loads [r.2]) else [] := by
  cases a with
  | inl a =>
    rcases (step_moves (watch load path name h) s a).state with
      ⟨seen, contents, -, hout, hstate⟩ | ⟨hout, hstate⟩
    · simp only [Watched.stepWith, hout, hstate]
      exact delivered_send s.state contents _
    · simp [Watched.stepWith, hout, hstate, loads, configs]
  | inr i =>
    show delivered (s.state.receive ()).1 =
      delivered s.state ++ if s.state.chan.isNone then [] else []
    rw [ite_self, List.append_nil]
    exact delivered_receive s.state

/-- Only a load can find the channel full. -/
theorem stepWith_delivered_all {a : WatchAct φ ⊕ Unit}
    (hroom : ∀ seen, a = .inl (.loaded seen) → s.state.chan = none) :
    let r := (watch load path name h).stepWith Feed.receive s a
    delivered r.1.state = delivered s.state ++ configs load (loads [r.2]) := by
  intro r
  have hsome : s.state.chan.isNone = false → configs load (loads [r.2]) = [] := by
    intro hfull
    cases a with
    | inl a =>
      rcases (step_moves (watch load path name h) s a).state with
        ⟨seen, _, rfl, -, -⟩ | ⟨hout, -⟩
      · rw [hroom seen rfl] at hfull
        cases hfull
      · simp [r, Watched.stepWith, hout, loads, configs]
    | inr i => rfl
  have hstep : delivered r.1.state = delivered s.state ++
      if s.state.chan.isNone then configs load (loads [r.2]) else [] := stepWith_delivered a
  cases hroom : s.state.chan.isNone with
  | true => rwa [hroom] at hstep
  | false => rwa [hroom, ← hsome hroom] at hstep

end Step

/-- **What is received is what was loaded.** The receiver gets configurations that were loaded, in
    the order they were loaded in, though a load that finds the channel full is dropped. If the
    receiver keeps up, so that each load finds the channel empty, all of them arrive; and then,
    whenever no event is outstanding, the last one is that of the file as it is, if that loads. -/
theorem watch_delivers_in_order (load : φ → Except GoError κ) (path name : GoString)
    (h : base name = base path) (file : φ) (acts : List (WatchAct φ ⊕ Unit)) :
    let step := (watch load path name h).stepWith Feed.receive
    let init : Watcher φ (Feed κ) := { file, state := {} }
    let s := Run.after step init acts
    let ls := loads (Run.outputs step init acts)
    (delivered s.state).Sublist (configs load ls) ∧
      ((∀ pre seen, pre ++ [.inl (.loaded seen)] <+: acts →
          (Run.after step init pre).state.chan = none) →
        delivered s.state = configs load ls ∧
        (s.phase = .waiting → s.pending = false →
          (∀ name' ∈ s.events, ¬(watch load path name h).Own name') →
          ∀ cfg, load s.file = .ok cfg → (delivered s.state).getLast? = some cfg)) := by
  intro step init s ls
  have happend : ∀ (os : List (Option (Load φ) ⊕ Unit)) o,
      configs load (loads (os ++ [o])) = configs load (loads os) ++ configs load (loads [o]) := by
    intro os o
    rw [loads, List.filterMap_append]
    exact configs_append _ _
  constructor
  · refine Run.run_induction step (s := init)
      (fun _ os s => (delivered s.state).Sublist (configs load (loads os))) .slnil ?_ acts
    intro _ os s a hs
    rw [happend, show delivered (step s a).1.state = _ from stepWith_delivered a]
    refine hs.append ?_
    split
    · exact List.Sublist.refl _
    · exact List.nil_sublist _
  · intro hkeeps
    have hprefix : ∀ pre, pre <+: acts → delivered (Run.after step init pre).state =
        configs load (loads (Run.outputs step init pre)) := by
      refine Run.forall_prefix
        (P := fun (os : List (Option (Load φ) ⊕ Unit)) (s : Watcher φ (Feed κ)) =>
          delivered s.state = configs load (loads os))
        (C := fun (s : Watcher φ (Feed κ)) (a : WatchAct φ ⊕ Unit) =>
          ∀ seen, a = .inl (.loaded seen) → s.state.chan = none) rfl ?_ ?_
      · intro os s a hs hroom
        rw [happend, ← hs]
        exact stepWith_delivered_all hroom
      · rintro pre a hpre seen rfl
        exact hkeeps pre seen hpre
    have hall : delivered s.state = configs load ls := hprefix acts (List.prefix_refl acts)
    refine ⟨hall, fun hphase hpending htaken cfg hcfg => ?_⟩
    have htracks : Tracks (watch load path name h) ls s := tracks_run _ _ file _ acts
    have hcur : Current ls s := htracks.current hphase hpending (by
      rintro ⟨name', hmem, hown⟩
      exact htaken name' hmem hown)
    obtain ⟨l, hlast, hl⟩ := Option.map_eq_some_iff.mp hcur
    obtain ⟨before, hls⟩ := List.getLast?_eq_some_iff.mp hlast
    rw [hall, hls, configs_append, configs_singleton (hl ▸ hcfg)]
    exact List.getLast?_concat

theorem base_tacacsYaml : base (lit "./tacacs.yaml") = base (lit "tacacs.yaml") := by decide

/-- The first load finds the channel empty. -/
theorem watch_delivers_in_order_first :
    let load : Nat → Except GoError Nat := fun n => .ok n
    let step := (watch load _ _ base_tacacsYaml).stepWith Feed.receive
    (delivered (Run.after step { file := 3, state := {} }
      [.inl (.added none), .inl (.loaded 3), .inr ()]).state).getLast? = some 3 := by
  intro load step
  have hkeeps := (watch_delivers_in_order load _ _ base_tacacsYaml 3
    [.inl (.added none), .inl (.loaded 3), .inr ()]).2
  refine (hkeeps ?_).2 rfl rfl (fun _ h => (by cases h)) 3 rfl
  rintro (_ | ⟨a, _ | ⟨b, _ | ⟨c, pre⟩⟩⟩) seen ⟨post, hpost⟩ <;> simp at hpost
  rw [hpost.1]
  rfl

end Channel

end Yang
end Proof
end Tacacs
