import Mathlib.Data.List.DropRight
import Tacacs.Errors

/-!
# `yang/watch.go` — reloading a file when it changes

`WatchFile` puts a watch on the directory of the file, loads the file once, and leaves a goroutine
that loads it again whenever it has changed. The events come through a queue, and what they
announce may be out of date when they are taken from it; and a load takes time, in which the file
may change as well. So there are two kinds of steps here, in any order: what others do to the
files of the directory, and what `WatchFile` and its goroutine do next.

A load that the file is changed under may see the old contents, the new ones or a mixture. What
is logged is left out.
-/

set_option autoImplicit false

namespace Tacacs
namespace Yang

open GoSem

/-- `filepath.Base`, with slashes. -/
def base (path : GoString) : GoString :=
  if path = [] then lit "."
  else
    let last := (path.rdropWhile (· = 0x2f)).rtakeWhile (· ≠ 0x2f)
    if last = [] then lit "/" else last

/-- The arguments of `WatchFile`, and the name that `fsnotify` has for the file. `φ` is what a file
    may hold, and `τ` what the callback works on. -/
structure Watched (φ τ : Type) where
  path : GoString
  fn : τ → φ → τ × Option GoError
  name : GoString
  base_name : base name = base path

/-- Where `WatchFile` or its goroutine stands: before it has a watcher, in a call of `fn`, in the
    `select`, or at its end. `clean` says that the file has not changed since the call began. -/
inductive WatchPhase where
  | start
  | loading (clean : Bool)
  | waiting
  | stopped
deriving DecidableEq, Repr

structure Watcher (φ τ : Type) where
  file : φ
  state : τ
  phase : WatchPhase := .start
  events : List GoString := []
  pending : Bool := false
  cancelled : Bool := false
deriving DecidableEq, Repr

inductive WatchAct (φ : Type) where
  /-- The file has new contents, or is gone, or is back. -/
  | change (contents : φ)
  /-- Something happens to another file of the directory. -/
  | other (name : GoString)
  | cancel
  /-- `fsnotify.NewWatcher` and `w.Add` have returned. -/
  | added (err : Option GoError)
  /-- `fn` has returned. It has read the file, or `seen` if the file was changed meanwhile. -/
  | loaded (seen : φ)
  | done
  | event
  | error (err : GoError)
  /-- One of the two channels of the watcher is closed. -/
  | closed
  | tick
deriving DecidableEq, Repr

/-- A call of `fn`: what it read and what it returned. -/
structure Load (φ : Type) where
  contents : φ
  err : Option GoError
deriving DecidableEq, Repr

section Step

variable {φ τ : Type}

def WatchPhase.disturbed : WatchPhase → WatchPhase
  | .loading _ => .loading false
  | phase => phase

/-- The watcher reports what happens in the directory from `w.Add` on. -/
def Watcher.report (s : Watcher φ τ) (name : GoString) : Watcher φ τ :=
  match s.phase with
  | .start => s
  | _ => { s with events := s.events ++ [name] }

namespace Watched

variable (w : Watched φ τ)

/-- Whether an event is about the file: the goroutine looks at the last element of its name. -/
def Own (name : GoString) : Prop := base name = base w.path

instance (name : GoString) : Decidable (w.Own name) := decEq _ _

/-- A case of the `select`, or what comes before the loop. -/
def step (s : Watcher φ τ) : WatchAct φ → Watcher φ τ × Option (Load φ)
  | .change contents =>
      ({ s with file := contents, phase := s.phase.disturbed }.report w.name, none)
  | .other name => (s.report name, none)
  | .cancel => ({ s with cancelled := true }, none)
  | .added err =>
      match s.phase, err with
      | .start, none => ({ s with phase := .loading true }, none)
      | .start, some _ => ({ s with phase := .stopped }, none)
      | _, _ => (s, none)
  | .loaded seen =>
      match s.phase with
      | .loading clean =>
          let contents := if clean then s.file else seen
          let (state, err) := w.fn s.state contents
          -- whether or not the load has failed, the goroutine goes on
          ({ s with state, phase := .waiting }, some { contents, err })
      | _ => (s, none)
  | .done =>
      match s.phase with
      | .waiting => (if s.cancelled then { s with phase := .stopped } else s, none)
      | _ => (s, none)
  | .event =>
      match s.phase, s.events with
      | .waiting, name :: events =>
          ({ s with events, pending := s.pending || decide (w.Own name) }, none)
      | _, _ => (s, none)
  | .error _ => (s, none)
  | .closed =>
      match s.phase with
      | .waiting => ({ s with phase := .stopped }, none)
      | _ => (s, none)
  | .tick =>
      match s.phase, s.pending with
      | .waiting, true => ({ s with pending := false, phase := .loading true }, none)
      | _, _ => (s, none)

/-- The same while others use what the callback works on. -/
def stepWith {ι ο : Type} (use : τ → ι → τ × ο) (s : Watcher φ τ) :
    WatchAct φ ⊕ ι → Watcher φ τ × (Option (Load φ) ⊕ ο)
  | .inl a =>
      let (s, load) := w.step s a
      (s, .inl load)
  | .inr i =>
      let (state, o) := use s.state i
      ({ s with state }, .inr o)

end Watched

/-- The calls of `fn` in what a run gives. -/
def loads {ο : Type} (os : List (Option (Load φ) ⊕ ο)) : List (Load φ) :=
  os.filterMap fun o => o.elim id fun _ => none

end Step

/-! ## `Watch` -/

section Channel

variable {φ κ : Type}

/-- The channel of `Watch`, which has room for one configuration, and what was received from
    it. -/
structure Feed (κ : Type) where
  chan : Option κ := none
  received : List κ := []
deriving DecidableEq, Repr

/-- The callback of `Watch`. A configuration for which there is no room is dropped. -/
def Feed.send (load : φ → Except GoError κ) (feed : Feed κ) (contents : φ) :
    Feed κ × Option GoError :=
  match load contents with
  | .error err => (feed, some err)
  | .ok cfg =>
      match feed.chan with
      | none => ({ feed with chan := some cfg }, none)
      | some _ => (feed, none)

/-- `Watch`; the channel starts empty. -/
def watch (load : φ → Except GoError κ) (path name : GoString) (h : base name = base path) :
    Watched φ (Feed κ) where
  path := path
  fn := Feed.send load
  name := name
  base_name := h

/-- A receive; it blocks on an empty channel. -/
def Feed.receive (feed : Feed κ) (_ : Unit) : Feed κ × Unit :=
  match feed.chan with
  | none => (feed, ())
  | some cfg => ({ chan := none, received := feed.received ++ [cfg] }, ())

end Channel

end Yang
end Tacacs
