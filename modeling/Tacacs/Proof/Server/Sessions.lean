import Tacacs.Server.Sessions

/-!
# The registry as a partial map

Seen from outside, a session manager is the function `get`, from session ids to contexts, and
each operation is one update of it. The lemmas here say which; the proofs above this module
never look at the association list or at the metrics.
-/

set_option autoImplicit false

namespace Tacacs
namespace Proof
namespace Server

open Tacacs.Server

variable (sm : SessionManager)

/-! ## The operations -/

@[simp] theorem get_observe (o : Observation) : (sm.observe o).get = sm.get := rfl

theorem get_insert (id : UInt32) (ctx : SessionContext) :
    (fun k => (sm.sessions.insert id ctx).lookup k) = Function.update sm.get id (some ctx) := by
  funext k
  by_cases hk : k = id
  · subst hk
    rw [Function.update_self, AList.lookup_insert]
  · rw [Function.update_of_ne hk, AList.lookup_insert_ne hk]
    rfl

theorem get_erase (id : UInt32) :
    (fun k => (sm.sessions.erase id).lookup k) = Function.update sm.get id none := by
  funext k
  by_cases hk : k = id
  · subst hk
    rw [Function.update_self, AList.lookup_erase]
  · rw [Function.update_of_ne hk, AList.lookup_erase_ne hk]
    rfl

/-- Removing what is not there changes nothing. -/
theorem update_absent {sm : SessionManager} {id : UInt32} (h : sm.get id = none) :
    Function.update sm.get id none = sm.get := by
  rw [← h, Function.update_eq_self]

theorem get_set (now : Int) (id : UInt32) (ctx : SessionContext) :
    (sm.set now id ctx).get
      = Function.update sm.get id (some { ctx with createdAt := now, lastActive := now }) := by
  unfold SessionManager.set
  cases (sm.sessions.lookup id).isSome with
  | true => exact get_insert sm id _
  | false => exact get_insert sm id _

theorem get_update (now : Int) (id : UInt32) (fn : SessionContext → SessionContext) :
    (sm.update now id fn).get
      = Function.update sm.get id
          ((sm.get id).map fun ctx => fn { ctx with lastActive := now }) := by
  unfold SessionManager.update
  cases h : sm.sessions.lookup id with
  | none =>
    have hg : sm.get id = none := h
    rw [hg, Option.map_none]
    exact (update_absent hg).symm
  | some ctx =>
    have hg : sm.get id = some ctx := h
    rw [hg]
    exact get_insert sm id _

theorem get_delete (id : UInt32) :
    (sm.delete id).get = Function.update sm.get id none := by
  unfold SessionManager.delete
  cases h : sm.sessions.lookup id with
  | none =>
    exact (update_absent h).symm
  | some ctx => exact get_erase sm id

/-! ## The sweeper -/

/-- A session whose idle time has not passed the time to live. -/
def live (ttl now : Int) (ctx : SessionContext) : Bool := !decide (now - ctx.lastActive > ttl)

@[simp] theorem ttl_sweepEntry (now : Int) (id : UInt32) : (sm.sweepEntry now id).ttl = sm.ttl := by
  unfold SessionManager.sweepEntry
  cases sm.sessions.lookup id with
  | none => rfl
  | some ctx =>
    dsimp only
    split <;> rfl

theorem get_sweepEntry (now : Int) (id : UInt32) :
    (sm.sweepEntry now id).get
      = Function.update sm.get id ((sm.get id).filter (live sm.ttl now)) := by
  unfold SessionManager.sweepEntry
  cases h : sm.sessions.lookup id with
  | none =>
    have hg : sm.get id = none := h
    rw [hg, Option.filter_none]
    exact (update_absent hg).symm
  | some ctx =>
    have hg : sm.get id = some ctx := h
    dsimp only
    by_cases hexp : now - ctx.lastActive > sm.ttl
    · rw [if_pos hexp, hg, Option.filter_some_neg (by simp [live, hexp])]
      exact get_erase sm id
    · rw [if_neg hexp, hg, Option.filter_some_pos (by simp [live, hexp]), ← hg,
        Function.update_eq_self]

theorem ttl_foldl_sweepEntry (now : Int) (ids : List UInt32) :
    (ids.foldl (fun sm id => sm.sweepEntry now id) sm).ttl = sm.ttl := by
  induction ids generalizing sm with
  | nil => rfl
  | cons id ids ih => rw [List.foldl_cons, ih, ttl_sweepEntry]

/-- Sweeping some ids filters those and leaves the others; sweeping one twice is harmless. -/
theorem get_foldl_sweepEntry (now : Int) (ids : List UInt32) (k : UInt32) :
    (ids.foldl (fun sm id => sm.sweepEntry now id) sm).get k
      = if k ∈ ids then (sm.get k).filter (live sm.ttl now) else sm.get k := by
  induction ids generalizing sm with
  | nil => rfl
  | cons id ids ih =>
    rw [List.foldl_cons, ih, ttl_sweepEntry, get_sweepEntry]
    by_cases hk : k = id
    · subst hk
      rw [Function.update_self, Option.filter_filter]
      simp
    · rw [Function.update_of_ne hk]
      simp [hk]

@[simp] theorem ttl_sweepExpired (now : Int) : (sm.sweepExpired now).ttl = sm.ttl :=
  ttl_foldl_sweepEntry sm now _

/-- `SweepExpired` keeps exactly the live sessions. -/
theorem get_sweepExpired (now : Int) (id : UInt32) :
    (sm.sweepExpired now).get id = (sm.get id).filter (live sm.ttl now) := by
  unfold SessionManager.sweepExpired
  rw [get_foldl_sweepEntry]
  by_cases hk : id ∈ sm.sessions.keys
  · rw [if_pos hk]
  · have hg : sm.get id = none := AList.lookup_eq_none.mpr hk
    rw [if_neg hk, hg, Option.filter_none]

end Server
end Proof
end Tacacs
