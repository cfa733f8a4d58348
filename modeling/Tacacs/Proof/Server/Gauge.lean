import Tacacs.Lib.Run
import Tacacs.Proof.Server.Sessions

/-!
# The gauge of active sessions

The manager never reports how many sessions it holds; it reports each one that comes and each
one that goes. `Balanced` says that the reports add up: as many came and did not go as are
registered now, and at no point of the log did more go than had come.

Every method makes at most one change to the map with each report, so each is one use of
`Balanced.observe` or of `Balanced.replace`; a sweep is as many as it has entries.
-/

set_option autoImplicit false

namespace Tacacs
namespace Proof
namespace Server

open Tacacs.Server

/-- Calls of `IncSessionActive` less calls of `DecSessionActive`. -/
def gauge (log : List Observation) : Int :=
  (log.count .sessionActiveInc : Int) - log.count .sessionActiveDec

/-- How many sessions are registered. -/
def registered (r : Registry) : Nat := r.keys.length

theorem gauge_append (l m : List Observation) : gauge (l ++ m) = gauge l + gauge m := by
  unfold gauge
  rw [List.count_append, List.count_append]
  omega

/-! ## The size of the map -/

theorem registered_insert_new {r : Registry} {id : UInt32} (h : r.lookup id = none)
    (ctx : SessionContext) : registered (r.insert id ctx) = registered r + 1 := by
  have hid : id ∉ r.keys := AList.lookup_eq_none.mp h
  unfold registered
  rw [AList.keys_insert, List.erase_of_not_mem hid, List.length_cons]

theorem registered_insert_old {r : Registry} {id : UInt32} (h : id ∈ r.keys)
    (ctx : SessionContext) : registered (r.insert id ctx) = registered r := by
  unfold registered
  rw [AList.keys_insert, List.length_cons, List.length_erase_of_mem h]
  have hpos := List.length_pos_of_mem h
  omega

theorem registered_erase {r : Registry} {id : UInt32} (h : id ∈ r.keys) :
    registered (r.erase id) + 1 = registered r := by
  unfold registered
  rw [AList.keys_erase, List.length_erase_of_mem h]
  have hpos := List.length_pos_of_mem h
  omega

theorem mem_keys_of_lookup {r : Registry} {id : UInt32} {ctx : SessionContext}
    (h : r.lookup id = some ctx) : id ∈ r.keys := by
  have hsome : (r.lookup id).isSome := by rw [h]; rfl
  exact AList.lookup_isSome.mp hsome

/-! ## What each method does to the reports -/

/-- The reports add up to what is registered, and nothing went that had not come. -/
structure Balanced (sm : SessionManager) : Prop where
  count : gauge sm.metrics = registered sm.sessions
  nonneg : ∀ log, log <+: sm.metrics → 0 ≤ gauge log

/-- A report that says how the size of the map changed. -/
theorem Balanced.observe {sm : SessionManager} (h : Balanced sm) {r : Registry}
    {o : Observation} (hr : (registered r : Int) = registered sm.sessions + gauge [o]) :
    Balanced ({ sm with sessions := r }.observe o) := by
  have hcount : gauge (sm.metrics ++ [o]) = registered r := by
    rw [gauge_append, h.count, hr]
  refine ⟨hcount, ?_⟩
  intro log hlog
  rcases List.prefix_concat_iff.mp hlog with rfl | hold
  · exact hcount ▸ Int.natCast_nonneg (registered r)
  · exact h.nonneg log hold

/-- A change without a report, to a map of the same size. -/
theorem Balanced.replace {sm : SessionManager} (h : Balanced sm) {r : Registry}
    (hr : registered r = registered sm.sessions) : Balanced { sm with sessions := r } :=
  ⟨by rw [hr]; exact h.count, h.nonneg⟩

theorem balanced_new (ttl : Int) : Balanced (newSessionManager ttl) := by
  refine ⟨rfl, ?_⟩
  intro log hlog
  rw [List.prefix_nil.mp hlog]
  exact Int.le_of_eq rfl

theorem Balanced.set {sm : SessionManager} (h : Balanced sm) (now : Int) (id : UInt32)
    (ctx : SessionContext) : Balanced (sm.set now id ctx) := by
  unfold SessionManager.set
  cases hid : sm.sessions.lookup id with
  | none =>
    refine h.observe ?_
    rw [registered_insert_new hid]
    rfl
  | some old => exact h.replace (registered_insert_old (mem_keys_of_lookup hid) _)

theorem Balanced.update {sm : SessionManager} (h : Balanced sm) (now : Int) (id : UInt32)
    (fn : SessionContext → SessionContext) : Balanced (sm.update now id fn) := by
  unfold SessionManager.update
  cases hid : sm.sessions.lookup id with
  | none => exact h
  | some ctx => exact h.replace (registered_insert_old (mem_keys_of_lookup hid) _)

/-- One session goes, and `DecSessionActive` says so. -/
theorem Balanced.erase {sm : SessionManager} (h : Balanced sm) {id : UInt32}
    {ctx : SessionContext} (hid : sm.sessions.lookup id = some ctx) :
    Balanced ({ sm with sessions := sm.sessions.erase id }.observe .sessionActiveDec) := by
  refine h.observe ?_
  have hsize := registered_erase (mem_keys_of_lookup hid)
  have hdec : gauge [.sessionActiveDec] = -1 := rfl
  rw [hdec]
  omega

theorem Balanced.delete {sm : SessionManager} (h : Balanced sm) (id : UInt32) :
    Balanced (sm.delete id) := by
  unfold SessionManager.delete
  cases hid : sm.sessions.lookup id with
  | none => exact h
  | some ctx => exact h.erase hid

theorem Balanced.sweepEntry {sm : SessionManager} (h : Balanced sm) (now : Int) (id : UInt32) :
    Balanced (sm.sweepEntry now id) := by
  unfold SessionManager.sweepEntry
  cases hid : sm.sessions.lookup id with
  | none => exact h
  | some ctx =>
    dsimp only
    by_cases hexp : now - ctx.lastActive > sm.ttl
    · rw [if_pos hexp]
      -- the second report is of the duration, which the gauge does not count
      refine (h.erase hid).observe ?_
      exact (Int.add_zero _).symm
    · rw [if_neg hexp]
      exact h

theorem Balanced.sweep {sm : SessionManager} (h : Balanced sm) (now : Int) (ids : List UInt32) :
    Balanced (ids.foldl (fun sm id => sm.sweepEntry now id) sm) := by
  induction ids generalizing sm with
  | nil => exact h
  | cons id ids ih => exact ih (h.sweepEntry now id)

/-! ## Whole runs -/

theorem ttl_call (sm : SessionManager) (c : Int × SessionCall) : (sm.call c).1.ttl = sm.ttl := by
  obtain ⟨now, c⟩ := c
  cases c with
  | get id => rfl
  | set id ctx =>
    unfold SessionManager.call SessionManager.set
    dsimp only
    split <;> rfl
  | update id fn =>
    unfold SessionManager.call SessionManager.update
    dsimp only
    split <;> rfl
  | delete id =>
    unfold SessionManager.call SessionManager.delete
    dsimp only
    split <;> rfl
  | sweepExpired order => exact ttl_foldl_sweepEntry sm now _

theorem Balanced.call {sm : SessionManager} (h : Balanced sm) (c : Int × SessionCall) :
    Balanced (sm.call c).1 := by
  obtain ⟨now, c⟩ := c
  cases c with
  | get id => exact h
  | set id ctx => exact h.set now id ctx
  | update id fn => exact h.update now id _
  | delete id => exact h.delete id
  | sweepExpired order => exact h.sweep now _

/-- In whatever order the range runs, a sweep keeps exactly the live sessions. -/
theorem get_sweepExpiredIn (sm : SessionManager) (order : SessionManager.RangeOrder) (now : Int)
    (id : UInt32) :
    (sm.sweepExpiredIn order now).get id = (sm.get id).filter (live sm.ttl now) := by
  unfold SessionManager.sweepExpiredIn
  rw [get_foldl_sweepEntry]
  by_cases hk : id ∈ order.keys sm.sessions
  · rw [if_pos hk]
  · have hkeys : id ∉ sm.sessions.keys := fun h => hk ((order.perm _).mem_iff.mpr h)
    have hg : sm.get id = none := AList.lookup_eq_none.mpr hkeys
    rw [if_neg hk, hg, Option.filter_none]

/-- **The gauge is the number of sessions.** After any calls, at any times, on a new manager:
    the reports add up to the sessions registered, no part of the log is negative, and a sweep
    now, in any order, would remove exactly the sessions idle for longer than the time to live,
    and keep every other as it is. -/
theorem activeGauge_eq_registered (ttl : Int) (calls : List (Int × SessionCall)) :
    let sm := Run.after SessionManager.call (newSessionManager ttl) calls
    gauge sm.metrics = registered sm.sessions ∧
      (∀ log, log <+: sm.metrics → 0 ≤ gauge log) ∧
      ∀ order now id, (sm.sweepExpiredIn order now).get id = (sm.get id).filter fun ctx =>
        !decide (now - ctx.lastActive > (newSessionManager ttl).ttl) := by
  intro sm
  have hrun : Balanced sm ∧ sm.ttl = (newSessionManager ttl).ttl := by
    refine Run.after_invariant (P := fun sm => Balanced sm ∧ sm.ttl = (newSessionManager ttl).ttl)
      (G := fun _ => True) ?_ ⟨balanced_new ttl, rfl⟩ (fun _ _ => trivial)
    rintro t c ⟨hb, ht⟩ -
    exact ⟨hb.call c, (ttl_call t c).trans ht⟩
  refine ⟨hrun.1.count, hrun.1.nonneg, ?_⟩
  intro order now id
  rw [get_sweepExpiredIn, hrun.2]
  rfl

end Server
end Proof
end Tacacs
