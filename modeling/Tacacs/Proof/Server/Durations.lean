import Tacacs.Proof.Server.Gauge

/-!
# Which sessions are measured

A session is started by `Set`, and it ends in one of three ways: it is deleted, it is evicted by
the sweeper, or another `Set` takes its place. Only the sweeper reports how long it lasted. So the
sessions ever started are those registered, those measured, and those that ended in one of the
other two ways (`sessions_balance`); the histogram is complete as long as there are none of these.
-/

set_option autoImplicit false

namespace Tacacs
namespace Proof
namespace Server

open Tacacs.Server

/-! ## Counting -/

def isDuration : Observation → Bool
  | .sessionDuration _ => true
  | _ => false

/-- Calls of `ObserveSessionDuration`. -/
def durations (log : List Observation) : Nat := log.countP isDuration

def isSet : Int × SessionCall → Bool
  | (_, .set _ _) => true
  | _ => false

/-- Sessions ever started. -/
def started (calls : List (Int × SessionCall)) : Nat := calls.countP isSet

/-- The call ends a session that is registered, and is not a sweep. -/
def endsUnmeasured (sm : SessionManager) : SessionCall → Bool
  | .set id _ => (sm.get id).isSome
  | .delete id => (sm.get id).isSome
  | _ => false

/-- How many of the calls do. -/
def unmeasured (sm : SessionManager) : List (Int × SessionCall) → Nat
  | [] => 0
  | c :: calls => (endsUnmeasured sm c.2).toNat + unmeasured (sm.call c).1 calls

/-- Sessions that are still there, or are in the histogram. -/
def accounted (sm : SessionManager) : Nat := registered sm.sessions + durations sm.metrics

/-- A report adds to the histogram if it is a duration. -/
theorem accounted_observe (sm : SessionManager) (o : Observation) :
    accounted (sm.observe o) = accounted sm + (isDuration o).toNat := by
  unfold accounted SessionManager.observe durations
  rw [List.countP_append, List.countP_singleton, Nat.add_assoc]
  cases isDuration o with
  | true => rfl
  | false => rfl

/-! ## What each method does to the count -/

section Methods

variable (sm : SessionManager) (now : Int) (id : UInt32)

theorem accounted_set (ctx : SessionContext) :
    accounted sm + 1 = accounted (sm.set now id ctx) + (sm.get id).isSome.toNat := by
  unfold SessionManager.set SessionManager.get
  cases hid : sm.sessions.lookup id with
  | none =>
    have hsize := registered_insert_new hid { ctx with createdAt := now, lastActive := now }
    show _ = accounted (SessionManager.observe { sm with sessions := sm.sessions.insert id _ }
      .sessionActiveInc) + 0
    rw [accounted_observe]
    unfold accounted
    rw [hsize]
    show registered sm.sessions + durations sm.metrics + 1
      = registered sm.sessions + 1 + durations sm.metrics + 0 + 0
    omega
  | some old =>
    have hsize := registered_insert_old (mem_keys_of_lookup hid)
      { ctx with createdAt := now, lastActive := now }
    show _ = accounted { sm with sessions := sm.sessions.insert id _ } + 1
    unfold accounted
    rw [hsize]

theorem accounted_update (fn : SessionContext → SessionContext) :
    accounted (sm.update now id fn) = accounted sm := by
  unfold SessionManager.update
  cases hid : sm.sessions.lookup id with
  | none => rfl
  | some ctx =>
    unfold accounted
    rw [registered_insert_old (mem_keys_of_lookup hid)]

/-- A session goes, whether or not it is deleted or evicted, and the gauge is told. -/
theorem accounted_erase {ctx : SessionContext} (hid : sm.sessions.lookup id = some ctx) :
    accounted sm
      = accounted ({ sm with sessions := sm.sessions.erase id }.observe .sessionActiveDec) + 1 := by
  have hsize := registered_erase (mem_keys_of_lookup hid)
  rw [accounted_observe]
  unfold accounted
  show _ = _ + 0 + 1
  dsimp only
  omega

theorem accounted_delete :
    accounted sm = accounted (sm.delete id) + (sm.get id).isSome.toNat := by
  unfold SessionManager.delete SessionManager.get
  cases hid : sm.sessions.lookup id with
  | none => rfl
  | some ctx => exact accounted_erase sm id hid

/-- The sweeper reports what it evicts. -/
theorem accounted_sweepEntry : accounted (sm.sweepEntry now id) = accounted sm := by
  unfold SessionManager.sweepEntry
  cases hid : sm.sessions.lookup id with
  | none => rfl
  | some ctx =>
    dsimp only
    by_cases hexp : now - ctx.lastActive > sm.ttl
    · rw [if_pos hexp, accounted_observe, accounted_erase sm id hid]
      rfl
    · rw [if_neg hexp]

theorem accounted_sweep (ids : List UInt32) :
    accounted (ids.foldl (fun sm id => sm.sweepEntry now id) sm) = accounted sm := by
  induction ids generalizing sm with
  | nil => rfl
  | cons id ids ih => rw [List.foldl_cons, ih, accounted_sweepEntry]

end Methods

/-! ## Whole runs -/

/-- One call. -/
theorem accounted_call (sm : SessionManager) (c : Int × SessionCall) :
    accounted sm + (isSet c).toNat
      = accounted (sm.call c).1 + (endsUnmeasured sm c.2).toNat := by
  obtain ⟨now, c⟩ := c
  cases c with
  | get id => rfl
  | set id ctx => exact accounted_set sm now id ctx
  | update id fn =>
    show accounted sm + 0 = accounted (sm.update now id _) + 0
    rw [accounted_update]
  | delete id => exact accounted_delete sm id
  | sweepExpired order =>
    show accounted sm + 0 = accounted (sm.sweepExpiredIn order now) + 0
    rw [SessionManager.sweepExpiredIn, accounted_sweep]

/-- **Where the sessions are.** -/
theorem sessions_balance (sm : SessionManager) (calls : List (Int × SessionCall)) :
    accounted sm + started calls
      = accounted (Run.after SessionManager.call sm calls) + unmeasured sm calls := by
  induction calls generalizing sm with
  | nil => rfl
  | cons c calls ih =>
    have hcall := accounted_call sm c
    have hrest := ih (sm.call c).1
    have hstarted : started (c :: calls) = (isSet c).toNat + started calls := by
      unfold started
      rw [List.countP_cons, Nat.add_comm]
      cases isSet c with
      | true => rfl
      | false => rfl
    rw [Run.after_cons, hstarted, unmeasured]
    omega

theorem unmeasured_eq_zero_iff (sm : SessionManager) (calls : List (Int × SessionCall)) :
    unmeasured sm calls = 0 ↔ ∀ pre c, pre ++ [c] <+: calls →
      endsUnmeasured (Run.after SessionManager.call sm pre) c.2 = false := by
  induction calls generalizing sm with
  | nil =>
    refine ⟨fun _ pre c h => ?_, fun _ => rfl⟩
    exact absurd (List.prefix_nil.mp h) (List.append_ne_nil_of_right_ne_nil pre (by simp))
  | cons c calls ih =>
    rw [unmeasured, Nat.add_eq_zero_iff, ih, Bool.toNat_eq_zero]
    constructor
    · rintro ⟨hfirst, hrest⟩ pre d h
      cases pre with
      | nil =>
        obtain ⟨rfl, -⟩ := List.cons_prefix_cons.mp h
        exact hfirst
      | cons c' pre =>
        obtain ⟨rfl, h'⟩ := List.cons_prefix_cons.mp h
        exact hrest pre d h'
    · intro h
      refine ⟨h [] c ⟨calls, rfl⟩, ?_⟩
      intro pre d hpre
      exact h (c :: pre) d (List.cons_prefix_cons.mpr ⟨rfl, hpre⟩)

/-- **When every ended session is measured.** After any calls, at any times, on a new manager: the
    sessions ever started are those registered and those whose duration was observed, if and only
    if none of the calls deleted a session that was registered, or set one in its place. -/
theorem measured_iff (ttl : Int) (calls : List (Int × SessionCall)) :
    let sm := Run.after SessionManager.call (newSessionManager ttl) calls
    started calls = registered sm.sessions + durations sm.metrics ↔
      ∀ pre c, pre ++ [c] <+: calls →
        let before := Run.after SessionManager.call (newSessionManager ttl) pre
        match c.2 with
        | .set id _ => before.get id = none
        | .delete id => before.get id = none
        | _ => True := by
  intro sm
  have hbalance : 0 + started calls
      = registered sm.sessions + durations sm.metrics + unmeasured (newSessionManager ttl) calls :=
    sessions_balance (newSessionManager ttl) calls
  have hzero : started calls = registered sm.sessions + durations sm.metrics ↔
      unmeasured (newSessionManager ttl) calls = 0 := by
    omega
  rw [hzero, unmeasured_eq_zero_iff]
  refine forall_congr' fun pre => forall_congr' fun c => imp_congr_right fun _ => ?_
  obtain ⟨now, c⟩ := c
  cases c with
  | get id => simp [endsUnmeasured]
  | set id ctx => simp [endsUnmeasured]
  | update id fn => simp [endsUnmeasured]
  | delete id => simp [endsUnmeasured]
  | sweepExpired order => simp [endsUnmeasured]

/-- A login that is started and comes to its end. -/
def plainSession : SessionContext :=
  { start := { action := 1, privLvl := 1, type := 1, service := 1, user := [], port := [],
               remAddr := [], data := [] },
    flags := 0, remoteAddr := [] }

/-- One session was started, none is registered, and none was measured. -/
theorem unmeasured_login :
    let calls : List (Int × SessionCall) := [(0, .set 7 plainSession), (1, .delete 7)]
    let sm := Run.after SessionManager.call (newSessionManager 0) calls
    started calls = 1 ∧ registered sm.sessions = 0 ∧ durations sm.metrics = 0 := by
  decide +kernel

end Server
end Proof
end Tacacs
