import Tacacs.Packet.Body
import Mathlib.Data.List.AList

/-!
# `server/sessions.go` — the session registry

One registry serves all the connections of a server. It is keyed by the session id alone: the
flags and the address a session was opened with are recorded in it, and nothing reads them
back.

The clock is an argument of every operation that calls `time.Now`, in nanoseconds. The
`metrics` of the manager are the observations made through its hook, in order.
-/

set_option autoImplicit false

namespace Tacacs
namespace Server

open GoSem

/-- An observation made through the `Metrics` hook; the latency histograms are left out. -/
inductive Observation where
  | packetInvalid (reason : String)
  | authenStatus (type : AuthenType) (s : AuthenStatus)
  | authorStatus (s : AuthorStatus)
  | acctStatus (s : AcctStatus)
  | secretLookup (hit : Bool)
  | sessionActiveInc
  | sessionActiveDec
  | sessionDuration (d : Int)
deriving DecidableEq, Repr

/-- `server.AuthenStart` and `server.AuthenContinue` mirror the packet types field for field. -/
abbrev AuthenStart := Packet.AuthenStart
abbrev AuthenContinue := Packet.AuthenContinue

/-- `sessionContext`. `Set` fills in the two times. -/
structure SessionContext where
  start : AuthenStart
  flags : HeaderFlags
  remoteAddr : GoString
  createdAt : Int := 0
  lastActive : Int := 0
  lastOutboundSeq : UInt8 := 0
deriving DecidableEq, Repr

/-- `map[uint32]*sessionContext`. -/
abbrev Registry := AList fun _ : UInt32 => SessionContext

structure SessionManager where
  sessions : Registry
  ttl : Int
  metrics : List Observation

/-- Five minutes. -/
def defaultSessionTTL : Int := 5 * 60 * 1000000000

def newSessionManager (ttl : Int) : SessionManager :=
  { sessions := ∅, ttl := if ttl ≤ 0 then defaultSessionTTL else ttl, metrics := [] }

namespace SessionManager

variable (sm : SessionManager)

def observe (o : Observation) : SessionManager := { sm with metrics := sm.metrics ++ [o] }

def get (id : UInt32) : Option SessionContext := sm.sessions.lookup id

def set (now : Int) (id : UInt32) (ctx : SessionContext) : SessionManager :=
  let ctx := { ctx with createdAt := now, lastActive := now }
  let existed := (sm.sessions.lookup id).isSome
  let sm := { sm with sessions := sm.sessions.insert id ctx }
  if !existed then sm.observe .sessionActiveInc else sm

/-- `Update`; the callers always pass a function. -/
def update (now : Int) (id : UInt32) (fn : SessionContext → SessionContext) : SessionManager :=
  match sm.sessions.lookup id with
  | none => sm
  | some ctx => { sm with sessions := sm.sessions.insert id (fn { ctx with lastActive := now }) }

def delete (id : UInt32) : SessionManager :=
  match sm.sessions.lookup id with
  | none => sm
  | some _ => { sm with sessions := sm.sessions.erase id }.observe .sessionActiveDec

/-- One entry of `SweepExpired`'s range over the map. -/
def sweepEntry (now : Int) (id : UInt32) : SessionManager :=
  match sm.sessions.lookup id with
  | none => sm
  | some ctx =>
      if now - ctx.lastActive > sm.ttl then
        { sm with sessions := sm.sessions.erase id }
          |>.observe .sessionActiveDec |>.observe (.sessionDuration (now - ctx.createdAt))
      else sm

/-- `SweepExpired`. Deleting the entry at hand does not disturb a Go `range` over the map. -/
def sweepExpired (now : Int) : SessionManager :=
  sm.sessions.keys.foldl (fun sm id => sm.sweepEntry now id) sm

/-- The order in which a `range` visits the entries of a map, which is up to the runtime. -/
structure RangeOrder where
  keys : Registry → List UInt32
  perm : ∀ r, (keys r).Perm r.keys

/-- `SweepExpired` in any order of the range; `sweepExpired` is the order of the list. -/
def sweepExpiredIn (order : RangeOrder) (now : Int) : SessionManager :=
  (order.keys sm.sessions).foldl (fun sm id => sm.sweepEntry now id) sm

end SessionManager

/-- A call of one of the manager's methods. -/
inductive SessionCall where
  | get (id : UInt32)
  | set (id : UInt32) (ctx : SessionContext)
  | update (id : UInt32) (fn : Option (SessionContext → SessionContext))
  | delete (id : UInt32)
  | sweepExpired (order : SessionManager.RangeOrder)

/-- One call at a time on the clock, under the lock; what it returns is the answer of `Get`. -/
def SessionManager.call (sm : SessionManager) :
    Int × SessionCall → SessionManager × Option SessionContext
  | (_, .get id) => (sm, sm.get id)
  | (now, .set id ctx) => (sm.set now id ctx, none)
  -- a nil function still refreshes `lastActive`
  | (now, .update id fn) => (sm.update now id (fn.getD fun ctx => ctx), none)
  | (_, .delete id) => (sm.delete id, none)
  | (now, .sweepExpired order) => (sm.sweepExpiredIn order now, none)

/-- `ValidateNextSeqNo`. The addition is on bytes, so a session whose last reply wrapped to 0
    expects 1 again, which only a START can carry. -/
def validateNextSeqNo (inbound lastOutboundSeq : UInt8) : Except GoError Unit :=
  let expected := if lastOutboundSeq = 0 then 1 else lastOutboundSeq + 1
  if inbound ≠ expected then
    .error (validationError "seq_no" "unexpected sequence number" .invalidSeqNo)
  else .ok ()

end Server
end Tacacs
