import Tacacs.Server.Users

/-!
# `cmd/tacacs-cli/aaa/accounter.go` — what goes into an accounting log

Both accounters write the record that `fromContext` makes of a request, as one line of JSON. What
is written to lies outside: `σ` is the state of the file, or of the daemon, and whether a write
succeeds is up to it.

The names below are declared in `types/avp.go` and `types/avp_cisco.go`, where they are said to
carry secrets.
-/

set_option autoImplicit false

namespace Tacacs

open GoSem

/-! ## Names of secret-bearing arguments -/

def argNameGwPassword : GoString := lit "gw-password"
def argNameNasPassword : GoString := lit "nas-password"
def argNameL2tpTunnelPassword : GoString := lit "l2tp-tunnel-password"
def argNameSendSecret : GoString := lit "send-secret"

namespace Cli

open Server hiding toLower

/-! ## Masking -/

def sensitiveArgPrefixes : List GoString := [lit "password", lit "secret", lit "token"]

/-- `strings.ToLower`, as far as comparing the result with an ASCII word can tell. Besides A–Z
    two characters have an ASCII letter for lower case: U+0130 becomes `i`, and the Kelvin sign
    U+212A becomes `k`. -/
def toLower : GoString → GoString
  | 0xc4 :: 0xb0 :: rest => 0x69 :: toLower rest
  | 0xe2 :: 0x84 :: 0xaa :: rest => 0x6b :: toLower rest
  | c :: rest => lowerASCII c :: toLower rest
  | [] => []

def isSensitive (name : GoString) : Bool :=
  let low := toLower name
  sensitiveArgPrefixes.any fun p => hasPrefix low p

/-! ## The record -/

/-- `aaa.AcctRecord`; `types.AcctRecord` is the kind of request. -/
structure AcctRecord where
  timestamp : GoString
  sessionID : UInt32
  seqNo : UInt8
  record : GoString
  user : GoString
  port : GoString
  remAddr : GoString
  remote : GoString
  args : List Argument
deriving DecidableEq, Repr

def classify (f : AcctFlags) : GoString :=
  match f.record with
  | .start => lit "start"
  | .stop => lit "stop"
  | .watchdogNoUpdate => lit "watchdog"
  | .watchdogWithUpdate => lit "watchdog-update"
  | .invalid => lit "invalid"

/-- What the loop of `fromContext` does to an argument. -/
def mask (a : Argument) : Argument :=
  if isSensitive a.name then { a with value := lit "REDACTED" } else a

/-- `now` is the time, as it is written. -/
def fromContext (now : GoString) (ac : AcctContext) : AcctRecord where
  timestamp := now
  sessionID := ac.sessionID
  seqNo := ac.seqNo
  record := classify ac.flags
  user := ac.user
  port := ac.port
  remAddr := ac.remAddr
  remote := ac.remoteAddr
  args := ac.args.map mask

/-! ## The accounters -/

/-- What a method returns: a decision, and an error or nil. Go returns both at once. -/
abbrev Returns (α : Type) := α × Option GoError

/-- `Accounter`. -/
abbrev Accounter (σ : Type) := AcctContext → σ → Returns AcctDecision × σ

/-- `enc.Encode` is JSON and the write of the line. -/
structure FileAccounter (σ : Type) where
  now : σ → GoString
  encode : AcctRecord → σ → Option GoError × σ

def FileAccounter.account {σ : Type} (a : FileAccounter σ) : Accounter σ := fun ac w =>
  match a.encode (fromContext (a.now w) ac) w with
  | (some err, w) => (({ status := acctStatusSuccess }, some err), w)
  | (none, w) => (({ status := acctStatusSuccess }, none), w)

/-- `json.Marshal`, and the `Info` of the syslog writer. -/
structure SyslogAccounter (σ : Type) where
  now : σ → GoString
  marshal : AcctRecord → Except GoError GoString
  info : GoString → σ → Option GoError × σ

def SyslogAccounter.account {σ : Type} (a : SyslogAccounter σ) : Accounter σ := fun ac w =>
  match a.marshal (fromContext (a.now w) ac) with
  | .error err => (({ status := acctStatusSuccess }, some err), w)
  | .ok buf =>
      match a.info buf w with
      | (some err, w) => (({ status := acctStatusSuccess }, some err), w)
      | (none, w) => (({ status := acctStatusSuccess }, none), w)

end Cli
end Tacacs
