import Mathlib.Data.Finset.Insert
import Tacacs.Server.Server

/-!
# `server/secret_dns.go` — secrets by resolved host name

A provider holds one set of addresses for each rule. `Refresh` takes a snapshot of the rules
under the lock, looks every host up without it, and puts the updated rules in place under the
lock again. Any number of them can be under way at once, so a `Refresh` is not one step here: the
snapshot, each lookup and the swap are, and a `State` keeps where each call stands.

The resolver is not a function: what a lookup answers comes with the step.
-/

set_option autoImplicit false

namespace Tacacs
namespace Server

open GoSem Transport

/-! ## Addresses -/

/-- `net.IP`; `none` is a nil slice. -/
abbrev IP := Option Bytes

/-- `::ffff:0:0/96`, where the IPv4 addresses are. -/
def v4InV6Prefix : Bytes := List.replicate 10 0 ++ [0xff, 0xff]

/-- `IP.To16`. -/
def to16 (ip : Bytes) : Option Bytes :=
  if ip.length = 4 then some (v4InV6Prefix ++ ip)
  else if ip.length = 16 then some ip
  else none

def ipKey : IP → GoString
  | none => []
  | some ip => (to16 ip).getD []

/-- The keys of a `map[string]struct{}`. -/
def ipSet (addrs : List IP) : Finset GoString :=
  addrs.foldl (fun set a => if ipKey a ≠ [] then insert (ipKey a) set else set) ∅

/-- `net.Addr`: the types that `ipFromAddr` knows, and any other by its string form. -/
inductive NetAddr where
  | tcp (ip : IP)
  | udp (ip : IP)
  | ip (ip : IP)
  | other (s : GoString)
  | nil

/-- `ipFromAddr`; `parse` is `net.SplitHostPort` and `net.ParseIP` on the string form. -/
def ipFromAddr (parse : GoString → IP) : NetAddr → IP
  | .tcp ip => ip
  | .udp ip => ip
  | .ip ip => ip
  | .other s => parse s
  | .nil => none

/-! ## The provider -/

structure DNSRule where
  host : GoString
  secret : Bytes
  mode : Mode
deriving DecidableEq, Repr

structure DnsCompiledRule extends DNSRule where
  ips : Finset GoString

/-- What `LookupIPAddr` answers; the zones are not looked at. -/
abbrev Lookup := Except GoError (List IP)

/-- `resolveRules`; `lookup` gives the answer to the `i`th lookup. -/
def resolveRules (lookup : Nat → Lookup) (i : Nat) :
    List DNSRule → Except GoError (List DnsCompiledRule)
  | [] => .ok []
  | r :: rs =>
      if r.host = [] then .error (.validation "host" [] (.sentinel .invalidArgument))
      else
        match lookup i with
        | .error err => .error (.validation "host" [.verbatim r.host] err)
        | .ok addrs => do
            let rs ← resolveRules lookup (i + 1) rs
            return { r with ips := ipSet addrs } :: rs

/-- A nil fallback is `none`. -/
structure DNSSecretProvider where
  rules : List DnsCompiledRule
  fallback : Option (NetAddr → Except GoError SecretConfig)

def newDNSSecretProvider (lookup : Nat → Lookup) (rules : List DNSRule)
    (fallback : Option (NetAddr → Except GoError SecretConfig)) :
    Except GoError DNSSecretProvider := do
  let rules ← resolveRules lookup 0 rules
  return { rules, fallback }

namespace DNSSecretProvider

variable (p : DNSSecretProvider)

def fallbackGet (remote : NetAddr) : Except GoError SecretConfig :=
  match p.fallback with
  | some fb => fb remote
  | none => .error (.sentinel .noServerConfigured)

/-- The loop of `Get`. -/
def matchRule (key : GoString) : List DnsCompiledRule → Option SecretConfig
  | [] => none
  | r :: rs => if key ∈ r.ips then some { secret := r.secret, mode := r.mode } else matchRule key rs

def get (parse : GoString → IP) (remote : NetAddr) : Except GoError SecretConfig :=
  match ipFromAddr parse remote with
  | none => p.fallbackGet remote
  | some ip =>
      match matchRule (ipKey (some ip)) p.rules with
      | some cfg => .ok cfg
      | none => p.fallbackGet remote

end DNSSecretProvider

/-! ## Refreshes under way -/

/-- Where a call of `Refresh` stands: not begun, in its loop with the rules updated so far, or
    returned. -/
inductive Refresh where
  | idle
  | looking (current updated : List DnsCompiledRule) (resolved failed : Nat)
  | returned (err : Option GoError)

/-- The loop body: the counters apart. -/
def DnsCompiledRule.update (r : DnsCompiledRule) : Lookup → DnsCompiledRule
  | .error _ => r
  | .ok addrs => { r with ips := ipSet addrs }

/-- The error of a `Refresh` with these counts. -/
def refreshError (resolved failed : Nat) : Option GoError :=
  if resolved = 0 ∧ failed > 0 then
    some (.validation "dns" [.text "refresh"] (.sentinel .noServerConfigured))
  else none

namespace Dns

/-- The provider and its calls of `Refresh`, one for each number. -/
structure State where
  provider : DNSSecretProvider
  refreshes : Nat → Refresh

def State.init (p : DNSSecretProvider) : State := { provider := p, refreshes := fun _ => .idle }

def State.setRefresh (st : State) (n : Nat) (r : Refresh) : State :=
  { st with refreshes := Function.update st.refreshes n r }

inductive Act where
  | get (remote : NetAddr)
  | snapshot (n : Nat)
  | lookup (n : Nat) (answer : Lookup)
  | swap (n : Nat)

/-- What an act shows: the answer of a `Get`, the rules a `Refresh` starts from, the host it looks
    up with the answer it gets, what it returns. -/
inductive Event where
  | got (answer : Except GoError SecretConfig)
  | started (n : Nat) (current : List DnsCompiledRule)
  | looked (n : Nat) (host : GoString) (answer : Lookup)
  | swapped (n : Nat) (err : Option GoError)

/-- One act. An act that a `Refresh` is not ready for does nothing. -/
def step (parse : GoString → IP) (st : State) : Act → State × Option Event
  | .get remote => (st, some (.got (st.provider.get parse remote)))
  | .snapshot n =>
      match st.refreshes n with
      | .idle =>
          let current := st.provider.rules
          (st.setRefresh n (.looking current [] 0 0), some (.started n current))
      | _ => (st, none)
  | .lookup n answer =>
      match st.refreshes n with
      | .looking current updated resolved failed =>
          match current[updated.length]? with
          | none => (st, none)
          | some r =>
              let updated := updated ++ [r.update answer]
              match answer with
              | .error _ =>
                  (st.setRefresh n (.looking current updated resolved (failed + 1)),
                    some (.looked n r.host answer))
              | .ok _ =>
                  (st.setRefresh n (.looking current updated (resolved + 1) failed),
                    some (.looked n r.host answer))
      | _ => (st, none)
  | .swap n =>
      match st.refreshes n with
      | .looking current updated resolved failed =>
          if updated.length = current.length then
            let err := refreshError resolved failed
            ({ st with provider := { st.provider with rules := updated } }.setRefresh n
                (.returned err), some (.swapped n err))
          else (st, none)
      | _ => (st, none)

end Dns

end Server
end Tacacs
