import Tacacs.Server.SecretDns

/-!
# `server/secret.go` — secrets by network prefix

The rules are compiled before the lock is taken, and both `Replace` and `Get` hold the lock
around all they read and write of the provider, so each of them is one step.

`net.ParseCIDR` and `IPNet.Contains` are the parameters of a `CIDR`.
-/

set_option autoImplicit false

namespace Tacacs
namespace Server

open GoSem Transport

/-- `net.ParseCIDR` and `IPNet.Contains`, over networks `ν`. -/
structure CIDR (ν : Type) where
  parseCIDR : GoString → Except GoError ν
  contains : ν → Bytes → Bool

structure PrefixRule where
  cidr : GoString
  secret : Bytes
  mode : Mode
deriving DecidableEq, Repr

structure CompiledRule (ν : Type) where
  ipNet : ν
  secret : Bytes
  mode : Mode
deriving DecidableEq

/-- A nil fallback is `none`. -/
structure PrefixSecretProvider (ν : Type) where
  rules : List (CompiledRule ν)
  fallback : Option (NetAddr → Except GoError SecretConfig)

variable {ν : Type} (net : CIDR ν)

/-- The loop that `NewPrefixSecretProvider` and `Replace` begin with. -/
def compilePrefixRules : List PrefixRule → Except GoError (List (CompiledRule ν))
  | [] => .ok []
  | r :: rs =>
      match net.parseCIDR r.cidr with
      | .error err => .error (.validation "cidr" [.verbatim r.cidr] err)
      | .ok ipNet => do
          let rs ← compilePrefixRules rs
          return { ipNet, secret := r.secret, mode := r.mode } :: rs

def newPrefixSecretProvider (rules : List PrefixRule)
    (fallback : Option (NetAddr → Except GoError SecretConfig)) :
    Except GoError (PrefixSecretProvider ν) := do
  let rules ← compilePrefixRules net rules
  return { rules, fallback }

namespace PrefixSecretProvider

variable (p : PrefixSecretProvider ν)

def replace (rules : List PrefixRule)
    (fallback : Option (NetAddr → Except GoError SecretConfig)) :
    PrefixSecretProvider ν × Option GoError :=
  match compilePrefixRules net rules with
  | .error err => (p, some err)
  | .ok rules => ({ p with rules, fallback }, none)

def fallbackGet (remote : NetAddr) : Except GoError SecretConfig :=
  match p.fallback with
  | some fb => fb remote
  | none => .error (.sentinel .noServerConfigured)

/-- The loop of `Get`. -/
def matchRule (ip : Bytes) : List (CompiledRule ν) → Option SecretConfig
  | [] => none
  | r :: rs =>
      if net.contains r.ipNet ip then some { secret := r.secret, mode := r.mode }
      else matchRule ip rs

def get (parse : GoString → IP) (remote : NetAddr) : Except GoError SecretConfig :=
  match ipFromAddr parse remote with
  | none => p.fallbackGet remote
  | some ip =>
      match matchRule net ip p.rules with
      | some cfg => .ok cfg
      | none => p.fallbackGet remote

/-- A call. -/
inductive Call where
  | replace (rules : List PrefixRule) (fallback : Option (NetAddr → Except GoError SecretConfig))
  | get (remote : NetAddr)

/-- What a call returns. -/
inductive Return where
  | replaced (err : Option GoError)
  | got (cfg : Except GoError SecretConfig)

def step (parse : GoString → IP) (p : PrefixSecretProvider ν) :
    Call → PrefixSecretProvider ν × Return
  | .replace rules fallback =>
      let (p, err) := p.replace net rules fallback
      (p, .replaced err)
  | .get remote => (p, .got (p.get net parse remote))

end PrefixSecretProvider

end Server
end Tacacs
