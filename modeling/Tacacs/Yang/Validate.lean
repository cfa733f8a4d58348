import Tacacs.Lib.Text
import Tacacs.Yang.Config

/-!
# `yang/validate.go`

`Validate` goes over the servers once, with the set of the `address:port` keys it has seen, and
returns at the first check that fails. It reads the configuration through its pointers and writes
nothing, so the configuration here has values in place of references.
-/

set_option autoImplicit false

namespace Tacacs
namespace Yang

open GoSem GoText

variable {σ κ κ' : Type}

def tlsVersion12 : GoString := lit "ietf-tls-common:tls12"

/-- One check: a validation error about `field` if the condition holds. -/
def reject (bad : Prop) [Decidable bad] (field reason : String) : Except GoError Unit :=
  if bad then .error (validationError field reason .invalidArgument) else .ok ()

def validateTLS (t : TLSClient κ) : Except GoError Unit := do
  let sa := t.serverAuthentication
  reject (sa.credentialsReference = [] ∧ sa.caCerts = none ∧ sa.eeCerts = none)
    "server-authentication" "TLS requires server-authentication (ref, ca-certs or ee-certs)"
  match t.helloParams with
  | none => .ok ()
  | some hello =>
      reject (trimSpace hello.min = tlsVersion12) "hello-params.tls-versions.min"
        "TLS 1.2 is forbidden (RFC 9887)"
      reject (trimSpace hello.max = tlsVersion12) "hello-params.tls-versions.max"
        "TLS 1.2 is forbidden (RFC 9887)"

/-- `fmt.Sprintf("%s:%d", s.Address, s.Port)`. -/
def Server.key (s : Server (TLSClient κ) σ) : GoString :=
  s.address ++ lit ":" ++ decimal s.port.toNat

def duplicateError (key : GoString) : GoError :=
  .validation "server" [.text "duplicate address+port: ", .verbatim key]
    (.sentinel .invalidArgument)

/-- The loop body, up to and with the check of the security choice. -/
def validateRequired (s : Server (TLSClient κ) σ) : Except GoError Unit := do
  reject (s.name = []) "server.name" "name is required"
  reject (s.serverType = 0) "server.server-type" "server-type is required"
  reject (s.address = []) "server.address" "address is required"
  reject (s.port = 0) "server.port" "port is required (no default)"
  reject (s.security.tls.isNone ∧ s.security.sharedSecret.isNone) "server.security"
    "security choice is required"

/-- The loop body, after the check for duplicates. -/
def validateOptions (s : Server (TLSClient κ) σ) : Except GoError Unit := do
  reject (s.sniEnabled ∧ s.domainName = []) "server.sni-enabled" "sni-enabled requires domain-name"
  match s.security.tls with
  | none => pure ()
  | some t => validateTLS t
  -- a `uint16` is 0 or at least 1, so this one never fails
  reject (s.timeout ≠ 0 ∧ s.timeout < 1) "server.timeout" "timeout must be >= 1"

/-- The loop body; it returns the keys seen so far. -/
def validateServer (seen : List GoString) (s : Server (TLSClient κ) σ) :
    Except GoError (List GoString) := do
  validateRequired s
  if seen.contains s.key then .error (duplicateError s.key)
  else do
    validateOptions s
    return s.key :: seen

def validateServers (seen : List GoString) : List (Server (TLSClient κ) σ) → Except GoError Unit
  | [] => .ok ()
  | s :: ss => do
      let seen ← validateServer seen s
      validateServers seen ss

def Config.validate (c : Config (TLSClient κ) σ κ') : Except GoError Unit :=
  validateServers [] c.servers

end Yang
end Tacacs
