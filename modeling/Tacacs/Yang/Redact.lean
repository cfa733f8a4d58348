import Tacacs.Yang.Config

/-!
# `yang/redact.go`

The struct assignment `rs := s` copies the pointers of a server and not what they lead to. The
shared secret is replaced in the copy; the key is replaced by an assignment through
`rs.Security.TLS` and its `Certificate`, which the copy shares with the original.
-/

set_option autoImplicit false

namespace Tacacs
namespace Yang

open GoSem Mem

def redactIfSet (s : GoString) : GoString := if s = [] then s else lit "<redacted>"

/-- `strings.Repeat("*", len(s))`. -/
def stars (s : GoString) : GoString := List.replicate s.length 0x2a

/-- The first branch of the loop body: a new string for the copy. -/
def hideSecret (m : Memory) (rs : ServerCell) : ServerCell × Memory :=
  match rs.security.sharedSecret with
  | none => (rs, m)
  | some p =>
      let hidden := m.secrets.alloc (stars (m.secrets.read p))
      ({ rs with security := { rs.security with sharedSecret := some hidden.1 } },
        { m with secrets := hidden.2 })

/-- The second branch: a new `InlineCertificate`, hung into the certificate there is. -/
def hideKey (m : Memory) (rs : ServerCell) : Memory :=
  match rs.security.tls with
  | none => m
  | some t =>
      match (m.tls.read t).clientIdentity.certificate with
      | none => m
      | some c =>
          match (m.certificates.read c).inlineDefinition with
          | none => m
          | some i =>
              let ind := m.inlines.read i
              let ind := m.inlines.alloc
                { ind with cleartextPrivateKey := redactIfSet ind.cleartextPrivateKey }
              { m with
                  inlines := ind.2
                  certificates := m.certificates.write c
                    { m.certificates.read c with inlineDefinition := some ind.1 } }

/-- The loop body. -/
def redactServer (m : Memory) (s : ServerCell) : ServerCell × Memory :=
  let rs := hideSecret m s
  (rs.1, hideKey rs.2 rs.1)

def redactServers (m : Memory) : List ServerCell → List ServerCell × Memory
  | [] => ([], m)
  | s :: ss =>
      let rs := redactServer m s
      let rest := redactServers rs.2 ss
      (rs.1 :: rest.1, rest.2)

/-- `Redact`; `none` is a nil receiver. -/
def redact (m : Memory) : Option ConfigCell → Option ConfigCell × Memory
  | none => (none, m)
  | some c =>
      let servers := redactServers m c.servers
      (some { c with servers := servers.1 }, servers.2)

end Yang
end Tacacs
