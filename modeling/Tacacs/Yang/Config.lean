import Tacacs.Errors
import Tacacs.Lib.Heap

/-!
# `yang/config.go`, `yang/tls.go` — the configuration tree and the memory it lives in

`Redact` copies some structures and writes through pointers to others, so four pointer fields of
the source are references into a memory here: `Security.TLS`, `Security.SharedSecret`, the
`Certificate` of a client identity or of a registry entry, and `Certificate.InlineDefinition`.
Nothing writes through the other pointers, and they are plain optional values.

The structures leave open what stands in place of those four. With references they are what the
memory holds; with values they are what a reader of the configuration sees, and `map` is reading.
-/

set_option autoImplicit false

namespace Tacacs
namespace Yang

open GoSem Mem

structure InlineCertificate where
  publicKeyFormat : GoString := []
  publicKey : GoString := []
  privateKeyFormat : GoString := []
  cleartextPrivateKey : GoString := []
  certData : GoString := []
deriving DecidableEq, Repr, Inhabited

structure Certificate (ι : Type) where
  inlineDefinition : Option ι := none
deriving DecidableEq, Repr, Inhabited

structure NamedCert where
  name : GoString
  certData : GoString
deriving DecidableEq, Repr

/-- `InlineCerts` is a list of certificates. -/
structure CertBag where
  inlineDefinition : Option (List NamedCert) := none
  centralTruststoreReference : GoString := []
deriving DecidableEq, Repr

structure ClientIdentity (κ : Type) where
  credentialsReference : GoString := []
  certificate : Option κ := none
deriving DecidableEq, Repr, Inhabited

structure ServerAuthentication where
  credentialsReference : GoString := []
  caCerts : Option CertBag := none
  eeCerts : Option CertBag := none
deriving DecidableEq, Repr, Inhabited

/-- `HelloParams`, with `TLSVersions` and `CipherSuites`. -/
structure HelloParams where
  min : GoString
  max : GoString
  cipherSuite : List GoString := []
deriving DecidableEq, Repr

structure TLSClient (κ : Type) where
  clientIdentity : ClientIdentity κ := {}
  serverAuthentication : ServerAuthentication := {}
  helloParams : Option HelloParams := none
deriving DecidableEq, Repr, Inhabited

structure Security (τ σ : Type) where
  tls : Option τ := none
  sharedSecret : Option σ := none
deriving DecidableEq, Repr

structure Source where
  sourceIP : Option GoString := none
  sourceInterface : Option GoString := none
deriving DecidableEq, Repr

/-- `RawServerType`: a string or a list of strings. -/
inductive RawServerType where
  | unset
  | one (s : GoString)
  | many (ss : List GoString)
deriving DecidableEq, Repr

structure Server (τ σ : Type) where
  name : GoString
  serverType : UInt8 := 0
  rawServerType : RawServerType := .unset
  domainName : GoString := []
  sniEnabled : Bool := false
  address : GoString := []
  port : UInt16 := 0
  security : Security τ σ := {}
  source : Source := {}
  vrfInstance : GoString := []
  singleConnection : Bool := false
  timeout : UInt16 := 0
deriving DecidableEq, Repr

structure ClientCredential (κ : Type) where
  id : GoString
  certificate : Option κ := none
deriving DecidableEq, Repr

structure ServerCredential where
  id : GoString
  caCerts : Option CertBag := none
  eeCerts : Option CertBag := none
deriving DecidableEq, Repr

structure Config (τ σ κ : Type) where
  servers : List (Server τ σ) := []
  clientCredentials : List (ClientCredential κ) := []
  serverCredentials : List ServerCredential := []
deriving DecidableEq, Repr

/-! ## Reading -/

section Map

variable {ι ι' κ κ' σ σ' τ τ' : Type}

def Certificate.map (f : ι → ι') (c : Certificate ι) : Certificate ι' where
  inlineDefinition := c.inlineDefinition.map f

def TLSClient.map (f : κ → κ') (t : TLSClient κ) : TLSClient κ' where
  clientIdentity :=
    { credentialsReference := t.clientIdentity.credentialsReference
      certificate := t.clientIdentity.certificate.map f }
  serverAuthentication := t.serverAuthentication
  helloParams := t.helloParams

def Server.map (f : τ → τ') (g : σ → σ') (s : Server τ σ) : Server τ' σ' where
  name := s.name
  serverType := s.serverType
  rawServerType := s.rawServerType
  domainName := s.domainName
  sniEnabled := s.sniEnabled
  address := s.address
  port := s.port
  security := { tls := s.security.tls.map f, sharedSecret := s.security.sharedSecret.map g }
  source := s.source
  vrfInstance := s.vrfInstance
  singleConnection := s.singleConnection
  timeout := s.timeout

def ClientCredential.map (f : κ → κ') (c : ClientCredential κ) : ClientCredential κ' where
  id := c.id
  certificate := c.certificate.map f

def Config.map (f : τ → τ') (g : σ → σ') (k : κ → κ') (c : Config τ σ κ) : Config τ' σ' κ' where
  servers := c.servers.map (Server.map f g)
  clientCredentials := c.clientCredentials.map (ClientCredential.map k)
  serverCredentials := c.serverCredentials

end Map

/-- What the memory holds for a `Certificate` and for a `TLSClient`. -/
abbrev CertificateCell := Certificate (Ref InlineCertificate)
abbrev TLSCell := TLSClient (Ref CertificateCell)

structure Memory where
  tls : Heap TLSCell
  certificates : Heap CertificateCell
  inlines : Heap InlineCertificate
  secrets : Heap GoString

/-- A `Server` and a `Config` with pointers in them. -/
abbrev ServerCell := Server (Ref TLSCell) (Ref GoString)
abbrev ConfigCell := Config (Ref TLSCell) (Ref GoString) (Ref CertificateCell)

/-- The same with everything a pointer leads to in its place. -/
abbrev CertificateValue := Certificate InlineCertificate
abbrev TLSValue := TLSClient CertificateValue
abbrev ServerValue := Server TLSValue GoString
abbrev ConfigValue := Config TLSValue GoString CertificateValue

namespace Memory

variable (m : Memory)

def readCertificate (p : Ref CertificateCell) : CertificateValue :=
  (m.certificates.read p).map m.inlines.read

def readTLS (p : Ref TLSCell) : TLSValue := (m.tls.read p).map m.readCertificate

def readServer (s : ServerCell) : ServerValue := s.map m.readTLS m.secrets.read

def readConfig (c : ConfigCell) : ConfigValue :=
  c.map m.readTLS m.secrets.read m.readCertificate

/-- No allocated cell holds a dangling pointer. -/
structure Sound : Prop where
  tls : ∀ t, m.tls.has t → ∀ c, (m.tls.read t).clientIdentity.certificate = some c →
    m.certificates.has c
  certificates : ∀ c, m.certificates.has c →
    ∀ i, (m.certificates.read c).inlineDefinition = some i → m.inlines.has i

end Memory

/-- The pointers of a server are allocated. -/
structure Server.Within (m : Memory) (s : ServerCell) : Prop where
  tls : ∀ t, s.security.tls = some t → m.tls.has t
  sharedSecret : ∀ p, s.security.sharedSecret = some p → m.secrets.has p

/-- A configuration in memory, as type safety gives it: no pointer dangles. Pointers may be
    shared, between servers and with the registry. -/
structure Stored where
  config : ConfigCell
  memory : Memory
  sound : memory.Sound
  servers : ∀ s ∈ config.servers, s.Within memory
  clientCredentials : ∀ cc ∈ config.clientCredentials, ∀ c, cc.certificate = some c →
    memory.certificates.has c

/-- The configuration as a reader sees it. -/
def Stored.value (a : Stored) : ConfigValue := a.memory.readConfig a.config

end Yang
end Tacacs
