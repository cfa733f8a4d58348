import Tacacs.Yang.Redact

/-!
# What `Redact` does to the copy and to the original

The effect of `Redact` on the memory is small and can be said at once (`Effect`): the strings
that were there stay, and the certificates of the servers' client identities, and only those,
come to hold a redacted key. The copy and the original share these certificates, so both see it.

Two things follow. The original has lost its keys (`redact_original_iff`). And a certificate of
the registry is redacted only if some server happens to share it; otherwise the copy shows the
key (`redact_reveals_iff`).
-/

set_option autoImplicit false

namespace Tacacs
namespace Proof
namespace Yang

open GoSem Mem
open Tacacs.Yang

/-! ## Redaction of values -/

def redactInline (d : InlineCertificate) : InlineCertificate :=
  { d with cleartextPrivateKey := redactIfSet d.cleartextPrivateKey }

def redactCertificate (v : CertificateValue) : CertificateValue := v.map redactInline

theorem redactIfSet_idem (s : GoString) : redactIfSet (redactIfSet s) = redactIfSet s := by
  unfold redactIfSet
  by_cases h : s = []
  · rw [if_pos h, if_pos h]
  · rw [if_neg h]
    rfl

theorem redactCertificate_idem (v : CertificateValue) :
    redactCertificate (redactCertificate v) = redactCertificate v := by
  have hinline : redactInline ∘ redactInline = redactInline := by
    funext d
    simp [redactInline, redactIfSet_idem]
  unfold redactCertificate Certificate.map
  simp [hinline]

section Maps

variable {ι ι' ι'' κ κ' κ'' σ σ' σ'' τ τ' τ'' : Type}

@[simp] theorem certificate_map_map (f : ι → ι') (g : ι' → ι'') (c : Certificate ι) :
    (c.map f).map g = c.map (g ∘ f) := by
  simp [Certificate.map]

@[simp] theorem tls_map_map (f : κ → κ') (g : κ' → κ'') (t : TLSClient κ) :
    (t.map f).map g = t.map (g ∘ f) := by
  simp [TLSClient.map]

@[simp] theorem server_map_map (f : τ → τ') (f' : τ' → τ'') (g : σ → σ') (g' : σ' → σ'')
    (s : Tacacs.Yang.Server τ σ) : (s.map f g).map f' g' = s.map (f' ∘ f) (g' ∘ g) := by
  simp [Server.map]

@[simp] theorem clientCredential_map_map (f : κ → κ') (g : κ' → κ'') (c : ClientCredential κ) :
    (c.map f).map g = c.map (g ∘ f) := by
  simp [ClientCredential.map]

end Maps

/-! ## The effect on the memory -/

/-- The certificate that a server's client identity points to. -/
def identityOf (m : Memory) (s : ServerCell) : Option (Ref CertificateCell) :=
  s.security.tls.bind fun t => (m.tls.read t).clientIdentity.certificate

def identities (m : Memory) (ss : List ServerCell) : List (Ref CertificateCell) :=
  ss.filterMap (identityOf m)

/-- From `m` to `m'` the certificates in `cs` were redacted, and nothing else can be noticed
    through a pointer that was there before. -/
structure Effect (cs : List (Ref CertificateCell)) (m m' : Memory) : Prop where
  tls : m'.tls = m.tls
  certificates : m'.certificates.next = m.certificates.next
  secrets : ∀ p, m.secrets.has p → m'.secrets.has p ∧ m'.secrets.read p = m.secrets.read p
  redacted : ∀ c, m.certificates.has c → m'.readCertificate c =
    if c ∈ cs then redactCertificate (m.readCertificate c) else m.readCertificate c
  sound : m'.Sound

theorem Effect.refl {m : Memory} (h : m.Sound) : Effect [] m m :=
  ⟨rfl, rfl, fun _ hp => ⟨hp, rfl⟩, fun _ _ => (if_neg List.not_mem_nil).symm, h⟩

theorem Effect.trans {cs cs' : List (Ref CertificateCell)} {m m' m'' : Memory}
    (h : Effect cs m m') (h' : Effect cs' m' m'') : Effect (cs ++ cs') m m'' := by
  refine ⟨h'.tls.trans h.tls, h'.certificates.trans h.certificates, ?_, ?_, h'.sound⟩
  · intro p hp
    obtain ⟨hp', heq⟩ := h.secrets p hp
    obtain ⟨hp'', heq'⟩ := h'.secrets p hp'
    exact ⟨hp'', heq'.trans heq⟩
  · intro c hc
    have hc' : m'.certificates.has c := by
      unfold Heap.has
      rw [h.certificates]
      exact hc
    rw [h'.redacted c hc', h.redacted c hc]
    -- a certificate that both redact is redacted once
    by_cases h1 : c ∈ cs <;> by_cases h2 : c ∈ cs' <;> simp [h1, h2, redactCertificate_idem]

theorem identityOf_congr {cs : List (Ref CertificateCell)} {m m' : Memory} (h : Effect cs m m')
    (s : ServerCell) : identityOf m' s = identityOf m s := by
  unfold identityOf
  rw [h.tls]

/-! ### One server -/

/-- The copy points to a string of stars, where the server points to a secret. -/
structure HidesSecret (m m' : Memory) (s rs : ServerCell) : Prop where
  tls : rs.security.tls = s.security.tls
  same : rs = { s with security := rs.security }
  allocated : ∀ p, rs.security.sharedSecret = some p → m'.secrets.has p
  hidden : rs.security.sharedSecret.map m'.secrets.read
    = s.security.sharedSecret.map fun p => stars (m.secrets.read p)

theorem hideSecret_spec {m : Memory} (hm : m.Sound) (s : ServerCell) :
    Effect [] m (hideSecret m s).2 ∧ HidesSecret m (hideSecret m s).2 s (hideSecret m s).1 := by
  unfold hideSecret
  cases hp : s.security.sharedSecret with
  | none =>
    refine ⟨Effect.refl hm, rfl, rfl, ?_, ?_⟩
    · intro p h
      rw [hp] at h
      cases h
    · rw [hp]
      rfl
  | some p =>
    refine ⟨⟨rfl, rfl, ?_, fun _ _ => (if_neg List.not_mem_nil).symm, ⟨hm.tls, hm.certificates⟩⟩,
      rfl, rfl, ?_, ?_⟩
    · intro q hq
      exact ⟨Heap.has_alloc_old hq _, Heap.read_alloc_old hq _⟩
    · intro q hq
      cases hq
      exact Heap.has_alloc_new _
    · dsimp only
      rw [hp, Option.map_some, Option.map_some, Heap.read_alloc_new]

/-- A write of a redacted copy through the pointer to a certificate. -/
theorem effect_write {m : Memory} (hm : m.Sound) {c : Ref CertificateCell}
    {i : Ref InlineCertificate} (hi : (m.certificates.read c).inlineDefinition = some i) :
    let ind := m.inlines.alloc (redactInline (m.inlines.read i))
    Effect [c] m
      { m with
          inlines := ind.2
          certificates := m.certificates.write c
            { m.certificates.read c with inlineDefinition := some ind.1 } } := by
  intro ind
  refine ⟨rfl, rfl, fun p hp => ⟨hp, rfl⟩, ?_, ⟨hm.tls, ?_⟩⟩
  · intro q hq
    unfold Memory.readCertificate
    dsimp only
    by_cases hqc : q = c
    · subst hqc
      rw [if_pos (List.mem_singleton_self q), Heap.read_write_self]
      unfold redactCertificate Certificate.map
      rw [hi]
      simp [ind]
    · rw [if_neg (by simpa using hqc), Heap.read_write_ne hqc]
      unfold Certificate.map
      cases hj : (m.certificates.read q).inlineDefinition with
      | none => rfl
      | some j =>
        rw [Option.map_some, Option.map_some,
          Heap.read_alloc_old (hm.certificates q hq j hj)]
  · intro q hq j hj
    dsimp only at hj ⊢
    by_cases hqc : q = c
    · subst hqc
      rw [Heap.read_write_self] at hj
      cases hj
      exact Heap.has_alloc_new _
    · rw [Heap.read_write_ne hqc] at hj
      exact Heap.has_alloc_old (hm.certificates q hq j hj) _

/-- Where there is no inline definition, there is nothing to redact. -/
theorem effect_none {m : Memory} (hm : m.Sound) {c : Ref CertificateCell}
    (hi : (m.certificates.read c).inlineDefinition = none) : Effect [c] m m := by
  refine ⟨rfl, rfl, fun _ hp => ⟨hp, rfl⟩, ?_, hm⟩
  intro q _
  by_cases hqc : q = c
  · subst hqc
    rw [if_pos (List.mem_singleton_self q)]
    simp [redactCertificate, Memory.readCertificate, Certificate.map, hi]
  · rw [if_neg (by simpa using hqc)]

theorem hideKey_spec {m : Memory} (hm : m.Sound) (s : ServerCell) :
    Effect (identityOf m s).toList m (hideKey m s) := by
  unfold hideKey identityOf
  cases s.security.tls with
  | none => exact Effect.refl hm
  | some t =>
    dsimp only [Option.bind_some]
    cases (m.tls.read t).clientIdentity.certificate with
    | none => exact Effect.refl hm
    | some c =>
      dsimp only [Option.toList_some]
      cases hi : (m.certificates.read c).inlineDefinition with
      | none => exact effect_none hm hi
      | some i => exact effect_write hm hi

theorem redactServer_spec {m : Memory} (hm : m.Sound) (s : ServerCell) :
    Effect (identityOf m s).toList m (redactServer m s).2 ∧
      HidesSecret m (redactServer m s).2 s (redactServer m s).1 := by
  unfold redactServer
  obtain ⟨heff, hhides⟩ := hideSecret_spec hm s
  have hkey := hideKey_spec heff.sound (hideSecret m s).1
  have hid : identityOf (hideSecret m s).2 (hideSecret m s).1 = identityOf m s := by
    rw [identityOf_congr heff]
    unfold identityOf
    rw [hhides.tls]
  rw [hid] at hkey
  refine ⟨heff.trans hkey, hhides.tls, hhides.same, ?_, ?_⟩
  · intro p hp
    exact (hkey.secrets p (hhides.allocated p hp)).1
  · rw [← hhides.hidden]
    refine Option.map_congr fun p hp => ?_
    exact (hkey.secrets p (hhides.allocated p hp)).2

/-! ### All servers -/

def redactServerValue (v : ServerValue) : ServerValue :=
  v.map (TLSClient.map redactCertificate) stars

/-- Reading the TLS settings of a server whose certificate was redacted on the way. -/
theorem readTLS_of_effect {cs : List (Ref CertificateCell)} {m m' : Memory} (h : Effect cs m m')
    (hm : m.Sound) {t : Ref TLSCell} (ht : m.tls.has t)
    (hcs : ∀ c, (m.tls.read t).clientIdentity.certificate = some c → c ∈ cs) :
    m'.readTLS t = (m.readTLS t).map redactCertificate := by
  unfold Memory.readTLS
  rw [h.tls, tls_map_map]
  unfold TLSClient.map
  congr 2
  refine Option.map_congr fun c hc => ?_
  rw [h.redacted c (hm.tls t ht c hc), if_pos (hcs c hc)]
  rfl

/-- The copy of a server, read once all servers are redacted. -/
theorem readServer_of_hides {cs : List (Ref CertificateCell)} {m m₁ m' : Memory}
    {s rs : ServerCell} (h : Effect cs m m') (hm : m.Sound) (hs : s.Within m)
    (hcs : ∀ c, identityOf m s = some c → c ∈ cs) (hhides : HidesSecret m m₁ s rs)
    (hlater : ∀ p, m₁.secrets.has p → m'.secrets.read p = m₁.secrets.read p) :
    m'.readServer rs = redactServerValue (m.readServer s) := by
  have htls : rs.security.tls.map m'.readTLS
      = s.security.tls.map (TLSClient.map redactCertificate ∘ m.readTLS) := by
    rw [hhides.tls]
    refine Option.map_congr fun t ht => ?_
    refine readTLS_of_effect h hm (hs.tls t ht) fun c hc => hcs c ?_
    unfold identityOf
    rw [ht]
    exact hc
  have hsecret : rs.security.sharedSecret.map m'.secrets.read
      = s.security.sharedSecret.map (stars ∘ m.secrets.read) := by
    rw [show (stars ∘ m.secrets.read) = fun p => stars (m.secrets.read p) from rfl,
      ← hhides.hidden]
    exact Option.map_congr fun p hp => hlater p (hhides.allocated p hp)
  unfold redactServerValue Memory.readServer
  rw [server_map_map, hhides.same]
  unfold Server.map
  dsimp only
  rw [htls, hsecret]

theorem Server.Within.of_effect {cs : List (Ref CertificateCell)} {m m' : Memory}
    (h : Effect cs m m') {s : ServerCell} (hs : s.Within m) : s.Within m' := by
  refine ⟨?_, fun p hp => (h.secrets p (hs.sharedSecret p hp)).1⟩
  rw [h.tls]
  exact hs.tls

/-- Redacting what is redacted in part gives what redacting gives. -/
theorem redactServerValue_of_effect {cs : List (Ref CertificateCell)} {m m' : Memory}
    (h : Effect cs m m') (hm : m.Sound) {s : ServerCell} (hs : s.Within m) :
    redactServerValue (m'.readServer s) = redactServerValue (m.readServer s) := by
  have hcert : ∀ c, m.certificates.has c →
      redactCertificate (m'.readCertificate c) = redactCertificate (m.readCertificate c) := by
    intro c hc
    rw [h.redacted c hc]
    split
    · exact redactCertificate_idem _
    · rfl
  have htls : s.security.tls.map (TLSClient.map redactCertificate ∘ m'.readTLS)
      = s.security.tls.map (TLSClient.map redactCertificate ∘ m.readTLS) := by
    refine Option.map_congr fun t ht => ?_
    unfold Memory.readTLS
    rw [Function.comp_apply, Function.comp_apply, h.tls, tls_map_map, tls_map_map]
    unfold TLSClient.map
    congr 2
    exact Option.map_congr fun c hc => hcert c (hm.tls t (hs.tls t ht) c hc)
  have hsecret : s.security.sharedSecret.map (stars ∘ m'.secrets.read)
      = s.security.sharedSecret.map (stars ∘ m.secrets.read) := by
    refine Option.map_congr fun p hp => ?_
    rw [Function.comp_apply, Function.comp_apply, (h.secrets p (hs.sharedSecret p hp)).2]
  unfold redactServerValue Memory.readServer
  rw [server_map_map, server_map_map]
  unfold Server.map
  rw [htls, hsecret]

theorem redactServers_spec {m : Memory} (hm : m.Sound) {ss : List ServerCell}
    (hss : ∀ s ∈ ss, s.Within m) :
    Effect (identities m ss) m (redactServers m ss).2 ∧
      (redactServers m ss).1.map (redactServers m ss).2.readServer
        = ss.map fun s => redactServerValue (m.readServer s) := by
  induction ss generalizing m with
  | nil => exact ⟨Effect.refl hm, rfl⟩
  | cons s ss ih =>
    obtain ⟨hs, hss⟩ := List.forall_mem_cons.mp hss
    unfold redactServers
    dsimp only
    obtain ⟨heff, hhides⟩ := redactServer_spec hm s
    set m₁ := (redactServer m s).2
    obtain ⟨hrest, hvalues⟩ := ih heff.sound fun s' h => Server.Within.of_effect heff (hss s' h)
    have hids : identities m₁ ss = identities m ss :=
      List.filterMap_congr fun s' _ => identityOf_congr heff s'
    rw [hids] at hrest
    have hcons : identities m (s :: ss) = (identityOf m s).toList ++ identities m ss := by
      unfold identities
      rw [List.filterMap_cons]
      cases identityOf m s <;> rfl
    have hall := heff.trans hrest
    rw [hcons]
    refine ⟨hall, ?_⟩
    rw [List.map_cons, List.map_cons, hvalues]
    congr 1
    · refine readServer_of_hides hall hm hs ?_ hhides fun p hp => (hrest.secrets p hp).2
      intro c hc
      rw [hc]
      exact List.mem_append_left _ (List.mem_singleton_self c)
    · refine List.map_congr_left fun s' h => ?_
      exact redactServerValue_of_effect heff hm (hss s' h)

/-! ## The copy and the original -/

/-- A certificate of the registry after `Redact`: redacted if a server's client identity is the
    same certificate. -/
def shownCertificate (a : Stored) (c : Ref CertificateCell) : CertificateValue :=
  if c ∈ identities a.memory a.config.servers then redactCertificate (a.memory.readCertificate c)
  else a.memory.readCertificate c

/-- The registry after `Redact`. -/
def shownRegistry (a : Stored) : List (ClientCredential CertificateValue) :=
  a.config.clientCredentials.map (ClientCredential.map (shownCertificate a))

/-- The configuration that `Redact` returns, as a reader sees it, and the original at that
    moment. -/
def redacted (a : Stored) : Option ConfigValue :=
  (redact a.memory (some a.config)).1.map (redact a.memory (some a.config)).2.readConfig

def originalAfter (a : Stored) : ConfigValue :=
  (redact a.memory (some a.config)).2.readConfig a.config

theorem registry_of_effect {a : Stored} {m' : Memory}
    (h : Effect (identities a.memory a.config.servers) a.memory m') :
    a.config.clientCredentials.map (ClientCredential.map m'.readCertificate)
      = shownRegistry a := by
  refine List.map_congr_left fun cc hcc => ?_
  unfold ClientCredential.map
  congr 1
  exact Option.map_congr fun c hc => h.redacted c (a.clientCredentials cc hcc c hc)

theorem redacted_eq (a : Stored) :
    redacted a = some
      { servers := a.value.servers.map redactServerValue
        clientCredentials := shownRegistry a
        serverCredentials := a.value.serverCredentials } := by
  obtain ⟨heff, hvalues⟩ := redactServers_spec a.sound a.servers
  unfold redacted redact Memory.readConfig Config.map
  simp only [Option.map_some, Option.some.injEq, Config.mk.injEq]
  refine ⟨hvalues.trans ?_, registry_of_effect heff, rfl⟩
  exact (List.map_map (f := a.memory.readServer) (g := redactServerValue)).symm

/-! ### The original -/

/-- A server whose certificate has been redacted behind its back. -/
def loseKey (v : ServerValue) : ServerValue := v.map (TLSClient.map redactCertificate) id

theorem originalAfter_eq (a : Stored) :
    originalAfter a =
      { servers := a.value.servers.map loseKey
        clientCredentials := shownRegistry a
        serverCredentials := a.value.serverCredentials } := by
  obtain ⟨heff, -⟩ := redactServers_spec a.sound a.servers
  unfold originalAfter redact Memory.readConfig Config.map
  simp only [Config.mk.injEq]
  refine ⟨?_, registry_of_effect heff, rfl⟩
  refine Eq.trans ?_ (List.map_map (f := a.memory.readServer) (g := loseKey)).symm
  refine List.map_congr_left fun s hs => ?_
  have hwithin := a.servers s hs
  have htls : s.security.tls.map (redactServers a.memory a.config.servers).2.readTLS
      = s.security.tls.map (TLSClient.map redactCertificate ∘ a.memory.readTLS) := by
    refine Option.map_congr fun t ht => ?_
    refine readTLS_of_effect heff a.sound (hwithin.tls t ht) fun c hc => ?_
    refine List.mem_filterMap.mpr ⟨s, hs, ?_⟩
    unfold identityOf
    rw [ht]
    exact hc
  have hsecret :
      s.security.sharedSecret.map (redactServers a.memory a.config.servers).2.secrets.read
        = s.security.sharedSecret.map (id ∘ a.memory.secrets.read) :=
    Option.map_congr fun p hp => (heff.secrets p (hwithin.sharedSecret p hp)).2
  unfold loseKey Memory.readServer
  rw [Function.comp_apply, server_map_map]
  unfold Server.map
  rw [htls, hsecret]

theorem redactIfSet_eq_self {s : GoString} :
    redactIfSet s = s ↔ s = [] ∨ s = lit "<redacted>" := by
  unfold redactIfSet
  by_cases h : s = []
  · simp [h]
  · rw [if_neg h]
    simp [h, eq_comm]

theorem redactCertificate_eq_self {v : CertificateValue} :
    redactCertificate v = v ↔ ∀ d, v.inlineDefinition = some d →
      d.cleartextPrivateKey = [] ∨ d.cleartextPrivateKey = lit "<redacted>" := by
  obtain ⟨d⟩ := v
  cases d with
  | none => simp [redactCertificate, Certificate.map]
  | some d =>
    obtain ⟨_, _, _, key, _⟩ := d
    simp [redactCertificate, Certificate.map, redactInline, redactIfSet_eq_self]

/-- The client certificate of a server, as a reader sees it. -/
def identityValue (v : ServerValue) : Option CertificateValue :=
  v.security.tls.bind fun t => t.clientIdentity.certificate

theorem loseKey_eq_self {v : ServerValue} :
    loseKey v = v ↔ ∀ w, identityValue v = some w → redactCertificate w = w := by
  obtain ⟨_, _, _, _, _, _, _, ⟨tls, secret⟩, _, _, _, _⟩ := v
  cases tls with
  | none => simp [loseKey, Server.map, identityValue]
  | some t =>
    obtain ⟨⟨_, cert⟩, _, _⟩ := t
    cases cert with
    | none => simp [loseKey, Server.map, identityValue, TLSClient.map]
    | some w => simp [loseKey, Server.map, identityValue, TLSClient.map]

theorem identityValue_readServer (m : Memory) (s : ServerCell) :
    identityValue (m.readServer s) = (identityOf m s).map m.readCertificate := by
  unfold identityValue identityOf Memory.readServer Server.map
  cases s.security.tls <;> rfl

/-- **When the original survives.** Read through the store, the configuration is after `Redact`
    what it was before if and only if no server has a client certificate with a private key, other
    than one that is the placeholder already. -/
theorem redact_original_iff (a : Stored) :
    originalAfter a = a.value ↔
      ∀ s ∈ a.value.servers, ∀ w, identityValue s = some w → ∀ d, w.inlineDefinition = some d →
        d.cleartextPrivateKey = [] ∨ d.cleartextPrivateKey = lit "<redacted>" := by
  have hcond : (∀ s ∈ a.value.servers, loseKey s = s) ↔
      ∀ s ∈ a.value.servers, ∀ w, identityValue s = some w → ∀ d, w.inlineDefinition = some d →
        d.cleartextPrivateKey = [] ∨ d.cleartextPrivateKey = lit "<redacted>" := by
    simp only [loseKey_eq_self, redactCertificate_eq_self]
  rw [← hcond, originalAfter_eq]
  constructor
  · intro h s hs
    have hservers : a.value.servers.map loseKey = a.value.servers.map id := by
      rw [List.map_id]
      exact congrArg Config.servers h
    exact List.map_inj_left.mp hservers s hs
  · intro h
    have hservers : a.value.servers.map loseKey = a.value.servers :=
      (List.map_congr_left h).trans (List.map_id _)
    -- a registry entry that was redacted is the certificate of a server, which had no key
    have hshown : ∀ c, shownCertificate a c = a.memory.readCertificate c := by
      intro c
      unfold shownCertificate
      split
      · next hc =>
        obtain ⟨s, hs, hid⟩ := List.mem_filterMap.mp hc
        have hfix := h (a.memory.readServer s) (List.mem_map_of_mem hs)
        refine loseKey_eq_self.mp hfix _ ?_
        rw [identityValue_readServer, hid]
        rfl
      · rfl
    have hregistry : shownRegistry a = a.value.clientCredentials := by
      unfold shownRegistry
      rw [show shownCertificate a = a.memory.readCertificate from funext hshown]
      rfl
    rw [hservers, hregistry]

/-- A certificate that is an inline private key. -/
def inlineKey (key : GoString) : CertificateValue :=
  { inlineDefinition := some { cleartextPrivateKey := key } }

def tlsWithKey (key : GoString) : TLSValue :=
  { clientIdentity := { certificate := some (inlineKey key) } }

/-- One server that presents a client certificate with an inline private key. -/
def keyedServer (key : String) : Stored where
  config := { servers := [{ name := lit "s", security := { tls := some ⟨0⟩ } }] }
  memory :=
    { tls := .ofList [{ clientIdentity := { certificate := some ⟨0⟩ } }]
      certificates := .ofList [{ inlineDefinition := some ⟨0⟩ }]
      inlines := .ofList [{ cleartextPrivateKey := lit key }]
      secrets := .ofList [] }
  sound := by
    constructor
    · rintro ⟨t⟩ ht c hc
      obtain rfl : t = 0 := Nat.lt_one_iff.mp ht
      cases hc
      exact Nat.zero_lt_one
    · rintro ⟨c⟩ hc i hi
      obtain rfl : c = 0 := Nat.lt_one_iff.mp hc
      cases hi
      exact Nat.zero_lt_one
  servers := by
    intro s hs
    rw [List.mem_singleton.mp hs]
    constructor
    · intro t ht
      cases ht
      exact Nat.zero_lt_one
    · intro p hp
      cases hp
  clientCredentials := by
    intro cc hcc
    cases hcc

/-- The original has lost its key. -/
theorem redact_destroys_key :
    originalAfter (keyedServer "priv") ≠ (keyedServer "priv").value ∧
      (keyedServer "priv").value.servers.map identityValue
        = [some (inlineKey (lit "priv"))] ∧
      (originalAfter (keyedServer "priv")).servers.map identityValue
        = [some (inlineKey (lit "<redacted>"))] := by
  have hbefore : (keyedServer "priv").value.servers.map identityValue
      = [some (inlineKey (lit "priv"))] := rfl
  have hafter : (originalAfter (keyedServer "priv")).servers.map identityValue
      = [some (inlineKey (lit "<redacted>"))] := by
    rw [originalAfter_eq]
    rfl
  refine ⟨?_, hbefore, hafter⟩
  intro h
  rw [h, hbefore] at hafter
  exact absurd hafter (by decide)

/-! ### What the copy shows -/

/-- A key without its characters, and a configuration without the characters of its secrets and
    keys, in all three places. -/
def maskInline (d : InlineCertificate) : InlineCertificate :=
  { d with cleartextPrivateKey := stars d.cleartextPrivateKey }

def maskCertificate (v : CertificateValue) : CertificateValue := v.map maskInline

def mask (v : ConfigValue) : ConfigValue :=
  v.map (TLSClient.map maskCertificate) stars maskCertificate

/-- The private key that a registry entry shows after `Redact`. -/
def registryKey (a : Stored) (cc : ClientCredential (Ref CertificateCell)) : Option GoString :=
  cc.certificate.bind fun c => ((a.memory.readCertificate c).inlineDefinition).map fun d =>
    if c ∈ identities a.memory a.config.servers then redactIfSet d.cleartextPrivateKey
    else d.cleartextPrivateKey

theorem redactIfSet_stars (s : GoString) : redactIfSet (stars s) = redactIfSet s := by
  cases s with
  | nil => rfl
  | cons c s => rfl

theorem stars_stars (s : GoString) : stars (stars s) = stars s := by
  simp [stars]

/-- What is done to the servers does not depend on the characters. -/
theorem redactServerValue_mask (v : ServerValue) :
    redactServerValue (v.map (TLSClient.map maskCertificate) stars) = redactServerValue v := by
  have hcert : redactCertificate ∘ maskCertificate = redactCertificate := by
    funext w
    have hinline : redactInline ∘ maskInline = redactInline := by
      funext d
      simp [redactInline, maskInline, redactIfSet_stars]
    simp [redactCertificate, maskCertificate, hinline]
  have htls : TLSClient.map redactCertificate ∘ TLSClient.map maskCertificate
      = TLSClient.map redactCertificate := by
    funext t
    simp [hcert]
  have hstars : stars ∘ stars = stars := funext stars_stars
  unfold redactServerValue
  rw [server_map_map, htls, hstars]

theorem servers_of_mask {v w : ConfigValue} (h : mask v = mask w) :
    v.servers.map redactServerValue = w.servers.map redactServerValue := by
  have hmask := congrArg (fun c => c.servers.map redactServerValue) h
  simpa [mask, Config.map, List.map_map, Function.comp_def, redactServerValue_mask] using hmask

/-! A registry entry is its key and the rest. -/

def entryKey (e : ClientCredential CertificateValue) : Option GoString :=
  e.certificate.bind fun w => w.inlineDefinition.map InlineCertificate.cleartextPrivateKey

def dropKey (d : InlineCertificate) : InlineCertificate := { d with cleartextPrivateKey := [] }

def entryRest (e : ClientCredential CertificateValue) : ClientCredential CertificateValue :=
  e.map (Certificate.map dropKey)

theorem entry_ext {e e' : ClientCredential CertificateValue} (hrest : entryRest e = entryRest e')
    (hkey : entryKey e = entryKey e') : e = e' := by
  obtain ⟨id, cert⟩ := e
  obtain ⟨id', cert'⟩ := e'
  simp only [entryRest, ClientCredential.map, ClientCredential.mk.injEq] at hrest
  obtain ⟨rfl, hcert⟩ := hrest
  cases cert with
  | none => cases cert' with
    | none => rfl
    | some w' => cases hcert
  | some w => cases cert' with
    | none => cases hcert
    | some w' =>
      obtain ⟨d⟩ := w
      obtain ⟨d'⟩ := w'
      cases d with
      | none => cases d' with
        | none => rfl
        | some d' => cases hcert
      | some d => cases d' with
        | none => cases hcert
        | some d' =>
          obtain ⟨_, _, _, key, _⟩ := d
          obtain ⟨_, _, _, key', _⟩ := d'
          simp only [Option.map_some, Certificate.map, dropKey, Option.some.injEq,
            Certificate.mk.injEq, InlineCertificate.mk.injEq, true_and] at hcert
          obtain ⟨rfl, rfl, rfl, rfl⟩ := hcert
          have : key = key' := by simpa [entryKey] using hkey
          rw [this]

theorem registry_ext {es es' : List (ClientCredential CertificateValue)}
    (hrest : es.map entryRest = es'.map entryRest) (hkey : es.map entryKey = es'.map entryKey) :
    es = es' := by
  induction es generalizing es' with
  | nil => simpa using hrest
  | cons e es ih =>
    cases es' with
    | nil => simp at hrest
    | cons e' es' =>
      rw [List.map_cons, List.map_cons, List.cons.injEq] at hrest hkey
      rw [entry_ext hrest.1 hkey.1, ih hrest.2 hkey.2]

theorem map_entryKey_shownRegistry (a : Stored) :
    (shownRegistry a).map entryKey = a.config.clientCredentials.map (registryKey a) := by
  unfold shownRegistry
  rw [List.map_map]
  refine List.map_congr_left fun cc _ => ?_
  obtain ⟨id, cert⟩ := cc
  cases cert with
  | none => rfl
  | some c =>
    unfold registryKey
    simp only [Function.comp_apply, entryKey, ClientCredential.map, Option.map_some,
      Option.bind_some, shownCertificate]
    by_cases hc : c ∈ identities a.memory a.config.servers
    · simp only [if_pos hc, redactCertificate, Certificate.map, Option.map_map]
      rfl
    · simp only [if_neg hc]

theorem map_entryRest_shownRegistry (a : Stored) :
    (shownRegistry a).map entryRest = (mask a.value).clientCredentials.map entryRest := by
  have hcert : ∀ c, (shownCertificate a c).map dropKey
      = (maskCertificate (a.memory.readCertificate c)).map dropKey := by
    intro c
    unfold shownCertificate redactCertificate maskCertificate
    split
    · rw [certificate_map_map, certificate_map_map]
      rfl
    · rw [certificate_map_map]
      rfl
  have hmask : (mask a.value).clientCredentials = a.config.clientCredentials.map
      (ClientCredential.map (maskCertificate ∘ a.memory.readCertificate)) := by
    simp [mask, Stored.value, Memory.readConfig, Config.map, Function.comp_def]
  unfold shownRegistry
  rw [hmask, List.map_map, List.map_map]
  refine List.map_congr_left fun cc _ => ?_
  unfold entryRest
  rw [Function.comp_apply, Function.comp_apply, clientCredential_map_map,
    clientCredential_map_map]
  exact congrArg (fun f => cc.map f) (funext hcert)

/-- **What the copy reveals.** Let two configurations differ only in the characters of shared
    secrets and of private keys. Their redacted copies are equal if and only if their registries
    show the same keys. -/
theorem redact_reveals_iff (a b : Stored) (h : mask a.value = mask b.value) :
    redacted a = redacted b ↔
      a.config.clientCredentials.map (registryKey a)
        = b.config.clientCredentials.map (registryKey b) := by
  rw [redacted_eq, redacted_eq, Option.some.injEq, ← map_entryKey_shownRegistry,
    ← map_entryKey_shownRegistry]
  constructor
  · intro heq
    exact congrArg (fun c => c.clientCredentials.map entryKey) heq
  · intro hkeys
    have hregistry : shownRegistry a = shownRegistry b := by
      refine registry_ext ?_ hkeys
      rw [map_entryRest_shownRegistry, map_entryRest_shownRegistry, h]
    have hserver : a.value.serverCredentials = b.value.serverCredentials :=
      congrArg (fun c => c.serverCredentials) h
    rw [servers_of_mask h, hregistry, hserver]

/-- A registry with one entry, which no server refers to. -/
def registryOnly (key : String) : Stored where
  config := { clientCredentials := [{ id := lit "c", certificate := some ⟨0⟩ }] }
  memory :=
    { tls := .ofList []
      certificates := .ofList [{ inlineDefinition := some ⟨0⟩ }]
      inlines := .ofList [{ cleartextPrivateKey := lit key }]
      secrets := .ofList [] }
  sound := by
    constructor
    · rintro t ht
      cases ht
    · rintro ⟨c⟩ hc i hi
      obtain rfl : c = 0 := Nat.lt_one_iff.mp hc
      cases hi
      exact Nat.zero_lt_one
  servers := by
    intro s hs
    cases hs
  clientCredentials := by
    intro cc hcc c hc
    rw [List.mem_singleton.mp hcc] at hc
    cases hc
    exact Nat.zero_lt_one

theorem mask_registryOnly (key : String) :
    mask (registryOnly key).value =
      { clientCredentials :=
          [{ id := lit "c", certificate := some (inlineKey (stars (lit key))) }] } := rfl

theorem registryKey_registryOnly (key : String) :
    (registryOnly key).config.clientCredentials.map (registryKey (registryOnly key))
      = [some (lit key)] := rfl

theorem mask_keyedServer (key : String) :
    mask (keyedServer key).value =
      { servers :=
          [{ name := lit "s", security := { tls := some (tlsWithKey (stars (lit key))) } }] } := rfl

theorem registryKey_keyedServer (key : String) :
    (keyedServer key).config.clientCredentials.map (registryKey (keyedServer key)) = [] := rfl

theorem stars_alpha_gamma : stars (lit "alpha") = stars (lit "gamma") := by decide

/-- Two keys of one length, told apart by the redacted copies. -/
theorem redact_reveals_registry_key :
    mask (registryOnly "alpha").value = mask (registryOnly "gamma").value ∧
      redacted (registryOnly "alpha") ≠ redacted (registryOnly "gamma") := by
  refine ⟨by rw [mask_registryOnly, mask_registryOnly, stars_alpha_gamma], ?_⟩
  rw [redacted_eq, redacted_eq]
  intro h
  have hkeys := congrArg (fun c => c.clientCredentials.map entryKey) (Option.some.inj h)
  dsimp only at hkeys
  rw [map_entryKey_shownRegistry, map_entryKey_shownRegistry, registryKey_registryOnly,
    registryKey_registryOnly] at hkeys
  exact absurd hkeys (by decide)

/-- The keys of servers are not told apart. -/
theorem redact_hides_server_key :
    mask (keyedServer "alpha").value = mask (keyedServer "gamma").value ∧
      redacted (keyedServer "alpha") = redacted (keyedServer "gamma") := by
  have hmask : mask (keyedServer "alpha").value = mask (keyedServer "gamma").value := by
    rw [mask_keyedServer, mask_keyedServer, stars_alpha_gamma]
  refine ⟨hmask, (redact_reveals_iff (keyedServer "alpha") (keyedServer "gamma") hmask).mpr ?_⟩
  rw [registryKey_keyedServer, registryKey_keyedServer]

end Yang
end Proof
end Tacacs
