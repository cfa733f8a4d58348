import Tacacs.Proof.Yang.Validate
import Tacacs.Yang.Load

/-!
# What `Load` accepts

`Validate` sees the type of a server as bits, and `parseServerType` makes them of words. A word
that names no service adds no bit, so a list of words is refused only if none of them does.
-/

set_option autoImplicit false

namespace Tacacs
namespace Proof
namespace Yang

open GoSem GoText Tacacs.Yang

variable {σ κ κ' : Type}

/-! ## Words and bits -/

/-- The words of a `server-type`. -/
def words : RawServerType → List GoString
  | .unset => []
  | .one s => [s]
  | .many ss => ss

/-- A word names a service, up to case and the space around it. -/
def NamesService (s service : GoString) : Prop := Server.toLower (trimSpace s) = service

theorem parseServerType_eq (raw : RawServerType) :
    parseServerType raw = (words raw).foldl addServerType 0 := by
  cases raw <;> rfl

theorem or_and_distrib (a b c : UInt8) : (a ||| b) &&& c = (a &&& c) ||| (b &&& c) := by
  rw [← UInt8.toNat_inj]
  simp only [UInt8.toNat_and, UInt8.toNat_or]
  exact Nat.and_or_distrib_right _ _ _

/-- Distinct services have distinct bits. -/
theorem serviceNames_bits {n m : GoString × UInt8} (hn : n ∈ serviceNames)
    (hm : m ∈ serviceNames) : m.2 &&& n.2 ≠ 0 ↔ m.1 = n.1 := by
  simp only [serviceNames, List.mem_cons, List.not_mem_nil, or_false] at hn hm
  rcases hn with rfl | rfl | rfl <;> rcases hm with rfl | rfl | rfl <;> decide

/-- What one word does to one bit. -/
theorem addServerType_bit {n : GoString × UInt8} (hn : n ∈ serviceNames) (st : UInt8)
    (s : GoString) : addServerType st s &&& n.2 ≠ 0 ↔ st &&& n.2 ≠ 0 ∨ NamesService s n.1 := by
  unfold addServerType NamesService
  cases hword : serviceNames.lookup (Server.toLower (trimSpace s)) with
  | none =>
    have hne : Server.toLower (trimSpace s) ≠ n.1 := by
      simpa using List.lookup_eq_none_iff.mp hword n hn
    simp [hne]
  | some bit =>
    obtain ⟨pre, post, hsplit, -⟩ := List.lookup_eq_some_iff.mp hword
    have hmem : (Server.toLower (trimSpace s), bit) ∈ serviceNames := by
      rw [hsplit]
      simp
    have hbit := serviceNames_bits hn hmem
    dsimp only at hbit ⊢
    rw [or_and_distrib, ne_eq, UInt8.or_eq_zero_iff, not_and_or, ← hbit]

theorem foldl_addServerType_bit {n : GoString × UInt8} (hn : n ∈ serviceNames) (st : UInt8)
    (ss : List GoString) :
    ss.foldl addServerType st &&& n.2 ≠ 0 ↔ st &&& n.2 ≠ 0 ∨ ∃ s ∈ ss, NamesService s n.1 := by
  induction ss generalizing st with
  | nil => simp
  | cons s ss ih =>
    rw [List.foldl_cons, ih, addServerType_bit hn]
    simp [or_assoc]

/-- A bit is set exactly if one of the words names its service. -/
theorem parseServerType_bit {n : GoString × UInt8} (hn : n ∈ serviceNames) (raw : RawServerType) :
    parseServerType raw &&& n.2 ≠ 0 ↔ ∃ s ∈ words raw, NamesService s n.1 := by
  rw [parseServerType_eq, foldl_addServerType_bit hn]
  simp

/-- A word that names no service changes nothing. -/
theorem addServerType_unnamed {s : GoString} (h : ∀ n ∈ serviceNames, ¬NamesService s n.1)
    (st : UInt8) : addServerType st s = st := by
  have hnone : serviceNames.lookup (Server.toLower (trimSpace s)) = none := by
    rw [List.lookup_eq_none_iff]
    intro n hn
    simpa [NamesService] using h n hn
  rw [addServerType, hnone]

theorem foldl_addServerType_unnamed {ss : List GoString}
    (h : ∀ s ∈ ss, ∀ n ∈ serviceNames, ¬NamesService s n.1) (st : UInt8) :
    ss.foldl addServerType st = st := by
  induction ss generalizing st with
  | nil => rfl
  | cons s ss ih =>
    rw [List.foldl_cons, addServerType_unnamed (h s (.head _))]
    exact ih (fun s' hs' => h s' (.tail _ hs')) st

/-- `Validate` finds a type exactly if some word names some service. -/
theorem parseServerType_ne_zero_iff (raw : RawServerType) :
    parseServerType raw ≠ 0 ↔ ∃ s ∈ words raw, ∃ n ∈ serviceNames, NamesService s n.1 := by
  constructor
  · intro hset
    by_contra hnone
    apply hset
    rw [parseServerType_eq]
    refine foldl_addServerType_unnamed (fun s hs n hn hnames => ?_) 0
    exact hnone ⟨s, hs, n, hn, hnames⟩
  · rintro ⟨s, hs, n, hn, hnames⟩ hzero
    have hbit := (parseServerType_bit hn raw).mpr ⟨s, hs, hnames⟩
    rw [hzero] at hbit
    exact hbit UInt8.zero_and

/-! ## `Load` -/

/-- A server that may be in the list. -/
structure Listable (s : Yang.Server (TLSClient κ) σ) : Prop where
  name : s.name ≠ []
  services : ∃ word ∈ words s.rawServerType, ∃ n ∈ serviceNames, NamesService word n.1
  address : s.address ≠ []
  port : s.port ≠ 0
  security : s.security.tls.isSome ∨ s.security.sharedSecret.isSome
  sni : s.sniEnabled → s.domainName ≠ []
  tls : ∀ t, s.security.tls = some t → TLSWellFormed t

theorem wellFormed_normalize_iff (s : Yang.Server (TLSClient κ) σ) :
    WellFormed s.normalize ↔ Listable s := by
  constructor
  · intro h
    exact ⟨h.name, (parseServerType_ne_zero_iff _).mp h.serverType, h.address, h.port, h.security,
      h.sni, h.tls⟩
  · intro h
    exact ⟨h.name, (parseServerType_ne_zero_iff _).mpr h.services, h.address, h.port, h.security,
      h.sni, h.tls⟩

theorem unmarshal_ok {t : Tree σ κ κ'} {cfg : Config (TLSClient κ) σ κ'} :
    unmarshal t = .ok cfg ↔ ∃ servers clientCredentials serverCredentials,
      t = ⟨.ok servers, .ok clientCredentials, .ok serverCredentials⟩ ∧
      cfg = ⟨servers.map Server.normalize, clientCredentials, serverCredentials⟩ := by
  obtain ⟨server, clientCredentials, serverCredentials⟩ := t
  unfold unmarshal
  cases server <;> cases clientCredentials <;> cases serverCredentials <;> simp [eq_comm]

theorem validate_normalized {servers : List (Yang.Server (TLSClient κ) σ)}
    {clientCredentials : List (ClientCredential κ')}
    {serverCredentials : List ServerCredential} :
    Config.validate ⟨servers.map Server.normalize, clientCredentials, serverCredentials⟩ = .ok () ↔
      (∀ s ∈ servers, Listable s) ∧ (servers.map endpoint).Nodup := by
  have hendpoints : (servers.map Server.normalize).map endpoint = servers.map endpoint := by
    rw [List.map_map]
    rfl
  rw [validate_iff]
  dsimp only
  rw [hendpoints, List.forall_mem_map]
  simp only [wellFormed_normalize_iff]

/-- **What `Load` accepts.** A file is loaded if and only if it can be read, the three keys
    decode, every server has a name, an address, a port, a security choice and a `server-type`
    with at least one word for a service, keeps the rules about SNI and TLS, and no two servers
    have the address and the port in common. The configuration is then what was decoded, and a
    server is said to provide a service exactly if one of its words names it, up to case and
    the space around it. -/
theorem load_accepts_iff (file : Except GoError (Tree σ κ κ')) (cfg : Config (TLSClient κ) σ κ') :
    (load file = .ok cfg ↔ ∃ servers clientCredentials serverCredentials,
      file = .ok ⟨.ok servers, .ok clientCredentials, .ok serverCredentials⟩ ∧
      cfg = ⟨servers.map Server.normalize, clientCredentials, serverCredentials⟩ ∧
      (∀ s ∈ servers, Listable s) ∧ (servers.map endpoint).Nodup) ∧
    ∀ (s : Yang.Server (TLSClient κ) σ) n, n ∈ serviceNames →
      (s.normalize.serverType &&& n.2 ≠ 0 ↔
        ∃ word ∈ words s.rawServerType, NamesService word n.1) := by
  refine ⟨?_, fun s n hn => parseServerType_bit hn s.rawServerType⟩
  constructor
  · intro hload
    obtain ⟨tree, hfile, hrest⟩ := bind_eq_ok.mp hload
    obtain ⟨decoded, hdecoded, hrest⟩ := bind_eq_ok.mp hrest
    obtain ⟨_, hvalid, hcfg⟩ := bind_eq_ok.mp hrest
    cases hcfg
    subst hfile
    obtain ⟨servers, cc, sc, rfl, rfl⟩ := unmarshal_ok.mp hdecoded
    obtain ⟨hlistable, hunique⟩ := validate_normalized.mp hvalid
    exact ⟨servers, cc, sc, rfl, rfl, hlistable, hunique⟩
  · rintro ⟨servers, cc, sc, rfl, rfl, hlistable, hunique⟩
    exact bind_eq_ok.mpr ⟨_, rfl, bind_eq_ok.mpr ⟨_, rfl,
      bind_eq_ok.mpr ⟨(), validate_normalized.mpr ⟨hlistable, hunique⟩, rfl⟩⟩⟩

/-- A server for accounting, with a type in a list. -/
def loggingServer : Yang.Server (TLSClient Unit) GoString where
  name := lit "log1"
  rawServerType := .many [lit " Accounting", lit "logging"]
  address := lit "10.0.0.9"
  port := 49
  security := { sharedSecret := some (lit "key") }

theorem load_accepts_iff_logging :
    ∃ cfg : Config (TLSClient Unit) GoString Unit,
      load (.ok { server := .ok [loggingServer] }) = .ok cfg ∧
      loggingServer.normalize.serverType &&& serverTypeAccounting ≠ 0 := by
  have haccounting : NamesService (lit " Accounting") (lit "accounting") := rfl
  let cfg : Config (TLSClient Unit) GoString Unit := ⟨[loggingServer.normalize], [], []⟩
  obtain ⟨haccepts, hservices⟩ := load_accepts_iff (.ok { server := .ok [loggingServer] }) cfg
  refine ⟨cfg, haccepts.mpr ⟨[loggingServer], [], [], rfl, rfl, ?_, by decide⟩, ?_⟩
  · intro s hs
    rw [List.mem_singleton.mp hs]
    exact ⟨by decide, ⟨_, .head _, _, .tail _ (.tail _ (.head _)), haccounting⟩,
      by decide, by decide, .inr rfl, fun h => (by cases h), fun t ht => (by cases ht)⟩
  · exact (hservices loggingServer (lit "accounting", serverTypeAccounting)
      (.tail _ (.tail _ (.head _)))).mpr ⟨_, .head _, haccounting⟩

end Yang
end Proof
end Tacacs
