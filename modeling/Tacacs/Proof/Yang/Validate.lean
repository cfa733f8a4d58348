import Tacacs.Yang.Validate

/-!
# What a validated configuration is

`Validate` accepts exactly the lists of well-formed servers with pairwise distinct endpoints
(`validate_iff`). The key that endpoints are compared by is text, and an address may itself hold
colons and digits; but the port is what follows the last colon, so the key stands for the
endpoint (`key_inj`).

The names are checked to be there and not to be distinct.
-/

set_option autoImplicit false

namespace Tacacs
namespace Proof
namespace Yang

open GoSem GoText
open Tacacs.Yang

variable {σ κ κ' : Type}

/-! ## One server -/

/-- Server authentication is there, and TLS 1.2 is neither the lowest nor the highest version. -/
structure TLSWellFormed (t : TLSClient κ) : Prop where
  authenticated : t.serverAuthentication.credentialsReference ≠ [] ∨
    t.serverAuthentication.caCerts ≠ none ∨ t.serverAuthentication.eeCerts ≠ none
  versions : ∀ hello, t.helloParams = some hello →
    trimSpace hello.min ≠ tlsVersion12 ∧ trimSpace hello.max ≠ tlsVersion12

/-- What is checked of a server alone. -/
structure WellFormed (s : Yang.Server (TLSClient κ) σ) : Prop where
  name : s.name ≠ []
  serverType : s.serverType ≠ 0
  address : s.address ≠ []
  port : s.port ≠ 0
  security : s.security.tls.isSome ∨ s.security.sharedSecret.isSome
  sni : s.sniEnabled → s.domainName ≠ []
  tls : ∀ t, s.security.tls = some t → TLSWellFormed t

/-- The pair that must be unique. -/
def endpoint (s : Yang.Server (TLSClient κ) σ) : GoString × UInt16 := (s.address, s.port)

theorem key_inj {s t : Yang.Server (TLSClient κ) σ} : s.key = t.key ↔ endpoint s = endpoint t := by
  have hcolon : ∀ n, (0x3a : UInt8) ∉ decimal n := not_mem_decimal (by decide)
  have hkey : ∀ u : Yang.Server (TLSClient κ) σ,
      u.key = u.address ++ 0x3a :: decimal u.port.toNat := by
    intro u
    simp [Yang.Server.key, lit]
  rw [hkey s, hkey t, append_cons_inj (hcolon _) (hcolon _), decimal_inj, UInt16.toNat_inj]
  simp [endpoint]

/-! ## The checks -/

theorem reject_ok {bad : Prop} [Decidable bad] {field reason : String} {u : Unit} :
    reject bad field reason = .ok u ↔ ¬ bad := by
  unfold reject
  split <;> simp [*]

/-- A check blames the field it is given, and that is never a whole server. -/
theorem reject_ne_duplicate {bad : Prop} [Decidable bad] {field reason : String} {key : GoString}
    (h : field ≠ "server") : reject bad field reason ≠ .error (duplicateError key) := by
  unfold reject
  split <;> simp [validationError, duplicateError, h]

theorem bind_unit_ok {α : Type} {x : Except GoError Unit} {f : Unit → Except GoError α} {a : α} :
    (x >>= f) = .ok a ↔ x = .ok () ∧ f () = .ok a := by
  cases x <;> simp [bind, Except.bind]

theorem bind_ne_error {α β : Type} {x : Except GoError α} {f : α → Except GoError β} {e : GoError}
    (hx : x ≠ .error e) (hf : ∀ a, f a ≠ .error e) : (x >>= f) ≠ .error e := by
  cases x with
  | error e' => simpa [bind, Except.bind] using hx
  | ok a => exact hf a

theorem validateTLS_ok {t : TLSClient κ} : validateTLS t = .ok () ↔ TLSWellFormed t := by
  have hauth : validateTLS t = .ok () ↔
      ¬ (t.serverAuthentication.credentialsReference = [] ∧
          t.serverAuthentication.caCerts = none ∧ t.serverAuthentication.eeCerts = none) ∧
        ∀ hello, t.helloParams = some hello →
          trimSpace hello.min ≠ tlsVersion12 ∧ trimSpace hello.max ≠ tlsVersion12 := by
    rw [validateTLS, bind_unit_ok, reject_ok]
    cases t.helloParams with
    | none => simp
    | some hello => simp [bind_unit_ok, reject_ok]
  rw [hauth]
  constructor
  · rintro ⟨hauth, hversions⟩
    exact ⟨by tauto, hversions⟩
  · rintro ⟨hauth, hversions⟩
    exact ⟨by tauto, hversions⟩

theorem validateRequired_ok {s : Yang.Server (TLSClient κ) σ} :
    validateRequired s = .ok () ↔ s.name ≠ [] ∧ s.serverType ≠ 0 ∧ s.address ≠ [] ∧ s.port ≠ 0 ∧
      (s.security.tls.isSome ∨ s.security.sharedSecret.isSome) := by
  simp only [validateRequired, bind_unit_ok, reject_ok, ne_eq]
  cases s.security.tls <;> cases s.security.sharedSecret <;> simp

theorem validateOptions_ok {s : Yang.Server (TLSClient κ) σ} :
    validateOptions s = .ok () ↔
      (s.sniEnabled → s.domainName ≠ []) ∧ ∀ t, s.security.tls = some t → TLSWellFormed t := by
  cases htls : s.security.tls with
  | none => simp [validateOptions, bind_unit_ok, reject_ok, htls]
  | some t => simp [validateOptions, bind_unit_ok, reject_ok, htls, validateTLS_ok]

theorem wellFormed_iff {s : Yang.Server (TLSClient κ) σ} :
    WellFormed s ↔ validateRequired s = .ok () ∧ validateOptions s = .ok () := by
  rw [validateRequired_ok, validateOptions_ok]
  constructor
  · intro h
    exact ⟨⟨h.name, h.serverType, h.address, h.port, h.security⟩, h.sni, h.tls⟩
  · rintro ⟨⟨hname, htype, haddress, hport, hsecurity⟩, hsni, htls⟩
    exact ⟨hname, htype, haddress, hport, hsecurity, hsni, htls⟩

theorem validateServer_ok {seen seen' : List GoString} {s : Yang.Server (TLSClient κ) σ} :
    validateServer seen s = .ok seen' ↔ WellFormed s ∧ s.key ∉ seen ∧ seen' = s.key :: seen := by
  rw [validateServer, bind_unit_ok, wellFormed_iff]
  by_cases hkey : s.key ∈ seen
  · simp [hkey]
  · simp only [List.contains_eq_mem, hkey, decide_false, Bool.false_eq_true, if_false,
      bind_unit_ok, not_false_eq_true, true_and, and_assoc]
    constructor
    · rintro ⟨hreq, hopt, hseen⟩
      cases hseen
      exact ⟨hreq, hopt, rfl⟩
    · rintro ⟨hreq, hopt, rfl⟩
      exact ⟨hreq, hopt, rfl⟩

theorem validateTLS_ne_duplicate {t : TLSClient κ} {key : GoString} :
    validateTLS t ≠ .error (duplicateError key) := by
  refine bind_ne_error (reject_ne_duplicate (by decide)) fun _ => ?_
  cases t.helloParams with
  | none => simp
  | some hello =>
    exact bind_ne_error (reject_ne_duplicate (by decide)) fun _ => reject_ne_duplicate (by decide)

theorem validateRequired_ne_duplicate {s : Yang.Server (TLSClient κ) σ} {key : GoString} :
    validateRequired s ≠ .error (duplicateError key) := by
  repeat refine bind_ne_error (reject_ne_duplicate (by decide)) fun _ => ?_
  exact reject_ne_duplicate (by decide)

theorem validateOptions_ne_duplicate {s : Yang.Server (TLSClient κ) σ} {key : GoString} :
    validateOptions s ≠ .error (duplicateError key) := by
  refine bind_ne_error (reject_ne_duplicate (by decide)) fun _ => ?_
  cases s.security.tls with
  | none => exact reject_ne_duplicate (by decide)
  | some t => exact bind_ne_error validateTLS_ne_duplicate fun _ => reject_ne_duplicate (by decide)

/-- Only a key that was seen is reported as a duplicate. -/
theorem validateServer_duplicate {seen : List GoString} {s : Yang.Server (TLSClient κ) σ}
    {key : GoString} (h : validateServer seen s = .error (duplicateError key)) :
    s.key = key ∧ key ∈ seen := by
  cases hreq : validateRequired s with
  | error e =>
    simp only [validateServer, hreq, bind, Except.bind, Except.error.injEq] at h
    exact absurd (h ▸ hreq) validateRequired_ne_duplicate
  | ok u =>
    simp only [validateServer, hreq, bind, Except.bind] at h
    rw [List.contains_eq_mem] at h
    by_cases hkey : s.key ∈ seen
    · simp only [hkey, decide_true, if_true, Except.error.injEq, duplicateError,
        GoError.validation.injEq, List.cons.injEq, Piece.verbatim.injEq, true_and, and_true] at h
      exact ⟨h, h ▸ hkey⟩
    · rw [if_neg (by simpa using hkey)] at h
      exact absurd h (bind_ne_error validateOptions_ne_duplicate fun _ => by
        simp [pure, Except.pure])

/-! ## The whole list -/

theorem validateServers_ok {seen : List GoString} {ss : List (Yang.Server (TLSClient κ) σ)} :
    validateServers seen ss = .ok () ↔
      (∀ s ∈ ss, WellFormed s ∧ s.key ∉ seen) ∧ (ss.map endpoint).Nodup := by
  induction ss generalizing seen with
  | nil => simp [validateServers]
  | cons s ss ih =>
    have hcons : validateServers seen (s :: ss) = .ok () ↔
        (WellFormed s ∧ s.key ∉ seen) ∧ validateServers (s.key :: seen) ss = .ok () := by
      cases hs : validateServer seen s with
      | error e =>
        have hnot : ¬ (WellFormed s ∧ s.key ∉ seen) := fun h => by
          rw [validateServer_ok.mpr ⟨h.1, h.2, rfl⟩] at hs
          cases hs
        simp [validateServers, hs, bind, Except.bind, hnot]
      | ok seen' =>
        obtain ⟨hwf, hkey, rfl⟩ := validateServer_ok.mp hs
        simp [validateServers, hs, hwf, hkey, bind, Except.bind]
    rw [hcons, ih, List.map_cons, List.nodup_cons]
    -- a later key is new exactly if it is not in `seen` and its endpoint is another one
    have hnew : (∀ t ∈ ss, WellFormed t ∧ t.key ∉ s.key :: seen) ↔
        (∀ t ∈ ss, WellFormed t ∧ t.key ∉ seen) ∧ endpoint s ∉ ss.map endpoint := by
      simp only [List.mem_cons, not_or, key_inj, List.mem_map, not_exists, not_and]
      constructor
      · intro h
        exact ⟨fun t ht => ⟨(h t ht).1, (h t ht).2.2⟩, fun t ht => (h t ht).2.1⟩
      · rintro ⟨h, hne⟩ t ht
        exact ⟨(h t ht).1, hne t ht, (h t ht).2⟩
    rw [hnew, List.forall_mem_cons]
    tauto

/-- **What `Validate` accepts.** -/
theorem validate_iff {c : Config (TLSClient κ) σ κ'} :
    c.validate = .ok () ↔ (∀ s ∈ c.servers, WellFormed s) ∧ (c.servers.map endpoint).Nodup := by
  simp [Config.validate, validateServers_ok]

/-- Two servers of the list, one after the other, at one endpoint with this key. -/
def Shared (ss : List (Yang.Server (TLSClient κ) σ)) (key : GoString) : Prop :=
  ∃ s t, [s, t].Sublist ss ∧ endpoint s = endpoint t ∧ t.key = key

theorem Shared.cons {ss : List (Yang.Server (TLSClient κ) σ)} {key : GoString} (h : Shared ss key)
    (s : Yang.Server (TLSClient κ) σ) : Shared (s :: ss) key := by
  obtain ⟨t, u, hsub, heq, hkey⟩ := h
  exact ⟨t, u, hsub.cons s, heq, hkey⟩

/-- A duplicate is reported only for a server whose key is in `seen`, or after another server
    at the same endpoint. -/
theorem validateServers_duplicate {seen : List GoString} {ss : List (Yang.Server (TLSClient κ) σ)}
    {key : GoString} (h : validateServers seen ss = .error (duplicateError key)) :
    (∃ s ∈ ss, s.key = key ∧ key ∈ seen) ∨ Shared ss key := by
  induction ss generalizing seen with
  | nil => simp [validateServers] at h
  | cons s ss ih =>
    cases hs : validateServer seen s with
    | error e =>
      simp only [validateServers, hs, bind, Except.bind, Except.error.injEq] at h
      exact Or.inl ⟨s, List.mem_cons_self .., validateServer_duplicate (h ▸ hs)⟩
    | ok seen' =>
      obtain ⟨-, -, rfl⟩ := validateServer_ok.mp hs
      simp only [validateServers, hs, bind, Except.bind] at h
      rcases ih h with ⟨t, ht, hkey, hmem⟩ | hshared
      · rcases List.mem_cons.mp hmem with heq | hseen
        · have hsub : [s, t].Sublist (s :: ss) := (List.singleton_sublist.mpr ht).cons_cons s
          exact Or.inr ⟨s, t, hsub, key_inj.mp (heq.symm.trans hkey.symm), hkey⟩
        · exact Or.inl ⟨t, List.mem_cons_of_mem s ht, hkey, hseen⟩
      · exact Or.inr (hshared.cons s)

/-- The names and the endpoints of what `Validate` accepts are unique, and only servers that share
    an endpoint are reported as duplicates, exactly if the names are distinct or the
    configuration is rejected for its servers or endpoints. -/
theorem validate_unique_iff (c : Config (TLSClient κ) σ κ') :
    ((c.validate = .ok () →
        (c.servers.map fun s => s.name).Nodup ∧ (c.servers.map endpoint).Nodup) ∧
      ∀ key, c.validate = .error (duplicateError key) → Shared c.servers key) ↔
    (c.servers.map fun s => s.name).Nodup ∨ ¬ (c.servers.map endpoint).Nodup ∨
      ∃ s ∈ c.servers, ¬ WellFormed s := by
  have hduplicate : ∀ key, c.validate = .error (duplicateError key) → Shared c.servers key := by
    intro key h
    rcases validateServers_duplicate h with ⟨s, -, -, hseen⟩ | hshared
    · simp at hseen
    · exact hshared
  constructor
  · rintro ⟨haccept, -⟩
    by_cases hvalid : c.validate = .ok ()
    · exact Or.inl (haccept hvalid).1
    · rw [validate_iff, not_and_or] at hvalid
      rcases hvalid with hwf | hdup
      · exact Or.inr (Or.inr (by simpa using hwf))
      · exact Or.inr (Or.inl hdup)
  · intro h
    refine ⟨fun hvalid => ?_, hduplicate⟩
    obtain ⟨hwf, hnodup⟩ := validate_iff.mp hvalid
    rcases h with hnames | hdup | ⟨s, hs, hbad⟩
    · exact ⟨hnames, hnodup⟩
    · exact absurd hnodup hdup
    · exact absurd (hwf s hs) hbad

def twin (port : UInt16) : Yang.Server (TLSClient Unit) GoString where
  name := lit "primary"
  serverType := 1
  address := lit "192.0.2.1"
  port := port
  security := { sharedSecret := some (lit "secret") }

/-- Two servers of one name are accepted. -/
theorem validate_sameName :
    let c : Config (TLSClient Unit) GoString Unit := { servers := [twin 49, twin 50] }
    c.validate = .ok () ∧ ¬ (c.servers.map fun s => s.name).Nodup :=
  ⟨by decide +kernel, by decide⟩

end Yang
end Proof
end Tacacs
