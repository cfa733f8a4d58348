import Tacacs.Lib.Run
import Tacacs.Server.Secret

/-!
# The prefix secret provider over a run of calls

What the provider holds is always the compiled form of one configuration, rules and fallback
together: the one of the last `Replace` that succeeded, or of the constructor (`inForce`). The
answers are then those of that configuration read as the documentation of `PrefixRule` has it
(`Rules.answer`): the first rule in order whose network contains the address.
-/

set_option autoImplicit false

namespace Tacacs
namespace Proof
namespace Server

open GoSem
open Tacacs.Server

variable {ν : Type} (net : CIDR ν) (parse : GoString → IP)

/-! ## What a configuration means -/

/-- The arguments of the constructor and of `Replace`. -/
structure Rules where
  rules : List PrefixRule
  fallback : Option (NetAddr → Except GoError SecretConfig)

/-- Every prefix parses. -/
def Parseable (rules : List PrefixRule) : Prop :=
  ∀ r ∈ rules, (net.parseCIDR r.cidr).isOk

instance (rules : List PrefixRule) : Decidable (Parseable net rules) :=
  inferInstanceAs (Decidable (∀ r ∈ rules, (net.parseCIDR r.cidr).isOk))

/-- The network of the rule contains the address. -/
def covers (ip : Bytes) (r : PrefixRule) : Bool :=
  match net.parseCIDR r.cidr with
  | .ok ipNet => net.contains ipNet ip
  | .error _ => false

def Rules.unmatched (c : Rules) (remote : NetAddr) : Except GoError SecretConfig :=
  match c.fallback with
  | some fb => fb remote
  | none => .error (.sentinel .noServerConfigured)

/-- The answer that a configuration documents. An address without an IP matches no rule. -/
def Rules.answer (c : Rules) (remote : NetAddr) : Except GoError SecretConfig :=
  match (ipFromAddr parse remote).bind fun ip => c.rules.find? (covers net ip) with
  | some r => .ok { secret := r.secret, mode := r.mode }
  | none => c.unmatched remote

/-- The configuration of the last `Replace` that could be compiled, and `c` before any. -/
def inForce (c : Rules) : List PrefixSecretProvider.Call → Rules
  | [] => c
  | .replace rules fallback :: calls =>
      inForce (if Parseable net rules then { rules, fallback } else c) calls
  | .get _ :: calls => inForce c calls

/-! ## Compilation -/

theorem compilePrefixRules_error {rules : List PrefixRule} {err : GoError}
    (h : compilePrefixRules net rules = .error err) : ¬ Parseable net rules := by
  induction rules generalizing err with
  | nil => simp [compilePrefixRules] at h
  | cons r rs ih =>
    intro hparse
    have hr := hparse r (List.mem_cons_self ..)
    cases hnet : net.parseCIDR r.cidr with
    | error err' => simp [hnet, Except.isOk, Except.toBool] at hr
    | ok ipNet =>
      simp only [compilePrefixRules, hnet] at h
      cases hrs : compilePrefixRules net rs with
      | error err' => exact ih hrs fun r' hr' => hparse r' (List.mem_cons_of_mem r hr')
      | ok crs => simp [hrs, bind, Except.bind, pure, Except.pure] at h

/-- Compiled rules match as the rules they were compiled from. -/
theorem compilePrefixRules_ok {rules : List PrefixRule} {crs : List (CompiledRule ν)}
    (h : compilePrefixRules net rules = .ok crs) :
    Parseable net rules ∧
      ∀ ip, PrefixSecretProvider.matchRule net ip crs =
        (rules.find? (covers net ip)).map fun r => (⟨r.secret, r.mode⟩ : SecretConfig) := by
  induction rules generalizing crs with
  | nil =>
    cases h
    exact ⟨fun r hr => absurd hr (by simp), fun ip => rfl⟩
  | cons r rs ih =>
    cases hnet : net.parseCIDR r.cidr with
    | error err => simp [compilePrefixRules, hnet] at h
    | ok ipNet =>
      cases hrs : compilePrefixRules net rs with
      | error err => simp [compilePrefixRules, hnet, hrs, bind, Except.bind] at h
      | ok crs' =>
        obtain ⟨hparse, hmatch⟩ := ih hrs
        simp only [compilePrefixRules, hnet, hrs] at h
        cases h
        refine ⟨?_, fun ip => ?_⟩
        · intro r' hr'
          rcases List.mem_cons.mp hr' with rfl | hr'
          · rw [hnet]
            rfl
          · exact hparse r' hr'
        · have hcov : covers net ip r = net.contains ipNet ip := by simp [covers, hnet]
          rw [PrefixSecretProvider.matchRule, List.find?_cons, hcov, hmatch ip]
          cases net.contains ipNet ip <;> rfl

/-! ## Runs -/

/-- The provider holds this configuration. -/
def Holds (p : PrefixSecretProvider ν) (c : Rules) : Prop :=
  compilePrefixRules net c.rules = .ok p.rules ∧ p.fallback = c.fallback

theorem Holds.get {p : PrefixSecretProvider ν} {c : Rules} (h : Holds net p c) (remote : NetAddr) :
    p.get net parse remote = c.answer net parse remote := by
  have hfallback : p.fallbackGet remote = c.unmatched remote := by
    cases hc : c.fallback <;>
      simp only [PrefixSecretProvider.fallbackGet, Rules.unmatched, h.2, hc]
  cases hip : ipFromAddr parse remote with
  | none => simp only [PrefixSecretProvider.get, Rules.answer, hip, Option.bind_none, hfallback]
  | some ip =>
    have hmatch := (compilePrefixRules_ok net h.1).2 ip
    simp only [PrefixSecretProvider.get, Rules.answer, hip, Option.bind_some, hmatch, hfallback]
    cases c.rules.find? (covers net ip) <;> rfl

/-- A `Replace` takes its whole configuration, or nothing of it. -/
theorem replace_cases (p : PrefixSecretProvider ν) (rules : List PrefixRule)
    (fallback : Option (NetAddr → Except GoError SecretConfig)) :
    (Parseable net rules ∧ (p.replace net rules fallback).2 = none ∧
        Holds net (p.replace net rules fallback).1 { rules, fallback }) ∨
      (¬ Parseable net rules ∧ (∃ err, (p.replace net rules fallback).2 = some err) ∧
        (p.replace net rules fallback).1 = p) := by
  cases hc : compilePrefixRules net rules with
  | error err =>
    rw [PrefixSecretProvider.replace, hc]
    exact Or.inr ⟨compilePrefixRules_error net hc, ⟨err, rfl⟩, rfl⟩
  | ok crs =>
    rw [PrefixSecretProvider.replace, hc]
    exact Or.inl ⟨(compilePrefixRules_ok net hc).1, rfl, hc, rfl⟩

/-- The configuration in force is carried from call to call. -/
theorem Holds.step {p : PrefixSecretProvider ν} {c : Rules} (h : Holds net p c)
    (call : PrefixSecretProvider.Call) :
    Holds net (PrefixSecretProvider.step net parse p call).1 (inForce net c [call]) := by
  cases call with
  | get remote => exact h
  | replace rules fallback =>
    rcases replace_cases net p rules fallback with ⟨hparse, -, hholds⟩ | ⟨hparse, -, hsame⟩
    · simp only [inForce, if_pos hparse]
      exact hholds
    · simp only [inForce, if_neg hparse]
      exact hsame.symm ▸ h

theorem Holds.after {p : PrefixSecretProvider ν} {c : Rules} (h : Holds net p c)
    (calls : List PrefixSecretProvider.Call) :
    Holds net (Run.after (PrefixSecretProvider.step net parse) p calls) (inForce net c calls) := by
  induction calls generalizing p c with
  | nil => exact h
  | cons call calls ih =>
    have hstep := ih (h.step net parse call)
    cases call with
    | get remote => exact hstep
    | replace rules fallback => exact hstep

theorem newPrefixSecretProvider_holds {c : Rules} {p : PrefixSecretProvider ν}
    (hp : newPrefixSecretProvider net c.rules c.fallback = .ok p) : Holds net p c := by
  cases hc : compilePrefixRules net c.rules with
  | error err => simp [newPrefixSecretProvider, hc, bind, Except.bind] at hp
  | ok crs =>
    simp only [newPrefixSecretProvider, hc] at hp
    cases hp
    exact ⟨hc, rfl⟩

/-- Over every run of calls, `Get` answers from the configuration in force, and a `Replace` with
    a prefix that does not parse returns an error and leaves the provider as it is. -/
theorem prefixSecretProvider_run (c : Rules) (p : PrefixSecretProvider ν)
    (hp : newPrefixSecretProvider net c.rules c.fallback = .ok p)
    (calls : List PrefixSecretProvider.Call) :
    let q := Run.after (PrefixSecretProvider.step net parse) p calls
    (∀ remote, q.get net parse remote = (inForce net c calls).answer net parse remote) ∧
      ∀ rules fallback,
        (Parseable net rules → (q.replace net rules fallback).2 = none) ∧
        (¬ Parseable net rules →
          (∃ err, (q.replace net rules fallback).2 = some err) ∧
            (q.replace net rules fallback).1 = q) := by
  intro q
  have hholds := (newPrefixSecretProvider_holds net hp).after net parse calls
  refine ⟨fun remote => hholds.get net parse remote, fun rules fallback => ?_⟩
  rcases replace_cases net q rules fallback with ⟨hparse, hnone, -⟩ | ⟨hparse, herr, hsame⟩
  · exact ⟨fun _ => hnone, fun hnot => absurd hparse hnot⟩
  · exact ⟨fun h => absurd h hparse, fun _ => ⟨herr, hsame⟩⟩

/-- Networks by their first byte: `[b]` is the text of the network of all addresses that begin
    with `b`. -/
def firstByteCIDR : CIDR UInt8 where
  parseCIDR
    | [b] => .ok b
    | _ => .error (.sentinel .invalidArgument)
  contains b ip := ip.head? = some b

/-- One rule, a `Replace` that fails at its second prefix, and a lookup. -/
theorem prefixSecretProvider_run_failedReplace :
    let c : Rules := { rules := [⟨[10], [1], .tls⟩], fallback := none }
    let p : PrefixSecretProvider UInt8 := { rules := [⟨10, [1], .tls⟩], fallback := none }
    let calls : List PrefixSecretProvider.Call :=
      [.replace [⟨[10], [2], .tls⟩, ⟨[], [3], .tls⟩] none]
    newPrefixSecretProvider firstByteCIDR c.rules c.fallback = .ok p ∧
      (Run.after (PrefixSecretProvider.step firstByteCIDR some) p calls).get firstByteCIDR some
        (.tcp (some [10, 0, 0, 1])) = (inForce firstByteCIDR c calls).answer firstByteCIDR some
          (.tcp (some [10, 0, 0, 1])) ∧
      (inForce firstByteCIDR c calls).answer firstByteCIDR some (.tcp (some [10, 0, 0, 1])) =
        .ok { secret := [1], mode := .tls } :=
  ⟨rfl, (prefixSecretProvider_run firstByteCIDR some _ _ rfl _).1 _, by decide⟩

end Server
end Proof
end Tacacs
