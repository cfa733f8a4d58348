import Tacacs.Lib.Run
import Tacacs.Server.SecretDns

/-!
# The DNS secret provider under concurrent refreshes

What a `Refresh` puts in place may be older than what it replaces: two refreshes can overlap, and
the one that started first may swap last. So nothing is said about which set is in force; what
holds is that every set in force was, at some time, an answer to a lookup of that rule's own host
(`Sourced`), and that rules are never added, dropped, reordered or given another secret.

The invariant is kept for the rules in place and for those a refresh has in hand alike, since
these are the rules of some later moment.
-/

set_option autoImplicit false

namespace Tacacs
namespace Proof
namespace Server

open GoSem
open Tacacs.Server

/-! ## Addresses -/

/-- The same address, in its 4-byte or its 16-byte form. -/
def SameAddress (a b : Bytes) : Prop := ∃ k, to16 a = some k ∧ to16 b = some k

theorem ipKey_eq {a : IP} {k : GoString} (hk : k ≠ []) :
    ipKey a = k ↔ ∃ x, a = some x ∧ to16 x = some k := by
  cases a with
  | none => simp [ipKey, hk.symm]
  | some x =>
    cases hx : to16 x with
    | none => simp [ipKey, hx, hk.symm]
    | some k' => simp [ipKey, hx]

theorem mem_ipSet {addrs : List IP} {k : GoString} :
    k ∈ ipSet addrs ↔ k ≠ [] ∧ ∃ a ∈ addrs, ipKey a = k := by
  have hfold : ∀ (l : List IP) (s : Finset GoString),
      k ∈ l.foldl (fun set a => if ipKey a ≠ [] then insert (ipKey a) set else set) s ↔
        (k ≠ [] ∧ ∃ a ∈ l, ipKey a = k) ∨ k ∈ s := by
    intro l
    induction l with
    | nil => simp
    | cons a l ih =>
      intro s
      rw [List.foldl_cons, ih]
      by_cases ha : ipKey a = []
      · rw [if_neg (by simpa using ha)]
        constructor
        · rintro (⟨hk, b, hb, hbk⟩ | hs)
          · exact Or.inl ⟨hk, b, List.mem_cons_of_mem a hb, hbk⟩
          · exact Or.inr hs
        · rintro (⟨hk, b, hb, hbk⟩ | hs)
          · rcases List.mem_cons.mp hb with rfl | hb
            · exact absurd (hbk.symm.trans ha) hk
            · exact Or.inl ⟨hk, b, hb, hbk⟩
          · exact Or.inr hs
      · rw [if_pos ha, Finset.mem_insert]
        constructor
        · rintro (⟨hk, b, hb, hbk⟩ | rfl | hs)
          · exact Or.inl ⟨hk, b, List.mem_cons_of_mem a hb, hbk⟩
          · exact Or.inl ⟨ha, a, List.mem_cons_self, rfl⟩
          · exact Or.inr hs
        · rintro (⟨hk, b, hb, hbk⟩ | hs)
          · rcases List.mem_cons.mp hb with rfl | hb
            · exact Or.inr (Or.inl hbk.symm)
            · exact Or.inl ⟨hk, b, hb, hbk⟩
          · exact Or.inr (Or.inr hs)
  unfold ipSet
  rw [hfold]
  simp

theorem to16_ne_nil {ip k : Bytes} (h : to16 ip = some k) : k ≠ [] := by
  unfold to16 at h
  split at h
  · cases h
    simp [v4InV6Prefix]
  · split at h
    · next hlen =>
      cases h
      exact List.ne_nil_of_length_pos (by omega)
    · cases h

/-- The set of an answer has the 16-byte forms of its addresses. -/
theorem mem_ipSet_iff {addrs : List IP} {k : GoString} :
    k ∈ ipSet addrs ↔ ∃ x, some x ∈ addrs ∧ to16 x = some k := by
  rw [mem_ipSet]
  constructor
  · rintro ⟨hk, a, ha, hak⟩
    obtain ⟨x, rfl, hx⟩ := (ipKey_eq hk).mp hak
    exact ⟨x, ha, hx⟩
  · rintro ⟨x, hmem, hx⟩
    have hk := to16_ne_nil hx
    exact ⟨hk, some x, hmem, (ipKey_eq hk).mpr ⟨x, rfl, hx⟩⟩

/-! ## Resolutions -/

/-- A lookup of a host and its answer. -/
abbrev Resolution := GoString × Lookup

/-- The lookups that a run of the machine made. -/
def looked (events : List (Option Dns.Event)) : List Resolution :=
  events.filterMap fun
    | some (.looked _ host answer) => some (host, answer)
    | _ => none

/-- Those of one `Refresh`. -/
def lookupsOf (n : Nat) (events : List (Option Dns.Event)) : List Resolution :=
  events.filterMap fun
    | some (.looked m host answer) => if m = n then some (host, answer) else none
    | _ => none

/-- The lookups at construction, and those since. -/
def resolutions (rules : List DNSRule) (lookup : Nat → Lookup) (events : List (Option Dns.Event)) :
    List Resolution :=
  rules.mapIdx (fun i r => (r.host, lookup i)) ++ looked events

/-- The key is that of an address in some successful resolution of the host. -/
def KeyResolved (hist : List Resolution) (host key : GoString) : Prop :=
  ∃ addrs, (host, .ok addrs) ∈ hist ∧ key ∈ ipSet addrs

/-- The address was in some successful resolution of the host. -/
def AddressResolved (hist : List Resolution) (host : GoString) (ip : Bytes) : Prop :=
  ∃ addrs, (host, .ok addrs) ∈ hist ∧ ∃ x, some x ∈ addrs ∧ SameAddress x ip

theorem addressResolved_of_key {hist : List Resolution} {host : GoString} {ip : Bytes}
    (h : KeyResolved hist host (ipKey (some ip))) : AddressResolved hist host ip := by
  obtain ⟨addrs, hmem, hkey⟩ := h
  obtain ⟨x, hxmem, hx⟩ := mem_ipSet_iff.mp hkey
  obtain ⟨y, hy, hip⟩ := (ipKey_eq (to16_ne_nil hx)).mp rfl
  cases hy
  exact ⟨addrs, hmem, x, hxmem, _, hx, hip⟩

/-- Every address that a rule admits came from its own host. -/
def Sourced (hist : List Resolution) (rs : List DnsCompiledRule) : Prop :=
  ∀ r ∈ rs, ∀ k ∈ r.ips, KeyResolved hist r.host k

theorem Sourced.mono {hist hist' : List Resolution} (h : ∀ x ∈ hist, x ∈ hist')
    {rs : List DnsCompiledRule} (hs : Sourced hist rs) : Sourced hist' rs := by
  intro r hr k hk
  obtain ⟨addrs, hmem, hkey⟩ := hs r hr k hk
  exact ⟨addrs, h _ hmem, hkey⟩

theorem resolveRules_ok {lookup : Nat → Lookup} {rules : List DNSRule} :
    ∀ {i : Nat} {rs : List DnsCompiledRule}, resolveRules lookup i rules = .ok rs →
      rs.map DnsCompiledRule.toDNSRule = rules ∧
        Sourced (rules.mapIdx fun j r => (r.host, lookup (i + j))) rs := by
  induction rules with
  | nil =>
    intro i rs h
    cases h
    exact ⟨rfl, fun r hr => by cases hr⟩
  | cons r rules ih =>
    intro i rs h
    unfold resolveRules at h
    split at h
    · cases h
    cases hl : lookup i with
    | error err => rw [hl] at h; cases h
    | ok addrs =>
      rw [hl] at h
      cases hrest : resolveRules lookup (i + 1) rules with
      | error err => rw [hrest] at h; cases h
      | ok rest =>
        rw [hrest] at h
        cases h
        obtain ⟨hshape, hsourced⟩ := ih hrest
        refine ⟨by rw [List.map_cons, hshape], ?_⟩
        intro r' hr' k hk
        rw [List.mapIdx_cons]
        rcases List.mem_cons.mp hr' with rfl | hr'
        · exact ⟨addrs, by simp [hl], hk⟩
        · obtain ⟨addrs', hmem, hkey⟩ := hsourced r' hr' k hk
          refine ⟨addrs', List.mem_cons_of_mem _ ?_, hkey⟩
          simpa [Nat.add_assoc, Nat.add_comm 1] using hmem

/-! ## What an act can do -/

theorem dns_step_cases (parse : GoString → IP) (st : Dns.State) (act : Dns.Act) :
    ((Dns.step parse st act).1 = st ∧ ((Dns.step parse st act).2 = none ∨
      ∃ a, (Dns.step parse st act).2 = some (.got a))) ∨
    (∃ n, st.refreshes n = .idle ∧ Dns.step parse st act =
      (st.setRefresh n (.looking st.provider.rules [] 0 0),
        some (.started n st.provider.rules))) ∨
    (∃ n current updated resolved failed r answer,
      st.refreshes n = .looking current updated resolved failed ∧
      current[updated.length]? = some r ∧ Dns.step parse st act =
        (st.setRefresh n (.looking current (updated ++ [r.update answer])
            (resolved + [answer].countP (·.isOk)) (failed + [answer].countP (!·.isOk))),
          some (.looked n r.host answer))) ∨
    ∃ n current updated resolved failed,
      st.refreshes n = .looking current updated resolved failed ∧
      updated.length = current.length ∧ act = .swap n ∧ Dns.step parse st act =
        ({ st with provider := { st.provider with rules := updated } }.setRefresh n
            (.returned (refreshError resolved failed)),
          some (.swapped n (refreshError resolved failed))) := by
  cases act with
  | get remote => exact Or.inl ⟨rfl, Or.inr ⟨_, rfl⟩⟩
  | snapshot n =>
    unfold Dns.step
    dsimp only
    cases hn : st.refreshes n with
    | idle => exact Or.inr (Or.inl ⟨n, hn, rfl⟩)
    | looking c u r f => exact Or.inl ⟨rfl, Or.inl rfl⟩
    | returned e => exact Or.inl ⟨rfl, Or.inl rfl⟩
  | lookup n answer =>
    unfold Dns.step
    dsimp only
    cases hn : st.refreshes n with
    | idle => exact Or.inl ⟨rfl, Or.inl rfl⟩
    | returned e => exact Or.inl ⟨rfl, Or.inl rfl⟩
    | looking compiled u r f =>
      dsimp only
      cases hr : compiled[u.length]? with
      | none => exact Or.inl ⟨rfl, Or.inl rfl⟩
      | some rule =>
        refine Or.inr (Or.inr (Or.inl ⟨n, compiled, u, r, f, rule, answer, hn, hr, ?_⟩))
        cases answer <;> rfl
  | swap n =>
    unfold Dns.step
    dsimp only
    cases hn : st.refreshes n with
    | idle => exact Or.inl ⟨rfl, Or.inl rfl⟩
    | returned e => exact Or.inl ⟨rfl, Or.inl rfl⟩
    | looking c u r f =>
      dsimp only
      split
      · next hlen => exact Or.inr (Or.inr (Or.inr ⟨n, c, u, r, f, hn, hlen, rfl, rfl⟩))
      · exact Or.inl ⟨rfl, Or.inl rfl⟩

/-! ## The invariant -/

/-- A snapshot with the sets of the lookups that succeeded, rule by rule. -/
def updatedRules (snapshot : List DnsCompiledRule) (ls : List Resolution) :
    List DnsCompiledRule := List.zipWith (fun r l => r.update l.2) snapshot ls

/-- What is known of a `Refresh` from the events so far. -/
def RefreshOk (rules : List DNSRule) (hist : List Resolution) (events : List (Option Dns.Event))
    (n : Nat) : Refresh → Prop
  | .idle => lookupsOf n events = []
  | .looking current updated resolved failed =>
      some (.started n current) ∈ events ∧
      current.map DnsCompiledRule.toDNSRule = rules ∧
      Sourced hist current ∧ Sourced hist updated ∧
      updated.length = (lookupsOf n events).length ∧
      (lookupsOf n events).map Prod.fst = (current.take updated.length).map (·.host) ∧
      updated = updatedRules current (lookupsOf n events) ∧
      resolved = (lookupsOf n events).countP (·.2.isOk) ∧
      failed = (lookupsOf n events).countP (!·.2.isOk)
  | .returned _ => True

structure DnsInv (rules : List DNSRule) (lookup : Nat → Lookup) (events : List (Option Dns.Event))
    (st : Dns.State) : Prop where
  shape : st.provider.rules.map DnsCompiledRule.toDNSRule = rules
  sourced : Sourced (resolutions rules lookup events) st.provider.rules
  refreshes : ∀ n, RefreshOk rules (resolutions rules lookup events) events n (st.refreshes n)

theorem mem_resolutions_snoc {rules : List DNSRule} {lookup : Nat → Lookup}
    {events : List (Option Dns.Event)} (e : Option Dns.Event) :
    ∀ x ∈ resolutions rules lookup events, x ∈ resolutions rules lookup (events ++ [e]) := by
  intro x hx
  unfold resolutions looked at *
  rw [List.filterMap_append, ← List.append_assoc]
  exact List.mem_append_left _ hx

theorem lookupsOf_snoc_of_ne {n : Nat} {events : List (Option Dns.Event)} {e : Option Dns.Event}
    (h : ∀ host answer, e ≠ some (.looked n host answer)) :
    lookupsOf n (events ++ [e]) = lookupsOf n events := by
  unfold lookupsOf
  rw [List.filterMap_append]
  have hnone : List.filterMap (fun
      | some (.looked m host answer) => if m = n then some (host, answer) else none
      | _ => none) [e] = ([] : List Resolution) := by
    rw [List.filterMap_cons_none, List.filterMap_nil]
    cases e with
    | none => rfl
    | some e =>
      cases e with
      | looked m host answer =>
        dsimp only
        split
        · next hm => exact absurd (by rw [hm]) (h host answer)
        · rfl
      | _ => rfl
  rw [hnone, List.append_nil]

theorem lookupsOf_snoc_self (n : Nat) (events : List (Option Dns.Event)) (host : GoString)
    (answer : Lookup) :
    lookupsOf n (events ++ [some (.looked n host answer)])
      = lookupsOf n events ++ [(host, answer)] := by
  unfold lookupsOf
  rw [List.filterMap_append]
  simp

/-- What does not touch a `Refresh` keeps what is known of it. -/
theorem RefreshOk.mono {rules : List DNSRule} {lookup : Nat → Lookup}
    {events : List (Option Dns.Event)} {n : Nat} {r : Refresh}
    (h : RefreshOk rules (resolutions rules lookup events) events n r) {e : Option Dns.Event}
    (he : ∀ host answer, e ≠ some (.looked n host answer)) :
    RefreshOk rules (resolutions rules lookup (events ++ [e])) (events ++ [e]) n r := by
  have hmono := @mem_resolutions_snoc rules lookup events e
  cases r with
  | idle => exact (lookupsOf_snoc_of_ne he).trans h
  | returned err => trivial
  | looking current updated resolved failed =>
    obtain ⟨hstart, hshape, hcur, hupd, hrest⟩ := h
    refine ⟨List.mem_append_left _ hstart, hshape, hcur.mono hmono, hupd.mono hmono, ?_⟩
    rw [lookupsOf_snoc_of_ne he]
    exact hrest

/-- One more rule of the snapshot is updated. -/
theorem zipWith_snoc {α β γ : Type} (f : α → β → γ) {l : List α} {l' : List β} {a : α}
    (h : l[l'.length]? = some a) (b : β) :
    List.zipWith f l (l' ++ [b]) = List.zipWith f l l' ++ [f a b] := by
  induction l' generalizing l with
  | nil =>
    cases l with
    | nil => cases h
    | cons x l =>
      cases h
      simp
  | cons y l' ih =>
    cases l with
    | nil => cases h
    | cons x l =>
      have htail : l[l'.length]? = some a := by simpa using h
      simp [ih htail]

theorem update_toDNSRule (r : DnsCompiledRule) (answer : Lookup) :
    (r.update answer).toDNSRule = r.toDNSRule := by
  cases answer <;> rfl

/-- What a `Refresh` makes of a rule: a failed lookup leaves it as it was, and after any other the
    set has the 16-byte forms of the answered addresses, with the rest as it was. -/
def Refreshed (r : DnsCompiledRule) : Lookup → DnsCompiledRule → Prop
  | .error _, r' => r' = r
  | .ok addrs, r' =>
      r'.toDNSRule = r.toDNSRule ∧ ∀ k, k ∈ r'.ips ↔ ∃ x, some x ∈ addrs ∧ to16 x = some k

theorem refreshed_update (r : DnsCompiledRule) (answer : Lookup) :
    Refreshed r answer (r.update answer) := by
  cases answer with
  | error err => rfl
  | ok addrs => exact ⟨rfl, fun k => mem_ipSet_iff⟩

/-- Rule by rule, the updated snapshot is the snapshot refreshed. -/
theorem refreshed_updatedRules {current : List DnsCompiledRule} {ls : List Resolution}
    (hhosts : ls.map Prod.fst = current.map (·.host)) {i : Nat} {r : DnsCompiledRule}
    (hr : current[i]? = some r) :
    ∃ answer r', ls[i]? = some (r.host, answer) ∧ (updatedRules current ls)[i]? = some r' ∧
      Refreshed r answer r' := by
  -- the lookups were made in the order of the rules
  have hhost : (ls[i]?).map Prod.fst = some r.host := by
    rw [← List.getElem?_map, hhosts, List.getElem?_map, hr, Option.map_some]
  obtain ⟨⟨host, answer⟩, hl, rfl⟩ := Option.map_eq_some_iff.mp hhost
  refine ⟨answer, r.update answer, hl, ?_, refreshed_update r answer⟩
  rw [updatedRules, List.getElem?_zipWith, hr, hl]

/-- Updating a whole snapshot changes the sets only. -/
theorem map_toDNSRule_updatedRules {current : List DnsCompiledRule} {ls : List Resolution}
    (h : ls.length = current.length) :
    (updatedRules current ls).map DnsCompiledRule.toDNSRule
      = current.map DnsCompiledRule.toDNSRule := by
  induction current generalizing ls with
  | nil => rfl
  | cons r current ih =>
    cases ls with
    | nil => cases h
    | cons l ls =>
      rw [List.map_cons, ← ih (Nat.succ.inj h), ← update_toDNSRule r l.2]
      rfl

/-- A lookup that succeeds is the source of the new set; one that fails leaves the old one. -/
theorem sourced_update {hist : List Resolution} {r : DnsCompiledRule} {answer : Lookup}
    (hr : ∀ k ∈ r.ips, KeyResolved hist r.host k) (hmem : (r.host, answer) ∈ hist) :
    ∀ k ∈ (r.update answer).ips, KeyResolved hist (r.update answer).host k := by
  cases answer with
  | error err => exact hr
  | ok addrs => exact fun k hk => ⟨addrs, hmem, hk⟩

theorem RefreshOk.looked {rules : List DNSRule} {lookup : Nat → Lookup}
    {events : List (Option Dns.Event)} {n : Nat} {current updated : List DnsCompiledRule}
    {resolved failed : Nat} {r : DnsCompiledRule} (answer : Lookup)
    (h : RefreshOk rules (resolutions rules lookup events) events n
      (.looking current updated resolved failed))
    (hr : current[updated.length]? = some r) :
    let events' := events ++ [some (.looked n r.host answer)]
    RefreshOk rules (resolutions rules lookup events') events' n
      (.looking current (updated ++ [r.update answer])
        (resolved + [answer].countP (·.isOk)) (failed + [answer].countP (!·.isOk))) := by
  intro events'
  have hmono := @mem_resolutions_snoc rules lookup events (some (.looked n r.host answer))
  have hnow : (r.host, answer) ∈ resolutions rules lookup events' := by
    unfold resolutions Server.looked
    simp [events']
  obtain ⟨hstart, hshape, hcur, hupd, hlen, hhosts, hzip, hres, hfail⟩ := h
  have hself : lookupsOf n events' = lookupsOf n events ++ [(r.host, answer)] :=
    lookupsOf_snoc_self n events r.host answer
  refine ⟨List.mem_append_left _ hstart, hshape, hcur.mono hmono, ?_, ?_, ?_, ?_, ?_, ?_⟩
  · intro r' hr' k hk
    rcases List.mem_append.mp hr' with hr' | hr'
    · exact hupd.mono hmono r' hr' k hk
    · rw [List.mem_singleton.mp hr'] at hk ⊢
      refine sourced_update (hcur.mono hmono r ?_) hnow k hk
      exact List.mem_of_getElem? hr
  · rw [hself, List.length_append, List.length_append, hlen]
    rfl
  · rw [hself, List.map_append, hhosts, List.length_append, List.length_singleton,
      List.take_add_one, hr, List.map_append]
    rfl
  · unfold updatedRules at hzip ⊢
    rw [hself, zipWith_snoc _ (hlen ▸ hr), ← hzip]
  · rw [hself, List.countP_append, ← hres]
    rfl
  · rw [hself, List.countP_append, ← hfail]
    rfl

theorem DnsInv.step {rules : List DNSRule} {lookup : Nat → Lookup}
    {events : List (Option Dns.Event)} {st : Dns.State} (parse : GoString → IP)
    (h : DnsInv rules lookup events st) (act : Dns.Act) :
    DnsInv rules lookup (events ++ [(Dns.step parse st act).2]) (Dns.step parse st act).1 := by
  -- the refresh at hand apart, every refresh stands where it stood
  have hother : ∀ (n : Nat) (r : Refresh) (e : Option Dns.Event),
      (∀ m host answer, e = some (.looked m host answer) → m = n) →
      RefreshOk rules (resolutions rules lookup (events ++ [e])) (events ++ [e]) n r →
      ∀ m, RefreshOk rules (resolutions rules lookup (events ++ [e])) (events ++ [e]) m
        (Function.update st.refreshes n r m) := by
    intro n r e he hn m
    by_cases hm : m = n
    · rw [hm, Function.update_self]
      exact hn
    · rw [Function.update_of_ne hm]
      refine (h.refreshes m).mono fun host answer heq => hm (he m host answer heq)
  rcases dns_step_cases parse st act with ⟨hst, he⟩ | ⟨n, hn, hstep⟩ |
      ⟨n, current, updated, resolved, failed, r, answer, hn, hr, hstep⟩ |
      ⟨n, current, updated, resolved, failed, hn, hlen, -, hstep⟩
  · rw [hst]
    refine ⟨h.shape, h.sourced.mono (mem_resolutions_snoc _), fun m => (h.refreshes m).mono ?_⟩
    intro host answer heq
    rcases he with he | ⟨a, he⟩
    · rw [he] at heq; cases heq
    · rw [he] at heq; cases heq
  · rw [hstep]
    have hidle := h.refreshes n
    rw [hn] at hidle
    have hnone : lookupsOf n (events ++ [some (.started n st.provider.rules)]) = [] :=
      (lookupsOf_snoc_of_ne fun host answer heq => by cases heq).trans hidle
    refine ⟨h.shape, h.sourced.mono (mem_resolutions_snoc _), hother n _ _ ?_ ?_⟩
    · intro m host answer heq
      cases heq
    · refine ⟨by simp, h.shape, h.sourced.mono (mem_resolutions_snoc _), ?_, ?_⟩
      · intro r hr
        cases hr
      · rw [hnone]
        simp [updatedRules]
  · rw [hstep]
    have hlook := h.refreshes n
    rw [hn] at hlook
    refine ⟨h.shape, h.sourced.mono (mem_resolutions_snoc _), hother n _ _ ?_ ?_⟩
    · intro m host answer' heq
      cases heq
      rfl
    · exact RefreshOk.looked answer hlook hr
  · rw [hstep]
    have hlook := h.refreshes n
    rw [hn] at hlook
    obtain ⟨-, hshape, -, hupd, hlen', -, hzip, -, -⟩ := hlook
    refine ⟨?_, hupd.mono (mem_resolutions_snoc _), hother n _ _ ?_ trivial⟩
    · show updated.map DnsCompiledRule.toDNSRule = rules
      rw [hzip, map_toDNSRule_updatedRules (hlen'.symm.trans hlen), hshape]
    · intro m host answer heq
      cases heq

/-! ## Every run -/

theorem dnsInv_run {lookup : Nat → Lookup} {rules : List DNSRule}
    {fallback : Option (NetAddr → Except GoError SecretConfig)} {p : DNSSecretProvider}
    (hp : newDNSSecretProvider lookup rules fallback = .ok p) (parse : GoString → IP)
    (acts : List Dns.Act) :
    DnsInv rules lookup (Run.outputs (Dns.step parse) (.init p) acts)
      (Run.after (Dns.step parse) (.init p) acts) := by
  refine Run.run_induction (Dns.step parse) (fun _ events st => DnsInv rules lookup events st)
    ?_ (fun _ events st act h => h.step parse act) acts
  unfold newDNSSecretProvider at hp
  cases hr : resolveRules lookup 0 rules with
  | error err => rw [hr] at hp; cases hp
  | ok rs =>
    rw [hr] at hp
    cases hp
    obtain ⟨hshape, hsourced⟩ := resolveRules_ok hr
    refine ⟨hshape, ?_, fun n => rfl⟩
    show Sourced (resolutions rules lookup []) rs
    simpa [resolutions, looked] using hsourced

/-- The loop of `Get` stops at the first rule whose set has the key. -/
theorem matchRule_cases (key : GoString) (rs : List DnsCompiledRule) :
    (∃ before r after, rs = before ++ r :: after ∧ (∀ r' ∈ before, key ∉ r'.ips) ∧ key ∈ r.ips ∧
      DNSSecretProvider.matchRule key rs = some { secret := r.secret, mode := r.mode }) ∨
    ((∀ r ∈ rs, key ∉ r.ips) ∧ DNSSecretProvider.matchRule key rs = none) := by
  induction rs with
  | nil => exact Or.inr ⟨fun r hr => (by cases hr), rfl⟩
  | cons r rs ih =>
    unfold DNSSecretProvider.matchRule
    by_cases hk : key ∈ r.ips
    · rw [if_pos hk]
      exact Or.inl ⟨[], r, rs, rfl, fun r' hr' => (by cases hr'), hk, rfl⟩
    · rw [if_neg hk]
      rcases ih with ⟨before, r', after, rfl, hbefore, hr', hmatch⟩ | ⟨hnone, hmatch⟩
      · exact Or.inl ⟨r :: before, r', after, rfl, List.forall_mem_cons.mpr ⟨hk, hbefore⟩, hr',
          hmatch⟩
      · exact Or.inr ⟨List.forall_mem_cons.mpr ⟨hk, hnone⟩, hmatch⟩

/-- Whether a `Refresh` fails, from the answers to its lookups. -/
theorem refreshError_isSome (ls : List Resolution) :
    (refreshError (ls.countP (·.2.isOk)) (ls.countP (!·.2.isOk))).isSome ↔
      (∃ host err, (host, .error err) ∈ ls) ∧ ∀ host addrs, (host, .ok addrs) ∉ ls := by
  have hok : ls.countP (·.2.isOk) = 0 ↔ ∀ host addrs, (host, .ok addrs) ∉ ls := by
    rw [List.countP_eq_zero]
    constructor
    · intro h host addrs hmem
      exact h _ hmem rfl
    · rintro h ⟨host, answer⟩ hmem
      cases answer with
      | error err => exact fun hf => by cases hf
      | ok addrs => exact absurd hmem (h host addrs)
  have hfail : 0 < ls.countP (!·.2.isOk) ↔ ∃ host err, (host, .error err) ∈ ls := by
    rw [List.countP_pos_iff]
    constructor
    · rintro ⟨⟨host, answer⟩, hmem, hanswer⟩
      cases answer with
      | error err => exact ⟨host, err, hmem⟩
      | ok addrs => cases hanswer
    · rintro ⟨host, err, hmem⟩
      exact ⟨_, hmem, rfl⟩
  unfold refreshError
  rw [← hok, ← hfail]
  by_cases h : ls.countP (·.2.isOk) = 0 ∧ ls.countP (!·.2.isOk) > 0
  · simp [h]
  · rw [if_neg h]
    exact iff_of_false (fun hf => by cases hf) fun hf => h ⟨hf.2, hf.1⟩

/-- **The DNS secret provider is safe.** After any acts of any number of refreshes, whatever the
    lookups answer: the rules have the hosts, secrets and modes given at construction, in that
    order; `Get` answers from the first rule whose set has the address, and then the address was
    in a successful resolution of that rule's host, or else it asks the fallback; and a refresh
    that swaps has looked up each host of its snapshot, puts the snapshot in place with the set of
    each rule as it was if its lookup failed and with the answered addresses if not, and fails
    exactly if some lookup failed and none succeeded. -/
theorem dnsProvider_safe (parse : GoString → IP) (lookup : Nat → Lookup) (rules : List DNSRule)
    (fallback : Option (NetAddr → Except GoError SecretConfig)) (p : DNSSecretProvider)
    (hp : newDNSSecretProvider lookup rules fallback = .ok p) (acts : List Dns.Act) :
    let st := Run.after (Dns.step parse) (.init p) acts
    let events := Run.outputs (Dns.step parse) (.init p) acts
    st.provider.rules.map DnsCompiledRule.toDNSRule = rules ∧
    (∀ remote,
      (∃ before r after ip, st.provider.rules = before ++ r :: after ∧
        ipFromAddr parse remote = some ip ∧ (∀ r' ∈ before, ipKey (some ip) ∉ r'.ips) ∧
        AddressResolved (resolutions rules lookup events) r.host ip ∧
        st.provider.get parse remote = .ok { secret := r.secret, mode := r.mode }) ∨
      ((∀ ip, ipFromAddr parse remote = some ip →
          ∀ r ∈ st.provider.rules, ipKey (some ip) ∉ r.ips) ∧
        st.provider.get parse remote = st.provider.fallbackGet remote)) ∧
    ∀ n err, (Dns.step parse st (.swap n)).2 = some (.swapped n err) →
      ∃ snapshot, some (.started n snapshot) ∈ events ∧
        (lookupsOf n events).map Prod.fst = snapshot.map (·.host) ∧
        (Dns.step parse st (.swap n)).1.provider.rules.length = snapshot.length ∧
        (∀ (i : Nat) r, snapshot[i]? = some r →
          ∃ answer r', (lookupsOf n events)[i]? = some (r.host, answer) ∧
            (Dns.step parse st (.swap n)).1.provider.rules[i]? = some r' ∧
            Refreshed r answer r') ∧
        (err.isSome ↔ (∃ host e, (host, .error e) ∈ lookupsOf n events) ∧
          ∀ host addrs, (host, .ok addrs) ∉ lookupsOf n events) := by
  intro st events
  have hinv : DnsInv rules lookup events st := dnsInv_run hp parse acts
  refine ⟨hinv.shape, ?_, ?_⟩
  · intro remote
    unfold DNSSecretProvider.get
    cases hip : ipFromAddr parse remote with
    | none => exact Or.inr ⟨fun ip h => (by cases h), rfl⟩
    | some ip =>
      dsimp only
      rcases matchRule_cases (ipKey (some ip)) st.provider.rules with
        ⟨before, r, after, hrules, hbefore, hr, hmatch⟩ | ⟨hnone, hmatch⟩
      · have hmem : r ∈ st.provider.rules := by
          rw [hrules]
          exact List.mem_append_right _ List.mem_cons_self
        refine Or.inl ⟨before, r, after, ip, hrules, rfl, hbefore, ?_, ?_⟩
        · exact addressResolved_of_key (hinv.sourced r hmem _ hr)
        · rw [hmatch]
      · refine Or.inr ⟨?_, ?_⟩
        · intro ip' hip'
          cases hip'
          exact hnone
        · rw [hmatch]
  · intro n err hswap
    rcases dns_step_cases parse st (.swap n) with ⟨-, he⟩ | ⟨m, -, hstep⟩ |
        ⟨m, _, _, _, _, _, _, -, -, hstep⟩ |
        ⟨m, current, updated, resolved, failed, hm, hlen, hact, hstep⟩
    · rcases he with he | ⟨a, he⟩
      · rw [he] at hswap; cases hswap
      · rw [he] at hswap; cases hswap
    · rw [hstep] at hswap; cases hswap
    · rw [hstep] at hswap; cases hswap
    · cases hact
      rw [hstep] at hswap ⊢
      cases hswap
      have hlook := hinv.refreshes n
      rw [hm] at hlook
      obtain ⟨hstart, -, -, -, -, hhosts, hzip, hres, hfail⟩ := hlook
      rw [hlen, List.take_length] at hhosts
      refine ⟨current, hstart, hhosts, hlen, ?_, ?_⟩
      · intro i r hr
        rw [show (Dns.State.setRefresh _ n _).provider.rules = updated from rfl, hzip]
        exact refreshed_updatedRules hhosts hr
      · rw [hres, hfail]
        exact refreshError_isSome _

/-- One device, at 10.0.0.1 when the provider is built. -/
def nasRules : List DNSRule := [{ host := lit "nas", secret := lit "s", mode := .legacy }]

def nasLookup : Nat → Lookup := fun _ => .ok [some [10, 0, 0, 1]]

/-- Two refreshes overlap: the lookup of the first fails, the second finds the device at 10.0.0.5
    and swaps. -/
def overlap : List Dns.Act :=
  [.snapshot 0, .snapshot 1, .lookup 0 (.error .eof), .lookup 1 (.ok [some [10, 0, 0, 5]]),
    .swap 1]

/-- The first one is about to put the old set back, and to report an error. -/
theorem dnsProvider_safe_overlap :
    ∃ p, newDNSSecretProvider nasLookup nasRules none = .ok p ∧
      let st := Run.after (Dns.step fun _ => none) (.init p) overlap
      st.provider.rules.map DnsCompiledRule.toDNSRule = nasRules ∧
      ∃ err r, (Dns.step (fun _ => none) st (.swap 0)).2 = some (.swapped 0 (some err)) ∧
        (Dns.step (fun _ => none) st (.swap 0)).1.provider.rules[0]? = some r ∧
        ipKey (some [10, 0, 0, 1]) ∈ r.ips ∧ ipKey (some [10, 0, 0, 5]) ∉ r.ips := by
  refine ⟨_, rfl, ?_⟩
  obtain ⟨hshape, -, hswap⟩ := dnsProvider_safe (fun _ => none) nasLookup nasRules none _ rfl
    overlap
  obtain ⟨snapshot, hstart, -, -, hrules, -⟩ := hswap 0 _ rfl
  let nas : DnsCompiledRule := ⟨⟨lit "nas", lit "s", .legacy⟩, ipSet [some [10, 0, 0, 1]]⟩
  have hevents : some (Dns.Event.started 0 snapshot) ∈
      [some (.started 0 [nas]), some (.started 1 [nas]), some (.looked 0 (lit "nas") (.error .eof)),
        some (.looked 1 (lit "nas") (.ok [some [10, 0, 0, 5]])), some (.swapped 1 none)] := hstart
  have hsnapshot : snapshot = [nas] := by simpa using hevents
  subst hsnapshot
  obtain ⟨answer, r', hanswer, hr', hrefreshed⟩ := hrules 0 _ rfl
  cases hanswer
  cases hrefreshed
  refine ⟨hshape, _, _, rfl, hr', ?_, ?_⟩
  · decide
  · decide

end Server
end Proof
end Tacacs
