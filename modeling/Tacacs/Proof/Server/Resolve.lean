import Tacacs.Proof.Server.Users

/-!
# What `Resolve` accepts, and what it makes of it

`Resolve` is five loops that stop at the first thing wrong. Each gets one lemma of the form
`loop = .ok result ↔ nothing wrong ∧ result = …`, with the result written as a total function
of the configuration, and `resolve_ok_iff` puts them together: a configuration is accepted
exactly if it is `WellFormed`, and then each user is `expandedUser`.

The functions are read off the configuration as it is written: names are looked up with `find?`
in the lists, not in the maps that `Resolve` builds.
-/

set_option autoImplicit false

namespace Tacacs
namespace Proof
namespace Server

open GoSem
open Tacacs.Server

/-- A stage that failed was not given what it needs to succeed. -/
theorem not_of_error {ε α : Type} {x : Except ε α} {e : ε} (hx : x = .error e) {P : Prop} {v : α}
    (h : P → x = .ok v) : ¬P := by
  intro hp
  rw [h hp] at hx
  cases hx

/-- A loop over nothing returns what it was given. -/
theorem ok_nil_iff {ε α β : Type} {P : α → Prop} {a b : β} :
    (.ok a : Except ε β) = .ok b ↔ (∀ x ∈ ([] : List α), P x) ∧ b = a := by
  constructor
  · intro h
    cases h
    exact ⟨fun _ h => absurd h List.not_mem_nil, rfl⟩
  · rintro ⟨-, rfl⟩
    rfl

/-! ## Compiling rules -/

section Compiling

variable {compile : RegexpCompile}

/-- There is no pattern, or it compiles. -/
def Compiles (compile : RegexpCompile) (r : CommandRule) : Prop :=
  r.pattern = [] ∨ ∃ re, compile r.pattern = .ok re

/-- The rule as a `Compile` that succeeds leaves it. -/
def compiledRule (compile : RegexpCompile) (r : CommandRule) : CommandRule :=
  if r.pattern = [] then r
  else
    match compile r.pattern with
    | .error _ => r
    | .ok re => { r with re := some re }

theorem compile_ok_iff {r r' : CommandRule} :
    r.compile compile = .ok r' ↔ Compiles compile r ∧ r' = compiledRule compile r := by
  unfold CommandRule.compile Compiles compiledRule
  by_cases hp : r.pattern = []
  · simp [hp, eq_comm]
  · cases hc : compile r.pattern with
    | error e => simp [hp]
    | ok re => simp [hp, eq_comm]

theorem compileRules_ok_iff {rs rs' : List CommandRule} {j : Nat} :
    compileRules compile j rs = .ok rs' ↔
      (∀ r ∈ rs, Compiles compile r) ∧ rs' = rs.map (compiledRule compile) := by
  induction rs generalizing rs' j with
  | nil => simp [compileRules, eq_comm]
  | cons r rs ih =>
    unfold compileRules
    rw [List.forall_mem_cons, List.map_cons]
    cases hr : r.compile compile with
    | error e =>
      have hnot : ¬Compiles compile r :=
        not_of_error hr fun h => compile_ok_iff.mpr ⟨h, rfl⟩
      simp [hnot]
    | ok c =>
      obtain ⟨hc, rfl⟩ := compile_ok_iff.mp hr
      cases hrs : compileRules compile (j + 1) rs with
      | error e =>
        have hnot : ¬∀ r ∈ rs, Compiles compile r :=
          not_of_error hrs fun h => ih.mpr ⟨h, rfl⟩
        simp [hc, hnot, bind, Except.bind]
      | ok cs =>
        obtain ⟨hcs, rfl⟩ := ih.mp hrs
        simp only [hc, true_and]
        constructor
        · intro h
          cases h
          exact ⟨hcs, rfl⟩
        · rintro ⟨-, rfl⟩
          rfl

theorem compiledRule_idem (r : CommandRule) :
    compiledRule compile (compiledRule compile r) = compiledRule compile r := by
  unfold compiledRule
  by_cases hp : r.pattern = []
  · simp [hp]
  · cases hc : compile r.pattern with
    | error e => simp [hp, hc]
    | ok re => simp [hp, hc]

theorem compiles_compiledRule {r : CommandRule} (h : Compiles compile r) :
    Compiles compile (compiledRule compile r) := by
  have hpat : (compiledRule compile r).pattern = r.pattern := by
    unfold compiledRule
    split
    · rfl
    · split <;> rfl
  unfold Compiles
  rw [hpat]
  exact h

end Compiling

/-! ## The declarations of a configuration -/

def groupNamed (cfg : UserConfig) (name : GoString) : Option Group :=
  cfg.groups.find? fun g => decide (g.name = name)

def serviceNamed (cfg : UserConfig) (name : GoString) : Option Service :=
  cfg.services.find? fun s => decide (s.name = name)

/-- The groups a user lists, in that order. -/
def groupsOf (cfg : UserConfig) (u : User) : List Group := u.groups.filterMap (groupNamed cfg)

/-- The rules that bear on a user: its own, then those of its groups. -/
def rulesOf (cfg : UserConfig) (u : User) : List CommandRule :=
  u.commands ++ (groupsOf cfg u).flatMap Group.commands

/-- The services that a user refers to: its own, then those of its groups. -/
def serviceRefsOf (cfg : UserConfig) (u : User) : List GoString :=
  u.services ++ (groupsOf cfg u).flatMap Group.services

/-- The first string that is set, empty if none is. -/
def firstSet (ts : List GoString) : GoString := (ts.find? fun t => decide (t ≠ [])).getD []

/-- The `AuthType` of the group of that name. -/
def groupAuthType (groups : List Group) (name : GoString) : GoString :=
  ((groups.find? fun g => decide (g.name = name)).map Group.authType).getD []

/-- `u.AuthType` if set, else the first one set among its groups, in the order it lists them. -/
def resolvedAuthType (cfg : UserConfig) (u : User) : GoString :=
  firstSet (u.authType :: u.groups.map (groupAuthType cfg.groups))

/-- Nothing for `Resolve` to object to. -/
structure WellFormed (compile : RegexpCompile) (cfg : UserConfig) : Prop where
  groupsNamed : ∀ g ∈ cfg.groups, g.name ≠ []
  groupsDistinct : (cfg.groups.map Group.name).Nodup
  servicesNamed : ∀ s ∈ cfg.services, s.name ≠ []
  servicesDistinct : (cfg.services.map Service.name).Nodup
  groupServices : ∀ g ∈ cfg.groups, ∀ ref ∈ g.services, ∃ s ∈ cfg.services, s.name = ref
  userServices : ∀ u ∈ cfg.users, ∀ ref ∈ u.services, ∃ s ∈ cfg.services, s.name = ref
  userGroups : ∀ u ∈ cfg.users, ∀ ref ∈ u.groups, ∃ g ∈ cfg.groups, g.name = ref
  groupPatterns : ∀ g ∈ cfg.groups, ∀ r ∈ g.commands, Compiles compile r
  userPatterns : ∀ u ∈ cfg.users, ∀ r ∈ u.commands, Compiles compile r

/-- What becomes of a user of a well-formed configuration. -/
def expandedUser (compile : RegexpCompile) (cfg : UserConfig) (u : User) : ResolvedUser where
  user := { u with commands := u.commands.map (compiledRule compile),
                   authType := resolvedAuthType cfg u }
  commands := (rulesOf cfg u).map (compiledRule compile)
  services := (serviceRefsOf cfg u).filterMap (serviceNamed cfg)

theorem firstSet_cons_of_ne {t : GoString} {ts : List GoString} (h : t ≠ []) :
    firstSet (t :: ts) = t := by
  unfold firstSet
  rw [List.find?_cons_of_pos (by simpa using h)]
  rfl

/-- What a group does to the type of a user being merged. -/
theorem firstSet_cons_cons (t t' : GoString) (ts : List GoString) :
    firstSet (t :: t' :: ts) = firstSet ((if t = [] ∧ t' ≠ [] then t' else t) :: ts) := by
  by_cases ht : t = []
  · subst ht
    by_cases ht' : t' = []
    · subst ht'
      rfl
    · rw [if_pos ⟨rfl, ht'⟩]
      rfl
  · rw [if_neg (fun h => ht h.1), firstSet_cons_of_ne ht, firstSet_cons_of_ne ht]

/-! ## The loops that fill the indexes -/

section Indexes

variable {compile : RegexpCompile}

def compiledGroup (compile : RegexpCompile) (g : Group) : Group :=
  { g with commands := g.commands.map (compiledRule compile) }

/-- The group index of a well-formed configuration. -/
def groupIndex (compile : RegexpCompile) (m : Groups) (gs : List Group) : Groups :=
  gs.foldl (fun m g => m.insert g.name (compiledGroup compile g)) m

/-- The service index of a well-formed configuration. -/
def serviceIndex (m : Services) (ss : List Service) : Services :=
  ss.foldl (fun m s => m.insert s.name s) m

theorem indexGroups_ok_iff {gs : List Group} {i : Nat} {m m' : Groups} :
    indexGroups compile i m gs = .ok m' ↔
      (∀ g ∈ gs, g.name ≠ [] ∧ ∀ r ∈ g.commands, Compiles compile r) ∧
        Assoc.Fresh Group.name m gs ∧ m' = groupIndex compile m gs := by
  induction gs generalizing i m with
  | nil => simp [indexGroups, groupIndex, eq_comm]
  | cons g gs ih =>
    unfold indexGroups
    rw [List.forall_mem_cons, Assoc.fresh_cons Group.name m g (compiledGroup compile g)]
    by_cases hname : g.name = []
    · simp [hname]
    by_cases hdup : g.name ∈ m
    · simp [hname, AList.lookup_isSome.mpr hdup, hdup]
    rw [if_neg hname, if_neg (fun h => hdup (AList.lookup_isSome.mp h))]
    cases hc : compileRules compile 0 g.commands with
    | error e =>
      have hnot : ¬∀ r ∈ g.commands, Compiles compile r :=
        not_of_error hc fun h => compileRules_ok_iff.mpr ⟨h, rfl⟩
      simp [hnot]
    | ok commands =>
      obtain ⟨hcs, rfl⟩ := compileRules_ok_iff.mp hc
      dsimp only
      rw [ih]
      simp only [ne_eq, hname, not_false_eq_true, hdup, true_and]
      constructor
      · rintro ⟨hall, hfresh, hm'⟩
        exact ⟨⟨hcs, hall⟩, hfresh, hm'⟩
      · rintro ⟨⟨-, hall⟩, hfresh, hm'⟩
        exact ⟨hall, hfresh, hm'⟩

theorem indexServices_ok_iff {ss : List Service} {i : Nat} {m m' : Services} :
    indexServices i m ss = .ok m' ↔
      (∀ s ∈ ss, s.name ≠ []) ∧ Assoc.Fresh Service.name m ss ∧ m' = serviceIndex m ss := by
  induction ss generalizing i m with
  | nil => simp [indexServices, serviceIndex, eq_comm]
  | cons s ss ih =>
    unfold indexServices
    rw [List.forall_mem_cons, Assoc.fresh_cons Service.name m s s]
    by_cases hname : s.name = []
    · simp [hname]
    by_cases hdup : s.name ∈ m
    · simp [hname, AList.lookup_isSome.mpr hdup, hdup]
    rw [if_neg hname, if_neg (fun h => hdup (AList.lookup_isSome.mp h)), ih]
    simp only [ne_eq, hname, not_false_eq_true, hdup, true_and]
    rfl

theorem lookup_groupIndex {cfg : UserConfig} (h : (cfg.groups.map Group.name).Nodup)
    (name : GoString) :
    (groupIndex compile ∅ cfg.groups).lookup name
      = (groupNamed cfg name).map (compiledGroup compile) := by
  unfold groupIndex groupNamed
  rw [Assoc.lookup_foldl_insert, Assoc.find?_reverse_of_nodup _ h]
  simp

theorem lookup_serviceIndex {cfg : UserConfig} (h : (cfg.services.map Service.name).Nodup)
    (name : GoString) :
    (serviceIndex ∅ cfg.services).lookup name = serviceNamed cfg name := by
  unfold serviceIndex serviceNamed
  rw [Assoc.lookup_foldl_insert Service.name (fun s => s), Assoc.find?_reverse_of_nodup _ h]
  simp

theorem groupNamed_isSome {cfg : UserConfig} {name : GoString} :
    (groupNamed cfg name).isSome ↔ ∃ g ∈ cfg.groups, g.name = name := by
  unfold groupNamed
  simp

theorem serviceNamed_isSome {cfg : UserConfig} {name : GoString} :
    (serviceNamed cfg name).isSome ↔ ∃ s ∈ cfg.services, s.name = name := by
  unfold serviceNamed
  simp

theorem mem_groups_of_mem_groupsOf {cfg : UserConfig} {u : User} {g : Group}
    (h : g ∈ groupsOf cfg u) : g ∈ cfg.groups := by
  obtain ⟨name, -, hname⟩ := List.mem_filterMap.mp h
  exact List.mem_of_find?_eq_some hname

end Indexes

/-! ## The loops that follow references -/

theorem unknownService_eq_none {services : Services} {refs : List GoString} :
    unknownService services refs = none ↔ ∀ ref ∈ refs, (services.lookup ref).isSome := by
  unfold unknownService
  simp [Option.isSome_iff_ne_none]

theorem checkGroupServices_ok_iff {services : Services} {gs : List Group} {v : Unit} :
    checkGroupServices services gs = .ok v ↔
      ∀ g ∈ gs, ∀ ref ∈ g.services, (services.lookup ref).isSome := by
  induction gs with
  | nil => simp [checkGroupServices]
  | cons g gs ih =>
    unfold checkGroupServices
    rw [List.forall_mem_cons, ← unknownService_eq_none, ← ih]
    cases hu : unknownService services g.services with
    | some ref => simp
    | none => simp

/-- The groups merged into a user, if all of them are there. -/
def merged (groups : Groups) (services : Services) (ru : ResolvedUser) (refs : List GoString) :
    ResolvedUser :=
  (refs.filterMap groups.lookup).foldl (fun ru g => ru.merge services g) ru

theorem mergeGroups_ok_iff {groups : Groups} {services : Services} {name : GoString}
    {refs : List GoString} {ru ru' : ResolvedUser} :
    mergeGroups groups services name ru refs = .ok ru' ↔
      (∀ ref ∈ refs, (groups.lookup ref).isSome) ∧ ru' = merged groups services ru refs := by
  induction refs generalizing ru with
  | nil => exact ok_nil_iff
  | cons ref refs ih =>
    unfold mergeGroups merged
    rw [List.forall_mem_cons, List.filterMap_cons]
    cases hg : groups.lookup ref with
    | none => simp
    | some g =>
      dsimp only
      rw [ih]
      simp [merged]

/-- A list of groups merged in, field by field. -/
theorem foldl_merge (services : Services) (gs : List Group) (ru : ResolvedUser) :
    gs.foldl (fun ru g => ru.merge services g) ru =
      { user := { ru.user with
                    authType := firstSet (ru.user.authType :: gs.map Group.authType) }
        commands := ru.commands ++ gs.flatMap Group.commands
        services := ru.services ++ gs.flatMap fun g => groupServices g services } := by
  induction gs generalizing ru with
  | nil =>
    have hset : firstSet [ru.user.authType] = ru.user.authType := by
      by_cases ht : ru.user.authType = []
      · rw [ht]
        rfl
      · exact firstSet_cons_of_ne ht
    simp [hset]
  | cons g gs ih =>
    rw [List.foldl_cons, ih, List.map_cons, firstSet_cons_cons]
    unfold ResolvedUser.merge
    by_cases ht : ru.user.authType = [] ∧ g.authType ≠ []
    · simp [ht]
    · simp only [if_neg ht, List.flatMap_cons, List.append_assoc]

/-! ## The whole of `Resolve` -/

section Whole

variable {compile : RegexpCompile}

/-- What `resolveUser` makes of a user, over the indexes. -/
def resolvedUser (compile : RegexpCompile) (groups : Groups) (services : Services) (u : User) :
    ResolvedUser :=
  let commands := u.commands.map (compiledRule compile)
  merged groups services
    { user := { u with commands }, commands, services := Tacacs.Server.userServices u services }
    u.groups

theorem resolveUser_ok_iff {groups : Groups} {services : Services} {u : User}
    {ru : ResolvedUser} :
    resolveUser compile u groups services = .ok ru ↔
      (∀ r ∈ u.commands, Compiles compile r) ∧
        (∀ ref ∈ u.services, (services.lookup ref).isSome) ∧
        (∀ ref ∈ u.groups, (groups.lookup ref).isSome) ∧
        ru = resolvedUser compile groups services u := by
  unfold resolveUser resolvedUser
  cases hc : compileRules compile 0 u.commands with
  | error e =>
    have hnot : ¬∀ r ∈ u.commands, Compiles compile r :=
      not_of_error hc fun h => compileRules_ok_iff.mpr ⟨h, rfl⟩
    simp [hnot]
  | ok commands =>
    obtain ⟨hcs, rfl⟩ := compileRules_ok_iff.mp hc
    rw [← unknownService_eq_none]
    cases hs : unknownService services u.services with
    | some ref => simp
    | none =>
      dsimp only
      rw [mergeGroups_ok_iff]
      exact ⟨fun h => ⟨hcs, rfl, h⟩, fun h => h.2.2⟩

theorem resolveUsers_ok_iff {groups : Groups} {services : Services} {us : List User}
    {m m' : Resolved} :
    resolveUsers compile groups services m us = .ok m' ↔
      (∀ u ∈ us, (∀ r ∈ u.commands, Compiles compile r) ∧
        (∀ ref ∈ u.services, (services.lookup ref).isSome) ∧
        ∀ ref ∈ u.groups, (groups.lookup ref).isSome) ∧
      m' = us.foldl
        (fun m u => m.insert u.username (resolvedUser compile groups services u)) m := by
  induction us generalizing m with
  | nil => exact ok_nil_iff
  | cons u us ih =>
    unfold resolveUsers
    rw [List.forall_mem_cons, List.foldl_cons]
    cases hr : resolveUser compile u groups services with
    | error e =>
      have hnot : ¬((∀ r ∈ u.commands, Compiles compile r) ∧
          (∀ ref ∈ u.services, (services.lookup ref).isSome) ∧
          ∀ ref ∈ u.groups, (groups.lookup ref).isSome) :=
        not_of_error hr fun h => resolveUser_ok_iff.mpr ⟨h.1, h.2.1, h.2.2, rfl⟩
      simp only [hnot, false_and, reduceCtorEq]
    | ok ru =>
      obtain ⟨h1, h2, h3, rfl⟩ := resolveUser_ok_iff.mp hr
      dsimp only
      rw [ih]
      constructor
      · rintro ⟨hall, hm'⟩
        exact ⟨⟨⟨h1, h2, h3⟩, hall⟩, hm'⟩
      · rintro ⟨⟨-, hall⟩, hm'⟩
        exact ⟨hall, hm'⟩

/-- Following references through the indexes of a well-formed configuration is following them
    in its lists. -/
theorem resolvedUser_eq_expandedUser {cfg : UserConfig} (h : WellFormed compile cfg) {u : User}
    (hu : u ∈ cfg.users) :
    resolvedUser compile (groupIndex compile ∅ cfg.groups) (serviceIndex ∅ cfg.services) u
      = expandedUser compile cfg u := by
  have hgroups : u.groups.filterMap (groupIndex compile ∅ cfg.groups).lookup
      = (groupsOf cfg u).map (compiledGroup compile) := by
    unfold groupsOf
    rw [List.map_filterMap]
    congr 1
    funext name
    exact lookup_groupIndex h.groupsDistinct name
  have hservices : ∀ name, (serviceIndex ∅ cfg.services).lookup name = serviceNamed cfg name :=
    lookup_serviceIndex h.servicesDistinct
  -- the zero value of a missing service does not arise
  have hgroupServices : ∀ g ∈ groupsOf cfg u,
      groupServices (compiledGroup compile g) (serviceIndex ∅ cfg.services)
        = g.services.filterMap (serviceNamed cfg) := by
    intro g hg
    unfold groupServices compiledGroup
    rw [← List.filterMap_eq_map]
    refine List.filterMap_congr fun ref href => ?_
    obtain ⟨s, hs⟩ := Option.isSome_iff_exists.mp (serviceNamed_isSome.mpr
      (h.groupServices g (mem_groups_of_mem_groupsOf hg) ref href))
    simp [hservices, hs]
  have htypes : (groupsOf cfg u).map Group.authType
      = u.groups.map (groupAuthType cfg.groups) := by
    unfold groupsOf
    rw [List.map_filterMap, ← List.filterMap_eq_map]
    refine List.filterMap_congr fun name hname => ?_
    obtain ⟨g, hg⟩ := Option.isSome_iff_exists.mp
      (groupNamed_isSome.mpr (h.userGroups u hu name hname))
    unfold groupAuthType
    unfold groupNamed at hg
    simp [groupNamed, hg]
  unfold resolvedUser merged expandedUser rulesOf serviceRefsOf resolvedAuthType
  rw [hgroups, foldl_merge]
  simp only [List.map_map, List.map_append, List.filterMap_append, List.flatMap_map,
    List.map_flatMap, List.filterMap_flatMap, ResolvedUser.mk.injEq]
  refine ⟨?_, ?_, ?_⟩
  · rw [← htypes]
    rfl
  · rfl
  · unfold Tacacs.Server.userServices
    simp only [hservices]
    congr 1
    exact List.flatMap_congr hgroupServices

theorem compiles_of_mem_rulesOf {cfg : UserConfig} (h : WellFormed compile cfg) {u : User}
    (hu : u ∈ cfg.users) : ∀ r ∈ rulesOf cfg u, Compiles compile r := by
  intro r hr
  rcases List.mem_append.mp hr with hr | hr
  · exact h.userPatterns u hu r hr
  · obtain ⟨g, hg, hr⟩ := List.mem_flatMap.mp hr
    exact h.groupPatterns g (mem_groups_of_mem_groupsOf hg) r hr

/-- No reference of a user of a well-formed configuration is lost. -/
theorem map_some_serviceRefs {cfg : UserConfig} (h : WellFormed compile cfg) {u : User}
    (hu : u ∈ cfg.users) :
    ((serviceRefsOf cfg u).filterMap (serviceNamed cfg)).map some
      = (serviceRefsOf cfg u).map (serviceNamed cfg) := by
  have hdeclared : ∀ ref ∈ serviceRefsOf cfg u, (serviceNamed cfg ref).isSome := by
    intro ref href
    refine serviceNamed_isSome.mpr ?_
    rcases List.mem_append.mp href with href | href
    · exact h.userServices u hu ref href
    · obtain ⟨g, hg, href⟩ := List.mem_flatMap.mp href
      exact h.groupServices g (mem_groups_of_mem_groupsOf hg) ref href
  rw [List.map_filterMap, ← List.filterMap_eq_map]
  refine List.filterMap_congr fun ref href => ?_
  obtain ⟨s, hs⟩ := Option.isSome_iff_exists.mp (hdeclared ref href)
  simp [hs]

/-- **`Resolve`, in one line.** -/
theorem resolve_ok_iff {cfg : UserConfig} {resolved : Resolved} :
    cfg.resolve compile = .ok resolved ↔
      WellFormed compile cfg ∧ resolved = cfg.users.foldl
        (fun m u => m.insert u.username (expandedUser compile cfg u)) ∅ := by
  unfold UserConfig.resolve
  simp only [GoSem.bind_eq_ok, indexGroups_ok_iff, indexServices_ok_iff, checkGroupServices_ok_iff,
    resolveUsers_ok_iff, Assoc.fresh_empty]
  constructor
  · rintro ⟨groups, ⟨hg, hgd, rfl⟩, services, ⟨hs, hsd, rfl⟩, -, hgs, hu, rfl⟩
    simp only [lookup_groupIndex hgd, lookup_serviceIndex hsd, Option.isSome_map,
      serviceNamed_isSome, groupNamed_isSome] at hgs hu
    have hwf : WellFormed compile cfg :=
      ⟨fun g h => (hg g h).1, hgd, hs, hsd, hgs, fun u h => (hu u h).2.1, fun u h => (hu u h).2.2,
        fun g h => (hg g h).2, fun u h => (hu u h).1⟩
    refine ⟨hwf, ?_⟩
    refine List.foldl_ext _ _ _ fun m u hu => ?_
    rw [resolvedUser_eq_expandedUser hwf hu]
  · rintro ⟨hwf, rfl⟩
    refine ⟨_, ⟨fun g h => ⟨hwf.groupsNamed g h, hwf.groupPatterns g h⟩, hwf.groupsDistinct, rfl⟩,
      _, ⟨hwf.servicesNamed, hwf.servicesDistinct, rfl⟩, (), ?_, ?_, ?_⟩
    · simp only [lookup_serviceIndex hwf.servicesDistinct, serviceNamed_isSome]
      exact hwf.groupServices
    · simp only [lookup_groupIndex hwf.groupsDistinct, lookup_serviceIndex hwf.servicesDistinct,
        Option.isSome_map, serviceNamed_isSome, groupNamed_isSome]
      exact fun u h => ⟨hwf.userPatterns u h, hwf.userServices u h, hwf.userGroups u h⟩
    · refine List.foldl_ext _ _ _ fun m u hu => ?_
      rw [resolvedUser_eq_expandedUser hwf hu]

/-- Under each name stands what became of the entry in force. -/
theorem lookup_resolved {cfg : UserConfig} {resolved : Resolved}
    (h : cfg.resolve compile = .ok resolved) (name : GoString) :
    resolved.lookup name = (userEntry cfg.users name).map (expandedUser compile cfg) := by
  obtain ⟨-, rfl⟩ := resolve_ok_iff.mp h
  rw [Assoc.lookup_foldl_insert]
  simp [userEntry]

/-- Where no name is used twice, the entry in force is the user. -/
theorem userEntry_of_mem {users : List User} (h : (users.map User.username).Nodup) {u : User}
    (hu : u ∈ users) : userEntry users u.username = some u := by
  unfold userEntry
  rw [Assoc.find?_reverse_of_nodup _ h]
  induction users with
  | nil => cases hu
  | cons v users ih =>
    obtain ⟨hv, hrest⟩ := List.nodup_cons.mp h
    rcases List.mem_cons.mp hu with rfl | hu
    · simp
    · have hne : v.username ≠ u.username := fun heq => hv (heq ▸ List.mem_map_of_mem hu)
      rw [List.find?_cons_of_neg (by simpa using hne)]
      exact ih hrest hu

/-- **`Resolve` accepts exactly the well-formed configurations.** The names of the result are
    the names of the users; where no two users share one, the services of each are the services
    it refers to followed by those its groups refer to, each of them declared, and its type is
    its own, or else the first one set among its groups. -/
theorem resolve_accepts_iff (compile : RegexpCompile) (cfg : UserConfig) :
    ((∃ resolved, cfg.resolve compile = .ok resolved) ↔ WellFormed compile cfg) ∧
    ∀ resolved, cfg.resolve compile = .ok resolved →
      (∀ name, name ∈ resolved ↔ ∃ u ∈ cfg.users, u.username = name) ∧
      ((cfg.users.map User.username).Nodup → ∀ u ∈ cfg.users,
        ∃ ru, resolved.lookup u.username = some ru ∧
          ru.services.map some = (serviceRefsOf cfg u).map (serviceNamed cfg) ∧
          ru.user.authType = resolvedAuthType cfg u) := by
  refine ⟨⟨?_, fun h => ⟨_, resolve_ok_iff.mpr ⟨h, rfl⟩⟩⟩, ?_⟩
  · rintro ⟨resolved, h⟩
    exact (resolve_ok_iff.mp h).1
  intro resolved h
  obtain ⟨hwf, hres⟩ := resolve_ok_iff.mp h
  refine ⟨?_, ?_⟩
  · intro name
    rw [hres, Assoc.mem_foldl_insert]
    simp
  · intro hdistinct u hu
    refine ⟨expandedUser compile cfg u, ?_, ?_, rfl⟩
    · rw [lookup_resolved h, userEntry_of_mem hdistinct hu, Option.map_some]
    · exact map_some_serviceRefs hwf hu

/-- A user with one service of its own and one that comes with its group. -/
def dialConfig : UserConfig where
  users := [{ username := lit "heidi", passwordHash := lit "$2a", groups := [lit "dial"],
              services := [lit "ppp"] }]
  groups := [{ name := lit "dial", services := [lit "ip"], authType := lit "pap" }]
  services := [{ name := lit "ip" }, { name := lit "ppp" }]

theorem resolve_accepts_dialConfig :
    ∃ resolved, dialConfig.resolve noRegexp = .ok resolved ∧
      ∃ ru, resolved.lookup (lit "heidi") = some ru ∧
        ru.services.map some = [some { name := lit "ppp" }, some { name := lit "ip" }] ∧
        ru.user.authType = lit "pap" :=
  ⟨_, rfl, ((resolve_accepts_iff noRegexp dialConfig).2 _ rfl).2 (by decide) _
    (List.mem_singleton_self _)⟩

end Whole

end Server
end Proof
end Tacacs
