import Tacacs.Server.Users

/-!
# `server/group.go` — rules, groups and services

`Resolve` expands each user: its own rules first, then those of its groups in the order the
user lists them, and likewise the services; the first group with an `AuthType` lends it to a
user that has none. `regexp.Compile` is a parameter, with the text of its error.
-/

set_option autoImplicit false

namespace Tacacs
namespace Server

open GoSem

/-- `regexp.Compile`. -/
abbrev RegexpCompile := GoString → Except GoString Regexp

/-! ## Matching one rule -/

/-- `Compile`: an empty pattern leaves the rule as it is. -/
def CommandRule.compile (compile : RegexpCompile) (r : CommandRule) :
    Except Message CommandRule :=
  if r.pattern = [] then .ok r
  else
    match compile r.pattern with
    | .error e =>
        .error [.text "compile pattern ", .quoted r.pattern, .text ": ", .verbatim e]
    | .ok re => .ok { r with re := some re }

def argPresentAVP (args : List Argument) (want : Argument) : Bool :=
  args.any fun a => a.name == want.name && a.value == want.value

def CommandRule.matches (r : CommandRule) (cmd : GoString) (args : List Argument) : Bool :=
  (match r.re with
    | some re => re.matchString cmd
    | none => true) && r.match.all fun m => argPresentAVP args m

/-! ## Groups and services -/

structure Group where
  name : GoString
  commands : List CommandRule := []
  services : List GoString := []
  authType : GoString := []

structure Service where
  name : GoString
  «match» : List Argument := []
  setValues : List Argument := []

structure ResolvedUser where
  user : User
  commands : List CommandRule
  services : List Service

/-- `UserConfig`, declared in `userconfig.go`. -/
structure UserConfig where
  users : List User := []
  groups : List Group := []
  services : List Service := []
  policy : Policy := {}
  allowPlaintext : Bool := false

abbrev Groups := AList fun _ : GoString => Group
abbrev Services := AList fun _ : GoString => Service
abbrev Resolved := AList fun _ : GoString => ResolvedUser

/-- `NewValidationError(field, fmt.Sprintf(…), ErrInvalidArgument)`. -/
def invalidArgument (field : String) (reason : Message) : GoError :=
  .validation field reason (.sentinel .invalidArgument)

/-- `for j := range rules { rules[j].Compile() }`; the error comes with its index. -/
def compileRules (compile : RegexpCompile) (j : Nat) :
    List CommandRule → Except (Nat × Message) (List CommandRule)
  | [] => .ok []
  | r :: rs =>
      match r.compile compile with
      | .error msg => .error (j, msg)
      | .ok r => do
          let rs ← compileRules compile (j + 1) rs
          return r :: rs

/-- The first loop of `Resolve`. -/
def indexGroups (compile : RegexpCompile) (i : Nat) (groups : Groups) :
    List Group → Except GoError Groups
  | [] => .ok groups
  | g :: gs =>
      if g.name = [] then
        .error (invalidArgument "groups" [.text "entry ", .int i, .text " missing name"])
      else if (groups.lookup g.name).isSome then
        .error (invalidArgument "groups" [.text "duplicate group name ", .quoted g.name])
      else
        match compileRules compile 0 g.commands with
        | .error (j, msg) =>
            .error (invalidArgument "groups"
              ([.text "group ", .quoted g.name, .text " rule ", .int j, .text ": "] ++ msg))
        | .ok commands =>
            indexGroups compile (i + 1) (groups.insert g.name { g with commands }) gs

/-- The second loop of `Resolve`. -/
def indexServices (i : Nat) (services : Services) : List Service → Except GoError Services
  | [] => .ok services
  | s :: ss =>
      if s.name = [] then
        .error (invalidArgument "services" [.text "entry ", .int i, .text " missing name"])
      else if (services.lookup s.name).isSome then
        .error (invalidArgument "services" [.text "duplicate service name ", .quoted s.name])
      else indexServices (i + 1) (services.insert s.name s) ss

/-- The first reference that names no service. -/
def unknownService (services : Services) (refs : List GoString) : Option GoString :=
  refs.find? fun ref => (services.lookup ref).isNone

/-- The third loop of `Resolve`. -/
def checkGroupServices (services : Services) : List Group → Except GoError Unit
  | [] => .ok ()
  | g :: gs =>
      match unknownService services g.services with
      | some ref =>
          .error (invalidArgument "groups" [.text "group ", .quoted g.name,
            .text " references unknown service ", .quoted ref])
      | none => checkGroupServices services gs

def userServices (u : User) (services : Services) : List Service :=
  u.services.filterMap fun ref => services.lookup ref

/-- `services[sref]` for each reference of a group; a missing key would give the zero value. -/
def groupServices (g : Group) (services : Services) : List Service :=
  g.services.map fun sref => (services.lookup sref).getD { name := [] }

/-- One group merged into a user being resolved. -/
def ResolvedUser.merge (ru : ResolvedUser) (services : Services) (g : Group) : ResolvedUser :=
  { user := if ru.user.authType = [] ∧ g.authType ≠ [] then
              { ru.user with authType := g.authType } else ru.user
    commands := ru.commands ++ g.commands
    services := ru.services ++ groupServices g services }

/-- The loop of `resolveUser` over the groups the user lists. -/
def mergeGroups (groups : Groups) (services : Services) (username : GoString)
    (ru : ResolvedUser) : List GoString → Except GoError ResolvedUser
  | [] => .ok ru
  | ref :: refs =>
      match groups.lookup ref with
      | none =>
          .error (invalidArgument "users" [.text "user ", .quoted username,
            .text " references unknown group ", .quoted ref])
      | some g => mergeGroups groups services username (ru.merge services g) refs

def resolveUser (compile : RegexpCompile) (u : User) (groups : Groups) (services : Services) :
    Except GoError ResolvedUser :=
  match compileRules compile 0 u.commands with
  | .error (i, msg) =>
      .error (invalidArgument "users"
        ([.text "user ", .quoted u.username, .text " rule ", .int i, .text ": "] ++ msg))
  | .ok commands =>
      match unknownService services u.services with
      | some ref =>
          .error (invalidArgument "users" [.text "user ", .quoted u.username,
            .text " references unknown service ", .quoted ref])
      | none =>
          let u := { u with commands }
          mergeGroups groups services u.username
            { user := u, commands, services := userServices u services } u.groups

/-- The last loop of `Resolve`: of two users with one name the later one stays. -/
def resolveUsers (compile : RegexpCompile) (groups : Groups) (services : Services)
    (resolved : Resolved) : List User → Except GoError Resolved
  | [] => .ok resolved
  | u :: us =>
      match resolveUser compile u groups services with
      | .error e => .error e
      | .ok ru => resolveUsers compile groups services (resolved.insert u.username ru) us

/-- `Resolve`. A nil config resolves to the empty map, as the empty config does. -/
def UserConfig.resolve (compile : RegexpCompile) (c : UserConfig) : Except GoError Resolved := do
  let groups ← indexGroups compile 0 ∅ c.groups
  let services ← indexServices 0 ∅ c.services
  checkGroupServices services c.groups
  resolveUsers compile groups services ∅ c.users

/-! ## Matching a request -/

/-- `matchCommand`: the first rule that matches decides; `none` when there is none. -/
def matchCommand (rules : List CommandRule) (cmd : GoString) (args : List Argument) :
    Option AuthorDecision :=
  match rules with
  | [] => none
  | r :: rs =>
      if !r.matches cmd args then matchCommand rs cmd args
      else if r.action = actionDeny then
        some { status := authorStatusFail, serverMsg := lit "command denied by policy" }
      else
        let status := if r.passRepl then authorStatusPassRepl else authorStatusPassAdd
        some { status, args := r.setValues }

def serviceMatches (s : Service) (args : List Argument) : Bool :=
  s.match.all fun m => argPresentAVP args m

def matchService (services : List Service) (args : List Argument) : Option AuthorDecision :=
  match services with
  | [] => none
  | s :: ss =>
      if !serviceMatches s args then matchService ss args
      else some { status := authorStatusPassRepl, args := s.setValues }

/-- The value of the first AVP named `cmd`, in any case; empty when there is none. -/
def extractCmd : List Argument → GoString
  | [] => []
  | a :: args => if equalFold a.name (lit "cmd") then a.value else extractCmd args

end Server
end Tacacs
