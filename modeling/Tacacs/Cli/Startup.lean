import Tacacs.Cli.Commands
import Tacacs.Cli.External
import Tacacs.Cli.Wiring
import Tacacs.Yang.Load

/-!
# `cmd/tacacs-cli/server.go` — which handler the server starts with

`runServer` tries the file of `--config` as a user configuration first and as a list of servers
second. A list of servers has no users, so the server then runs with the handler it has without
`--config`, and so do the flags that choose a backend or an accounter: they are not looked at.
-/

set_option autoImplicit false

namespace Tacacs
namespace Cli

open GoSem Server
open Script (World)

variable {α σ κ κ' : Type}

/-- The contents of a file that `viper` can parse, as either loader decodes them. Both read the
    file, one after the other; it is taken not to change between them. -/
structure Document (σ κ κ' : Type) where
  users : Except GoError UserConfig
  tree : Yang.Tree σ κ κ'

/-- What `LoadUserConfig` finds. -/
def usersFile : Except GoError (Document σ κ κ') → ConfigFile
  | .error err => .unreadable err
  | .ok doc =>
      match doc.users with
      | .error err => .undecodable err
      | .ok uc => .decoded uc

/-- What `yang.Load` finds. -/
def treeFile (file : Except GoError (Document σ κ κ')) : Except GoError (Yang.Tree σ κ κ') :=
  file.map Document.tree

/-- The flags that choose the handler. -/
structure HandlerFlags where
  config : GoString := []
  backend : BackendOptions
  accountingLog : GoString := []
  useSyslog : Bool := false

/-- What opening an accounter gives: `NewSyslogAccounter` and `NewFileAccounter`. -/
structure Accounters (α : Type) where
  syslog : Except GoError (Accounter α)
  file : GoString → Except GoError (Accounter α)

/-- Why `runServer` returns before it listens. -/
inductive RunError where
  | loadConfig (err : GoError)
  | start (err : StartError)
  | authBackend (err : GoError)
  | dialSyslog (err : GoError)
  | accountingLog (err : GoError)

def buildAccounter (f : HandlerFlags) (accounters : Accounters α) :
    Except RunError (Option (Accounter α)) :=
  if f.useSyslog then
    match accounters.syslog with
    | .error err => .error (.dialSyslog err)
    | .ok acct => .ok (some acct)
  else if f.accountingLog ≠ [] then
    match accounters.file f.accountingLog with
    | .error err => .error (.accountingLog err)
    | .ok acct => .ok (some acct)
  else .ok none

/-- The handler of the server: the one for tests, or that of a user configuration. -/
inductive Chosen (α : Type) where
  | test
  | configured (backends : AaaBackends) (handler : CompositeHandler (Parts α))

/-- What the constructors of the parts depend on. -/
structure Outside (α : Type) where
  compile : RegexpCompile
  bcrypt : Bcrypt
  fmt : Sprintf
  parse : GoString → Except Message GoString
  world : World requests α
  accounters : Accounters α

/-- The authenticator of `--auth-backend`, unless that is `local`. -/
def chooseAuthenticator (env : Outside α) (f : HandlerFlags) :
    Except RunError (Option (Authenticator α)) :=
  if f.backend.authBackend = lit "local" then .ok none
  else
    match buildAuthenticator env.parse f.backend with
    | .error err => .error (.authBackend err)
    | .ok external => .ok (some (external.authenticate env.fmt env.world))

/-- The first two parts of `runServer`. -/
def chooseHandler (env : Outside α) (f : HandlerFlags)
    (file : Except GoError (Document σ κ κ')) : Except RunError (Chosen α) :=
  if f.config = [] then .ok .test
  else
    match loadUserConfig (usersFile file) with
    | .error err =>
        match Yang.load (treeFile file) with
        | .error _ => .error (.loadConfig err)
        | .ok _ => .ok .test
    | .ok uc => do
        let backends ← (startBackends env.compile uc).mapError .start
        let external ← chooseAuthenticator env f
        let acct ← buildAccounter f env.accounters
        return .configured backends (configHandler env.bcrypt external acct)

end Cli
end Tacacs
