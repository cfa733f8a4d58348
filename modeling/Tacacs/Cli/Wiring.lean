import Tacacs.Cli.Composite
import Tacacs.Cli.Server
import Tacacs.Yang.Watch

/-!
# `cmd/tacacs-cli/server.go` — what the server of a user configuration is made of

`runServer` makes one handler of an authenticator, an authorizer and perhaps an accounter, and
hands the callback that reloads the first two to `WatchFile`. The goroutine of the watcher and
those of the connections then work on the same two backends, each of which is read and replaced
under a lock of its own.
-/

set_option autoImplicit false

namespace Tacacs
namespace Cli

open GoSem Yang
open Server (State Bcrypt RegexpCompile ConfigFile)

variable {α : Type}

/-- What the parts of the handler work on; `rest` is what an external authenticator and the
    accounter do. -/
structure Parts (α : Type) where
  backends : AaaBackends
  rest : α

def Parts.withRest {β : Type} (w : Parts α) (r : β × α) : β × Parts α :=
  (r.1, { w with rest := r.2 })

/-- What `Authenticate` and `Authorize` of the two backends return: their errors are always nil. -/
def returned {β : Type} (zero : β) : Except GoError β → Returns β
  | .error err => (zero, some err)
  | .ok b => (b, none)

/-- The handler for a user configuration. `external` is the authenticator of `--auth-backend`,
    unless that is `local`. -/
def configHandler (bcrypt : Bcrypt) (external : Option (Authenticator α))
    (acct : Option (Accounter α)) : CompositeHandler (Parts α) where
  auth := some fun ac cont w =>
    match external with
    | none => (returned { status := 0 } (w.backends.auth.authenticate bcrypt ac cont), w)
    | some authn => w.withRest (authn ac cont w.rest)
  az := some fun ac w => (returned { status := 0 } (w.backends.az.authorize ac), w)
  ac := acct.map fun account ac w => w.withRest (account ac w.rest)

/-- The callback, on the state of the running server. -/
def reload (compile : RegexpCompile) (authBackend : GoString) (st : State (Parts α))
    (file : ConfigFile) : State (Parts α) × Option GoError :=
  let (backends, err) := watchCallback compile authBackend st.handler.backends file
  ({ st with handler := { st.handler with backends } }, err)

end Cli
end Tacacs
