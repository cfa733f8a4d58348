import Tacacs.Server.UserConfig

/-!
# `cmd/tacacs-cli/aaa/` — the authenticator and the authorizer of the command-line server

Both are thin copies of what `ConfigHandler` does, over their own state: the authenticator over
a user store, the authorizer over one list of rules. `Reload` replaces the state under the lock,
and each `Authenticate` and `Authorize` reads one snapshot.
-/

set_option autoImplicit false

namespace Tacacs
namespace Cli

open GoSem Server

/-! ## `BcryptAuthenticator` -/

structure BcryptAuthenticator where
  store : UserStore
  allowPlain : Bool

def newBcryptAuthenticator (cfg : Option UserConfig) : BcryptAuthenticator :=
  let cfg := cfg.getD {}
  { store := newMemoryUserStore cfg.users, allowPlain := cfg.allowPlaintext }

def BcryptAuthenticator.reload (_a : BcryptAuthenticator) (cfg : Option UserConfig) :
    BcryptAuthenticator :=
  let cfg := cfg.getD {}
  { store := newMemoryUserStore cfg.users, allowPlain := cfg.allowPlaintext }

/-- `aaa.authTypeMatches` is a copy of `server.authTypeMatches`. -/
def BcryptAuthenticator.authenticate (bcrypt : Bcrypt) (a : BcryptAuthenticator)
    (ac : AuthenContext) (cont : Option AuthenContinue) : Except GoError AuthenDecision :=
  .ok (authenticateWith bcrypt a.store a.allowPlain (lit "invalid credentials") ac cont)

/-! ## `CommandAuthorizer` -/

structure CommandAuthorizer where
  rules : List CommandRule

def newCommandAuthorizer (compile : RegexpCompile) (rules : List CommandRule) :
    Except GoError CommandAuthorizer :=
  match compileRules compile 0 rules with
  | .error (i, msg) =>
      let pattern := ((rules[i]?).map CommandRule.pattern).getD []
      .error (.other ([.text "compile rule ", .int i, .text " pattern ", .quoted pattern,
        .text ": "] ++ msg))
  | .ok rules => .ok { rules }

/-- `Reload` compiles before it swaps. -/
def CommandAuthorizer.reload (compile : RegexpCompile) (a : CommandAuthorizer)
    (rules : List CommandRule) : CommandAuthorizer × Option GoError :=
  match compileRules compile 0 rules with
  | .error (i, msg) =>
      let pattern := ((rules[i]?).map CommandRule.pattern).getD []
      (a, some (.other ([.text "compile rule ", .int i, .text " pattern ", .quoted pattern,
        .text ": "] ++ msg)))
  | .ok rules => ({ a with rules }, none)

/-- The rule loop of `Authorize`, written out again in the source with its own default. -/
def authorizeRules (cmd : GoString) (args : List Argument) : List CommandRule → AuthorDecision
  | [] => { status := authorStatusFail, serverMsg := lit "no matching rule" }
  | r :: rs =>
      if !r.matches cmd args then authorizeRules cmd args rs
      else if r.action = actionDeny then
        { status := authorStatusFail, serverMsg := lit "command denied by policy" }
      else
        let status := if r.passRepl then authorStatusPassRepl else authorStatusPassAdd
        { status, args := r.setValues }

def CommandAuthorizer.authorize (a : CommandAuthorizer) (ac : AuthorContext) :
    Except GoError AuthorDecision :=
  .ok (authorizeRules (extractCmd ac.args) ac.args a.rules)

end Cli
end Tacacs
