import Tacacs.Server.Group

/-!
# `server/userconfig.go` — the handler driven by a user configuration

The handler keeps two views of one configuration: `store`, the users as they are written, and
`resolved`, the users with their groups merged in. `Authenticate` reads the first,
`Authorize` the second.
-/

set_option autoImplicit false

namespace Tacacs
namespace Server

open GoSem

/-! ## Loading -/

/-- What `viper` finds at a path: a file it cannot read or parse, one that does not decode, or
    one that decodes to a configuration. -/
inductive ConfigFile where
  | unreadable (err : GoError)
  | undecodable (err : GoError)
  | decoded (cfg : UserConfig)

/-- The loop of `Validate`; `seen` are the names so far. -/
def validateUsers (allowPlaintext : Bool) (i : Nat) (seen : List GoString) :
    List User → Except GoError Unit
  | [] => .ok ()
  | u :: us =>
      if u.username = [] then
        .error (invalidArgument "users" [.text "entry ", .int i, .text " missing username"])
      else if u.passwordHash = [] then
        .error (invalidArgument "users" [.text "user ", .quoted u.username,
          .text " has empty password (disabled)"])
      else if u.username ∈ seen then
        .error (invalidArgument "users" [.text "duplicate username ", .quoted u.username])
      else if u.passwordHash ≠ [] ∧ hasPrefix u.passwordHash (lit "$2") = false ∧
          allowPlaintext = false then
        .error (invalidArgument "users" [.text "user ", .quoted u.username,
          .text " has a plaintext password; set allow-plaintext for development"])
      else validateUsers allowPlaintext (i + 1) (u.username :: seen) us

def UserConfig.validate (c : UserConfig) : Except GoError Unit :=
  validateUsers c.allowPlaintext 0 [] c.users

/-- `LoadUserConfig`, with `decodeUserConfig`. -/
def loadUserConfig : ConfigFile → Except GoError UserConfig
  | .unreadable err => .error err
  | .undecodable err => .error (.validation "user-config" [.text "failed to decode"] err)
  | .decoded cfg => do
      cfg.validate
      return cfg

/-! ## The handler -/

structure ConfigHandler where
  store : UserStore
  cfg : UserConfig
  resolved : Resolved

/-- `NewConfigHandler`; `none` is a nil config. -/
def newConfigHandler (compile : RegexpCompile) (cfg : Option UserConfig) :
    Except GoError ConfigHandler := do
  let cfg := cfg.getD {}
  let resolved ← cfg.resolve compile
  return { store := newMemoryUserStore cfg.users, cfg, resolved }

def authTypeMatches (configured : GoString) (t : AuthenType) : Bool :=
  let configured := toLower configured
  if configured = lit "ascii" then t == authenTypeASCII
  else if configured = lit "pap" then t == authenTypePAP
  else if configured = lit "chap" then t == authenTypeCHAP
  else if configured = lit "mschap" then t == authenTypeMSCHAP
  else if configured = lit "mschapv2" then t == authenTypeMSCHAPv2
  else if configured = [] ∨ configured = lit "any" then true
  else false

/-- The body that `ConfigHandler.Authenticate` and `BcryptAuthenticator.Authenticate` share.
    The two differ in what they tell an unknown user. -/
def authenticateWith (bcrypt : Bcrypt) (store : UserStore) (allowPlaintext : Bool)
    (unknownUser : GoString) (ac : AuthenContext) (cont : Option AuthenContinue) :
    AuthenDecision :=
  match store.lookup ac.start.user with
  | none => { status := authenStatusFail, serverMsg := unknownUser }
  | some user =>
      if user.authType ≠ [] ∧ authTypeMatches user.authType ac.start.type = false then
        { status := authenStatusFail, serverMsg := lit "auth type not allowed for user" }
      else
        let verify (password : GoString) : AuthenDecision :=
          if user.verifyPassword bcrypt password user.passwordHash allowPlaintext then
            { status := authenStatusPass }
          else { status := authenStatusFail, serverMsg := lit "invalid credentials" }
        match cont with
        | none =>
            if ac.start.type = authenTypePAP then verify ac.start.data
            else { status := authenStatusGetPass, serverMsg := lit "Password:" }
        | some cont => verify cont.userMsg

namespace ConfigHandler

def authenticate (bcrypt : Bcrypt) (h : ConfigHandler) (ac : AuthenContext)
    (cont : Option AuthenContinue) : Except GoError AuthenDecision :=
  .ok (authenticateWith bcrypt h.store h.cfg.allowPlaintext (lit "unknown user") ac cont)

def authorize (h : ConfigHandler) (ac : AuthorContext) : Except GoError AuthorDecision :=
  match h.resolved.lookup ac.user with
  | none => .ok { status := authorStatusFail }
  | some ru =>
      let cmd := extractCmd ac.args
      if cmd = [] then
        match matchService ru.services ac.args with
        | some dec => .ok dec
        | none => .ok { status := authorStatusPassAdd }
      else
        -- `matchCommand` of an empty list is no match, so the length test needs no branch
        match matchCommand ru.commands cmd ac.args with
        | some dec => .ok dec
        | none =>
            if h.cfg.policy.allows cmd then .ok { status := authorStatusPassAdd }
            else .ok { status := authorStatusFail, serverMsg := lit "command not authorized" }

def account (_h : ConfigHandler) (_ac : AcctContext) : Except GoError AcctDecision :=
  .ok { status := acctStatusSuccess }

/-- A `ConfigHandler` as a `Handler`. -/
def handler (bcrypt : Bcrypt) (h : ConfigHandler) : Handler Unit :=
  handlerFunc (h.authenticate bcrypt) h.authorize h.account

end ConfigHandler

end Server
end Tacacs
