import Tacacs.Cli.Aaa
import Tacacs.Server.Serve

/-!
# `cmd/tacacs-cli/server.go` — the command-line server

How a user configuration becomes the one list of rules the command authorizer works with, and
the accept loop: a socket is accepted or turned away, served in a goroutine of its own, and
forgotten.

Three things are kept of a socket, and each is given up at a place of its own: a slot of the
semaphore, an entry of the tracker, and the socket itself. The goroutine gives up the first two
in its deferred calls, which run in the reverse of the order they are written in.
-/

set_option autoImplicit false

namespace Tacacs
namespace Cli

open GoSem Server Transport

/-! ## From a user configuration to rules -/

/-- The characters `regexp.QuoteMeta` escapes. -/
def specialBytes : Bytes := lit "\\.+*?()|[]\x7b\x7d^$"

def quoteByte (c : UInt8) : Bytes := if c ∈ specialBytes then [0x5c, c] else [c]

/-- `regexp.QuoteMeta`. -/
def quoteMeta (s : GoString) : GoString := s.flatMap quoteByte

def globToRegex (glob : GoString) : GoString :=
  if hasSuffix glob (lit " *") then lit "^" ++ quoteMeta glob.dropLast ++ lit ".*$"
  else lit "^" ++ quoteMeta glob ++ lit "$"

def globRule (action : CommandAction) (pat : GoString) : CommandRule :=
  { action, pattern := globToRegex pat }

/-- The last two loops of `userConfigToRules`: denials first. -/
def policyRules (p : Policy) : List CommandRule :=
  p.denyCommands.map (globRule actionDeny) ++ p.allowCommands.map (globRule actionPermit)

def userConfigToRules (compile : RegexpCompile) (uc : UserConfig) :
    Except GoError (List CommandRule) := do
  let resolved ← uc.resolve compile
  let structured := uc.users.flatMap fun u =>
    match resolved.lookup u.username with
    | none => []
    | some ru => ru.commands
  return structured ++ policyRules uc.policy

/-! ## Start-up and hot reload -/

/-- `aaaBackends`. -/
structure AaaBackends where
  auth : BcryptAuthenticator
  az : CommandAuthorizer

/-- Why `runServer` gives up on a configuration it has loaded, with the error it wraps. -/
inductive StartError where
  | resolveConfig (err : GoError)
  | compileAuthorizerRules (err : GoError)

/-- The part of `runServer` that builds the backends from the start-up configuration. -/
def startBackends (compile : RegexpCompile) (uc : UserConfig) : Except StartError AaaBackends :=
  match userConfigToRules compile uc with
  | .error err => .error (.resolveConfig err)
  | .ok rules =>
      let auth := newBcryptAuthenticator (some uc)
      match newCommandAuthorizer compile rules with
      | .error err => .error (.compileAuthorizerRules err)
      | .ok az => .ok { auth, az }

/-- The callback that `runServer` hands to `WatchFile`. It is called once at first and then
    after each change of the file, one call at a time. -/
def watchCallback (compile : RegexpCompile) (authBackend : GoString) (backends : AaaBackends)
    (file : ConfigFile) : AaaBackends × Option GoError :=
  match loadUserConfig file with
  | .error err => (backends, some err)
  | .ok uc =>
      match userConfigToRules compile uc with
      | .error err => (backends, some err)
      | .ok rules =>
          match backends.az.reload compile rules with
          | (az, some err) => ({ backends with az }, some err)
          | (az, none) =>
              let backends := { backends with az }
              if authBackend = lit "local" then
                ({ backends with auth := backends.auth.reload (some uc) }, none)
              else (backends, none)

/-! ## The accept loop -/

/-- The flags of the command that the loop reads. -/
structure Options where
  maxConns : Int := 4096
  mode : Mode
  secret : Bytes

/-- The capacity of `sem`; a nil channel, for a `maxConns` that is not positive, has none. -/
def Options.semCap (o : Options) : Option Nat :=
  if o.maxConns > 0 then some o.maxConns.toNat else none

/-- Where the goroutine of a socket stands: in `ServeConn`, about to run its deferred calls,
    between the two, or at its end. A socket that was turned away has none. -/
inductive Phase where
  | serving
  | returned
  | released
  | finished
  | rejected
deriving DecidableEq, Repr

/-- A socket that `ln.Accept` returned. -/
structure Accepted where
  conn : Conn
  input : Bytes
  loop : Loop := .first
  phase : Phase := .serving
  tracked : Bool := true
  closed : Bool := false

/-- The loop and its goroutines; `sem` is the number of elements in the channel. -/
structure Listener (σ : Type) where
  st : State σ
  sockets : List Accepted := []
  sem : Nat := 0
  listening : Bool := true
  cancelled : Bool := false

inductive LoopAct where
  /-- `ln.Accept` returns a socket, whose peer will send `input`. -/
  | accept (remote : GoString) (input : Bytes)
  /-- `ln.Accept` fails for the moment. -/
  | acceptError
  /-- `ln.Accept` fails for good. -/
  | listenerClosed
  /-- A turn of `ServeConn` on a socket. -/
  | serve (i : Nat) (e : Env)
  /-- `<-sem`, the deferred call that runs first. -/
  | release (i : Nat)
  /-- `tracker.remove(conn)`, the deferred call that runs last. -/
  | untrack (i : Nat)
  /-- `connCancel` and `tracker.closeAll`, when draining takes too long. -/
  | drainTimeout
  | sweep (now : Int)

def closedConnError : GoError := .other [.text "use of closed network connection"]
def canceledError : GoError := .other [.text "context canceled"]

section Loop

variable {σ : Type}

/-- What a turn meets: the context is cancelled at the drain timeout only, and nothing can be
    read from a closed socket. -/
def Listener.env (l : Listener σ) (a : Accepted) (e : Env) : Env :=
  { e with ctxErr := if l.cancelled then some canceledError else none,
           readErr := if a.closed then some closedConnError else e.readErr }

def Listener.accept (o : Options) (l : Listener σ) (remote : GoString) (input : Bytes) :
    Listener σ :=
  let conn : Conn := { mode := o.mode, secret := o.secret, remoteAddr := remote }
  match o.semCap with
  | none => { l with sockets := l.sockets ++ [{ conn, input }] }
  | some n =>
      if l.sem < n then { l with sockets := l.sockets ++ [{ conn, input }], sem := l.sem + 1 }
      else { l with sockets := l.sockets ++
               [{ conn, input, phase := .rejected, tracked := false, closed := true }] }

/-- `ServeConn` has returned when its loop has. -/
def Loop.phase : Loop → Phase
  | .returned _ => .returned
  | _ => .serving

def Listener.serve (s : Server σ) (md5 : Crypto.Md5) (l : Listener σ) (i : Nat) (e : Env) :
    Listener σ :=
  match l.sockets[i]? with
  | none => l
  | some a =>
      if a.phase = .serving then
        let r := serveIteration s md5 a.conn (l.env a e) l.st a.loop a.input
        { l with st := r.st,
                 sockets := l.sockets.set i
                   { a with input := r.input, loop := r.loop, phase := Loop.phase r.loop } }
      else l

def Listener.release (o : Options) (l : Listener σ) (i : Nat) : Listener σ :=
  match l.sockets[i]? with
  | none => l
  | some a =>
      if o.semCap.isSome ∧ a.phase = .returned then
        { l with sockets := l.sockets.set i { a with phase := .released }, sem := l.sem - 1 }
      else l

/-- Without a semaphore, `tracker.remove` is the only deferred call. -/
def Listener.untrack (o : Options) (l : Listener σ) (i : Nat) : Listener σ :=
  match l.sockets[i]? with
  | none => l
  | some a =>
      if a.phase = (if o.semCap.isSome then .released else .returned) then
        { l with sockets := l.sockets.set i { a with phase := .finished, tracked := false } }
      else l

/-- `tracker.closeAll` closes what is tracked. -/
def Accepted.forceClose (a : Accepted) : Accepted :=
  if a.tracked then { a with closed := true } else a

def Listener.step (s : Server σ) (md5 : Crypto.Md5) (o : Options) (l : Listener σ) :
    LoopAct → Listener σ × Unit
  | .accept remote input => (if l.listening then l.accept o remote input else l, ())
  | .acceptError => (l, ())
  | .listenerClosed => ({ l with listening := false }, ())
  | .serve i e => (l.serve s md5 i e, ())
  | .release i => (l.release o i, ())
  | .untrack i => (l.untrack o i, ())
  | .drainTimeout =>
      (if l.listening then l
       else { l with sockets := l.sockets.map Accepted.forceClose, cancelled := true }, ())
  | .sweep now => ({ l with st := { l.st with sessions := l.st.sessions.sweepExpired now } }, ())

end Loop

end Cli
end Tacacs
