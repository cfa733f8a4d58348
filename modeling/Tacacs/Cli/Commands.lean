import Tacacs.Client
import Tacacs.Names
import Tacacs.Server.Users

/-!
# `cmd/tacacs-cli/auth.go`, `authz.go`, `acct.go` — the commands of the client

A command checks its flags, dials, makes one request and prints what came back. Its exit status
is 0 if and only if the answer was a yes: everything else ends in `os.Exit(1)`, in `printResult`
or in `main`. The fields of a result are in a Go map, so their order means nothing.
-/

set_option autoImplicit false

namespace Tacacs
namespace Cli

open GoSem GoText Client Protocol

inductive Shown where
  | text (s : GoString)
  | number (n : Nat)
  | texts (ss : List GoString)
deriving DecidableEq, Repr

/-- How a command ends: with the arguments of `printResult`, or with an error that it returns, as
    it is or after some text of its own. -/
inductive Ending where
  | printed (result : List (String × Shown)) (ok : Bool)
  | failed (what : String) (err : Fault GoError)
deriving DecidableEq, Repr

/-- A panic that nothing recovers from ends a Go program with status 2. -/
def Ending.exitCode : Ending → Nat
  | .printed _ true => 0
  | .printed _ false => 1
  | .failed _ (.err _) => 1
  | .failed _ .panic => 2

/-- A connection and the client on it, from `dialTACACS` and `client.New`. -/
structure Dialed (ν : Type) where
  link : Link ν
  sess : Session
  outside : ν

def usernameRequired : Ending := .failed "" (.err (.other [.text "--username is required"]))

def portName : GoString := lit "tacacs-cli"

section Commands

variable {ν : Type}

/-! ## `auth` -/

def parseAuthenType (s : GoString) : Except GoError AuthenType :=
  if s = lit "ascii" then .ok authenTypeASCII
  else if s = lit "pap" then .ok authenTypePAP
  else if s = lit "chap" then .ok authenTypeCHAP
  else if s = lit "mschap" then .ok authenTypeMSCHAP
  else if s = lit "mschapv2" then .ok authenTypeMSCHAPv2
  else .error (.other [.text "unknown authentication type ", .quoted s])

structure AuthFlags where
  username : GoString
  password : GoString := []
  type : GoString

/-- The request; its privilege level is not set. -/
def authRequest (f : AuthFlags) (type : AuthenType) : AuthenRequest where
  action := 0x01
  privLvl := 0x00
  type := type
  service := 0x01
  user := f.username
  port := portName
  remAddr := []
  data := f.password

/-- The user is asked on the terminal for an ASCII login without `--password` only. -/
def authContFn (f : AuthFlags) (type : AuthenType) (terminal : ContFn ν) : Option (ContFn ν) :=
  if type = authenTypeASCII ∧ f.password = [] then some terminal else none

def authEnding (o : Outcome AuthenReply ν) : Ending :=
  match o.err with
  | some err => .failed "authentication failed: " err
  | none =>
      .printed [("status", .text (AuthenStatus.string o.value.status)),
        ("statusCode", .number o.value.status.toNat), ("serverMsg", .text o.value.serverMsg),
        ("flags", .number o.value.flags.toNat)] (o.value.status = authenStatusPass)

def runAuth (f : AuthFlags) (dial : Except GoError (Dialed ν)) (terminal : ContFn ν) : Ending :=
  if f.username = [] then usernameRequired
  else
    match parseAuthenType f.type with
    | .error err => .failed "" (.err err)
    | .ok type =>
        match dial with
        | .error err => .failed "" (.err err)
        | .ok c =>
            authEnding (authenticate c.link (authContFn f type terminal) (authRequest f type)
              c.sess c.outside)

/-! ## `authz` -/

structure AuthzFlags where
  username : GoString
  service : GoString := lit "shell"
  cmd : GoString := []

def authzRequest (f : AuthzFlags) : AuthorRequest where
  method := 0x06
  privLvl := 0x01
  type := authenTypeASCII
  service := 0x01
  user := f.username
  port := portName
  remAddr := []
  args := ⟨true, lit "service", f.service⟩ ::
    if f.cmd = [] then [] else [⟨true, lit "cmd", f.cmd⟩]

def authzEnding (o : Outcome AuthorResult ν) : Ending :=
  match o.err with
  | some err => .failed "authorization failed: " err
  | none =>
      .printed [("status", .text (AuthorStatus.string o.value.status)),
        ("statusCode", .number o.value.status.toNat), ("serverMsg", .text o.value.serverMsg),
        ("args", .texts (o.value.args.map Argument.string))]
        (o.value.status = authorStatusPassAdd ∨ o.value.status = authorStatusPassRepl)

def runAuthz (f : AuthzFlags) (dial : Except GoError (Dialed ν)) : Ending :=
  if f.username = [] then usernameRequired
  else
    match dial with
    | .error err => .failed "" (.err err)
    | .ok c => authzEnding (authorize c.link (authzRequest f) c.sess c.outside)

/-! ## `acct` -/

def parseAcctFlags (action : GoString) : Except GoError AcctFlags :=
  if action = lit "start" then .ok acctFlagStart
  else if action = lit "stop" then .ok acctFlagStop
  else if action = lit "watchdog" then .ok acctFlagWatchdog
  else .error (.other [.text "unknown accounting action ", .quoted action])

structure AcctCmdFlags where
  username : GoString
  action : GoString := lit "start"

/-- `randomTaskID`, from the eight bytes it reads. -/
def randomTaskID (b : Bytes) : GoString :=
  b.flatMap fun x => [hexDigit (x.toNat / 16), hexDigit (x.toNat % 16)]

def acctRequest (f : AcctCmdFlags) (flags : AcctFlags) (taskID : GoString) : AcctRequest where
  flags := flags
  method := 0x06
  privLvl := 0x01
  type := authenTypeASCII
  service := 0x01
  user := f.username
  port := portName
  remAddr := []
  args := [⟨true, lit "task_id", taskID⟩, ⟨true, lit "service", lit "shell"⟩]

def acctEnding (taskID : GoString) (o : Outcome AcctResult ν) : Ending :=
  match o.err with
  | some err => .failed "accounting failed: " err
  | none =>
      .printed [("status", .text (AcctStatus.string o.value.status)),
        ("statusCode", .number o.value.status.toNat), ("serverMsg", .text o.value.serverMsg),
        ("task_id", .text taskID)] (o.value.status = acctStatusSuccess)

def runAcct (f : AcctCmdFlags) (random : Bytes) (dial : Except GoError (Dialed ν)) : Ending :=
  if f.username = [] then usernameRequired
  else
    match parseAcctFlags f.action with
    | .error err => .failed "" (.err err)
    | .ok flags =>
        let taskID := randomTaskID random
        match dial with
        | .error err => .failed "" (.err err)
        | .ok c =>
            acctEnding taskID (account c.link (acctRequest f flags taskID) c.sess c.outside)

end Commands

/-! ## The test server -/

section Static

open Server (AuthenContext AuthenContinue AuthenDecision AuthorContext AuthorDecision AcctContext
  AcctDecision Handler handlerFunc hasPrefix)

/-- The table of `staticHandler`, which the server uses without `--config`. -/
def staticUsers : List (GoString × GoString) := [(lit "admin", lit "admin123")]

def staticAuthenticate (ac : AuthenContext) (cont : Option AuthenContinue) :
    Except GoError AuthenDecision :=
  match staticUsers.lookup ac.start.user with
  | none => .ok { status := authenStatusFail, serverMsg := lit "unknown user" }
  | some pw =>
      let check (given : GoString) : AuthenDecision :=
        if given = pw then { status := authenStatusPass }
        else { status := authenStatusFail, serverMsg := lit "bad password" }
      match cont with
      | none =>
          if ac.start.type = authenTypePAP then .ok (check ac.start.data)
          else .ok { status := authenStatusGetPass, serverMsg := lit "Password:" }
      | some cont => .ok (check cont.userMsg)

/-- Commands that begin with `show` are allowed. -/
def staticAuthorize (ac : AuthorContext) : Except GoError AuthorDecision :=
  if ac.args.any fun a => a.name = lit "cmd" && hasPrefix a.value (lit "show") then
    .ok { status := authorStatusPassAdd }
  else .ok { status := authorStatusFail }

def staticAccount (_ac : AcctContext) : Except GoError AcctDecision :=
  .ok { status := acctStatusSuccess }

def staticHandler : Handler Unit :=
  handlerFunc staticAuthenticate staticAuthorize staticAccount

end Static

end Cli
end Tacacs
