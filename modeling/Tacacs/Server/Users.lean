import Tacacs.Server.Handler

/-!
# `server/users.go` — accounts, passwords and the flat command policy

Bcrypt is a parameter: a relation between a stored hash and a password.
-/

set_option autoImplicit false

namespace Tacacs
namespace Server

open GoSem

/-! ## Strings -/

/-- `strings.HasPrefix(s, pre)`. -/
def hasPrefix (s pre : GoString) : Bool := pre.isPrefixOf s

/-- `strings.HasSuffix(s, suf)`. -/
def hasSuffix (s suf : GoString) : Bool := suf.isSuffixOf s

def lowerASCII (c : UInt8) : UInt8 := if 0x41 ≤ c ∧ c ≤ 0x5a then c + 0x20 else c

/-- `strings.EqualFold(s, t)` for a `t` of ASCII letters that have no other case variants. -/
def equalFold (s t : GoString) : Bool := s.map lowerASCII == t.map lowerASCII

/-- `strings.ToLower`, as far as comparing the result with an ASCII keyword can tell. Besides
    A–Z one letter has a lower case that keywords contain: U+0130 becomes `i`. -/
def toLower : GoString → GoString
  | [] => []
  | [c] => [lowerASCII c]
  | c :: d :: rest =>
      if c = 0xc4 ∧ d = 0xb0 then 0x69 :: toLower rest else lowerASCII c :: toLower (d :: rest)

/-! ## Command rules

`CommandRule` is declared in `group.go`; a `User` holds some. -/

/-- A compiled pattern: what `MatchString` answers. -/
structure Regexp where
  matchString : GoString → Bool

/-- `CommandAction` is a string, and nothing restricts it to the two constants. -/
abbrev CommandAction := GoString

def actionPermit : CommandAction := lit "permit"
def actionDeny : CommandAction := lit "deny"

structure CommandRule where
  action : CommandAction
  pattern : GoString := []
  «match» : List Argument := []
  setValues : List Argument := []
  passRepl : Bool := false
  re : Option Regexp := none

/-! ## Users -/

structure User where
  username : GoString
  passwordHash : GoString
  authType : GoString := []
  groups : List GoString := []
  services : List GoString := []
  commands : List CommandRule := []

/-- `bcrypt.CompareHashAndPassword(hash, password) == nil`. -/
structure Bcrypt where
  compareHashAndPassword : Bytes → Bytes → Bool

def User.verifyPassword (bcrypt : Bcrypt) (_u : User) (password hash : GoString)
    (allowPlaintext : Bool) : Bool :=
  if hash = [] then false
  else if hasPrefix hash (lit "$2") then bcrypt.compareHashAndPassword hash password
  else if allowPlaintext then password == hash
  else false

/-- `memoryUserStore`. -/
abbrev UserStore := AList fun _ : GoString => User

/-- `NewMemoryUserStore`: of two entries with one name the later one stays. -/
def newMemoryUserStore (users : List User) : UserStore :=
  users.foldl (fun m u => m.insert u.username u) ∅

/-! ## The flat policy -/

structure Policy where
  allowCommands : List GoString := []
  denyCommands : List GoString := []

/-- `matchCmd`: exact, or a trailing `" *"` matched as a prefix that keeps the blank. -/
def matchCmd (pattern cmd : GoString) : Bool :=
  if pattern = cmd then true
  else if hasSuffix pattern (lit " *") then hasPrefix cmd pattern.dropLast
  else false

def Policy.allows (p : Policy) (cmd : GoString) : Bool :=
  if p.denyCommands.any fun pat => matchCmd pat cmd then false
  else p.allowCommands.any fun pat => matchCmd pat cmd

end Server
end Tacacs
