import Tacacs.Lib.Text
import Tacacs.Types

/-!
# `types/avp.go`, `types/avp_juniper.go` — numbered attributes

An attribute that may be repeated carries a number in its name: behind a `#`, or without anything
between the two. What would make the number ambiguous is refused.
-/

set_option autoImplicit false

namespace Tacacs

open GoSem GoText

abbrev ArgName := GoString

def newIndexedArg (name : ArgName) (n : Int) (value : GoString) (mandatory : Bool) :
    Except GoError Argument :=
  if n ≤ 0 then .error (validationError "arg_index" "must be > 0" .invalidArgument)
  else if name.contains 0x23 then
    .error (validationError "arg_name" "already indexed" .invalidArgument)
  else .ok { mandatory, name := name ++ [0x23] ++ decimalInt n, value }

def newJuniperNumberedArg (name : ArgName) (n : Int) (value : GoString) (mandatory : Bool) :
    Except GoError Argument :=
  if n ≤ 0 then .error (validationError "arg_index" "must be > 0" .invalidArgument)
  else if name.getLast?.any isDigit then
    .error (validationError "arg_name" "ends in digit, index ambiguous" .invalidArgument)
  else .ok { mandatory, name := name ++ decimalInt n, value }

/-! ## The attributes that Junos repeats -/

def argNameAllowCommands : ArgName := lit "allow-commands"
def argNameDenyCommands : ArgName := lit "deny-commands"
def argNameAllowConfiguration : ArgName := lit "allow-configuration"
def argNameDenyConfiguration : ArgName := lit "deny-configuration"
def argNameUserPermissions : ArgName := lit "user-permissions"

def allowCommandsNumberedArg : Int → GoString → Bool → Except GoError Argument :=
  newJuniperNumberedArg argNameAllowCommands

def denyCommandsNumberedArg : Int → GoString → Bool → Except GoError Argument :=
  newJuniperNumberedArg argNameDenyCommands

def allowConfigurationNumberedArg : Int → GoString → Bool → Except GoError Argument :=
  newJuniperNumberedArg argNameAllowConfiguration

def denyConfigurationNumberedArg : Int → GoString → Bool → Except GoError Argument :=
  newJuniperNumberedArg argNameDenyConfiguration

def userPermissionsNumberedArg : Int → GoString → Bool → Except GoError Argument :=
  newJuniperNumberedArg argNameUserPermissions

end Tacacs
