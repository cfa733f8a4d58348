import Tacacs.Errors

/-!
# `types/` — the constants and small types of the protocol

The one-byte types of the header and of the bodies (`AuthenAction`, `AuthenStatus`, …) are
named bytes in the source, and stay bytes here: a peer may send any of the 256 values and the
codecs carry them all. The named values are constants beside each type.
-/

set_option autoImplicit false

namespace Tacacs

open GoSem

/-! ## Sizes and versions -/

def headerLength : Nat := 12
def maxPacketSize : Nat := 65536

abbrev Version := UInt8

def majorVersion : UInt8 := 0x0c
def minorVersionNone : UInt8 := 0x00
def minorVersionOne : UInt8 := 0x01
def versionDefault : Version := 0xc0
def versionOne : Version := 0xc1

def Version.valid (v : Version) : Bool := v == versionDefault || v == versionOne

/-! ## Packet types and header flags -/

abbrev PacketType := UInt8

def packetAuthentication : PacketType := 0x01
def packetAuthorization : PacketType := 0x02
def packetAccounting : PacketType := 0x03

abbrev HeaderFlags := UInt8

def flagUnencrypted : HeaderFlags := 0x01
def flagSingleConnect : HeaderFlags := 0x04

def HeaderFlags.has (f flag : HeaderFlags) : Bool := f &&& flag == flag

/-! ## Authentication -/

abbrev AuthenAction := UInt8
abbrev PrivLevel := UInt8
abbrev AuthenService := UInt8
abbrev AuthenType := UInt8

def authenTypeASCII : AuthenType := 0x01
def authenTypePAP : AuthenType := 0x02
def authenTypeCHAP : AuthenType := 0x03
def authenTypeMSCHAP : AuthenType := 0x05
def authenTypeMSCHAPv2 : AuthenType := 0x06

/-- `MinorVersionFor`: the challenge types use minor version 1, everything else 0. -/
def minorVersionFor (t : AuthenType) : UInt8 :=
  if t = authenTypePAP ∨ t = authenTypeCHAP ∨ t = authenTypeMSCHAP ∨ t = authenTypeMSCHAPv2
  then minorVersionOne else minorVersionNone

abbrev AuthenStatus := UInt8

def authenStatusPass : AuthenStatus := 0x01
def authenStatusFail : AuthenStatus := 0x02
def authenStatusGetData : AuthenStatus := 0x03
def authenStatusGetUser : AuthenStatus := 0x04
def authenStatusGetPass : AuthenStatus := 0x05
def authenStatusRestart : AuthenStatus := 0x06
def authenStatusError : AuthenStatus := 0x07
def authenStatusFollow : AuthenStatus := 0x21

/-- The flag of a CONTINUE by which a client aborts the session. Nothing in the server reads
    it. -/
def continueFlagAbort : UInt8 := 0x01

/-! ## Authorization and accounting -/

abbrev AuthenMethod := UInt8
abbrev AuthorStatus := UInt8

def authorStatusPassAdd : AuthorStatus := 0x01
def authorStatusPassRepl : AuthorStatus := 0x02
def authorStatusFail : AuthorStatus := 0x10
def authorStatusError : AuthorStatus := 0x11
def authorStatusFollow : AuthorStatus := 0x21

abbrev AcctFlags := UInt8

def acctFlagStart : AcctFlags := 0x02
def acctFlagStop : AcctFlags := 0x04
def acctFlagWatchdog : AcctFlags := 0x08
def acctFlagMask : AcctFlags := 0x0e

inductive AcctRecord where
  | invalid | start | stop | watchdogNoUpdate | watchdogWithUpdate
deriving DecidableEq, Repr

def AcctFlags.record (f : AcctFlags) : AcctRecord :=
  let m := f &&& acctFlagMask
  if m = acctFlagStart then .start
  else if m = acctFlagStop then .stop
  else if m = acctFlagWatchdog then .watchdogNoUpdate
  else if m = acctFlagWatchdog ||| acctFlagStart then .watchdogWithUpdate
  else .invalid

abbrev AcctStatus := UInt8

def acctStatusSuccess : AcctStatus := 0x01
def acctStatusError : AcctStatus := 0x02
def acctStatusFollow : AcctStatus := 0x21

/-! ## Argument-value pairs -/

def argSeparatorMandatory : UInt8 := 0x3d
def argSeparatorOptional : UInt8 := 0x2a

structure Argument where
  mandatory : Bool
  name : GoString
  value : GoString
deriving DecidableEq, Repr

/-- `Argument.String`: `name=value` or `name*value`. -/
def Argument.string (a : Argument) : GoString :=
  a.name ++ [if a.mandatory then argSeparatorMandatory else argSeparatorOptional] ++ a.value

/-- `ParseArgument`'s scan: `name` is `s[:i]`, the list is `s[i:]`. -/
def parseArgumentFrom (name : GoString) : GoString → Except GoError Argument
  | [] => .error (validationError "argument" "missing separator" .invalidArgument)
  | c :: rest =>
      if c = argSeparatorMandatory ∨ c = argSeparatorOptional then
        if name = [] then
          .error (validationError "argument" "empty name" .invalidArgument)
        else .ok { mandatory := c == argSeparatorMandatory, name := name, value := rest }
      else parseArgumentFrom (name ++ [c]) rest

def parseArgument (s : GoString) : Except GoError Argument := parseArgumentFrom [] s

end Tacacs
