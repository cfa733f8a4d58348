import Tacacs.Errors
import Tacacs.Lib.Lines
import Tacacs.Lib.Utf8

/-!
# `legacy/tcp.go` — original TACACS over TCP

Requests and replies are lines of text. A request is four of them: a version, a keyword and its
parameters, and then the user name, the password and the line. A reply is one line, a code of
three digits and a text.

`UnmarshalText` assigns to the fields of its receiver and leaves alone those that the message
does not have; it takes the receiver here. A failed call has not assigned to any of them.
-/

set_option autoImplicit false

namespace Tacacs
namespace Legacy

open GoSem GoText

def tcpVersion : UInt8 := 1
def crlf : GoString := [0x0d, 0x0a]

/-- `strings.ContainsAny(f, "\r\n\x00")`. -/
def containsControl (f : GoString) : Bool := f.any [0x0d, 0x0a, 0x00].contains

def validateFields : List GoString → Go GoError Unit
  | [] => .ok ()
  | f :: fields =>
      if containsControl f then
        fail (validationError "tcp_request" "field contains CR/LF/NUL" .invalidArgument)
      else validateFields fields

/-! ## Requests -/

structure TCPRequest where
  type : GoString
  style : GoString
  destHost : GoString
  destPort : GoString
  username : GoString
  password : GoString
  line : GoString
deriving DecidableEq, Repr

namespace TCPRequest

def zero : TCPRequest := ⟨[], [], [], [], [], [], []⟩

/-- The first line of `MarshalText`. The keyword is upper-cased when it is written, but it is the
    keyword as it stands that decides about the parameters. -/
def firstLine (unicode : Upper) (r : TCPRequest) : GoString :=
  let b := [0x30 + tcpVersion] ++ [0x20] ++ unicode.toUpper r.type
  let b := if r.type = lit "AUTH" ∧ r.style ≠ [] then b ++ [0x20] ++ r.style else b
  let b :=
    if (r.type = lit "CONNECT" ∨ r.type = lit "SLIPON" ∨ r.type = lit "SLIPOFF") ∧
        r.destHost ≠ [] then b ++ [0x20] ++ r.destHost
    else b
  if r.type = lit "CONNECT" ∧ r.destPort ≠ [] then b ++ [0x20] ++ r.destPort else b

def marshalText (unicode : Upper) (r : TCPRequest) : Go GoError Bytes := do
  validateFields [r.type, r.style, r.destHost, r.destPort, r.username, r.password, r.line]
  return r.firstLine unicode ++ crlf ++ r.username ++ crlf ++ r.password ++ crlf ++ r.line ++ crlf

/-- The `switch` of `UnmarshalText`: each parameter that is there is assigned. -/
def assignParameters (r : TCPRequest) (rest : List GoString) : TCPRequest :=
  if r.type = lit "AUTH" then { r with style := rest[0]?.getD r.style }
  else if r.type = lit "CONNECT" then
    { r with destHost := rest[0]?.getD r.destHost, destPort := rest[1]?.getD r.destPort }
  else if r.type = lit "SLIPON" ∨ r.type = lit "SLIPOFF" then
    { r with destHost := rest[0]?.getD r.destHost }
  else r

def unmarshalText (unicode : Upper) (r : TCPRequest) (data : Bytes) : Go GoError TCPRequest :=
  let lines := split crlf (trimRightSet crlf data)
  match lines with
  | first :: username :: password :: line :: _ => do
      validateFields lines
      match fields first with
      | _ :: type :: rest =>
          let r := { r with type := unicode.toUpper type }
          let r := r.assignParameters rest
          return { r with username, password, line }
      | _ => fail (validationError "tcp_request" "first line malformed" .invalidPacket)
  | _ => fail (validationError "tcp_request" "expected 4 lines" .invalidPacket)

end TCPRequest

/-! ## Replies -/

structure TCPReply where
  code : GoString
  text : GoString
deriving DecidableEq, Repr

namespace TCPReply

def zero : TCPReply := ⟨[], []⟩

def marshalText (r : TCPReply) : Go GoError Bytes :=
  if r.code.length ≠ 3 then
    fail (validationError "tcp_reply" "code must be 3 digits" .invalidArgument)
  else do
    validateFields [r.code, r.text]
    let b := if r.text ≠ [] then r.code ++ [0x20] ++ r.text else r.code
    return b ++ crlf

/-- `strings.TrimPrefix(s, " ")`. -/
def trimSeparator : GoString → GoString
  | 0x20 :: rest => rest
  | s => s

def unmarshalText (r : TCPReply) (data : Bytes) : Go GoError TCPReply :=
  let line := trimRightSet crlf data
  if line.length < 3 then
    fail (validationError "tcp_reply" "short line" .invalidPacket)
  else do
    let r := { r with code := ← slice line 0 3 }
    if line.length > 3 then
      let rest ← slice line 3 line.length
      return { r with text := trimSeparator rest }
    else return r

/-- The first digit of a code of three. -/
def hasClass (r : TCPReply) (digit : UInt8) : Bool :=
  r.code.length == 3 && r.code.head? == some digit

def accepted (r : TCPReply) : Bool := r.hasClass 0x32

def transient (r : TCPReply) : Bool := r.hasClass 0x34

def permanent (r : TCPReply) : Bool := r.hasClass 0x35

end TCPReply

end Legacy
end Tacacs
