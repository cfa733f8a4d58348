import Tacacs.Lib.Go

/-!
# `errors/` — what a failing call reports

`ValidationError` names the field it is about, gives a reason and wraps a sentinel. A reason
is kept as the pieces of its format string rather than as printed text: `%q` of a Go string is
a function of `strconv` that nothing here depends on.
-/

set_option autoImplicit false

namespace Tacacs

open GoSem

/-- A Go `string`: bytes, with no promise that they are UTF-8. -/
abbrev GoString := Bytes

/-- An ASCII string constant of the source. -/
def lit (s : String) : GoString := s.toList.map fun c => UInt8.ofNat c.toNat

inductive Sentinel where
  | secretMismatch | invalidPacket | invalidHeader | invalidLength | invalidArgument
  | tooManyArguments | invalidSeqNo | unsupportedVersion | unsupportedType | sessionClosed
  | sessionAborted | flagMismatch | noServerConfigured | unencryptedDisabled | notImplemented
deriving DecidableEq, Repr

/-- One piece of a formatted message: literal text, or the argument of a `%d`, `%q`, `%s`. -/
inductive Piece where
  | text (s : String)
  | int (n : Nat)
  | quoted (s : GoString)
  | verbatim (s : GoString)
deriving DecidableEq, Repr

abbrev Message := List Piece

inductive GoError where
  | sentinel (s : Sentinel)
  | validation (field : String) (reason : Message) (err : GoError)
  /-- `io.EOF` before the first byte, `io.ErrUnexpectedEOF` after it. -/
  | eof
  | unexpectedEOF
  | other (msg : Message)
deriving DecidableEq, Repr

/-- `NewValidationError` with a constant reason over a sentinel. -/
def validationError (field reason : String) (err : Sentinel) : GoError :=
  .validation field [.text reason] (.sentinel err)

end Tacacs
