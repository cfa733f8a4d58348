import Tacacs.Lib.Text
import Tacacs.Types

/-!
# `types/strings.go`, `types/packet_type.go` — the names of codes

What a code is called in a log, under a metric or in an answer. A code without a name of its own
is shown with its number. The type of a packet is the exception: whatever is not one of the three
is `unknown`.
-/

set_option autoImplicit false

namespace Tacacs

open GoSem GoText

/-- A `switch` over the codes that have names, with `unknown(%d)` for the others. -/
def codeName {κ : Type} [DecidableEq κ] (names : List (κ × GoString)) (number : κ → Nat) (c : κ) :
    GoString :=
  (names.lookup c).getD (lit "unknown(" ++ decimal (number c) ++ lit ")")

def PacketType.string (t : PacketType) : GoString :=
  if t = packetAuthentication then lit "authentication"
  else if t = packetAuthorization then lit "authorization"
  else if t = packetAccounting then lit "accounting"
  else lit "unknown"

def authenStatusNames : List (AuthenStatus × GoString) :=
  [(authenStatusPass, lit "pass"), (authenStatusFail, lit "fail"),
    (authenStatusGetData, lit "getdata"), (authenStatusGetUser, lit "getuser"),
    (authenStatusGetPass, lit "getpass"), (authenStatusRestart, lit "restart"),
    (authenStatusError, lit "error"), (authenStatusFollow, lit "follow")]

def AuthenStatus.string : AuthenStatus → GoString := codeName authenStatusNames UInt8.toNat

def authorStatusNames : List (AuthorStatus × GoString) :=
  [(authorStatusPassAdd, lit "pass-add"), (authorStatusPassRepl, lit "pass-repl"),
    (authorStatusFail, lit "fail"), (authorStatusError, lit "error"),
    (authorStatusFollow, lit "follow")]

def AuthorStatus.string : AuthorStatus → GoString := codeName authorStatusNames UInt8.toNat

def acctStatusNames : List (AcctStatus × GoString) :=
  [(acctStatusSuccess, lit "success"), (acctStatusError, lit "error"),
    (acctStatusFollow, lit "follow")]

def AcctStatus.string : AcctStatus → GoString := codeName acctStatusNames UInt8.toNat

def authenTypeNotSet : AuthenType := 0x00

def authenTypeNames : List (AuthenType × GoString) :=
  [(authenTypeNotSet, lit "notset"), (authenTypeASCII, lit "ascii"), (authenTypePAP, lit "pap"),
    (authenTypeCHAP, lit "chap"), (authenTypeMSCHAP, lit "mschap"),
    (authenTypeMSCHAPv2, lit "mschapv2")]

def AuthenType.string : AuthenType → GoString := codeName authenTypeNames UInt8.toNat

end Tacacs
