import Tacacs.Server.Users
import Tacacs.Yang.Validate

/-!
# `yang/load.go` — reading a list of servers

`viper` parses the file, and `mapstructure` decodes what stands under three keys, one after the
other; a key that is not there decodes to nothing. What the package adds is the reading of
`server-type`, which may be one word or a list of words, and `Validate`.
-/

set_option autoImplicit false

namespace Tacacs
namespace Yang

open GoSem GoText

/-! ## `ServerType` -/

def serverTypeAuthentication : UInt8 := 1
def serverTypeAuthorization : UInt8 := 2
def serverTypeAccounting : UInt8 := 4

/-- The words for the services, in the order in which `String` writes them. -/
def serviceNames : List (GoString × UInt8) :=
  [(lit "authentication", serverTypeAuthentication), (lit "authorization", serverTypeAuthorization),
    (lit "accounting", serverTypeAccounting)]

/-- `ServerType.String`. -/
def ServerType.string (s : UInt8) : GoString :=
  (lit ",").intercalate ((serviceNames.filter fun n => s &&& n.2 != 0).map Prod.fst)

/-- The closure `add` of `parseServerType`; a word that names no service adds nothing. -/
def addServerType (st : UInt8) (s : GoString) : UInt8 :=
  match serviceNames.lookup (Server.toLower (trimSpace s)) with
  | none => st
  | some bit => st ||| bit

def parseServerType : RawServerType → UInt8
  | .unset => 0
  | .one s => addServerType 0 s
  | .many ss => ss.foldl addServerType 0

/-! ## `Load` -/

variable {σ κ κ' : Type}

/-- What stands under the three keys, below `tacacs-plus` if the file has such a section. -/
structure Tree (σ κ κ' : Type) where
  server : Except GoError (List (Server (TLSClient κ) σ)) := .ok []
  clientCredentials : Except GoError (List (ClientCredential κ')) := .ok []
  serverCredentials : Except GoError (List ServerCredential) := .ok []

/-- The body of the loop over the servers. -/
def Server.normalize (s : Server (TLSClient κ) σ) : Server (TLSClient κ) σ :=
  { s with serverType := parseServerType s.rawServerType }

def unmarshal (t : Tree σ κ κ') : Except GoError (Config (TLSClient κ) σ κ') :=
  match t.server with
  | .error err => .error (.validation "server" [.text "failed to decode server list"] err)
  | .ok servers =>
      match t.clientCredentials with
      | .error err => .error err
      | .ok clientCredentials =>
          match t.serverCredentials with
          | .error err => .error err
          | .ok serverCredentials =>
              .ok { servers := servers.map Server.normalize, clientCredentials, serverCredentials }

/-- `Load`, and `LoadFromBytes` as well; the error is that of `ReadInConfig`. -/
def load (file : Except GoError (Tree σ κ κ')) : Except GoError (Config (TLSClient κ) σ κ') := do
  let tree ← file
  let cfg ← unmarshal tree
  cfg.validate
  return cfg

end Yang
end Tacacs
