import Tacacs.Cli.Composite
import Tacacs.Lib.Json
import Tacacs.Lib.Script
import Tacacs.Names

/-!
# `cmd/tacacs-cli/aaa/` — authentication by an HTTP service, a directory or PAM

`--auth-backend` hands the credentials of a login to something outside. Each backend verifies
them in a fixed sequence of requests, written here as a script; the answers come from anywhere.
Timeouts and the TLS configuration are not modelled: they show as failed requests.
-/

set_option autoImplicit false

namespace Tacacs
namespace Cli

open GoSem GoText GoJson Script
open Server (AuthenContext AuthenDecision AuthenContinue)

/-! ## Requests -/

/-- An error of `go-ldap`: the result code of the server, if it is one of its answers. -/
structure LdapError where
  resultCode : Option Nat
  msg : Message

/-- `ldap.LDAPResultInvalidCredentials`. -/
def ldapResultInvalidCredentials : Nat := 49

/-- `ldap.IsErrorWithCode`. -/
def LdapError.isErrorWithCode (err : LdapError) (code : Nat) : Bool := err.resultCode == some code

/-- The arguments of `ldap.NewSearchRequest` that are not constants. -/
structure SearchRequest where
  baseDN : GoString
  sizeLimit : Nat := 1
  timeLimit : Int
  filter : GoString
deriving DecidableEq

/-- `pam.Style`. -/
inductive PamStyle where
  | promptEchoOff
  | promptEchoOn
  | errorMsg
  | textInfo
  | other (n : Int)

inductive BackendOp where
  /-- `http.NewRequestWithContext` and `client.Do`, of a POST. -/
  | post (endpoint contentType body : GoString)
  /-- `json.NewDecoder(resp.Body).Decode(&out)`, and the field of `out`. -/
  | decode
  | closeBody
  | dial (url : GoString)
  | startTLS
  | bind (dn password : GoString)
  | search (req : SearchRequest)
  | closeConn
  /-- `pam.StartFunc`, with the conversation function. -/
  | pamStart (service user : GoString) (conversation : PamStyle → Except GoError GoString)
  | pamAuthenticate
  | pamAcctMgmt
  | pamEnd

/-- What comes back: the status code of a response, the names of the entries found, an error. -/
abbrev requests : Signature where
  Op := BackendOp
  Answer
    | .post _ _ _ => Except Message Int
    | .decode => Except Message Bool
    | .dial _ | .startTLS => Option Message
    | .bind _ _ => Option LdapError
    | .search _ => Except Message (List GoString)
    | .pamStart _ _ _ | .pamAuthenticate | .pamAcctMgmt => Option Message
    | .closeBody | .closeConn | .pamEnd => Unit

abbrev Verify := Script requests (Except GoError Bool)

def request (op : BackendOp) : Script requests (requests.Answer op) := perform (S := requests) op

/-! ## HTTP -/

structure HTTPAuthenticator where
  endpoint : GoString

structure HTTPConfig where
  endpoint : GoString
  allowInsecure : Bool := false

/-- `parse` is `url.Parse`, as far as the scheme. -/
def newHTTPAuthenticator (parse : GoString → Except Message GoString) (cfg : HTTPConfig) :
    Except GoError HTTPAuthenticator :=
  match parse cfg.endpoint with
  | .error msg => .error (.other (.text "aaa: parse http endpoint: " :: msg))
  | .ok scheme =>
      if scheme ≠ lit "https" ∧ (cfg.allowInsecure = false ∨ scheme ≠ lit "http") then
        .error (.other [.text ("aaa: http authenticator endpoint must be https " ++
          "(set AllowInsecure for a localhost http sidecar)")])
      else .ok { endpoint := cfg.endpoint }

/-- `httpAuthRequest`. -/
def httpAuthRequest (user password : GoString) (at' : AuthenType) : Json :=
  .obj [(lit "username", .str user), (lit "password", .str password),
    (lit "authen_type", .str (AuthenType.string at'))]

/-- `verify` between the response and the deferred `resp.Body.Close`. -/
def readResponse (status : Int) : Verify :=
  if status < 200 ∨ 300 ≤ status then
    return .error (.other
      [.text "aaa: http authenticator status ", .verbatim (decimalInt status)])
  else do
    match ← request .decode with
    | .error msg =>
        return .error (.other (.text "aaa: decode http authenticator response: " :: msg))
    | .ok authenticated => return .ok authenticated

def HTTPAuthenticator.verify (a : HTTPAuthenticator) (user password : GoString)
    (at' : AuthenType) : Verify := do
  let body := encode true (httpAuthRequest user password at')
  match ← request (.post a.endpoint (lit "application/json") body) with
  | .error msg => return .error (.other msg)
  | .ok status => do
      let r ← readResponse status
      let _ ← request .closeBody
      return r

/-! ## LDAP -/

structure LDAPConfig where
  url : GoString
  bindDN : GoString := []
  bindPassword : GoString := []
  baseDN : GoString
  userFilter : GoString := []
  startTLS : Bool := false
  allowInsecure : Bool := false
  timeout : Int := 0
  dialURL : GoString := []

structure LDAPAuthenticator where
  cfg : LDAPConfig

def newLDAPAuthenticator (parse : GoString → Except Message GoString) (cfg : LDAPConfig) :
    Except GoError LDAPAuthenticator :=
  match parse cfg.url with
  | .error msg => .error (.other (.text "aaa: parse ldap url: " :: msg))
  | .ok scheme =>
      if scheme = lit "ldap" ∧ cfg.startTLS = false ∧ cfg.allowInsecure = false then
        .error (.other [.text
          "aaa: ldap:// requires StartTLS or AllowInsecure (cleartext bind password)"])
      else if scheme ≠ lit "ldaps" ∧ scheme ≠ lit "ldap" then
        .error (.other
          [.text "aaa: ldap url scheme must be ldap or ldaps, got ", .quoted scheme])
      else if cfg.baseDN = [] then .error (.other [.text "aaa: ldap BaseDN is required"])
      else
        let userFilter := if cfg.userFilter = [] then lit "(uid=%s)" else cfg.userFilter
        let timeout := if cfg.timeout ≤ 0 then 5000000000 else cfg.timeout
        .ok { cfg := { cfg with userFilter, timeout } }

/-- The bytes `ldap.EscapeFilter` escapes. -/
def mustEscape (b : UInt8) : Bool :=
  0x7f < b || b == 0x28 || b == 0x29 || b == 0x5c || b == 0x2a || b == 0x00

/-- `ldap.EscapeFilter`. -/
def escapeFilter (s : GoString) : GoString :=
  s.flatMap fun b =>
    if mustEscape b then [0x5c, hexDigit (b.toNat / 16), hexDigit (b.toNat % 16)] else [b]

/-- `fmt.Sprintf` with one string argument. On a format with one `%s` and no other verb it puts
    the argument there; nothing is said of other formats. -/
structure Sprintf where
  sprintf : GoString → GoString → GoString
  one : ∀ pre arg post, 0x25 ∉ pre → 0x25 ∉ post →
    sprintf (pre ++ lit "%s" ++ post) arg = pre ++ arg ++ post

namespace LDAPAuthenticator

variable (fmt : Sprintf) (a : LDAPAuthenticator)

/-- `conn.SetTimeout` has no answer. -/
def dial : Script requests (Except GoError Unit) := do
  let dialURL := if a.cfg.dialURL = [] then a.cfg.url else a.cfg.dialURL
  match ← request (.dial dialURL) with
  | some msg => return .error (.other (.text "aaa: ldap dial: " :: msg))
  | none =>
      if a.cfg.startTLS then do
        match ← request .startTLS with
        | some msg => do
            let _ ← request .closeConn
            return .error (.other (.text "aaa: ldap starttls: " :: msg))
        | none => return .ok ()
      else return .ok ()

def searchRequest (user : GoString) : SearchRequest where
  baseDN := a.cfg.baseDN
  timeLimit := a.cfg.timeout / 1000000000
  filter := fmt.sprintf a.cfg.userFilter (escapeFilter user)

/-- The search step's bind. -/
def serviceBind : Script requests (Except GoError Unit) := do
  if a.cfg.bindDN = [] then return .ok ()
  else
    match ← request (.bind a.cfg.bindDN a.cfg.bindPassword) with
    | some err => return .error (.other (.text "aaa: ldap service bind: " :: err.msg))
    | none => return .ok ()

/-- The verify step. -/
def userBind (userDN password : GoString) : Verify := do
  match ← request (.bind userDN password) with
  | some err =>
      if err.isErrorWithCode ldapResultInvalidCredentials then return .ok false
      else return .error (.other (.text "aaa: ldap user bind: " :: err.msg))
  | none => return .ok true

/-- `verify` between the dial and the deferred `conn.Close`. -/
def verifyOn (user password : GoString) : Verify := do
  match ← a.serviceBind with
  | .error err => return .error err
  | .ok () =>
      match ← request (.search (a.searchRequest fmt user)) with
      | .error msg => return .error (.other (.text "aaa: ldap search: " :: msg))
      | .ok [userDN] => userBind userDN password
      | .ok _ => return .ok false

def verify (user password : GoString) : Verify := do
  if password = [] then return .ok false
  else
    match ← a.dial with
    | .error err => return .error err
    | .ok () => do
        let r ← a.verifyOn fmt user password
        let _ ← request .closeConn
        return r

end LDAPAuthenticator

/-! ## PAM -/

structure PAMAuthenticator where
  service : GoString

/-- `NewPAMAuthenticator` on Linux with cgo. -/
def newPAMAuthenticator (service : GoString) : PAMAuthenticator :=
  { service := if service = [] then lit "tacacs" else service }

/-- The conversation: prompts are answered with the password. -/
def converse (password : GoString) : PamStyle → Except GoError GoString
  | .promptEchoOff | .promptEchoOn => .ok password
  | .errorMsg | .textInfo => .ok []
  | .other n =>
      .error (.other [.text "aaa: pam: unhandled conversation style ", .verbatim (decimalInt n)])

/-- `verify` between the start of the transaction and the deferred `tx.End`. -/
def transact : Verify := do
  match ← request .pamAuthenticate with
  | some _ => return .ok false
  | none =>
      match ← request .pamAcctMgmt with
      | some _ => return .ok false
      | none => return .ok true

def PAMAuthenticator.verify (a : PAMAuthenticator) (user password : GoString) : Verify :=
  if password = [] then return .ok false
  else do
    match ← request (.pamStart a.service user (converse password)) with
    | some msg => return .error (.other (.text "aaa: pam start: " :: msg))
    | none => do
        let r ← transact
        let _ ← request .pamEnd
        return r

/-! ## Authentication -/

/-- The end of the three `Authenticate` methods: what an outcome of `verify` becomes. -/
def verified {σ : Type} : Except GoError Bool × σ → Returns AuthenDecision × σ
  | (.error err, w) =>
      (({ status := authenStatusError, serverMsg := lit "authentication backend error" },
        some err), w)
  | (.ok true, w) => (({ status := authenStatusPass }, none), w)
  | (.ok false, w) =>
      (({ status := authenStatusFail, serverMsg := lit "invalid credentials" }, none), w)

/-- What they have in common: the switch over the credential that is presented. -/
def authenticateBy {σ : Type} (world : World requests σ)
    (verify : GoString → GoString → AuthenType → Verify) : Authenticator σ := fun ac cont w =>
  match cont with
  | some cont => verified ((verify ac.start.user cont.userMsg ac.start.type).within world w)
  | none =>
      if ac.start.type = authenTypePAP then
        verified ((verify ac.start.user ac.start.data ac.start.type).within world w)
      else (({ status := authenStatusGetPass, serverMsg := lit "Password:" }, none), w)

/-- The authenticators of `buildAuthenticator`. -/
inductive External where
  | http (a : HTTPAuthenticator)
  | ldap (a : LDAPAuthenticator)
  | pam (a : PAMAuthenticator)

def External.verify (fmt : Sprintf) : External → GoString → GoString → AuthenType → Verify
  | .http a, user, password, at' => a.verify user password at'
  | .ldap a, user, password, _ => a.verify fmt user password
  | .pam a, user, password, _ => a.verify user password

def External.authenticate {σ : Type} (fmt : Sprintf) (world : World requests σ) (x : External) :
    Authenticator σ :=
  authenticateBy world (x.verify fmt)

/-- The flags of the command that choose a backend. -/
structure BackendOptions where
  authBackend : GoString
  authHTTPURL : GoString := []
  authHTTPInsecure : Bool := false
  authLDAPURL : GoString := []
  authLDAPBindDN : GoString := []
  authLDAPBindPw : GoString := []
  authLDAPBaseDN : GoString := []
  authLDAPFilter : GoString := []
  authLDAPStartTLS : Bool := false
  authLDAPInsecure : Bool := false
  authPAMService : GoString := lit "tacacs"

def buildAuthenticator (parse : GoString → Except Message GoString) (o : BackendOptions) :
    Except GoError External :=
  if o.authBackend = lit "http" then
    (newHTTPAuthenticator parse
      { endpoint := o.authHTTPURL, allowInsecure := o.authHTTPInsecure }).map .http
  else if o.authBackend = lit "ldap" then
    (newLDAPAuthenticator parse
      { url := o.authLDAPURL, bindDN := o.authLDAPBindDN, bindPassword := o.authLDAPBindPw,
        baseDN := o.authLDAPBaseDN, userFilter := o.authLDAPFilter,
        startTLS := o.authLDAPStartTLS, allowInsecure := o.authLDAPInsecure }).map .ldap
  else if o.authBackend = lit "pam" then .ok (.pam (newPAMAuthenticator o.authPAMService))
  else
    .error (.other [.text "unknown --auth-backend ", .quoted o.authBackend,
      .text " (want local|http|ldap|pam)"])

end Cli
end Tacacs
