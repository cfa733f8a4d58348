import Tacacs.Cli.External
import Tacacs.Proof.Cli.AcctLog
import Tacacs.Proof.Server.Consults

/-!
# External authentication

A directory is asked under rules: nothing is bound over a connection in clear text unless that
was allowed, the password goes to the one entry that was found for the user and to no other, and
a connection that was made is closed. The rules are a monitor over the requests
(`LdapRules.watch`), and every run of `verify` keeps to them, whatever the directory answers.

Over a run of a server, a PASS is never the server's own idea: the backend has just vouched for
the user that the session's START named, with the password that the packet carries
(`external_pass_vouched`).
-/

set_option autoImplicit false

namespace Tacacs
namespace Proof
namespace Cli

open GoSem GoText GoJson Script
open Tacacs.Cli
open Tacacs.Server (AuthenContext AuthenDecision AuthenContinue Config Event State Times handle
  new step)
open Tacacs.Packet (errorHeader)
open Tacacs.Transport (Conn Pkt)
open Tacacs.Proof.Server (Carries clearPkt tlsConn lastStart remembers_init remembers_run step_pass)

/-! ## The rules for a directory -/

/-- What may be requested on behalf of a login. -/
structure LdapRules where
  url : GoString
  /-- The connection is encrypted from the start. -/
  ldaps : Bool
  /-- Clear text is allowed. -/
  clear : Bool
  service : GoString × GoString
  search : SearchRequest
  password : GoString

/-- Where a login stands: whether the connection is encrypted, the entry that was found, and
    whether the directory has accepted the password for it. -/
inductive Standing where
  | idle
  | up (encrypted : Bool) (found : Option GoString) (vouched : Bool)
  | over (vouched : Bool)

/-- The one entry that was found. -/
def soleEntry : Except Message (List GoString) → Option GoString
  | .ok [dn] => some dn
  | _ => none

def LdapRules.watch (u : LdapRules) : Monitor requests Standing
  | .idle, ⟨.dial url, err⟩ =>
      if url = u.url then some (if err.isNone then .up u.ldaps none false else .over false)
      else none
  | .up encrypted found vouched, ⟨.startTLS, err⟩ =>
      some (.up (encrypted || err.isNone) found vouched)
  | .up encrypted found vouched, ⟨.bind dn password, err⟩ =>
      if encrypted = false ∧ u.clear = false then none
      else if found = some dn ∧ password = u.password ∧ password ≠ [] then
        some (.up encrypted none err.isNone)
      else if found = none ∧ (dn, password) = u.service ∧ dn ≠ [] then
        some (.up encrypted found vouched)
      else none
  | .up encrypted _ vouched, ⟨.search req, res⟩ =>
      if req = u.search then
        some (.up encrypted (soleEntry res) vouched)
      else none
  | .up _ _ vouched, ⟨.closeConn, _⟩ => some (.over vouched)
  | _, _ => none

/-- The scheme of a URL says that the connection is encrypted from the start. -/
def schemeIsLdaps : Except Message GoString → Bool
  | .ok scheme => scheme == lit "ldaps"
  | .error _ => false

/-- The rules that a configuration sets up for a login. -/
def ldapRules (parse : GoString → Except Message GoString) (fmt : Sprintf) (a : LDAPAuthenticator)
    (user password : GoString) : LdapRules where
  url := a.cfg.url
  ldaps := schemeIsLdaps (parse a.cfg.url)
  clear := a.cfg.allowInsecure
  service := (a.cfg.bindDN, a.cfg.bindPassword)
  search := a.searchRequest fmt user
  password := password

/-- What `NewLDAPAuthenticator` checks: the connection is encrypted from the start or upgraded, or
    clear text is allowed. -/
theorem newLDAPAuthenticator_secured {parse : GoString → Except Message GoString}
    {cfg : LDAPConfig} {a : LDAPAuthenticator} (h : newLDAPAuthenticator parse cfg = .ok a) :
    a.cfg.dialURL = cfg.dialURL ∧ (parse a.cfg.url = .ok (lit "ldaps") ∨
      a.cfg.startTLS = true ∨ a.cfg.allowInsecure = true) := by
  unfold newLDAPAuthenticator at h
  cases hparse : parse cfg.url with
  | error msg =>
    rw [hparse] at h
    cases h
  | ok scheme =>
    rw [hparse] at h
    dsimp only at h
    by_cases hclear : scheme = lit "ldap" ∧ cfg.startTLS = false ∧ cfg.allowInsecure = false
    · rw [if_pos hclear] at h
      cases h
    by_cases hscheme : scheme ≠ lit "ldaps" ∧ scheme ≠ lit "ldap"
    · rw [if_neg hclear, if_pos hscheme] at h
      cases h
    by_cases hbase : cfg.baseDN = []
    · rw [if_neg hclear, if_neg hscheme, if_pos hbase] at h
      cases h
    rw [if_neg hclear, if_neg hscheme, if_neg hbase] at h
    rw [← Except.ok.inj h]
    refine ⟨rfl, ?_⟩
    by_cases hldaps : scheme = lit "ldaps"
    · exact .inl (hldaps ▸ hparse)
    · have hldap : scheme = lit "ldap" := by
        by_contra hne
        exact hscheme ⟨hldaps, hne⟩
      by_contra hnone
      rw [not_or, not_or, Bool.not_eq_true, Bool.not_eq_true] at hnone
      exact hclear ⟨hldap, hnone.2⟩

/-! ## Every run keeps to the rules -/

section Ldap

variable {parse : GoString → Except Message GoString} {fmt : Sprintf} {a : LDAPAuthenticator}
  {user password : GoString}

/-- Where a login may send a password. -/
def Secured (u : LdapRules) (encrypted : Bool) : Prop := encrypted = true ∨ u.clear = true

theorem watch_bind {u : LdapRules} {encrypted : Bool} (h : Secured u encrypted)
    (found : Option GoString) (vouched : Bool) (dn pw : GoString) (err : Option LdapError) :
    u.watch (.up encrypted found vouched) ⟨.bind dn pw, err⟩ =
      if found = some dn ∧ pw = u.password ∧ pw ≠ [] then some (.up encrypted none err.isNone)
      else if found = none ∧ (dn, pw) = u.service ∧ dn ≠ [] then
        some (.up encrypted found vouched)
      else none := by
  have hno : ¬(encrypted = false ∧ u.clear = false) := by
    rintro ⟨he, hc⟩
    rcases h with h | h
    · rw [he] at h
      cases h
    · rw [hc] at h
      cases h
  exact if_neg hno

theorem dial_obeys (hdial : a.cfg.dialURL = [])
    (hsecured : parse a.cfg.url = .ok (lit "ldaps") ∨ a.cfg.startTLS = true ∨
      a.cfg.allowInsecure = true) :
    a.dial.Obeys (ldapRules parse fmt a user password).watch .idle fun r m =>
      match r with
      | .ok _ => ∃ encrypted, Secured (ldapRules parse fmt a user password) encrypted ∧
          m = .up encrypted none false
      | .error _ => m = .over false := by
  unfold LDAPAuthenticator.dial
  rw [if_pos hdial]
  refine Obeys.bind (Q := fun err m => m =
      if err.isNone then .up (ldapRules parse fmt a user password).ldaps none false
      else .over false) (Obeys.perform fun err => ⟨_, if_pos rfl, rfl⟩) ?_
  rintro err m rfl
  cases err with
  | some msg => exact Obeys.pure rfl
  | none =>
    dsimp only
    split
    · refine Obeys.bind (Q := fun err m => m =
          .up ((ldapRules parse fmt a user password).ldaps || err.isNone) none false)
        (Obeys.perform fun err => ⟨_, rfl, rfl⟩) ?_
      rintro err m rfl
      cases err with
      | some msg =>
        exact Obeys.bind (Q := fun _ m => m = .over false)
          (Obeys.perform fun _ => ⟨_, rfl, rfl⟩) fun _ _ hm => Obeys.pure hm
      | none => exact Obeys.pure ⟨_, .inl (Bool.or_true _), rfl⟩
    · next hstart =>
      refine Obeys.pure ⟨_, ?_, rfl⟩
      rcases hsecured with hldaps | htls | hclear
      · refine .inl ?_
        show schemeIsLdaps (parse a.cfg.url) = true
        rw [hldaps]
        rfl
      · exact absurd htls hstart
      · exact .inr hclear

theorem serviceBind_obeys {encrypted : Bool}
    (hsec : Secured (ldapRules parse fmt a user password) encrypted) :
    a.serviceBind.Obeys (ldapRules parse fmt a user password).watch (.up encrypted none false)
      fun _ m => m = .up encrypted none false := by
  unfold LDAPAuthenticator.serviceBind
  split
  · exact Obeys.pure rfl
  · next hdn =>
    refine Obeys.bind (Q := fun _ m => m = .up encrypted none false)
      (Obeys.perform fun err => ⟨_, ?_, rfl⟩) ?_
    · rw [watch_bind hsec, if_neg (by simp), if_pos ⟨rfl, rfl, hdn⟩]
    · rintro err m rfl
      cases err with
      | some err => exact Obeys.pure rfl
      | none => exact Obeys.pure rfl

theorem userBind_obeys {encrypted : Bool} (hpassword : password ≠ [])
    (hsec : Secured (ldapRules parse fmt a user password) encrypted) (dn : GoString) :
    (LDAPAuthenticator.userBind dn password).Obeys (ldapRules parse fmt a user password).watch
      (.up encrypted (some dn) false)
      fun r m => ∃ vouched, m = .up encrypted none vouched ∧ (r = .ok true ↔ vouched = true) := by
  refine Obeys.bind (Q := fun err m => m = .up encrypted none err.isNone)
    (Obeys.perform fun err => ⟨_, ?_, rfl⟩) ?_
  · rw [watch_bind hsec, if_pos ⟨rfl, rfl, hpassword⟩]
  · rintro err m rfl
    cases err with
    | none => exact Obeys.pure ⟨true, rfl, by simp⟩
    | some err =>
      dsimp only
      split
      · exact Obeys.pure ⟨false, rfl, by simp⟩
      · exact Obeys.pure ⟨false, rfl, by simp⟩

theorem verifyOn_obeys {encrypted : Bool} (hpassword : password ≠ [])
    (hsec : Secured (ldapRules parse fmt a user password) encrypted) :
    (a.verifyOn fmt user password).Obeys (ldapRules parse fmt a user password).watch
      (.up encrypted none false)
      fun r m => ∃ found vouched, m = .up encrypted found vouched ∧
        (r = .ok true ↔ vouched = true) := by
  refine Obeys.bind (serviceBind_obeys hsec) ?_
  rintro r m rfl
  cases r with
  | error err => exact Obeys.pure ⟨_, _, rfl, by simp⟩
  | ok u =>
    refine Obeys.bind (Q := fun res m => m = .up encrypted (soleEntry res) false)
      (Obeys.perform fun res => ⟨_, if_pos rfl, rfl⟩) ?_
    rintro res m rfl
    match res with
    | .error msg => exact Obeys.pure ⟨_, _, rfl, by simp⟩
    | .ok [] => exact Obeys.pure ⟨_, _, rfl, by simp⟩
    | .ok [dn] =>
        exact (userBind_obeys hpassword hsec dn).mono fun r m ⟨v, hm, hr⟩ => ⟨_, v, hm, hr⟩
    | .ok (dn :: dn' :: dns) => exact Obeys.pure ⟨_, _, rfl, by simp⟩

theorem verify_obeys (hdial : a.cfg.dialURL = [])
    (hsecured : parse a.cfg.url = .ok (lit "ldaps") ∨ a.cfg.startTLS = true ∨
      a.cfg.allowInsecure = true) :
    (a.verify fmt user password).Obeys (ldapRules parse fmt a user password).watch .idle
      fun r m => (m = .idle ∧ password = [] ∧ r = .ok false) ∨
        ∃ vouched, m = .over vouched ∧ (r = .ok true ↔ vouched = true) := by
  unfold LDAPAuthenticator.verify
  split
  · next hempty => exact Obeys.pure (.inl ⟨rfl, hempty, rfl⟩)
  · next hpassword =>
    refine Obeys.bind (dial_obeys hdial hsecured) ?_
    intro r m hm
    cases r with
    | error err => exact Obeys.pure (.inr ⟨false, hm, by simp⟩)
    | ok u =>
      obtain ⟨encrypted, hsec, rfl⟩ := hm
      refine Obeys.bind (verifyOn_obeys hpassword hsec) ?_
      rintro r m ⟨found, vouched, rfl, hr⟩
      exact Obeys.bind (Q := fun _ m => m = .over vouched)
        (Obeys.perform fun _ => ⟨_, rfl, rfl⟩) fun _ _ hm => Obeys.pure (.inr ⟨vouched, hm, hr⟩)

end Ldap

/-- **A directory is asked by the rules.** For every configuration that `NewLDAPAuthenticator`
    accepts, every login and whatever the directory answers: no password is sent over a connection
    in clear text unless `AllowInsecure` is set; the service account is bound before the search
    only, the login's password is bound only to the one entry that the search for its user gave,
    and is never empty; a connection that was made is closed, and not used afterwards. And
    `verify` says yes exactly if the directory accepted that bind. -/
theorem ldap_verify_keeps_rules (parse : GoString → Except Message GoString) (fmt : Sprintf)
    (cfg : LDAPConfig) (a : LDAPAuthenticator) (hnew : newLDAPAuthenticator parse cfg = .ok a)
    (hdial : cfg.dialURL = []) (user password : GoString) (tr : Trace requests)
    (r : Except GoError Bool) (htr : (a.verify fmt user password).Yields tr r) :
    ∃ m, follow (ldapRules parse fmt a user password).watch .idle tr = some m ∧
      ((m = .idle ∧ password = [] ∧ r = .ok false) ∨
        ∃ vouched, m = .over vouched ∧ (r = .ok true ↔ vouched = true)) := by
  obtain ⟨hurl, hsecured⟩ := newLDAPAuthenticator_secured hnew
  exact (verify_obeys (hurl.trans hdial) hsecured).follow htr

/-- `fmt.Sprintf` on formats whose first verb is `%s`. -/
def putFirst (arg : GoString) : GoString → GoString
  | 0x25 :: 0x73 :: rest => arg ++ rest
  | b :: rest => b :: putFirst arg rest
  | [] => []

def sprintfFirst : Sprintf where
  sprintf format arg := putFirst arg format
  one pre arg post hpre _ := by
    induction pre with
    | nil => rfl
    | cons b pre ih =>
      have hb : b ≠ 0x25 := fun h => hpre (h ▸ List.mem_cons_self)
      have hrest := ih fun h => hpre (List.mem_cons_of_mem b h)
      rw [List.cons_append, List.cons_append, putFirst]
      · rw [hrest]
        rfl
      · intro rest h
        exact absurd h hb

/-- A login at a directory that knows the user and accepts the password. -/
theorem ldap_verify_keeps_rules_login :
    let parse : GoString → Except Message GoString := fun _ => .ok (lit "ldaps")
    let cfg : LDAPConfig := { url := lit "ldaps://dir", baseDN := lit "dc=example" }
    let a : LDAPAuthenticator :=
      { cfg := { cfg with userFilter := lit "(uid=%s)", timeout := 5000000000 } }
    let tr : Trace requests :=
      [⟨.dial (lit "ldaps://dir"), none⟩,
        ⟨.search (a.searchRequest sprintfFirst (lit "erin")), .ok [lit "uid=erin"]⟩,
        ⟨.bind (lit "uid=erin") (lit "pw"), none⟩, ⟨.closeConn, ()⟩]
    follow (ldapRules parse sprintfFirst a (lit "erin") (lit "pw")).watch .idle tr
      = some (.over true) := by
  intro parse cfg a tr
  have htr : (a.verify sprintfFirst (lit "erin") (lit "pw")).Yields tr (.ok true) :=
    .step (.step (.step (.step (.done _))))
  obtain ⟨m, hm, ⟨-, hempty, -⟩ | ⟨vouched, rfl, hiff⟩⟩ :=
    ldap_verify_keeps_rules parse sprintfFirst cfg a rfl rfl (lit "erin") (lit "pw") tr _ htr
  · cases hempty
  · rw [hm, hiff.mp rfl]

/-! ## What is searched for -/

/-- The value in a search filter, up to the parenthesis that ends it. A backslash and two digits
    are a byte; an asterisk would match anything, and an opening parenthesis would begin another
    filter. -/
def readValue : GoString → Option (GoString × GoString)
  | [] => none
  | b :: s =>
      if b = 0x29 then some ([], b :: s)
      else if b = 0x5c then
        match s with
        | h :: l :: s => do
            let h ← hexValue h
            let l ← hexValue l
            let (v, rest) ← readValue s
            return (UInt8.ofNat (16 * h + l) :: v, rest)
        | _ => none
      else if b = 0x28 ∨ b = 0x2a ∨ b = 0x00 then none
      else do
        let (v, rest) ← readValue s
        return (b :: v, rest)

theorem readValue_escapeFilter (user rest : GoString) :
    readValue (escapeFilter user ++ 0x29 :: rest) = some (user, 0x29 :: rest) := by
  induction user with
  | nil =>
    show readValue (0x29 :: rest) = _
    rw [readValue.eq_def]
    exact if_pos rfl
  | cons b user ih =>
    have hcons : escapeFilter (b :: user) = (if mustEscape b then
        [0x5c, hexDigit (b.toNat / 16), hexDigit (b.toNat % 16)] else [b]) ++ escapeFilter user :=
      List.flatMap_cons
    rw [hcons, List.append_assoc]
    by_cases hesc : mustEscape b
    · have hlt := b.toNat_lt
      have hbyte : UInt8.ofNat (16 * (b.toNat / 16) + b.toNat % 16) = b := by
        rw [Nat.div_add_mod, UInt8.ofNat_toNat]
      rw [if_pos hesc, List.cons_append, List.cons_append, List.cons_append, List.nil_append,
        readValue.eq_def]
      dsimp only
      rw [if_neg (by decide), if_pos rfl, hexValue_hexDigit (by omega),
        hexValue_hexDigit (Nat.mod_lt _ (by decide)), ih]
      exact congrArg (fun c => some (c :: user, 0x29 :: rest)) hbyte
    · have hplain : b ≠ 0x29 ∧ b ≠ 0x5c ∧ ¬(b = 0x28 ∨ b = 0x2a ∨ b = 0x00) := by
        simp only [mustEscape, Bool.or_eq_true, not_or, beq_iff_eq] at hesc
        tauto
      rw [if_neg hesc, List.singleton_append, readValue.eq_def]
      dsimp only
      rw [if_neg hplain.1, if_neg hplain.2.1, if_neg hplain.2.2, ih]
      rfl

/-- **A user name is searched for as it is.** Let the filter of the configuration have one `%s`,
    which a parenthesis follows, as the default `(uid=%s)` has. Whatever the client calls its
    user, in the filter that is searched the value reads as exactly that name, and what comes
    before and after it is what the configuration says: no name can match another entry, match
    several, or extend the filter. -/
theorem search_filter_reads_user (fmt : Sprintf) (a : LDAPAuthenticator) (pre post : GoString)
    (hfilter : a.cfg.userFilter = pre ++ lit "%s" ++ lit ")" ++ post) (hpre : 0x25 ∉ pre)
    (hpost : 0x25 ∉ post) (user : GoString) :
    ∃ value, (a.searchRequest fmt user).filter = pre ++ value ∧
      readValue value = some (user, lit ")" ++ post) := by
  refine ⟨escapeFilter user ++ 0x29 :: post, ?_, readValue_escapeFilter user post⟩
  have hone := fmt.one pre (escapeFilter user) (lit ")" ++ post) hpre (by
    rw [List.mem_append, not_or]
    exact ⟨by decide, hpost⟩)
  show fmt.sprintf a.cfg.userFilter (escapeFilter user) = _
  rw [hfilter, List.append_assoc (pre ++ lit "%s"), hone, List.append_assoc]
  rfl

/-- The default filter, and a name that would like to be several. -/
theorem search_filter_reads_user_default :
    ∃ value, (LDAPAuthenticator.searchRequest sprintfFirst
        { cfg := { url := [], baseDN := [], userFilter := lit "(uid=%s)" } }
        (lit "*)(uid=admin")).filter = lit "(uid=" ++ value ∧
      readValue value = some (lit "*)(uid=admin", lit ")" ++ []) :=
  search_filter_reads_user sprintfFirst _ (lit "(uid=") [] rfl (by decide) (by decide) _

/-! ## When a backend vouches for a login -/

/-- The requests, and the answers to them, by which a backend vouches for a password. -/
def Vouched (fmt : Sprintf) (x : External) (user password : GoString) (at' : AuthenType)
    (tr : Trace requests) : Prop :=
  match x with
  | .http a => ∃ status : Int, 200 ≤ status ∧ status < 300 ∧
      tr = [⟨.post a.endpoint (lit "application/json")
          (encode true (httpAuthRequest user password at')), .ok status⟩,
        ⟨.decode, .ok true⟩, ⟨.closeBody, ()⟩]
  | .ldap a => password ≠ [] ∧ ∃ pre dn,
      tr = pre ++ [⟨.search (a.searchRequest fmt user), .ok [dn]⟩, ⟨.bind dn password, none⟩,
        ⟨.closeConn, ()⟩]
  | .pam a => password ≠ [] ∧
      tr = [⟨.pamStart a.service user (converse password), none⟩, ⟨.pamAuthenticate, none⟩,
        ⟨.pamAcctMgmt, none⟩, ⟨.pamEnd, ()⟩]

section Vouched

variable {fmt : Sprintf} {user password : GoString} {at' : AuthenType} {tr : Trace requests}

theorem readResponse_vouched {status : Int}
    (h : (readResponse status).Yields tr (.ok true)) :
    200 ≤ status ∧ status < 300 ∧ tr = [⟨.decode, .ok true⟩] := by
  unfold readResponse at h
  split at h
  · cases (yields_pure h).2
  · next hstatus =>
    obtain ⟨decoded, tr', rfl, h'⟩ := yields_perform_bind h
    cases decoded with
    | error msg => cases (yields_pure h').2
    | ok authenticated =>
      obtain ⟨rfl, hyes⟩ := yields_pure h'
      cases hyes
      exact ⟨by omega, by omega, rfl⟩

theorem http_vouched {a : HTTPAuthenticator}
    (h : (a.verify user password at').Yields tr (.ok true)) :
    Vouched fmt (.http a) user password at' tr := by
  obtain ⟨posted, tr', rfl, h'⟩ := yields_perform_bind h
  cases posted with
  | error msg => cases (yields_pure h').2
  | ok status =>
    obtain ⟨r, tr₁, tr₂, rfl, h₁, h₂⟩ := yields_bind h'
    obtain ⟨⟨⟩, tr₃, rfl, h₃⟩ := yields_perform_bind h₂
    obtain ⟨rfl, rfl⟩ := yields_pure h₃
    obtain ⟨hlow, hhigh, rfl⟩ := readResponse_vouched h₁
    exact ⟨status, hlow, hhigh, rfl⟩

theorem userBind_vouched {dn : GoString}
    (h : (LDAPAuthenticator.userBind dn password).Yields tr (.ok true)) :
    tr = [⟨.bind dn password, none⟩] := by
  obtain ⟨err, tr', rfl, h'⟩ := yields_perform_bind h
  cases err with
  | none =>
    obtain ⟨rfl, -⟩ := yields_pure h'
    rfl
  | some err =>
    dsimp only at h'
    split at h'
    · cases (yields_pure h').2
    · cases (yields_pure h').2

theorem ldap_vouched {a : LDAPAuthenticator}
    (h : (a.verify fmt user password).Yields tr (.ok true)) :
    Vouched fmt (.ldap a) user password at' tr := by
  unfold LDAPAuthenticator.verify at h
  split at h
  · cases (yields_pure h).2
  · next hpassword =>
    refine ⟨hpassword, ?_⟩
    obtain ⟨dialed, tr₁, tr₂, rfl, -, h₂⟩ := yields_bind h
    cases dialed with
    | error err => cases (yields_pure h₂).2
    | ok u =>
      obtain ⟨r, tr₃, tr₄, rfl, h₃, h₄⟩ := yields_bind h₂
      obtain ⟨⟨⟩, tr₅, rfl, h₅⟩ := yields_perform_bind h₄
      obtain ⟨rfl, rfl⟩ := yields_pure h₅
      obtain ⟨bound, tr₆, tr₇, rfl, -, h₇⟩ := yields_bind h₃
      cases bound with
      | error err => cases (yields_pure h₇).2
      | ok u =>
        obtain ⟨found, tr₈, rfl, h₈⟩ := yields_perform_bind h₇
        match found with
        | .error msg => cases (yields_pure h₈).2
        | .ok [] => cases (yields_pure h₈).2
        | .ok [dn] =>
          rw [userBind_vouched h₈]
          exact ⟨tr₁ ++ tr₆, dn, by simp⟩
        | .ok (dn :: dn' :: dns) => cases (yields_pure h₈).2

theorem transact_vouched (h : transact.Yields tr (.ok true)) :
    tr = [⟨.pamAuthenticate, none⟩, ⟨.pamAcctMgmt, none⟩] := by
  obtain ⟨authenticated, tr₁, rfl, h₁⟩ := yields_perform_bind h
  cases authenticated with
  | some msg => cases (yields_pure h₁).2
  | none =>
    obtain ⟨managed, tr₂, rfl, h₂⟩ := yields_perform_bind h₁
    cases managed with
    | some msg => cases (yields_pure h₂).2
    | none =>
      obtain ⟨rfl, -⟩ := yields_pure h₂
      rfl

theorem pam_vouched {a : PAMAuthenticator}
    (h : (a.verify user password).Yields tr (.ok true)) :
    Vouched fmt (.pam a) user password at' tr := by
  unfold PAMAuthenticator.verify at h
  split at h
  · cases (yields_pure h).2
  · next hpassword =>
    refine ⟨hpassword, ?_⟩
    obtain ⟨started, tr', rfl, h'⟩ := yields_perform_bind h
    cases started with
    | some msg => cases (yields_pure h').2
    | none =>
      obtain ⟨r, tr₁, tr₂, rfl, h₁, h₂⟩ := yields_bind h'
      obtain ⟨⟨⟩, tr₃, rfl, h₃⟩ := yields_perform_bind h₂
      obtain ⟨rfl, rfl⟩ := yields_pure h₃
      rw [transact_vouched h₁]
      rfl

/-- `verify` says yes only if the backend has vouched. -/
theorem vouched_of_yields {x : External}
    (h : (x.verify fmt user password at').Yields tr (.ok true)) :
    Vouched fmt x user password at' tr := by
  cases x with
  | http a => exact http_vouched h
  | ldap a => exact ldap_vouched h
  | pam a => exact pam_vouched h

end Vouched

/-! ## Whole runs -/

theorem verified_pass {σ : Type} {r : Except GoError Bool × σ} {dec : AuthenDecision}
    (hdec : (CompositeHandler.looked (verified r)).1 = .ok dec)
    (hpass : dec.status = authenStatusPass) : r.1 = .ok true := by
  match r with
  | (.error err, w) => cases hdec
  | (.ok true, w) => rfl
  | (.ok false, w) =>
    cases hdec
    have hne : authenStatusFail ≠ authenStatusPass := by decide
    exact absurd hpass hne

theorem authenticateBy_pass {σ : Type} {world : World requests σ}
    {verify : GoString → GoString → AuthenType → Verify} {ac : AuthenContext}
    {cont : Option AuthenContinue} {w : σ} {dec : AuthenDecision}
    (hdec : (CompositeHandler.looked (authenticateBy world verify ac cont w)).1 = .ok dec)
    (hpass : dec.status = authenStatusPass) :
    ∃ password, Server.presented ac.start cont = some password ∧
      ((verify ac.start.user password ac.start.type).within world w).1 = .ok true := by
  cases cont with
  | some cont => exact ⟨cont.userMsg, rfl, verified_pass hdec hpass⟩
  | none =>
    unfold authenticateBy at hdec
    by_cases hpap : ac.start.type = authenTypePAP
    · rw [if_pos hpap] at hdec
      exact ⟨ac.start.data, if_pos hpap, verified_pass hdec hpass⟩
    · rw [if_neg hpap] at hdec
      cases hdec
      have hne : authenStatusGetPass ≠ authenStatusPass := by decide
      exact absurd hpass hne

/-- **No PASS unless the backend vouches for it.** A server runs with an external authenticator,
    over a world that answers as it likes and changes as it likes. After any packets and sweeps, a
    packet is answered with PASS only if the requests it led to are a voucher of the backend: for
    the user that the last well-formed START of its session named, and for the password that the
    packet itself carries. An error of the backend, a redirect, an ambiguous search, an expired
    account: whatever is not a plain yes is not a PASS. -/
theorem external_pass_vouched {σ : Type} (fmt : Sprintf) (world : World requests σ) (x : External)
    (h : CompositeHandler σ) (hauth : h.auth = some (x.authenticate fmt world)) (cfg : Config σ)
    (hcfg : cfg.handler = h.handler) (w : σ) (es : List Event) (c : Conn) (t : Times) (p q : Pkt)
    (reply : Packet.AuthenReply)
    (hq : (step (new cfg) (Run.after (step (new cfg)) (State.init cfg w) es)
      (.packet c t p)).2.reply = some q)
    (htype : q.hdr.type = packetAuthentication)
    (hreply : Packet.AuthenReply.unmarshalBinary q.body = .ok reply)
    (hpass : reply.status = authenStatusPass) :
    ∃ start password, lastStart q.hdr.sessionID (es ++ [.packet c t p]) = some start ∧
      Carries start p password ∧
      Vouched fmt x start.user password start.type
        ((x.verify fmt start.user password start.type).traceIn world
          (Run.after (step (new cfg)) (State.init cfg w) es).handler) := by
  obtain ⟨start, cont, dec, hstart, hdec, hst, hcarries⟩ :=
    step_pass (remembers_run (new cfg) (remembers_init cfg w) es) hq htype hreply hpass
  have hasked : (new cfg).cfg.handler.authenticate = fun ac cont w =>
      CompositeHandler.looked (authenticateBy world (x.verify fmt) ac cont w) := by
    rw [show (new cfg).cfg.handler = h.handler from hcfg]
    funext ac cont w
    simp only [CompositeHandler.handler, CompositeHandler.authenticate, hauth]
    rfl
  rw [hasked] at hdec
  obtain ⟨password, hpresented, hyes⟩ := authenticateBy_pass hdec hst
  refine ⟨start, password, hstart, hcarries password hpresented, vouched_of_yields ?_⟩
  rw [← hyes]
  exact yields_within world _ _

/-- A PAP login of `erin`, with a service that says yes to everything. -/
def papLogin : Pkt :=
  clearPkt 9 1 ([1, 1, 2, 1, 4, 0, 0, 2] ++ lit "erin" ++ lit "pw")

def yesWorld : World requests Unit
  | .post _ _ _, w => (.ok 200, w)
  | .decode, w => (.ok true, w)
  | .dial _, w | .startTLS, w => (none, w)
  | .bind _ _, w => (none, w)
  | .search _, w => (.ok [lit "uid=erin"], w)
  | .pamStart _ _ _, w | .pamAuthenticate, w | .pamAcctMgmt, w => (none, w)
  | .closeBody, w | .closeConn, w | .pamEnd, w => ((), w)

def papBackend : External := .http { endpoint := lit "https://auth" }

def papHandler : CompositeHandler Unit where
  auth := some (papBackend.authenticate sprintfFirst yesWorld)

def papConfig : Config Unit := { handler := papHandler.handler, mode := .tls }

theorem external_pass_vouched_pap :
    ∃ start password, lastStart 9 [.packet tlsConn ⟨0, 0⟩ papLogin] = some start ∧
      Carries start papLogin password ∧
      Vouched sprintfFirst papBackend start.user password start.type
        ((papBackend.verify sprintfFirst start.user password start.type).traceIn yesWorld ()) :=
  external_pass_vouched sprintfFirst yesWorld papBackend papHandler rfl papConfig rfl () []
    tlsConn ⟨0, 0⟩ papLogin ⟨errorHeader papLogin.hdr, [1, 0, 0, 0, 0, 0]⟩
    { status := authenStatusPass } (by decide) rfl rfl rfl

end Cli
end Proof
end Tacacs
