import Tacacs.Proof.Cli.AcctLog
import Tacacs.Proof.Cli.Login
import Tacacs.Proof.Server.Consults
import Tacacs.Proof.Server.Rules

/-!
# `authz` and `acct`, and the test server

These two commands make one call of a client, which is one call of the handler
(`perform_tracks`). Of its answer only the status matters for the exit status.
-/

set_option autoImplicit false

namespace Tacacs
namespace Proof
namespace Cli

open GoSem Tacacs.Cli Tacacs.Client Tacacs.Connection Tacacs.Protocol Tacacs.Transport
open Tacacs.Server (AcctDecision AuthorDecision Bcrypt Config CommandRule State actionDeny
  actionPermit extractCmd hasPrefix)
open Tacacs.Proof.Arguments (WellNamed)
open Tacacs.Proof.Connection
open Tacacs.Proof.Transport (length_flatten_le length_requestTail)
open Tacacs.Proof.Packet (RequestFits acctReply_realises acctRequest_realises authorReply_realises
  authorRequest_realises requestTail)
open Tacacs.Proof.Server (Grants authorizeRules_eq firstMatch noBcrypt presented verdict)

/-! ## What the commands send -/

/-- The arguments of a command are few, and can be told from their text. -/
structure CommandArgs (args : List Argument) : Prop where
  named : ∀ a ∈ args, WellNamed a
  few : args.length ≤ 2

/-- What a command can send. -/
structure CommandFits (user : GoString) (args : List Argument) : Prop where
  user : user.length ≤ 255
  args : ∀ a ∈ args, a.string.length ≤ 255

section Request

variable {user : GoString} {args : List Argument}

theorem CommandArgs.requestFits_iff (hargs : CommandArgs args) :
    RequestFits user portName [] (args.map Argument.string) ↔ CommandFits user args := by
  have hport : portName.length ≤ 0xff := by decide
  constructor
  · rintro ⟨huser, -, -, hlen, -⟩
    exact ⟨huser, fun a ha => hlen _ (List.mem_map_of_mem ha)⟩
  · rintro ⟨huser, hlen⟩
    refine ⟨huser, hport, Nat.zero_le _, ?_, ?_⟩
    · intro b hb
      obtain ⟨a, ha, rfl⟩ := List.mem_map.mp hb
      exact hlen a ha
    · rw [List.length_map]
      exact hargs.few.trans (by decide)

theorem CommandArgs.argumentsFit (hargs : CommandArgs args) (h : CommandFits user args) :
    ArgumentsFit args := ⟨hargs.named, h.args, hargs.few.trans (by decide)⟩

/-- A command never comes near the bound on packets. -/
theorem CommandArgs.length_requestTail_le (hargs : CommandArgs args) (h : CommandFits user args) :
    (requestTail user portName [] (args.map Argument.string)).length ≤ 800 := by
  obtain ⟨huser, -, -, hfit, -⟩ := hargs.requestFits_iff.mpr h
  have hflat := length_flatten_le hfit
  have hfew := hargs.few
  have hport : portName.length = 10 := by decide
  rw [length_requestTail, hport]
  rw [List.length_map] at hflat ⊢
  rw [List.length_nil]
  omega

/-- The names that the commands use hold no separator. -/
theorem wellNamed_command {name : GoString} (h : name ∈ [lit "service", lit "cmd", lit "task_id"])
    (value : GoString) : WellNamed ⟨true, name, value⟩ := by
  have hnames : ∀ name ∈ [lit "service", lit "cmd", lit "task_id"],
      name ≠ [] ∧ argSeparatorMandatory ∉ name ∧ argSeparatorOptional ∉ name := by decide
  exact hnames name h

theorem commandArgs_authz (f : AuthzFlags) : CommandArgs (authzRequest f).args := by
  have hservice := wellNamed_command (show lit "service" ∈ _ by decide) f.service
  have hcmd := wellNamed_command (show lit "cmd" ∈ _ by decide) f.cmd
  unfold authzRequest
  split
  · exact ⟨by simpa using hservice, by simp⟩
  · exact ⟨by simpa using ⟨hservice, hcmd⟩, by simp⟩

theorem commandArgs_acct (f : AcctCmdFlags) (flags : AcctFlags) (taskID : GoString) :
    CommandArgs (acctRequest f flags taskID).args := by
  refine ⟨?_, Nat.le_refl 2⟩
  intro a ha
  rcases List.mem_pair.mp ha with rfl | rfl
  · exact wellNamed_command (by decide) taskID
  · exact wellNamed_command (by decide) (lit "shell")

theorem length_string (name value : GoString) :
    (Argument.string ⟨true, name, value⟩).length = name.length + 1 + value.length := by
  simp [Argument.string]
  omega

/-- The arguments of `authz` fit by the lengths of its flags. -/
theorem commandFits_authz_iff (f : AuthzFlags) :
    CommandFits f.username (authzRequest f).args ↔
      f.username.length ≤ 255 ∧ f.service.length ≤ 247 ∧ f.cmd.length ≤ 251 := by
  have hservice : (lit "service").length = 7 := by decide
  have hcmd : (lit "cmd").length = 3 := by decide
  unfold authzRequest
  split
  · next hempty =>
    rw [hempty]
    constructor
    · rintro ⟨huser, hargs⟩
      have h := hargs _ (.head _)
      rw [length_string] at h
      exact ⟨huser, by omega, Nat.zero_le _⟩
    · rintro ⟨huser, hlen, -⟩
      refine ⟨huser, fun a ha => ?_⟩
      rw [List.mem_singleton.mp ha, length_string]
      omega
  · constructor
    · rintro ⟨huser, hargs⟩
      have h := hargs _ (.head _)
      have h' := hargs _ (.tail _ (.head _))
      rw [length_string] at h h'
      exact ⟨huser, by omega, by omega⟩
    · rintro ⟨huser, hlen, hlen'⟩
      refine ⟨huser, fun a ha => ?_⟩
      rcases List.mem_pair.mp ha with rfl | rfl
      · rw [length_string]
        omega
      · rw [length_string]
        omega

theorem length_randomTaskID (b : Bytes) : (randomTaskID b).length = 2 * b.length := by
  unfold randomTaskID
  rw [List.length_flatMap]
  simp [Nat.mul_comm]

theorem commandFits_acct_iff (f : AcctCmdFlags) (flags : AcctFlags) {random : Bytes}
    (hrandom : random.length = 8) :
    CommandFits f.username (acctRequest f flags (randomTaskID random)).args ↔
      f.username.length ≤ 255 := by
  refine ⟨fun h => h.user, fun h => ⟨h, ?_⟩⟩
  intro a ha
  rcases List.mem_pair.mp ha with rfl | rfl
  · have htask : (lit "task_id").length = 7 := by decide
    rw [length_string, length_randomTaskID, hrandom, htask]
    decide
  · decide

end Request

/-! ## What becomes of them -/

section Run

variable {σ : Type} (s : Tacacs.Server σ) (md5 : Crypto.Md5) {c d : Conn} (clock : Clock)
variable (hmode : d.mode = c.mode) (hsecret : d.secret = c.secret) (id : UInt32) (st : State σ)

include hmode hsecret in
/-- The first call on a connection: what it returns, and the handler afterwards. -/
theorem perform_first {req : Request} (hreq : Acceptable req)
    (hans : (ask s.cfg.handler id d.remoteAddr ⟨st.handler, []⟩ req).2.Fits) :
    let x := perform (connect s md5 c d clock) (newSession .client id, Pipe.fresh st ()) req
    let a := ask s.cfg.handler id d.remoteAddr ⟨st.handler, []⟩ req
    x.2 = a.2.result ∧ x.1.2.st.handler = a.1.handler := by
  have htracks : Tracks d id (newSession .client id, Pipe.fresh st ()) ⟨st.handler, []⟩ :=
    ⟨rfl, idle_fresh d st (), rfl, rfl⟩
  obtain ⟨hresult, hafter⟩ :=
    perform_tracks s md5 clock hmode hsecret htracks ⟨Nat.zero_lt_succ 127, hreq, hans⟩
  exact ⟨hresult, hafter.handler⟩

/-! ### `authz` -/

theorem acceptable_authz {f : AuthzFlags} (h : CommandFits f.username (authzRequest f).args) :
    Acceptable (.authorize (authzRequest f)) := by
  have hargs := commandArgs_authz f
  have hport : portName.length ≤ 255 := by decide
  refine ⟨hargs.argumentsFit h, h.user, hport, Nat.zero_le _,
    withinPacket_of_bytes authorRequest_realises ?_⟩
  have htail := hargs.length_requestTail_le h
  show ((Packet.authorRequestFixed _) ++ _).length ≤ maxPacketSize
  rw [List.length_append]
  exact (Nat.add_le_add_left htail 7).trans (by decide)

theorem authorize_misfit {ν : Type} {f : AuthzFlags} (l : Link ν) (x : Session × ν)
    (h : ¬CommandFits f.username (authzRequest f).args) :
    (authorize l (authzRequest f) x.1 x.2).err ≠ none := by
  unfold authorize exchange
  cases hsb : (authzRequest f).packet.marshalBinary with
  | ok sb =>
    exact absurd ((commandArgs_authz f).requestFits_iff.mp
      ((authorRequest_realises.encodes_iff _).mp ⟨sb, hsb⟩)) h
  | error fault => exact Option.some_ne_none fault

/-- An answer without arguments fits if its text does. -/
theorem answerFits_plain (status : AuthorStatus) {serverMsg : GoString}
    (h : serverMsg.length ≤ 65530) : (Answer.authorize (.ok { status, serverMsg })).Fits := by
  have hnone : ArgumentsFit [] :=
    ⟨fun a ha => (by cases ha), fun a ha => (by cases ha), Nat.zero_le _⟩
  refine ⟨hnone, h.trans (by decide), withinPacket_of_bytes authorReply_realises ?_⟩
  show (Packet.authorReplyFixed _ ++ ([] ++ (serverMsg ++ ([] ++ []) ++ []))).length ≤ maxPacketSize
  rw [List.length_append, List.nil_append, List.append_nil, List.append_nil, List.append_nil]
  exact Nat.add_le_add_left h 6

/-- FOLLOW grants nothing, whatever it is taken for. -/
theorem grants_followed (status : AuthorStatus) :
    Grants (if status = authorStatusFollow then authorStatusFail else status) ↔ Grants status := by
  split
  · next hfollow =>
    rw [hfollow]
    unfold Grants
    decide
  · rfl

theorem authzEnding_exitCode {ν : Type} (o : Outcome AuthorResult ν) :
    (authzEnding o).exitCode = 0 ↔ o.err = none ∧ Grants o.value.status := by
  unfold authzEnding Grants
  cases o.err with
  | some err => cases err <;> simp [Ending.exitCode]
  | none =>
    by_cases hgrants : o.value.status = authorStatusPassAdd ∨ o.value.status = authorStatusPassRepl
    · simp [Ending.exitCode, hgrants]
    · simp [Ending.exitCode, hgrants]

theorem authzEnding_answered {ν : Type} {o : Outcome AuthorResult ν}
    {answer : Except GoError AuthorDecision}
    (h : Result.authorize o.value o.err = (Answer.authorize answer).result) :
    (authzEnding o).exitCode = 0 ↔ ∃ dec, answer = .ok dec ∧ Grants dec.status := by
  rw [authzEnding_exitCode]
  cases answer with
  | error err =>
    obtain ⟨hvalue, -⟩ := Result.authorize.inj h
    have hnot : ¬Grants authorStatusError := by unfold Grants; decide
    rw [hvalue]
    simp [hnot]
  | ok dec =>
    obtain ⟨hvalue, herr⟩ := Result.authorize.inj h
    rw [hvalue, herr]
    simp [grants_followed]

include hmode hsecret in
/-- The command says what the handler says. -/
theorem runAuthz_exitCode (f : AuthzFlags) {answer : Except GoError AuthorDecision}
    (hanswer : (s.cfg.handler.authorize (authorContext id 1 d.remoteAddr (authzRequest f))
      st.handler).1 = answer) (hfits : (Answer.authorize answer).Fits) :
    (runAuthz f (.ok (dialed s md5 c d clock id st))).exitCode = 0 ↔
      f.username ≠ [] ∧ CommandFits f.username (authzRequest f).args ∧
        ∃ dec, answer = .ok dec ∧ Grants dec.status := by
  subst hanswer
  unfold runAuthz
  by_cases huser : f.username = []
  · rw [if_pos huser]
    exact iff_of_false (by decide) fun h => h.1 huser
  rw [if_neg huser, and_iff_right huser]
  by_cases hsent : CommandFits f.username (authzRequest f).args
  · rw [and_iff_right hsent]
    exact authzEnding_answered
      (perform_first s md5 clock hmode hsecret id st (acceptable_authz hsent) hfits).1
  · refine iff_of_false (fun h => ?_) fun h => hsent h.1
    exact authorize_misfit _ (_, _) hsent ((authzEnding_exitCode _).mp h).1

/-! ### `acct` -/

theorem acceptable_acct {f : AcctCmdFlags} {flags : AcctFlags} {taskID : GoString}
    (hflags : parseAcctFlags f.action = .ok flags)
    (h : CommandFits f.username (acctRequest f flags taskID).args) :
    Acceptable (.account (acctRequest f flags taskID)) := by
  have hargs := commandArgs_acct f flags taskID
  have hport : portName.length ≤ 255 := by decide
  have hrecord : AcctFlags.record flags ≠ .invalid := by
    unfold parseAcctFlags at hflags
    repeat' split at hflags
    all_goals cases hflags
    all_goals decide
  refine ⟨hrecord, hargs.argumentsFit h, h.user, hport, Nat.zero_le _,
    withinPacket_of_bytes acctRequest_realises ?_⟩
  have htail := hargs.length_requestTail_le h
  show ((Packet.acctRequestFixed _) ++ _).length ≤ maxPacketSize
  rw [List.length_append]
  exact (Nat.add_le_add_left htail 8).trans (by decide)

theorem account_misfit {ν : Type} {f : AcctCmdFlags} {flags : AcctFlags} {taskID : GoString}
    (l : Link ν) (x : Session × ν)
    (h : ¬CommandFits f.username (acctRequest f flags taskID).args) :
    (account l (acctRequest f flags taskID) x.1 x.2).err ≠ none := by
  unfold account exchange
  cases hsb : (acctRequest f flags taskID).packet.marshalBinary with
  | ok sb =>
    exact absurd ((commandArgs_acct f flags taskID).requestFits_iff.mp
      ((acctRequest_realises.encodes_iff _).mp ⟨sb, hsb⟩)) h
  | error fault => exact Option.some_ne_none fault

theorem acctEnding_exitCode {ν : Type} (taskID : GoString) (o : Outcome AcctResult ν) :
    (acctEnding taskID o).exitCode = 0 ↔ o.err = none ∧ o.value.status = acctStatusSuccess := by
  unfold acctEnding
  cases o.err with
  | some err => cases err <;> simp [Ending.exitCode]
  | none =>
    by_cases hsuccess : o.value.status = acctStatusSuccess
    · simp [Ending.exitCode, hsuccess]
    · simp [Ending.exitCode, hsuccess]

theorem acctEnding_answered {ν : Type} {o : Outcome AcctResult ν} {taskID : GoString}
    {answer : Except GoError AcctDecision}
    (h : Result.account o.value o.err = (Answer.account answer).result) :
    (acctEnding taskID o).exitCode = 0 ↔
      ∃ dec, answer = .ok dec ∧ dec.status = acctStatusSuccess := by
  rw [acctEnding_exitCode]
  cases answer with
  | error err =>
    obtain ⟨hvalue, -⟩ := Result.account.inj h
    have hnot : acctStatusError ≠ acctStatusSuccess := by decide
    rw [hvalue]
    simp [hnot]
  | ok dec =>
    obtain ⟨hvalue, herr⟩ := Result.account.inj h
    have hfollowed : (if dec.status = acctStatusFollow then acctStatusError else dec.status)
        = acctStatusSuccess ↔ dec.status = acctStatusSuccess := by
      split
      · next hfollow =>
        rw [hfollow]
        decide
      · rfl
    rw [hvalue, herr]
    simp [hfollowed]

theorem answerFits_acct {answer : Except GoError AcctDecision}
    (h : ∀ dec, answer = .ok dec → dec.serverMsg.length ≤ 65531) :
    (Answer.account answer).Fits := by
  cases answer with
  | error err => trivial
  | ok dec =>
    have hlen := h dec rfl
    refine ⟨hlen.trans (by decide), withinPacket_of_bytes acctReply_realises ?_⟩
    show (Packet.acctReplyFixed _ ++ (dec.serverMsg ++ ([] ++ []))).length ≤ maxPacketSize
    rw [List.length_append, List.append_nil, List.append_nil]
    exact Nat.add_le_add_left hlen 5

theorem runAcct_unknown {f : AcctCmdFlags} {err : GoError}
    (hflags : parseAcctFlags f.action = .error err) (random : Bytes)
    (dial : Except GoError (Dialed (Pipe σ Unit))) : (runAcct f random dial).exitCode ≠ 0 := by
  unfold runAcct
  split
  · decide
  · rw [hflags]
    exact Nat.one_ne_zero

include hmode hsecret in
/-- The command says what the handler says. -/
theorem runAcct_exitCode {f : AcctCmdFlags} {flags : AcctFlags}
    (hflags : parseAcctFlags f.action = .ok flags) {random : Bytes} (hrandom : random.length = 8)
    {answer : Except GoError AcctDecision}
    (hanswer : (s.cfg.handler.account (acctContext id 1 d.remoteAddr
      (acctRequest f flags (randomTaskID random))) st.handler).1 = answer)
    (hmsg : ∀ dec, answer = .ok dec → dec.serverMsg.length ≤ 65531) :
    (runAcct f random (.ok (dialed s md5 c d clock id st))).exitCode = 0 ↔
      f.username ≠ [] ∧ f.username.length ≤ 255 ∧
        ∃ dec, answer = .ok dec ∧ dec.status = acctStatusSuccess := by
  subst hanswer
  unfold runAcct
  by_cases huser : f.username = []
  · rw [if_pos huser]
    exact iff_of_false (by decide) fun h => h.1 huser
  rw [if_neg huser, and_iff_right huser, hflags, ← commandFits_acct_iff f flags hrandom]
  by_cases hsent : CommandFits f.username (acctRequest f flags (randomTaskID random)).args
  · rw [and_iff_right hsent]
    exact acctEnding_answered (perform_first s md5 clock hmode hsecret id st
      (acceptable_acct hflags hsent) (answerFits_acct hmsg)).1
  · refine iff_of_false (fun h => ?_) fun h => hsent h.1
    exact account_misfit _ (_, _) hsent ((acctEnding_exitCode _ _).mp h).1

end Run

/-! ## The two servers -/

/-- The command that is read back out of the request. -/
theorem extractCmd_authz (f : AuthzFlags) : extractCmd (authzRequest f).args = f.cmd := by
  unfold authzRequest
  split
  · next hempty =>
    rw [hempty]
    rfl
  · rfl

theorem verdict_grants_iff (r : CommandRule) :
    Grants (verdict r).status ↔ r.action ≠ actionDeny := by
  unfold verdict Grants
  split
  · next hdeny => exact iff_of_false (by decide) fun h => h hdeny
  · next hdeny =>
    refine iff_of_true ?_ hdeny
    dsimp only
    split
    · exact .inr rfl
    · exact .inl rfl

/-- **What may be done, by `authz`.** For any server with the rules of a configuration, in any
    state, and any connection to it on which the two ends agree: the command exits with status 0
    if and only if its flags fit into a request, and the first rule that matches the command and
    the service is not a denial. What the rules set must fit into a reply. -/
theorem authz_succeeds_iff {α : Type} (bcrypt : Bcrypt) (external : Option (Authenticator α))
    (acct : Option (Accounter α)) (s : Tacacs.Server (Parts α))
    (hs : s.cfg.handler = (configHandler bcrypt external acct).handler) (md5 : Crypto.Md5)
    (c d : Conn) (clock : Clock) (hmode : d.mode = c.mode) (hsecret : d.secret = c.secret)
    (id : UInt32) (st : State (Parts α))
    (hset : ∀ r ∈ st.handler.backends.az.rules, (Answer.authorize (.ok (verdict r))).Fits)
    (f : AuthzFlags) :
    (runAuthz f (.ok (dialed s md5 c d clock id st))).exitCode = 0 ↔
      (f.username ≠ [] ∧ f.username.length ≤ 255 ∧ f.service.length ≤ 247 ∧
        f.cmd.length ≤ 251) ∧
      ∃ r, firstMatch st.handler.backends.az.rules f.cmd (authzRequest f).args = some r ∧
        r.action ≠ actionDeny := by
  have hanswer : (s.cfg.handler.authorize (authorContext id 1 d.remoteAddr (authzRequest f))
      st.handler).1 = .ok (authorizeRules (extractCmd (authzRequest f).args) (authzRequest f).args
        st.handler.backends.az.rules) := by
    rw [hs]
    rfl
  rw [extractCmd_authz, authorizeRules_eq] at hanswer
  cases hmatch : firstMatch st.handler.backends.az.rules f.cmd (authzRequest f).args with
  | none =>
    rw [hmatch] at hanswer
    have hnot : ¬Grants authorStatusFail := by unfold Grants; decide
    rw [runAuthz_exitCode s md5 clock hmode hsecret id st f hanswer
      (answerFits_plain _ (by decide))]
    simp [hnot]
  | some r =>
    rw [hmatch] at hanswer
    have hfits := hset r (List.mem_of_find?_eq_some hmatch)
    rw [runAuthz_exitCode s md5 clock hmode hsecret id st f hanswer hfits,
      commandFits_authz_iff f]
    simp [verdict_grants_iff, and_assoc]

/-- Rules that deny `reload` and permit everything else in a shell. -/
def shellBackends : AaaBackends where
  auth := newBcryptAuthenticator none
  az := { rules := [
    { action := actionDeny, «match» := [⟨true, lit "cmd", lit "reload"⟩] },
    { action := actionPermit, «match» := [⟨true, lit "service", lit "shell"⟩] }] }

theorem authz_succeeds_iff_show :
    let cfg : Config (Parts Unit) :=
      { handler := (configHandler noBcrypt none none).handler, mode := .legacy }
    let conn : Conn := { mode := .legacy, secret := lit "key", remoteAddr := lit "10.0.0.1:4949" }
    (runAuthz { username := lit "alice", cmd := lit "show" }
      (.ok (dialed (Tacacs.Server.new cfg) default conn conn ⟨fun _ => ⟨0, 0⟩, fun _ => []⟩ 7
        (State.init cfg { backends := shellBackends, rest := () })))).exitCode = 0 := by
  intro cfg conn
  refine (authz_succeeds_iff noBcrypt none none (Tacacs.Server.new cfg) rfl default conn conn _ rfl
    rfl 7 _ ?_ { username := lit "alice", cmd := lit "show" }).mpr ?_
  · intro r hr
    rcases List.mem_pair.mp hr with rfl | rfl
    · exact answerFits_plain _ (by decide)
    · exact answerFits_plain _ (by decide)
  · exact ⟨by decide, _, rfl, by decide⟩

/-! ### The server with an accounting log -/

section Log

variable {δ : Type}

/-- The line of a record was appended, or no more than its beginning. -/
def Appended (ok : Prop) (r : Cli.AcctRecord) (before after : Bytes) : Prop :=
  (ok → after = before ++ r.line) ∧ ∃ n, after = before ++ r.line.take n

theorem encode_appended (disk : Disk δ) (r : Cli.AcctRecord) (file : LogFile δ) :
    Appended ((file.encode disk r).1 = none) r file.content (file.encode disk r).2.content := by
  unfold LogFile.encode
  cases file.err with
  | some err => exact ⟨fun h => (by cases h), 0, (List.append_nil _).symm⟩
  | none =>
    rcases disk.write r.line file.disk with ⟨_ | ⟨n, err⟩, disk'⟩
    · exact ⟨fun _ => rfl, r.line.length, by rw [List.take_length]⟩
    · exact ⟨fun h => (by cases h), n, rfl⟩

/-- What is put on record for `acct`. -/
def acctRecord (f : AcctCmdFlags) (now : GoString) (id : UInt32) (remoteAddr taskID : GoString) :
    Cli.AcctRecord where
  timestamp := now
  sessionID := id
  seqNo := 1
  record := f.action
  user := f.username
  port := portName
  remAddr := []
  remote := remoteAddr
  args := [⟨true, lit "task_id", taskID⟩, ⟨true, lit "service", lit "shell"⟩]

/-- Nothing is masked, and the action is what the flag says. -/
theorem fromContext_acct {f : AcctCmdFlags} {flags : AcctFlags}
    (hflags : parseAcctFlags f.action = .ok flags) (now taskID remoteAddr : GoString)
    (id : UInt32) :
    fromContext now (acctContext id 1 remoteAddr (acctRequest f flags taskID)) =
      acctRecord f now id remoteAddr taskID := by
  have hclassify : classify flags = f.action := by
    unfold parseAcctFlags at hflags
    repeat' split at hflags
    all_goals cases hflags
    all_goals simp only [*]
    all_goals rfl
  have hmask : [(⟨true, lit "task_id", taskID⟩ : Argument), ⟨true, lit "service", lit "shell"⟩].map
      mask = [⟨true, lit "task_id", taskID⟩, ⟨true, lit "service", lit "shell"⟩] := by
    have htask : isSensitive (lit "task_id") = false := by decide
    have hservice : isSensitive (lit "service") = false := by decide
    simp [mask, htask, hservice]
  simp only [fromContext, acctContext, acctRequest, hclassify, hmask, acctRecord]

/-- The server after the call that `acct` makes. -/
def afterAcct {σ : Type} (client : Dialed (Pipe σ Unit)) (f : AcctCmdFlags) (flags : AcctFlags)
    (random : Bytes) : State σ :=
  (account client.link (acctRequest f flags (randomTaskID random)) client.sess
    client.outside).outside.st

/-- **What `acct` reports is in the log.** A server that writes to a file, in any state and with any
    disk, over any connection on which the two ends agree. If the command exits with status 0, the
    line of its record has been added to the file: with the user, the action and the task number
    that the command prints. Otherwise no more than the beginning of the line has. -/
theorem acct_logs (h : CompositeHandler (LogFile δ)) (disk : Disk δ) (now : LogFile δ → GoString)
    (hac : h.ac = some (newFileAccounter disk now).account) (s : Tacacs.Server (LogFile δ))
    (hs : s.cfg.handler = h.handler) (md5 : Crypto.Md5) (c d : Conn) (clock : Clock)
    (hmode : d.mode = c.mode) (hsecret : d.secret = c.secret) (id : UInt32) (st : State (LogFile δ))
    (f : AcctCmdFlags) (huser : f.username ≠ []) (hlen : f.username.length ≤ 255)
    (flags : AcctFlags) (hflags : parseAcctFlags f.action = .ok flags) (random : Bytes)
    (hrandom : random.length = 8) :
    Appended ((runAcct f random (.ok (dialed s md5 c d clock id st))).exitCode = 0)
      (acctRecord f (now st.handler) id d.remoteAddr (randomTaskID random)) st.handler.content
      (afterAcct (dialed s md5 c d clock id st) f flags random).handler.content := by
  generalize hrecord : acctRecord f (now st.handler) id d.remoteAddr (randomTaskID random) = record
  have hcalled : s.cfg.handler.account (acctContext id 1 d.remoteAddr
      (acctRequest f flags (randomTaskID random))) st.handler =
        (told (st.handler.encode disk record).1, (st.handler.encode disk record).2) := by
    rw [hs, account_encodes hac, fromContext_acct hflags, hrecord]
  have hmsg : ∀ dec, told (st.handler.encode disk record).1 = .ok dec →
      dec.serverMsg.length ≤ 65531 := by
    intro dec hdec
    cases hencode : (st.handler.encode disk record).1 with
    | none =>
      rw [hencode] at hdec
      cases hdec
      decide
    | some err =>
      rw [hencode] at hdec
      cases hdec
  have hexit : (runAcct f random (.ok (dialed s md5 c d clock id st))).exitCode = 0 ↔
      (st.handler.encode disk record).1 = none := by
    rw [runAcct_exitCode s md5 clock hmode hsecret id st hflags hrandom
      (congrArg Prod.fst hcalled) hmsg, and_iff_right huser, and_iff_right hlen]
    cases (st.handler.encode disk record).1 with
    | none => exact iff_of_true ⟨_, rfl, rfl⟩ rfl
    | some err => simp [told]
  have hfits : (Answer.account (s.cfg.handler.account (acctContext id 1 d.remoteAddr
      (acctRequest f flags (randomTaskID random))) st.handler).1).Fits := by
    rw [hcalled]
    exact answerFits_acct hmsg
  have hafter : (afterAcct (dialed s md5 c d clock id st) f flags random).handler =
      (st.handler.encode disk record).2 :=
    (perform_first s md5 clock hmode hsecret id st (acceptable_acct hflags
      ((commandFits_acct_iff f flags hrandom).mpr hlen)) hfits).2.trans (congrArg Prod.snd hcalled)
  rw [hafter, hexit]
  exact encode_appended disk record st.handler

def loggingServer : Config (LogFile Nat) :=
  { handler := smallDiskHandler.handler, mode := .tls }

/-- `alice`, and a disk with room for one record. -/
theorem acct_logs_alice :
    let conn : Conn := { mode := .tls, secret := [], remoteAddr := lit "10.0.0.1:4949" }
    let client := dialed (Tacacs.Server.new loggingServer) default conn conn
      ⟨fun _ => ⟨0, 0⟩, fun _ => []⟩ 7 (State.init loggingServer { content := [], disk := 400 })
    let f : AcctCmdFlags := { username := lit "alice" }
    let random : Bytes := [1, 2, 3, 4, 5, 6, 7, 8]
    Appended ((runAcct f random (.ok client)).exitCode = 0)
      (acctRecord f (lit "2026-01-01T00:00:00Z") 7 conn.remoteAddr (randomTaskID random)) []
      (afterAcct client f acctFlagStart random).handler.content :=
  acct_logs smallDiskHandler smallDisk (fun _ => lit "2026-01-01T00:00:00Z") rfl
    (Tacacs.Server.new loggingServer) rfl default
    { mode := .tls, secret := [], remoteAddr := lit "10.0.0.1:4949" }
    { mode := .tls, secret := [], remoteAddr := lit "10.0.0.1:4949" }
    ⟨fun _ => ⟨0, 0⟩, fun _ => []⟩ rfl rfl 7
    (State.init loggingServer { content := [], disk := 400 }) { username := lit "alice" }
    (by decide) (by decide) acctFlagStart rfl [1, 2, 3, 4, 5, 6, 7, 8] rfl

end Log

/-! ### The test server -/

/-- The one password of the test server. -/
def staticPasswords : Passwords := fun user _ =>
  (staticUsers.lookup user).map fun pw given => given = pw

theorem asksForPassword_static : AsksForPassword staticHandler fun _ => staticPasswords := by
  intro ac cont hs
  show ∃ serverMsg : GoString, serverMsg.length ≤ 65530 ∧ (staticAuthenticate ac cont, hs) = _
  unfold staticAuthenticate loginStatus staticPasswords presented
  beta_reduce
  cases staticUsers.lookup ac.start.user with
  | none => exact ⟨lit "unknown user", by decide, rfl⟩
  | some pw =>
    dsimp only [Option.map_some]
    cases cont with
    | none =>
      dsimp only
      split
      · by_cases hpw : ac.start.data = pw
        · exact ⟨[], by decide, by simp [hpw]⟩
        · exact ⟨lit "bad password", by decide, by simp [hpw]⟩
      · exact ⟨lit "Password:", by decide, rfl⟩
    | some cont =>
      by_cases hpw : cont.userMsg = pw
      · exact ⟨[], by decide, by simp [hpw]⟩
      · exact ⟨lit "bad password", by decide, by simp [hpw]⟩

theorem accepts_static_iff {user password : GoString} {type : AuthenType} :
    Accepts staticPasswords user type password ↔
      user = lit "admin" ∧ password = lit "admin123" := by
  unfold Accepts staticPasswords staticUsers
  rw [List.lookup_cons]
  by_cases hadmin : user = lit "admin"
  · simp [hadmin]
  · simp [hadmin, beq_false_of_ne hadmin]

/-- What is said to `authz`: the command is all that is looked at. -/
theorem staticAuthorize_authz (id : UInt32) (remoteAddr : GoString) (f : AuthzFlags) :
    staticAuthorize (authorContext id 1 remoteAddr (authzRequest f)) =
      .ok { status := if hasPrefix f.cmd (lit "show") then authorStatusPassAdd
                      else authorStatusFail } := by
  have hservice : lit "service" ≠ lit "cmd" := by decide
  unfold staticAuthorize authorContext authzRequest
  by_cases hempty : f.cmd = []
  · simp [hempty, hservice, show hasPrefix [] (lit "show") = false by decide]
  · by_cases hshow : hasPrefix f.cmd (lit "show") = true
    · simp [hempty, hservice, hshow]
    · simp [hempty, hservice, hshow]

theorem parseAcctFlags_iff {action : GoString} :
    (∃ flags, parseAcctFlags action = .ok flags) ↔
      action ∈ [lit "start", lit "stop", lit "watchdog"] := by
  unfold parseAcctFlags
  constructor
  · rintro ⟨flags, h⟩
    repeat' split at h
    all_goals cases h
    all_goals simp [*]
  · intro h
    simp only [List.mem_cons, List.not_mem_nil, or_false] at h
    rcases h with rfl | rfl | rfl
    · exact ⟨_, rfl⟩
    · exact ⟨_, rfl⟩
    · exact ⟨_, rfl⟩

section Static

variable (s : Tacacs.Server Unit) (hs : s.cfg.handler = staticHandler) (md5 : Crypto.Md5)
variable {c d : Conn} (clock : Clock) (hmode : d.mode = c.mode) (hsecret : d.secret = c.secret)
variable (id : UInt32) (st : State Unit)
include hs hmode hsecret

theorem static_auth
    (hsweeps : ∀ n, ∀ now ∈ clock.sweeps (n + 1), now - (clock.times n).later ≤ st.sessions.ttl)
    (f : AuthFlags) {line : Except GoError GoString}
    (hline : ∀ msg, line = .ok msg → msg.length ≤ 65531) :
    (runAuth f (.ok (dialed s md5 c d clock id st)) (typing line)).exitCode = 0 ↔
      f.username = lit "admin" ∧ ((f.type = lit "pap" ∧ f.password = lit "admin123") ∨
        (f.type = lit "ascii" ∧ f.password = [] ∧ line = .ok (lit "admin123"))) := by
  have hasks : AsksForPassword s.cfg.handler fun _ => staticPasswords :=
    hs ▸ asksForPassword_static
  rw [runAuth_exitCode s md5 clock hmode hsecret hasks id hsweeps hline]
  constructor
  · rintro ⟨-, type, htype, -, -, ⟨rfl, haccepts⟩ | ⟨rfl, hempty, msg, rfl, haccepts⟩⟩
    · obtain ⟨huser, hpassword⟩ := accepts_static_iff.mp haccepts
      exact ⟨huser, .inl ⟨parseAuthenType_pap.mp htype, hpassword⟩⟩
    · obtain ⟨huser, rfl⟩ := accepts_static_iff.mp haccepts
      exact ⟨huser, .inr ⟨parseAuthenType_ascii.mp htype, hempty, rfl⟩⟩
  · rintro ⟨huser, hpassword⟩
    have hlong : f.username ≠ [] ∧ f.username.length ≤ 255 := by
      rw [huser]
      decide
    refine ⟨hlong.1, ?_⟩
    rcases hpassword with ⟨htype, hpassword⟩ | ⟨htype, hempty, rfl⟩
    · refine ⟨authenTypePAP, parseAuthenType_pap.mpr htype, hlong.2, by rw [hpassword]; decide,
        .inl ⟨rfl, ?_⟩⟩
      exact accepts_static_iff.mpr ⟨huser, hpassword⟩
    · refine ⟨authenTypeASCII, parseAuthenType_ascii.mpr htype, hlong.2, by rw [hempty]; decide,
        .inr ⟨rfl, hempty, _, rfl, ?_⟩⟩
      exact accepts_static_iff.mpr ⟨huser, rfl⟩

theorem static_authz (f : AuthzFlags) :
    (runAuthz f (.ok (dialed s md5 c d clock id st))).exitCode = 0 ↔
      f.username ≠ [] ∧ f.username.length ≤ 255 ∧ f.service.length ≤ 247 ∧ f.cmd.length ≤ 251 ∧
        hasPrefix f.cmd (lit "show") = true := by
  have hanswer : (s.cfg.handler.authorize (authorContext id 1 d.remoteAddr (authzRequest f))
      st.handler).1 = staticAuthorize (authorContext id 1 d.remoteAddr (authzRequest f)) := by
    rw [hs]
    rfl
  rw [staticAuthorize_authz] at hanswer
  have hgrants : Grants (if hasPrefix f.cmd (lit "show") then authorStatusPassAdd
      else authorStatusFail) ↔ hasPrefix f.cmd (lit "show") = true := by
    unfold Grants
    split
    · next hshow => exact iff_of_true (.inl rfl) hshow
    · next hshow => exact iff_of_false (by decide) hshow
  rw [runAuthz_exitCode s md5 clock hmode hsecret id st f hanswer
    (answerFits_plain _ (Nat.zero_le _)), commandFits_authz_iff f]
  simp [hgrants, and_assoc]

theorem static_acct (f : AcctCmdFlags) {random : Bytes} (hrandom : random.length = 8) :
    (runAcct f random (.ok (dialed s md5 c d clock id st))).exitCode = 0 ↔
      f.username ≠ [] ∧ f.username.length ≤ 255 ∧
        f.action ∈ [lit "start", lit "stop", lit "watchdog"] := by
  rw [← parseAcctFlags_iff]
  cases hflags : parseAcctFlags f.action with
  | error err =>
    refine iff_of_false (runAcct_unknown hflags random _) ?_
    rintro ⟨-, -, flags, hok⟩
    cases hok
  | ok flags =>
    have hanswer : (s.cfg.handler.account (acctContext id 1 d.remoteAddr
        (acctRequest f flags (randomTaskID random))) st.handler).1
          = .ok { status := acctStatusSuccess } := by
      rw [hs]
      rfl
    rw [runAcct_exitCode s md5 clock hmode hsecret id st hflags hrandom hanswer ?_]
    · simp
    · intro dec hdec
      cases hdec
      decide

end Static

/-- **The test server.** The server without `--config`, over any connection on which the two ends
    agree. `auth` exits with status 0 if and only if it is a login of `admin` with the password
    `admin123`, in the START of a PAP login or typed in an ASCII login; `authz` if and only if the
    command begins with `show` and the request fits, whoever asks; and `acct` if and only if the
    action is one of the three and the user name fits. -/
theorem static_succeeds_iff (s : Tacacs.Server Unit) (hs : s.cfg.handler = staticHandler)
    (md5 : Crypto.Md5) (c d : Conn) (clock : Clock) (hmode : d.mode = c.mode)
    (hsecret : d.secret = c.secret) (id : UInt32) (st : State Unit)
    (hsweeps : ∀ n, ∀ now ∈ clock.sweeps (n + 1), now - (clock.times n).later ≤ st.sessions.ttl) :
    let server := Except.ok (dialed s md5 c d clock id st)
    (∀ (f : AuthFlags) (line : Except GoError GoString),
      (∀ msg, line = .ok msg → msg.length ≤ 65531) →
      ((runAuth f server (typing line)).exitCode = 0 ↔ f.username = lit "admin" ∧
        ((f.type = lit "pap" ∧ f.password = lit "admin123") ∨
          (f.type = lit "ascii" ∧ f.password = [] ∧ line = .ok (lit "admin123"))))) ∧
    (∀ f : AuthzFlags, (runAuthz f server).exitCode = 0 ↔
      f.username ≠ [] ∧ f.username.length ≤ 255 ∧ f.service.length ≤ 247 ∧ f.cmd.length ≤ 251 ∧
        hasPrefix f.cmd (lit "show") = true) ∧
    (∀ (f : AcctCmdFlags) (random : Bytes), random.length = 8 →
      ((runAcct f random server).exitCode = 0 ↔ f.username ≠ [] ∧ f.username.length ≤ 255 ∧
        f.action ∈ [lit "start", lit "stop", lit "watchdog"])) :=
  ⟨fun f _ hline => static_auth s hs md5 clock hmode hsecret id st hsweeps f hline,
    fun f => static_authz s hs md5 clock hmode hsecret id st f,
    fun f _ hrandom => static_acct s hs md5 clock hmode hsecret id st f hrandom⟩

/-- `admin` logs in, may `show version`, and leaves a record. -/
theorem static_succeeds_iff_admin :
    let cfg : Config Unit := { handler := staticHandler, mode := .legacy }
    let conn : Conn := { mode := .legacy, secret := lit "key", remoteAddr := lit "10.0.0.1:4949" }
    let server := Except.ok (dialed (Tacacs.Server.new cfg) default conn conn
      ⟨fun _ => ⟨0, 0⟩, fun _ => []⟩ 7 (State.init cfg ()))
    (runAuth { username := lit "admin", password := lit "admin123", type := lit "pap" } server
        (typing (.error .eof))).exitCode = 0 ∧
      (runAuthz { username := lit "admin", cmd := lit "show version" } server).exitCode = 0 ∧
      (runAcct { username := lit "admin" } [1, 2, 3, 4, 5, 6, 7, 8] server).exitCode = 0 := by
  intro cfg conn server
  obtain ⟨hauth, hauthz, hacct⟩ := static_succeeds_iff (Tacacs.Server.new cfg) rfl default conn conn
    ⟨fun _ => ⟨0, 0⟩, fun _ => []⟩ rfl rfl 7 (State.init cfg ()) (fun n now hnow => (by cases hnow))
  refine ⟨(hauth _ _ fun msg hmsg => (by cases hmsg)).mpr ⟨rfl, .inl ⟨rfl, rfl⟩⟩,
    (hauthz _).mpr (by decide), (hacct _ _ rfl).mpr (by decide)⟩

end Cli
end Proof
end Tacacs
