import Tacacs.Cli.AcctLog
import Tacacs.Proof.Cli.Persistence
import Tacacs.Proof.Server.Consults

/-!
# The accounting log

Two things are shown of the log. What stands in it determines the records that were written, up
to bytes that are not UTF-8 (`log_determines_records`): neither a user name nor an argument can
make a record look like another one or like two. And over a whole run of a server, it is the
records of the requests that were answered with SUCCESS, in that order, and behind them at most
the beginning of one that was not (`acctLog_holds_acknowledged`).
-/

set_option autoImplicit false

namespace Tacacs
namespace Proof
namespace Cli

open GoSem GoText GoJson
open Tacacs.Cli
open Tacacs.Server (AcctContext Config Event Seen State handle)
open Tacacs.Transport (Conn Pkt)
open Tacacs.Proof.Server (Consults acctReplyTo handle_consults)

/-! ## What a line says -/

/-- The two texts are the same characters. -/
def SameText (s t : GoString) : Prop := toValid s = toValid t

/-- The same argument, as far as UTF-8 goes. -/
structure SameArgument (a a' : Argument) : Prop where
  mandatory : a.mandatory = a'.mandatory
  name : SameText a.name a'.name
  value : SameText a.value a'.value

/-- The same record, as far as UTF-8 goes. -/
structure SameRecord (r r' : Cli.AcctRecord) : Prop where
  timestamp : SameText r.timestamp r'.timestamp
  sessionID : r.sessionID = r'.sessionID
  seqNo : r.seqNo = r'.seqNo
  record : SameText r.record r'.record
  user : SameText r.user r'.user
  port : SameText r.port r'.port
  remAddr : SameText r.remAddr r'.remAddr
  remote : SameText r.remote r'.remote
  args : List.Forall₂ SameArgument r.args r'.args

/-- What is read under a key. -/
def member (key : GoString) (ms : List (Bytes × Json)) : Option Json :=
  (validMembers ms).lookup key

/-- The text that is read under a key; what is left out is the empty text. -/
def text : Option Json → GoString
  | some (.str s) => s
  | _ => []

section Members

variable {key k s : GoString} {ms ms' : List (Bytes × Json)}

theorem member_cons_self {x : Json} (hascii : toValid key = key) :
    member key ((key, x) :: ms) = some (valid x) := by
  rw [member, validMembers, hascii, List.lookup_cons_self]

theorem member_cons_ne {x : Json} (hascii : toValid k = k) (hne : key ≠ k) :
    member key ((k, x) :: ms) = member key ms := by
  rw [member, validMembers, hascii, List.lookup_cons, beq_false_of_ne hne]
  rfl

theorem member_stringMember_self (hascii : toValid key = key) (hms : member key ms = none) :
    text (member key (stringMember key s ++ ms)) = toValid s := by
  unfold stringMember
  split
  · next hs =>
    rw [hs, List.nil_append, hms]
    rfl
  · rw [List.cons_append, member_cons_self hascii]
    rfl

theorem member_stringMember_ne (hascii : toValid k = k) (hne : key ≠ k) :
    member key (stringMember k s ++ ms) = member key ms := by
  unfold stringMember
  split
  · rfl
  · exact member_cons_ne hascii hne

theorem member_argsMember_ne {args : List Argument} (hne : key ≠ lit "args") :
    member key (argsMember args) = none := by
  unfold argsMember
  split
  · rfl
  · exact member_cons_ne (by decide) hne

end Members

/-- The elements that are read under a key; what is left out is the empty array. -/
def elements : Option Json → List Json
  | some (.arr xs) => xs
  | _ => []

theorem elements_argsMember (args : List Argument) :
    elements (member (lit "args") (argsMember args)) =
      args.map fun a => valid (argumentJson a) := by
  unfold argsMember
  split
  · next hargs =>
    rw [hargs]
    rfl
  · rw [member_cons_self (by decide), valid, validElements_eq_map, List.map_map]
    rfl

theorem sameArgument_of_valid_eq {a a' : Argument}
    (h : valid (argumentJson a) = valid (argumentJson a')) : SameArgument a a' := by
  simp only [argumentJson, valid, validMembers, Json.obj.injEq, List.cons.injEq, Prod.mk.injEq,
    Json.bool.injEq, Json.str.injEq, true_and, and_true] at h
  exact ⟨h.1, h.2.1, h.2.2⟩

theorem forall₂_of_map_eq {α β : Type} {f : α → β} {R : α → α → Prop}
    (hR : ∀ x y, f x = f y → R x y) {xs ys : List α} (h : xs.map f = ys.map f) :
    List.Forall₂ R xs ys := by
  induction xs generalizing ys with
  | nil =>
    rw [List.map_eq_nil_iff.mp h.symm]
    exact .nil
  | cons x xs ih =>
    cases ys with
    | nil => cases h
    | cons y ys =>
      obtain ⟨hx, hxs⟩ := List.cons.inj h
      exact .cons (hR x y hx) (ih hxs)

/-- What is read of the line of a record. -/
structure ReadsAs (r : Cli.AcctRecord) (ms : List (Bytes × Json)) : Prop where
  timestamp : member (lit "ts") ms = some (.str (toValid r.timestamp))
  sessionID : member (lit "session_id") ms = some (.num r.sessionID.toNat)
  seqNo : member (lit "seq_no") ms = some (.num r.seqNo.toNat)
  record : member (lit "record") ms = some (.str (toValid r.record))
  user : text (member (lit "user") ms) = toValid r.user
  port : text (member (lit "port") ms) = toValid r.port
  remAddr : text (member (lit "rem_addr") ms) = toValid r.remAddr
  remote : text (member (lit "remote") ms) = toValid r.remote
  args : elements (member (lit "args") ms) = r.args.map fun a => valid (argumentJson a)

/-- A key that is not one of the first four is looked for among the others. -/
theorem member_required_ne {key : GoString} {r : Cli.AcctRecord} {ms : List (Bytes × Json)}
    (hts : key ≠ lit "ts") (hid : key ≠ lit "session_id") (hseq : key ≠ lit "seq_no")
    (hrec : key ≠ lit "record") :
    member key ([(lit "ts", .str r.timestamp), (lit "session_id", .num r.sessionID.toNat),
      (lit "seq_no", .num r.seqNo.toNat), (lit "record", .str r.record)] ++ ms) =
        member key ms := by
  rw [List.cons_append, member_cons_ne (by decide) hts, List.cons_append,
    member_cons_ne (by decide) hid, List.cons_append, member_cons_ne (by decide) hseq,
    List.cons_append, member_cons_ne (by decide) hrec, List.nil_append]

theorem members_readsAs (r : Cli.AcctRecord) : ReadsAs r r.members := by
  simp only [AcctRecord.members, List.append_assoc]
  refine ⟨?_, ?_, ?_, ?_, ?_, ?_, ?_, ?_, ?_⟩
  · exact member_cons_self (by decide)
  · exact (member_cons_ne (by decide) (by decide)).trans (member_cons_self (by decide))
  · exact (member_cons_ne (by decide) (by decide)).trans
      ((member_cons_ne (by decide) (by decide)).trans (member_cons_self (by decide)))
  · exact (member_cons_ne (by decide) (by decide)).trans
      ((member_cons_ne (by decide) (by decide)).trans
        ((member_cons_ne (by decide) (by decide)).trans (member_cons_self (by decide))))
  all_goals rw [member_required_ne (by decide) (by decide) (by decide) (by decide)]
  · refine member_stringMember_self (by decide) ?_
    rw [member_stringMember_ne (by decide) (by decide),
      member_stringMember_ne (by decide) (by decide),
      member_stringMember_ne (by decide) (by decide), member_argsMember_ne (by decide)]
  · rw [member_stringMember_ne (by decide) (by decide)]
    refine member_stringMember_self (by decide) ?_
    rw [member_stringMember_ne (by decide) (by decide),
      member_stringMember_ne (by decide) (by decide), member_argsMember_ne (by decide)]
  · rw [member_stringMember_ne (by decide) (by decide),
      member_stringMember_ne (by decide) (by decide)]
    refine member_stringMember_self (by decide) ?_
    rw [member_stringMember_ne (by decide) (by decide), member_argsMember_ne (by decide)]
  · rw [member_stringMember_ne (by decide) (by decide),
      member_stringMember_ne (by decide) (by decide),
      member_stringMember_ne (by decide) (by decide)]
    exact member_stringMember_self (by decide) (member_argsMember_ne (by decide))
  · rw [member_stringMember_ne (by decide) (by decide),
      member_stringMember_ne (by decide) (by decide),
      member_stringMember_ne (by decide) (by decide),
      member_stringMember_ne (by decide) (by decide)]
    exact elements_argsMember r.args

/-- What is read of a line determines the record. -/
theorem sameRecord_of_valid_eq {r r' : Cli.AcctRecord}
    (h : valid (.obj r.members) = valid (.obj r'.members)) : SameRecord r r' := by
  have hms : validMembers r.members = validMembers r'.members := Json.obj.inj h
  have hmember : ∀ key, member key r.members = member key r'.members := fun key =>
    congrArg (List.lookup key) hms
  have hr := members_readsAs r
  have hr' := members_readsAs r'
  refine ⟨?_, ?_, ?_, ?_, ?_, ?_, ?_, ?_, ?_⟩
  · exact Json.str.inj (Option.some.inj
      ((hr.timestamp.symm.trans (hmember _)).trans hr'.timestamp))
  · exact UInt32.toNat_inj.mp (Json.num.inj (Option.some.inj
      ((hr.sessionID.symm.trans (hmember _)).trans hr'.sessionID)))
  · exact UInt8.toNat_inj.mp (Json.num.inj (Option.some.inj
      ((hr.seqNo.symm.trans (hmember _)).trans hr'.seqNo)))
  · exact Json.str.inj (Option.some.inj ((hr.record.symm.trans (hmember _)).trans hr'.record))
  · exact (hr.user.symm.trans (congrArg text (hmember _))).trans hr'.user
  · exact (hr.port.symm.trans (congrArg text (hmember _))).trans hr'.port
  · exact (hr.remAddr.symm.trans (congrArg text (hmember _))).trans hr'.remAddr
  · exact (hr.remote.symm.trans (congrArg text (hmember _))).trans hr'.remote
  · exact forall₂_of_map_eq (fun _ _ => sameArgument_of_valid_eq)
      ((hr.args.symm.trans (congrArg elements (hmember _))).trans hr'.args)

theorem sameRecord_of_json_eq {escapeHTML : Bool} {r r' : Cli.AcctRecord}
    (h : r.json escapeHTML = r'.json escapeHTML) : SameRecord r r' :=
  sameRecord_of_valid_eq (valid_eq_of_encode_eq h)

/-! ## What a log says -/

/-- A log, as the records it is made of. -/
def logOf (rs : List Cli.AcctRecord) : Bytes := rs.flatMap AcctRecord.line

theorem logOf_cons (r : Cli.AcctRecord) (rs : List Cli.AcctRecord) :
    logOf (r :: rs) = r.json false ++ 0x0a :: logOf rs := by
  rw [logOf, List.flatMap_cons, AcctRecord.line, List.append_assoc]
  rfl

/-- **Log entries cannot be forged.** Two logs with the same text consist of the same records, as
    many of them and in the same order: whatever the client puts into user, port, address or
    arguments, it cannot make its record look like another one, or like several. All that is lost
    is the difference between bytes that are not UTF-8. The same holds for the text of one record
    that is sent to syslog. -/
theorem log_determines_records (rs rs' : List Cli.AcctRecord) :
    (logOf rs = logOf rs' → List.Forall₂ SameRecord rs rs') ∧
      ∀ r r' : Cli.AcctRecord, r.json true = r'.json true → SameRecord r r' := by
  refine ⟨?_, fun _ _ => sameRecord_of_json_eq⟩
  have hne : ∀ (r : Cli.AcctRecord) rs, logOf (r :: rs) ≠ [] := by
    intro r rs h
    rw [logOf_cons] at h
    exact List.append_ne_nil_of_right_ne_nil _ (List.cons_ne_nil _ _) h
  induction rs generalizing rs' with
  | nil =>
    intro h
    cases rs' with
    | nil => exact .nil
    | cons r' rs' => exact absurd h.symm (hne r' rs')
  | cons r rs ih =>
    intro h
    cases rs' with
    | nil => exact absurd h (hne r rs)
    | cons r' rs' =>
      rw [logOf_cons, logOf_cons] at h
      obtain ⟨hr, hrs⟩ := (append_cons_inj_left (newline_not_mem_encode _ _)
        (newline_not_mem_encode _ _)).mp h
      exact .cons (sameRecord_of_json_eq hr) (ih rs' hrs)

/-! ## What the log holds -/

/-- A request that was answered with SUCCESS. -/
def acknowledged (o : Seen) : Option AcctContext :=
  match o.calls, o.reply with
  | [.account ac], some p =>
      match Packet.AcctReply.unmarshalBinary p.body with
      | .ok r => if r.status = acctStatusSuccess then some ac else none
      | .error _ => none
  | _, _ => none

/-- `r` is the record of a request, whatever the time was. -/
def RecordOf (ac : AcctContext) (r : Cli.AcctRecord) : Prop := ∃ now, r = fromContext now ac

/-- What the log holds after some requests, of which `os` was seen: the records of those that were
    answered with SUCCESS, and after a failed write, for good, the beginning of one that was
    not. -/
def Holds {δ : Type} (content : Bytes) (os : List Seen) (f : LogFile δ) : Prop :=
  ∃ rs torn, List.Forall₂ RecordOf (os.filterMap acknowledged) rs ∧
    f.content = content ++ logOf rs ++ torn ∧ (f.err = none → torn = []) ∧
    (torn ≠ [] → ∃ o ∈ os, ∃ ac r, o.calls = [.account ac] ∧ acknowledged o = none ∧
      RecordOf ac r ∧ torn <+: r.line)

section Holds

variable {δ : Type} {content : Bytes} {os : List Seen} {f : LogFile δ}

theorem Holds.unchanged (h : Holds content os f) {o : Seen} (ho : acknowledged o = none) :
    Holds content (os ++ [o]) f := by
  obtain ⟨rs, torn, hrs, hcontent, herr, htorn⟩ := h
  refine ⟨rs, torn, ?_, hcontent, herr, fun hne => ?_⟩
  · rw [List.filterMap_append, List.filterMap_cons_none ho, List.filterMap_nil, List.append_nil]
    exact hrs
  · obtain ⟨o', ho', hrest⟩ := htorn hne
    exact ⟨o', List.mem_append_left _ ho', hrest⟩

/-- A record is encoded. -/
theorem Holds.encode (h : Holds content os f) (d : Disk δ) {ac : AcctContext} {r : Cli.AcctRecord}
    (hr : RecordOf ac r) {o : Seen} (hcalls : o.calls = [.account ac])
    (ho : acknowledged o = if (f.encode d r).1 = none then some ac else none) :
    Holds content (os ++ [o]) (f.encode d r).2 := by
  unfold LogFile.encode at ho ⊢
  cases herr : f.err with
  | some err =>
    rw [herr] at ho
    exact h.unchanged ho
  | none =>
    rw [herr] at ho
    obtain ⟨rs, torn, hrs, hcontent, hnone, htorn⟩ := h
    rw [hnone herr, List.append_nil] at hcontent
    rcases hwrite : d.write r.line f.disk with ⟨_ | ⟨n, err⟩, disk⟩
    · rw [hwrite] at ho
      refine ⟨rs ++ [r], [], ?_, ?_, fun _ => rfl, fun hne => absurd rfl hne⟩
      · rw [List.filterMap_append, List.filterMap_cons_some ho]
        exact List.rel_append hrs (.cons hr .nil)
      · show f.content ++ r.line = _
        rw [hcontent, logOf, logOf, List.flatMap_append, List.flatMap_singleton, List.append_nil,
          List.append_assoc]
    · rw [hwrite] at ho
      refine ⟨rs, r.line.take n, ?_, ?_, fun hnone => (by cases hnone), fun _ => ?_⟩
      · rw [List.filterMap_append, List.filterMap_cons_none ho, List.filterMap_nil,
          List.append_nil]
        exact hrs
      · show f.content ++ r.line.take n = _
        rw [hcontent]
      · exact ⟨o, List.mem_append_right _ List.mem_cons_self, ac, r, hcalls, ho, hr,
          List.take_prefix n r.line⟩

end Holds

/-- A part of a handler that does not touch the log. -/
structure LeavesLog {δ : Type} (h : CompositeHandler (LogFile δ)) : Prop where
  auth : ∀ auth, h.auth = some auth → ∀ ac cont f, (auth ac cont f).2 = f
  az : ∀ az, h.az = some az → ∀ ac f, (az ac f).2 = f

section Run

variable {δ : Type} {h : CompositeHandler (LogFile δ)} {d : Disk δ} {now : LogFile δ → GoString}

theorem authenticate_leaves (hleaves : LeavesLog h) (ac : Server.AuthenContext)
    (cont : Option Server.AuthenContinue) (f : LogFile δ) :
    (h.handler.authenticate ac cont f).2 = f := by
  refine (CompositeHandler.looked_snd _).trans ?_
  unfold CompositeHandler.authenticate
  cases hauth : h.auth with
  | none => rfl
  | some auth => exact hleaves.auth auth hauth ac cont f

theorem authorize_leaves (hleaves : LeavesLog h) (ac : Server.AuthorContext) (f : LogFile δ) :
    (h.handler.authorize ac f).2 = f := by
  refine (CompositeHandler.looked_snd _).trans ?_
  unfold CompositeHandler.authorize
  cases haz : h.az with
  | none => rfl
  | some az => exact hleaves.az az haz ac f

/-- A call of `Account` is one record encoded, and its error is what the server is told. -/
theorem account_encodes (hac : h.ac = some (newFileAccounter d now).account) (ac : AcctContext)
    (f : LogFile δ) :
    h.handler.account ac f = (told (f.encode d (fromContext (now f) ac)).1,
      (f.encode d (fromContext (now f) ac)).2) := by
  simp only [CompositeHandler.handler, CompositeHandler.account, hac, FileAccounter.account,
    newFileAccounter]
  rcases f.encode d (fromContext (now f) ac) with ⟨_ | err, f'⟩ <;> rfl

/-- The reply to a request is SUCCESS exactly if its record was written. -/
theorem acknowledged_told (hdr : Packet.Header) (ac : AcctContext) (outcome : Option GoError) :
    acknowledged { calls := [.account ac], reply := some (acctReplyTo hdr (told outcome)) } =
      if outcome = none then some ac else none := by
  cases outcome <;> rfl

theorem holds_step (hleaves : LeavesLog h) (hac : h.ac = some (newFileAccounter d now).account)
    {cfg : Config (LogFile δ)} (hcfg : cfg.handler = h.handler) {content : Bytes}
    {os : List Seen} {st : State (LogFile δ)} (hst : Holds content os st.handler) (e : Event) :
    let r := Server.step (Server.new cfg) st e
    Holds content (os ++ [r.2]) r.1.handler := by
  intro r
  have hhandler : (Server.new cfg).cfg.handler = h.handler := hcfg
  cases e with
  | sweep t => exact hst.unchanged rfl
  | packet c t p =>
    have hr : r = ((handle (Server.new cfg) c t st p).st,
      { calls := (handle (Server.new cfg) c t st p).calls,
        reply := some (handle (Server.new cfg) c t st p).reply }) := rfl
    rw [hr]
    cases handle_consults (Server.new cfg) c t st p with
    | unasked hcalls hw =>
      rw [hcalls, hw]
      exact hst.unchanged rfl
    | authenticate ac cont hcalls hw hreply =>
      rw [hcalls, hw, hhandler, authenticate_leaves hleaves]
      exact hst.unchanged rfl
    | authorize ac hcalls hw hreply =>
      rw [hcalls, hw, hhandler, authorize_leaves hleaves]
      exact hst.unchanged rfl
    | account ac hcalls hw hreply =>
      rw [hhandler, account_encodes hac] at hw hreply
      rw [hcalls, hw, hreply]
      exact hst.encode d ⟨_, rfl⟩ rfl (acknowledged_told p.hdr ac _)

/-- **What is acknowledged is in the log, and nothing else.** A server whose accounter writes to a
    file handles any packets on any connections, one after the other, while the disk accepts some
    writes and fails others, after any number of bytes. Afterwards the file holds what it held
    before, and then the records of exactly the requests that were answered with SUCCESS, in
    their order. Only after a failed write there may be something else at its end: the beginning
    of one record whose request was answered with an error; and nothing is written after it. -/
theorem acctLog_holds_acknowledged (h : CompositeHandler (LogFile δ)) (d : Disk δ)
    (now : LogFile δ → GoString) (hleaves : LeavesLog h)
    (hac : h.ac = some (newFileAccounter d now).account) (cfg : Config (LogFile δ))
    (hcfg : cfg.handler = h.handler) (st : State (LogFile δ)) (es : List Event) :
    Holds st.handler.content (Run.outputs (Server.step (Server.new cfg)) st es)
      (Run.after (Server.step (Server.new cfg)) st es).handler := by
  refine Run.run_induction (Server.step (Server.new cfg))
    (fun _ os st' => Holds st.handler.content os st'.handler) ?_ ?_ es
  · refine ⟨[], [], .nil, ?_, fun _ => rfl, fun hne => absurd rfl hne⟩
    rw [List.append_nil]
    exact (List.append_nil _).symm
  · intro _ os st' e hst
    exact holds_step hleaves hac hcfg hst e

end Run

/-- A disk with room for so many bytes. -/
def smallDisk : Disk Nat where
  write b room :=
    if b.length ≤ room then (none, room - b.length)
    else (some (room, .other [.text "no space left on device"]), 0)

def smallDiskHandler : CompositeHandler (LogFile Nat) where
  ac := some (newFileAccounter smallDisk fun _ => lit "2026-01-01T00:00:00Z").account

/-- The same request three times, on a disk with room for a record and a half. -/
theorem acctLog_holds_acknowledged_twice :
    let cfg : Config (LogFile Nat) := { handler := smallDiskHandler.handler, mode := .tls }
    let st : State (LogFile Nat) :=
      { sessions := Server.newSessionManager 0, handler := { content := [], disk := 120 } }
    let es := List.replicate 3 (Event.packet ⟨.tls, [], []⟩ ⟨0, 0⟩ startPacket)
    LeavesLog smallDiskHandler ∧
      Holds [] (Run.outputs (Server.step (Server.new cfg)) st es)
        (Run.after (Server.step (Server.new cfg)) st es).handler := by
  intro cfg st es
  have hleaves : LeavesLog smallDiskHandler :=
    ⟨fun _ hauth => (by cases hauth), fun _ haz => (by cases haz)⟩
  exact ⟨hleaves, acctLog_holds_acknowledged smallDiskHandler smallDisk _ hleaves rfl cfg rfl st
    es⟩

end Cli
end Proof
end Tacacs
