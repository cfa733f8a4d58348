import Tacacs.Cli.Composite
import Tacacs.Proof.Connection

/-!
# Accounting that cannot be written

The accounters are documented to keep a failed write from the client of the server: they decide
on success whatever the write says, and return its error for the log. But the server looks at the
error first, and answers it with a status of its own.
-/

set_option autoImplicit false

namespace Tacacs
namespace Proof
namespace Cli

open GoSem
open Tacacs.Cli
open Tacacs.Server (Config State Times handle parseArguments)
open Tacacs.Transport (Conn Pkt)
open Tacacs.Proof.Connection (decodedAcctContext acctBody handle_acct_decoded)
open Tacacs.Proof.Packet (acctReply_realises)

/-- What comes of writing the record of a request. -/
def FileAccounter.written {σ : Type} (a : FileAccounter σ) (ac : Server.AcctContext) (w : σ) :
    Option GoError :=
  (a.encode (fromContext (a.now w) ac) w).1

def SyslogAccounter.written {σ : Type} (a : SyslogAccounter σ) (ac : Server.AcctContext) (w : σ) :
    Option GoError :=
  match a.marshal (fromContext (a.now w) ac) with
  | .error err => some err
  | .ok buf => (a.info buf w).1

/-! ## What the server is told -/

section Told

variable {σ : Type} {h : CompositeHandler σ}

/-- What a call of `Account` comes to for the server, if writing came to `outcome`. -/
def told : Option GoError → Except GoError Server.AcctDecision
  | some err => .error err
  | none => .ok { status := acctStatusSuccess }

theorem file_told {a : FileAccounter σ} (ha : h.ac = some a.account) (ac : Server.AcctContext)
    (w : σ) : (h.handler.account ac w).1 = told (FileAccounter.written a ac w) := by
  simp only [CompositeHandler.handler, CompositeHandler.account, ha, FileAccounter.account,
    FileAccounter.written]
  rcases a.encode (fromContext (a.now w) ac) w with ⟨_ | err, w'⟩ <;> rfl

theorem syslog_told {a : SyslogAccounter σ} (ha : h.ac = some a.account) (ac : Server.AcctContext)
    (w : σ) : (h.handler.account ac w).1 = told (SyslogAccounter.written a ac w) := by
  simp only [CompositeHandler.handler, CompositeHandler.account, ha, SyslogAccounter.account,
    SyslogAccounter.written]
  cases a.marshal (fromContext (a.now w) ac) with
  | error err => rfl
  | ok buf =>
    dsimp only
    rcases a.info buf w with ⟨_ | err, w'⟩ <;> rfl

end Told

/-! ## What the client is told -/

/-- A reply to an accounting request with the status SUCCESS. -/
def RepliesSuccess (p : Pkt) : Prop :=
  ∃ r, Packet.AcctReply.unmarshalBinary p.body = .ok r ∧ r.status = acctStatusSuccess

theorem repliesSuccess_iff {σ : Type} (s : Server σ) (c : Conn) (t : Times) (st : State σ) {p : Pkt}
    (hp : p.hdr.type = packetAccounting) {req : Packet.AcctRequest}
    (hb : Packet.AcctRequest.unmarshalBinary p.body = .ok req)
    (hrec : AcctFlags.record req.flags ≠ .invalid) {args : List Argument}
    (hargs : parseArguments req.args = .ok args) {outcome : Option GoError}
    (hout : (s.cfg.handler.account (decodedAcctContext p.hdr c.remoteAddr req args)
      st.handler).1 = told outcome) :
    RepliesSuccess (handle s c t st p).reply ↔ outcome = none := by
  have hfits : Tacacs.Proof.Packet.acctReplyFormat.Fits (acctBody (told outcome)) := by
    cases outcome <;> exact ⟨Nat.zero_le _, Nat.zero_le _⟩
  obtain ⟨rb, hrb⟩ := (acctReply_realises.encodes_iff _).mpr hfits
  have hasked := handle_acct_decoded s c t st hp hb hrec hargs (hout ▸ hrb)
  have hread : Packet.AcctReply.unmarshalBinary (handle s c t st p).reply.body =
      .ok (acctBody (told outcome)) := by
    rw [hasked.reply]
    exact acctReply_realises.decode_encode hrb
  unfold RepliesSuccess
  rw [hread]
  constructor
  · rintro ⟨r, hr, hstatus⟩
    rw [← Except.ok.inj hr] at hstatus
    cases outcome with
    | none => rfl
    | some err =>
      have hne : acctStatusError ≠ acctStatusSuccess := by decide
      exact absurd hstatus hne
  · rintro rfl
    exact ⟨_, rfl, rfl⟩

/-- The reply to a well-formed request is SUCCESS exactly if its record was written. -/
theorem accounting_success_iff {σ : Type} (h : CompositeHandler σ) (cfg : Config σ)
    (hcfg : cfg.handler = h.handler) (c : Conn) (t : Times) (st : State σ) (p : Pkt)
    (hp : p.hdr.type = packetAccounting) (req : Packet.AcctRequest)
    (hb : Packet.AcctRequest.unmarshalBinary p.body = .ok req)
    (hrec : AcctFlags.record req.flags ≠ .invalid) (args : List Argument)
    (hargs : parseArguments req.args = .ok args) :
    let ac := decodedAcctContext p.hdr c.remoteAddr req args
    let reply := (handle (Server.new cfg) c t st p).reply
    (∀ a : FileAccounter σ, h.ac = some a.account →
      (RepliesSuccess reply ↔ FileAccounter.written a ac st.handler = none)) ∧
    (∀ a : SyslogAccounter σ, h.ac = some a.account →
      (RepliesSuccess reply ↔ SyslogAccounter.written a ac st.handler = none)) := by
  intro ac reply
  have hhandler : (Server.new cfg).cfg.handler = h.handler := hcfg
  constructor
  · intro a ha
    refine repliesSuccess_iff (Server.new cfg) c t st hp hb hrec hargs ?_
    rw [hhandler]
    exact file_told ha ac st.handler
  · intro a ha
    refine repliesSuccess_iff (Server.new cfg) c t st hp hb hrec hargs ?_
    rw [hhandler]
    exact syslog_told ha ac st.handler

/-- An accounter on a full disk. -/
def fullDisk : FileAccounter Unit where
  now _ := lit "2026-01-01T00:00:00Z"
  encode _ w := (some (.other [.text "no space left on device"]), w)

def fullDiskConfig : Config Unit where
  handler := CompositeHandler.handler { ac := some fullDisk.account }
  mode := .tls

/-- A record of the start of a session, without a user and without arguments. -/
def startRequest : Packet.AcctRequest where
  flags := acctFlagStart
  method := 0
  privLvl := 0
  type := 0
  service := 0
  user := []
  port := []
  remAddr := []
  args := []

def startPacket : Pkt where
  hdr := { version := 0xc0, type := packetAccounting, seqNo := 1, flags := 0, sessionID := 7 }
  body := [acctFlagStart, 0, 0, 0, 0, 0, 0, 0, 0]

theorem accounting_success_fullDisk :
    (Packet.AcctRequest.unmarshalBinary startPacket.body = .ok startRequest ∧
        AcctFlags.record startRequest.flags ≠ .invalid ∧
        parseArguments startRequest.args = .ok []) ∧
      (RepliesSuccess (handle (Server.new fullDiskConfig) ⟨.tls, [], []⟩ ⟨0, 0⟩
          (State.init fullDiskConfig ()) startPacket).reply ↔
        FileAccounter.written fullDisk
          (decodedAcctContext startPacket.hdr [] startRequest []) () = none) :=
  ⟨⟨rfl, by decide, rfl⟩,
    (accounting_success_iff { ac := some fullDisk.account } fullDiskConfig rfl ⟨.tls, [], []⟩
      ⟨0, 0⟩ (State.init fullDiskConfig ()) startPacket rfl startRequest rfl (by decide) []
      rfl).1 fullDisk rfl⟩

/-- The record cannot be written, and the client is told of an error. -/
theorem accounting_fullDisk :
    fullDisk.account (decodedAcctContext startPacket.hdr [] startRequest []) () =
        (({ status := acctStatusSuccess }, some (.other [.text "no space left on device"])), ()) ∧
      Packet.AcctReply.unmarshalBinary (handle (Server.new fullDiskConfig) ⟨.tls, [], []⟩ ⟨0, 0⟩
          (State.init fullDiskConfig ()) startPacket).reply.body =
        .ok { status := acctStatusError } :=
  ⟨rfl, rfl⟩

end Cli
end Proof
end Tacacs
