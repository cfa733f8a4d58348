import Tacacs.Lib.Run
import Tacacs.Proof.Packet.Bodies
import Tacacs.Proof.Server.Sequence
import Tacacs.Protocol

/-!
# What the registry says, and what was sent

The registry is meant to remember the sessions that owe the server a CONTINUE, with the number
of the last reply to each. Both are statements about the **history**: the last packet written
for an id. `handleAuthen` keeps them on the paths its author thought of, and each of the two
theorems here names the steps on which it does not.

* A decoder that refuses a packet leaves the session as it was, although an error was sent.
* Any status but PASS, FAIL and ERROR keeps the session, also FOLLOW, RESTART and the statuses
  nobody defined, although only GETUSER, GETPASS and GETDATA ask for a CONTINUE.
* A decision that does not encode is sent as an error, after the session was kept.

Each fact about one step is an equivalence, so over a run the property holds throughout **if and
only if** no such step is taken (`Run.forall_prefix_iff`).
-/

set_option autoImplicit false

namespace Tacacs
namespace Proof
namespace Server

open GoSem Tacacs.Packet Tacacs.Transport Tacacs.Protocol
open Tacacs.Server hiding AuthenStart AuthenContinue

variable {σ : Type}

/-! ## Authentication packets one at a time -/

/-- An authentication packet, the connection it comes on and the times of its handling. -/
structure Inbound where
  conn : Conn
  times : Times
  pkt : Pkt
  authen : pkt.hdr.type = packetAuthentication

def inboundStep (s : Server σ) (st : State σ) (i : Inbound) : State σ × Seen :=
  step s st (.packet i.conn i.times i.pkt)

/-- The last packet written for session `id`. -/
def lastWritten (id : UInt32) (seen : List Seen) : Option Pkt :=
  ((seen.filterMap Seen.reply).filter fun p => p.hdr.sessionID == id).getLast?

/-- The step of the session a packet is addressed to. -/
def reaction (s : Server σ) (st : State σ) (i : Inbound) : Reaction σ :=
  reactAuthen s i.conn i.times st.handler (st.sessions.get i.pkt.hdr.sessionID) i.pkt.hdr
    i.pkt.body

theorem inbound_acts (s : Server σ) (st : State σ) (i : Inbound) :
    Acts st i.pkt.hdr.sessionID (reaction s st i) (handle s i.conn i.times st i.pkt) := by
  have hacts := handle_acts s i.conn i.times st i.pkt
  unfold react at hacts
  rw [if_pos i.authen] at hacts
  exact hacts

theorem get_inboundStep_self (s : Server σ) (st : State σ) (i : Inbound) :
    (inboundStep s st i).1.sessions.get i.pkt.hdr.sessionID = (reaction s st i).entry :=
  (inbound_acts s st i).get_self

theorem get_inboundStep_ne (s : Server σ) (st : State σ) (i : Inbound) {k : UInt32}
    (hk : k ≠ i.pkt.hdr.sessionID) :
    (inboundStep s st i).1.sessions.get k = st.sessions.get k :=
  (inbound_acts s st i).get_ne hk

theorem reply_inboundStep (s : Server σ) (st : State σ) (i : Inbound) :
    (inboundStep s st i).2.reply = some (reaction s st i).reply :=
  congrArg some (inbound_acts s st i).reply

theorem reaction_reply_hdr (s : Server σ) (st : State σ) (i : Inbound) :
    (reaction s st i).reply.hdr = errorHeader i.pkt.hdr :=
  reactAuthen_reply_hdr s i.conn i.times st.handler _ i.pkt.hdr i.pkt.body

theorem lastWritten_snoc (id : UInt32) (seen : List Seen) {o : Seen} {p : Pkt}
    (h : o.reply = some p) :
    lastWritten id (seen ++ [o])
      = if p.hdr.sessionID = id then some p else lastWritten id seen := by
  unfold lastWritten
  rw [List.filterMap_append, List.filterMap_cons_some h, List.filterMap_nil, List.filter_append]
  by_cases hid : p.hdr.sessionID = id
  · rw [if_pos hid, List.filter_cons_of_pos (by simpa using hid), List.filter_nil,
      List.getLast?_concat]
  · rw [if_neg hid, List.filter_cons_of_neg (by simpa using hid), List.filter_nil,
      List.append_nil]

theorem lastWritten_step_self (s : Server σ) (seen : List Seen) (st : State σ) (i : Inbound) :
    lastWritten i.pkt.hdr.sessionID (seen ++ [(inboundStep s st i).2])
      = some (reaction s st i).reply := by
  rw [lastWritten_snoc _ _ (reply_inboundStep s st i), reaction_reply_hdr]
  exact if_pos rfl

theorem lastWritten_step_ne (s : Server σ) (seen : List Seen) (st : State σ) (i : Inbound)
    {k : UInt32} (hk : k ≠ i.pkt.hdr.sessionID) :
    lastWritten k (seen ++ [(inboundStep s st i).2]) = lastWritten k seen := by
  rw [lastWritten_snoc _ _ (reply_inboundStep s st i), reaction_reply_hdr]
  exact if_neg hk.symm

/-- A property of every session, by what its entry is and what was last written for it, is kept
    by a step iff the session of the packet has it afterwards. -/
theorem sessions_step_iff (s : Server σ) {Q : Option SessionContext → Option Pkt → Prop}
    {seen : List Seen} {st : State σ} (i : Inbound)
    (h : ∀ k, Q (st.sessions.get k) (lastWritten k seen)) :
    (∀ k, Q ((inboundStep s st i).1.sessions.get k)
      (lastWritten k (seen ++ [(inboundStep s st i).2]))) ↔
      Q (reaction s st i).entry (some (reaction s st i).reply) := by
  constructor
  · intro hall
    have hid := hall i.pkt.hdr.sessionID
    rwa [get_inboundStep_self, lastWritten_step_self] at hid
  · intro hid k
    by_cases hk : k = i.pkt.hdr.sessionID
    · rw [hk, get_inboundStep_self, lastWritten_step_self]
      exact hid
    · rw [get_inboundStep_ne s st i hk, lastWritten_step_ne s seen st i hk]
      exact h k

/-! ## Who is registered -/

/-- The packet is a REPLY that asks for a CONTINUE. -/
def Solicits (p : Pkt) : Prop :=
  ∃ r, AuthenReply.unmarshalBinary p.body = .ok r ∧ needsContinue r.status = true

/-- An answer that ends the session as the server understands it, or asks for a CONTINUE and
    encodes. -/
def Settles : Except GoError AuthenDecision → Prop
  | .error _ => True
  | .ok dec => endsSession dec.status = true ∨
      needsContinue dec.status = true ∧ ∃ b, (replyBody dec).marshalBinary = .ok b

/-- The step leaves the registry in agreement with what it sends. -/
def KeepsMembership (s : Server σ) (st : State σ) (i : Inbound) : Prop :=
  let entry := st.sessions.get i.pkt.hdr.sessionID
  let ask start cont :=
    (s.cfg.handler.authenticate (authenContext i.conn i.pkt.hdr start) cont st.handler).1
  match intake entry i.pkt.hdr i.pkt.body with
  | .refused => entry = none
  | .outOfSequence => True
  | .opened start => Settles (ask start none)
  | .continued sctx cont => Settles (ask sctx.start (some cont))

theorem not_needsContinue_of_endsSession {status : AuthenStatus} (h : endsSession status = true) :
    needsContinue status = false := by
  unfold endsSession at h
  simp only [Bool.or_eq_true, beq_iff_eq] at h
  rcases h with (rfl | rfl) | rfl <;> rfl

theorem not_solicits_nil (hdr : Header) : ¬Solicits ⟨hdr, []⟩ := by
  rintro ⟨r, hr, -⟩
  cases hr

theorem not_solicits_sendAuthenError (hdr : Header) : ¬Solicits (sendAuthenError hdr) := by
  rintro ⟨r, hr, hneeds⟩
  cases hr
  cases hneeds

/-- A decision is sent as a REPLY with its status if it encodes, and as an error if not. -/
theorem solicits_encodeReply (hdr : Header) (dec : AuthenDecision) :
    Solicits (encodeReply hdr (replyBody dec).marshalBinary) ↔
      needsContinue dec.status = true ∧ ∃ b, (replyBody dec).marshalBinary = .ok b := by
  cases hb : (replyBody dec).marshalBinary with
  | error e =>
    constructor
    · exact fun h => absurd h (not_solicits_nil _)
    · rintro ⟨-, b, hb⟩
      cases hb
  | ok b =>
    have hdec := Packet.authenReply_realises.decode_encode hb
    constructor
    · rintro ⟨r, hr, hneeds⟩
      cases hdec.symm.trans hr
      exact ⟨hneeds, b, rfl⟩
    · rintro ⟨hneeds, -⟩
      exact ⟨_, hdec, hneeds⟩

theorem answered_solicits_iff (s : Server σ) (c : Conn) (t : Times) (h : σ) (hdr : Header)
    (sctx : SessionContext) (start : AuthenStart) (cont : Option AuthenContinue) :
    let a := answered s c t h hdr sctx start cont
    (a.entry.isSome = true ↔ Solicits a.reply) ↔
      Settles (s.cfg.handler.authenticate (authenContext c hdr start) cont h).1 := by
  unfold answered
  dsimp only
  cases hd : (s.cfg.handler.authenticate (authenContext c hdr start) cont h).1 with
  | error e =>
    have hnot := not_solicits_sendAuthenError hdr
    simp [staysOpen, replyTo, Settles, hnot]
  | ok dec =>
    cases hend : endsSession dec.status with
    | true =>
      have hnot := not_needsContinue_of_endsSession hend
      simp [staysOpen, replyTo, Settles, hend, solicits_encodeReply, hnot]
    | false => simp [staysOpen, replyTo, Settles, hend, solicits_encodeReply]

theorem reaction_solicits_iff (s : Server σ) (st : State σ) (i : Inbound) :
    ((reaction s st i).entry.isSome = true ↔ Solicits (reaction s st i).reply) ↔
      KeepsMembership s st i := by
  unfold reaction reactAuthen KeepsMembership
  dsimp only
  cases intake (st.sessions.get i.pkt.hdr.sessionID) i.pkt.hdr i.pkt.body with
  | refused =>
    have hnot : ¬Solicits (sendGenericError i.pkt.hdr) := not_solicits_nil _
    simp [hnot]
  | outOfSequence =>
    have hnot : ¬Solicits (sendGenericError i.pkt.hdr) := not_solicits_nil _
    simp [hnot]
  | opened start => exact answered_solicits_iff s _ _ _ _ _ start none
  | continued sctx cont => exact answered_solicits_iff s _ _ _ _ sctx sctx.start (some cont)

/-- **Registered iff a CONTINUE was asked for**, throughout a run on a new server, if and only
    if every step of the run is one that keeps it so. -/
theorem membership_iff (s : Server σ) (h : σ) (is : List Inbound) :
    (∀ pre, pre <+: is → ∀ id,
      ((Run.after (inboundStep s) (State.init s.cfg h) pre).sessions.get id).isSome = true ↔
        ∃ p, lastWritten id (Run.outputs (inboundStep s) (State.init s.cfg h) pre) = some p ∧
          Solicits p) ↔
      ∀ pre i, pre ++ [i] <+: is →
        KeepsMembership s (Run.after (inboundStep s) (State.init s.cfg h) pre) i := by
  refine Run.forall_prefix_iff (P := fun seen (st : State σ) => ∀ id,
    (st.sessions.get id).isSome = true ↔ ∃ p, lastWritten id seen = some p ∧ Solicits p) ?_ ?_ is
  · intro id
    constructor
    · intro hsome
      cases hsome
    · rintro ⟨p, hp, -⟩
      cases hp
  · intro seen st i hnow
    rw [sessions_step_iff s (Q := fun entry last => entry.isSome = true ↔
      ∃ p, last = some p ∧ Solicits p) i hnow]
    rw [← reaction_solicits_iff]
    simp

/-- A login that is answered with FOLLOW stays registered. -/
theorem membership_follow :
    let cfg : Config Unit :=
      { handler := handlerFunc (fun _ _ => .ok { status := authenStatusFollow })
          (fun _ => .error .eof) (fun _ => .error .eof), mode := .tls }
    let i : Inbound := ⟨tlsConn, ⟨0, 0⟩, clearPkt 7 1 (asciiLogin "alice"), rfl⟩
    ((Run.after (inboundStep (new cfg)) (State.init cfg ()) [i]).sessions.get 7).isSome = true ∧
      lastWritten 7 (Run.outputs (inboundStep (new cfg)) (State.init cfg ()) [i])
        = some ⟨replyHeader i.pkt.hdr, [0x21, 0, 0, 0, 0, 0]⟩ ∧
      ¬Solicits ⟨replyHeader i.pkt.hdr, [0x21, 0, 0, 0, 0, 0]⟩ := by
  intro cfg i
  refine ⟨by decide, by decide, ?_⟩
  rintro ⟨r, hr, hneeds⟩
  cases hr
  cases hneeds

/-! ## The number of the last reply -/

/-- A packet refused for its body is about no registered session, or about one whose last
    reply had the number this one has. -/
def KeepsNumber (st : State σ) (i : Inbound) : Prop :=
  let entry := st.sessions.get i.pkt.hdr.sessionID
  match intake entry i.pkt.hdr i.pkt.body with
  | .refused => ∀ sctx, entry = some sctx → sctx.lastOutboundSeq = i.pkt.hdr.seqNo + 1
  | _ => True

theorem reaction_number_iff (s : Server σ) (st : State σ) (i : Inbound) :
    (∀ sctx, (reaction s st i).entry = some sctx →
      sctx.lastOutboundSeq = i.pkt.hdr.seqNo + 1) ↔ KeepsNumber st i := by
  unfold reaction reactAuthen KeepsNumber
  dsimp only
  cases intake (st.sessions.get i.pkt.hdr.sessionID) i.pkt.hdr i.pkt.body with
  | refused => exact Iff.rfl
  | outOfSequence => simp
  | opened start => exact iff_of_true (fun sctx hs => (answered_entry hs).2) trivial
  | continued sctx cont => exact iff_of_true (fun sctx hs => (answered_entry hs).2) trivial

/-- **The registry knows the number of the last reply**, throughout a run on a new server, if
    and only if every step of the run is one that keeps it so. -/
theorem lastOutboundSeq_iff (s : Server σ) (h : σ) (is : List Inbound) :
    (∀ pre, pre <+: is → ∀ id sctx,
      (Run.after (inboundStep s) (State.init s.cfg h) pre).sessions.get id = some sctx →
        ∃ p, lastWritten id (Run.outputs (inboundStep s) (State.init s.cfg h) pre) = some p ∧
          sctx.lastOutboundSeq = p.hdr.seqNo) ↔
      ∀ pre i, pre ++ [i] <+: is →
        KeepsNumber (Run.after (inboundStep s) (State.init s.cfg h) pre) i := by
  refine Run.forall_prefix_iff (P := fun seen (st : State σ) => ∀ id sctx,
    st.sessions.get id = some sctx →
      ∃ p, lastWritten id seen = some p ∧ sctx.lastOutboundSeq = p.hdr.seqNo) ?_ ?_ is
  · intro id sctx hs
    cases hs
  · intro seen st i hnow
    rw [sessions_step_iff s (Q := fun entry last => ∀ sctx, entry = some sctx →
      ∃ p, last = some p ∧ sctx.lastOutboundSeq = p.hdr.seqNo) i hnow]
    rw [← reaction_number_iff s]
    have hseq : (reaction s st i).reply.hdr.seqNo = i.pkt.hdr.seqNo + 1 := by
      rw [reaction_reply_hdr]
      rfl
    simp [hseq]

/-- A CONTINUE without a body is answered with number 4, and the session still says 2. -/
theorem lastOutboundSeq_stale :
    let cfg : Config Unit := { handler := askAgain, mode := .tls }
    let is : List Inbound :=
      [⟨tlsConn, ⟨0, 0⟩, clearPkt 7 1 (asciiLogin "alice"), rfl⟩,
        ⟨tlsConn, ⟨1, 1⟩, clearPkt 7 3 [], rfl⟩]
    ((Run.after (inboundStep (new cfg)) (State.init cfg ()) is).sessions.get 7).map
        SessionContext.lastOutboundSeq = some 2 ∧
      (lastWritten 7 (Run.outputs (inboundStep (new cfg)) (State.init cfg ()) is)).map
        (fun p => p.hdr.seqNo) = some 4 := by
  decide

end Server
end Proof
end Tacacs
