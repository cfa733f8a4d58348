import Tacacs.Proof.Server.Dialogue
import Tacacs.Lib.Run

/-!
# The sequence numbers a session accepts

The registry remembers one byte a session, the number of the last reply. What it stands for is
the number of turns the session has had: after `k` calls of the handler the byte is `2k`, and
the next packet let through is the one numbered `2k + 1`.

The byte wraps. After 128 turns the last reply was numbered 256, stored as 0, and the registry
then expects 1 — which no CONTINUE carries, because a packet numbered 1 is a START. So the 128th
turn is the last, and `2k` never has to be read modulo 256 (`next_of_turns`).

`Turns` is the invariant that ties the entry of a session to the calls made for it;
`turns_step` keeps it over any event that is not another START for the session.
-/

set_option autoImplicit false

namespace Tacacs
namespace Proof
namespace Server

open GoSem Tacacs.Packet Tacacs.Transport
open Tacacs.Server hiding AuthenStart AuthenContinue

variable {σ : Type}

/-! ## What the history of a session is -/

/-- The START for session `id` that a packet is, when it is a well-formed one. -/
def startIn (id : UInt32) (p : Pkt) : Option AuthenStart :=
  if p.hdr.type = packetAuthentication ∧ p.hdr.sessionID = id ∧ p.hdr.seqNo = 1 then
    (AuthenStart.unmarshalBinary p.body).toOption
  else none

/-- The START for session `id` that an event brings. -/
def startOf (id : UInt32) : Event → Option AuthenStart
  | .packet _ _ p => startIn id p
  | .sweep _ => none

theorem startIn_eq_some {id : UInt32} {p : Pkt} {start : AuthenStart} :
    startIn id p = some start ↔ p.hdr.type = packetAuthentication ∧ p.hdr.sessionID = id ∧
      p.hdr.seqNo = 1 ∧ AuthenStart.unmarshalBinary p.body = .ok start := by
  unfold startIn
  by_cases hp : p.hdr.type = packetAuthentication ∧ p.hdr.sessionID = id ∧ p.hdr.seqNo = 1
  · rw [if_pos hp]
    cases AuthenStart.unmarshalBinary p.body with
    | error e => simp [Except.toOption]
    | ok st => simp [Except.toOption, hp]
  · rw [if_neg hp]
    constructor
    · intro h
      cases h
    · rintro ⟨h1, h2, h3, -⟩
      exact absurd ⟨h1, h2, h3⟩ hp

/-- A CONTINUE for session `id`: any authentication packet that is not numbered 1. -/
def IsContinue (id : UInt32) (p : Pkt) : Prop :=
  p.hdr.type = packetAuthentication ∧ p.hdr.sessionID = id ∧ p.hdr.seqNo ≠ 1

/-- The arguments of a call of `Authenticate` for session `id`. -/
def authenCall (id : UInt32) : Call → Option (AuthenContext × Option AuthenContinue)
  | .authenticate ac cont => if ac.sessionID = id then some (ac, cont) else none
  | _ => none

/-- The calls of `Authenticate` for session `id`, in order. -/
def authenCalls (id : UInt32) (seen : List Seen) : List (AuthenContext × Option AuthenContinue) :=
  seen.flatMap fun o => o.calls.filterMap (authenCall id)

/-- An answered packet is one call, for the session the packet is addressed to. -/
theorem filterMap_answered (s : Server σ) (c : Conn) (t : Times) (h : σ) (hdr : Header)
    (sctx : SessionContext) (start : AuthenStart) (cont : Option AuthenContinue) :
    (answered s c t h hdr sctx start cont).calls.filterMap (authenCall hdr.sessionID)
      = [(authenContext c hdr start, cont)] := by
  simp [answered, authenCall, authenContext]

theorem authenCalls_append (id : UInt32) (l l' : List Seen) :
    authenCalls id (l ++ l') = authenCalls id l ++ authenCalls id l' := by
  unfold authenCalls
  rw [List.flatMap_append]

/-! ## The byte and the number it stands for -/

/-- The special case of the source at 0 changes nothing: `0 + 1` is 1. -/
theorem validateNextSeqNo_ok {inbound last : UInt8} :
    validateNextSeqNo inbound last = .ok () ↔ inbound = last + 1 := by
  unfold validateNextSeqNo
  have he : (if last = 0 then 1 else last + 1) = last + 1 := by
    by_cases h : last = 0
    · rw [if_pos h, h]; rfl
    · rw [if_neg h]
  rw [he]
  by_cases h : inbound = last + 1
  · simp [h]
  · simp [h]

/-- What a CONTINUE must carry after `k` turns. -/
theorem next_of_turns {n : UInt8} {k : Nat} (hn : n ≠ 1) (hk : k ≤ 128) :
    n = UInt8.ofNat (2 * k) + 1 ↔ n.toNat = 2 * k + 1 := by
  have hlt := n.toNat_lt
  have h1 : n.toNat ≠ 1 := fun h => hn (UInt8.toNat_inj.mp h)
  rw [← UInt8.toNat_inj, UInt8.toNat_add, UInt8.toNat_ofNat']
  show n.toNat = (2 * k % 2 ^ 8 + 1) % 2 ^ 8 ↔ _
  omega

/-! ## The invariant -/

/-- The calls made for a session since its START, and what the registry holds for it: the
    calls are numbered 1, 3, 5, …, all of them had that START, and a session that is still
    registered waits for the next number. -/
structure Turns (start : AuthenStart) (calls : List (AuthenContext × Option AuthenContinue))
    (entry : Option SessionContext) : Prop where
  seqs : calls.map (fun a => a.1.seqNo.toNat) = (List.range calls.length).map (2 * · + 1)
  starts : ∀ a ∈ calls, a.1.start = start
  count : calls.length ≤ 128
  waiting : ∀ sctx, entry = some sctx →
    sctx.start = start ∧ sctx.lastOutboundSeq = UInt8.ofNat (2 * calls.length)

section Invariant

variable {start : AuthenStart} {calls : List (AuthenContext × Option AuthenContinue)}
variable {entry entry' : Option SessionContext}

theorem Turns.none : Turns start [] none := by
  refine ⟨rfl, ?_, Nat.zero_le _, ?_⟩
  · intro a ha
    cases ha
  · intro sctx hs
    cases hs

/-- A step without a call, which keeps the entry or drops it. -/
theorem Turns.keep (h : Turns start calls entry)
    (he : ∀ sctx, entry' = some sctx → entry = some sctx) : Turns start calls entry' :=
  ⟨h.seqs, h.starts, h.count, fun sctx hs => h.waiting sctx (he sctx hs)⟩

/-- One more turn, numbered as the session expects. -/
theorem Turns.turn (h : Turns start calls entry) (ac : AuthenContext)
    (cont : Option AuthenContinue) (hseq : ac.seqNo.toNat = 2 * calls.length + 1)
    (hstart : ac.start = start)
    (he : ∀ sctx, entry' = some sctx →
      sctx.start = start ∧ sctx.lastOutboundSeq = ac.seqNo + 1) :
    Turns start (calls ++ [(ac, cont)]) entry' := by
  have hlt := ac.seqNo.toNat_lt
  refine ⟨?_, ?_, ?_, ?_⟩
  · rw [List.map_append, h.seqs, List.length_append, List.length_singleton, List.range_succ,
      List.map_append]
    simp [hseq]
  · intro a ha
    rcases List.mem_append.mp ha with ha | ha
    · exact h.starts a ha
    · rw [List.mem_singleton.mp ha]
      exact hstart
  · rw [List.length_append, List.length_singleton]
    omega
  · intro sctx hs
    obtain ⟨h1, h2⟩ := he sctx hs
    refine ⟨h1, ?_⟩
    rw [h2, List.length_append, List.length_singleton]
    apply UInt8.toNat_inj.mp
    rw [UInt8.toNat_add, UInt8.toNat_ofNat', hseq]
    show (2 * calls.length + 1 + 1) % 2 ^ 8 = _
    congr 1

/-- A session's own step keeps the invariant, unless the packet is a well-formed START. -/
theorem turns_reactAuthen (s : Server σ) (c : Conn) (t : Times) (hs : σ) {hdr : Header}
    {body : Bytes} (h : Turns start calls entry)
    (hstart : hdr.seqNo = 1 → ∀ st, AuthenStart.unmarshalBinary body ≠ .ok st) :
    Turns start
      (calls ++ (reactAuthen s c t hs entry hdr body).calls.filterMap (authenCall hdr.sessionID))
      (reactAuthen s c t hs entry hdr body).entry := by
  unfold reactAuthen
  cases hi : intake entry hdr body with
  | refused => simpa using h
  | outOfSequence => simpa using h.keep (fun sctx hs => by cases hs)
  | opened st =>
    obtain ⟨hseq, hb⟩ := intake_opened hi
    exact absurd hb (hstart hseq st)
  | continued sctx cont =>
    obtain ⟨hne, he, hv, -⟩ := intake_continued hi
    obtain ⟨hst, hlast⟩ := h.waiting sctx he
    have hseq : hdr.seqNo = UInt8.ofNat (2 * calls.length) + 1 := by
      rw [← hlast]
      exact validateNextSeqNo_ok.mp hv
    dsimp only
    rw [filterMap_answered]
    refine h.turn _ _ ((next_of_turns hne h.count).mp hseq) hst ?_
    intro e he
    obtain ⟨h1, h2⟩ := answered_entry he
    exact ⟨h1.trans hst, h2⟩

/-- A fresh START is a first turn, whatever was registered before. -/
theorem turns_opened (s : Server σ) (c : Conn) (t : Times) (hs : σ) {hdr : Header}
    (hseq : hdr.seqNo = 1) :
    Turns start [(authenContext c hdr start, none)]
      (answered s c t hs hdr (openedSession c t hdr start) start none).entry := by
  exact Turns.none.turn _ _ (by rw [authenContext, hseq]; rfl) rfl (fun e he => answered_entry he)

end Invariant

/-! ## Events -/

/-- An event that is not about session `id` asks nothing about it. -/
theorem filterMap_handle_other (s : Server σ) (c : Conn) (t : Times) (st : State σ) {p : Pkt}
    {id : UInt32} (h : p.hdr.type = packetAuthentication → p.hdr.sessionID ≠ id) :
    (handle s c t st p).calls.filterMap (authenCall id) = [] := by
  rw [List.filterMap_eq_nil_iff]
  intro call hc
  cases call with
  | authorize ac => rfl
  | account ac => rfl
  | authenticate ac cont =>
    obtain ⟨hp, hask⟩ := authenticate_mem_handle hc
    have hid : ac.sessionID = p.hdr.sessionID := by
      rcases hask with ⟨start, -, rfl, -⟩ | ⟨sctx, ct, -, rfl, -⟩ <;> rfl
    show (if ac.sessionID = id then some (ac, cont) else none) = none
    rw [if_neg (hid ▸ h hp)]

/-- … and leaves its entry alone. -/
theorem get_handle_other (s : Server σ) (c : Conn) (t : Times) (st : State σ) {p : Pkt}
    {id : UInt32} (h : p.hdr.type = packetAuthentication → p.hdr.sessionID ≠ id) :
    (handle s c t st p).st.sessions.get id = st.sessions.get id := by
  by_cases hp : p.hdr.type = packetAuthentication
  · exact (handle_acts s c t st p).get_ne (h hp).symm
  · rw [(handle_aside s c t hp).get st]

/-- **One event** keeps the invariant of a session, unless it is another START for it. -/
theorem turns_step (s : Server σ) {st : State σ} {id : UInt32} {e : Event} {start : AuthenStart}
    {calls : List (AuthenContext × Option AuthenContinue)}
    (h : Turns start calls (st.sessions.get id)) (he : startOf id e = none) :
    Turns start (calls ++ (step s st e).2.calls.filterMap (authenCall id))
      ((step s st e).1.sessions.get id) := by
  cases e with
  | sweep now =>
    show Turns start (calls ++ []) ((st.sessions.sweepExpired now).get id)
    rw [List.append_nil, get_sweepExpired]
    exact h.keep fun sctx hs => (Option.filter_eq_some_iff.mp hs).1
  | packet c t p =>
    show Turns start (calls ++ (handle s c t st p).calls.filterMap (authenCall id))
      ((handle s c t st p).st.sessions.get id)
    by_cases hp : p.hdr.type = packetAuthentication ∧ p.hdr.sessionID = id
    · obtain ⟨htype, rfl⟩ := hp
      have hacts := handle_acts s c t st p
      unfold react at hacts
      rw [if_pos htype] at hacts
      rw [hacts.get_self, hacts.calls]
      refine turns_reactAuthen s c t st.handler h ?_
      intro hseq start' hb
      have hsome := startIn_eq_some.mpr ⟨htype, rfl, hseq, hb⟩
      rw [show startIn p.hdr.sessionID p = none from he] at hsome
      cases hsome
    · have hother : p.hdr.type = packetAuthentication → p.hdr.sessionID ≠ id :=
        fun htype hid => hp ⟨htype, hid⟩
      rw [get_handle_other s c t st hother, filterMap_handle_other s c t st hother,
        List.append_nil]
      exact h

/-- A well-formed START is put to the handler and begins the count anew. -/
theorem turns_start (s : Server σ) (st : State σ) {id : UInt32} {e : Event}
    {start : AuthenStart} (he : startOf id e = some start) :
    (step s st e).2.calls.filterMap (authenCall id) ≠ [] ∧
      Turns start ((step s st e).2.calls.filterMap (authenCall id))
        ((step s st e).1.sessions.get id) := by
  cases e with
  | sweep now => cases he
  | packet c t p =>
    obtain ⟨htype, rfl, hseq, hb⟩ := startIn_eq_some.mp he
    have hacts := handle_acts s c t st p
    unfold react reactAuthen intake at hacts
    rw [if_pos htype, if_pos hseq, hb] at hacts
    show (handle s c t st p).calls.filterMap (authenCall p.hdr.sessionID) ≠ [] ∧
      Turns start ((handle s c t st p).calls.filterMap (authenCall p.hdr.sessionID))
        ((handle s c t st p).st.sessions.get p.hdr.sessionID)
    rw [hacts.get_self, hacts.calls, filterMap_answered]
    exact ⟨List.cons_ne_nil _ _, turns_opened s c t st.handler hseq⟩

/-- A CONTINUE out of turn is refused, and the session is gone. -/
theorem refused_of_turns (s : Server σ) (c : Conn) (t : Times) {st : State σ} {p : Pkt}
    {start : AuthenStart} {calls : List (AuthenContext × Option AuthenContinue)}
    (h : Turns start calls (st.sessions.get p.hdr.sessionID))
    (hp : IsContinue p.hdr.sessionID p) (hseq : p.hdr.seqNo.toNat ≠ 2 * calls.length + 1) :
    (handle s c t st p).calls = [] ∧ (handle s c t st p).reply = sendGenericError p.hdr ∧
      (handle s c t st p).st.sessions.get p.hdr.sessionID = none := by
  obtain ⟨htype, -, hne⟩ := hp
  have hacts := handle_acts s c t st p
  unfold react reactAuthen at hacts
  rw [if_pos htype] at hacts
  rw [hacts.calls, hacts.reply, hacts.get_self]
  unfold intake
  rw [if_neg hne]
  cases he : st.sessions.get p.hdr.sessionID with
  | none => exact ⟨rfl, rfl, rfl⟩
  | some sctx =>
    obtain ⟨-, hlast⟩ := h.waiting sctx he
    dsimp only
    cases hv : validateNextSeqNo p.hdr.seqNo sctx.lastOutboundSeq with
    | error e => exact ⟨rfl, rfl, rfl⟩
    | ok u =>
      have hnext := validateNextSeqNo_ok.mp hv
      rw [hlast] at hnext
      exact absurd ((next_of_turns hne h.count).mp hnext) hseq

/-! ## Runs -/

/-- The invariant over a run that begins with a START and has no other for the session. -/
theorem turns_run (s : Server σ) (st : State σ) {id : UInt32} {e : Event} {start : AuthenStart}
    (he : startOf id e = some start) {es : List Event} (hes : ∀ e' ∈ es, startOf id e' = none) :
    Turns start (authenCalls id (Run.outputs (step s) st (e :: es)))
      ((Run.after (step s) st (e :: es)).sessions.get id) := by
  rw [Run.outputs_cons, Run.after_cons]
  show Turns start (authenCalls id ([(step s st e).2] ++ _)) _
  rw [authenCalls_append]
  -- the induction is on the events after the START; `first` is what the START itself did
  have first := (turns_start s st he).2
  refine Run.run_induction (step s) (fun is os st' => (∀ e' ∈ is, startOf id e' = none) →
      Turns start (authenCalls id [(step s st e).2] ++ authenCalls id os) (st'.sessions.get id))
    ?_ ?_ es hes
  · intro _
    simpa [authenCalls] using first
  · intro is os st' e' ih hno
    have hprev := ih fun e'' h => hno e'' (List.mem_append_left _ h)
    have hnext := turns_step s hprev (hno e' (by simp))
    rw [authenCalls_append, ← List.append_assoc]
    simpa [authenCalls] using hnext

/-- **Inbound sequence discipline.** From a well-formed START for `id` on, until the next one,
    the handler is asked about `id` with the numbers 1, 3, 5, … in this order, at most 128 times,
    each time with that START; and at any moment a CONTINUE with another number than the next
    gets the header-only error, reaches no handler and leaves the session unregistered. -/
theorem inbound_sequence (s : Server σ) (st : State σ) (id : UInt32) (e : Event)
    (start : AuthenStart) (he : startOf id e = some start) (es : List Event)
    (hes : ∀ e' ∈ es, startOf id e' = none) :
    let calls := authenCalls id (Run.outputs (step s) st (e :: es))
    calls ≠ [] ∧
      calls.map (fun a => a.1.seqNo.toNat) = (List.range calls.length).map (2 * · + 1) ∧
      calls.length ≤ 128 ∧ (∀ a ∈ calls, a.1.start = start) ∧
      ∀ c t p, IsContinue id p → p.hdr.seqNo.toNat ≠ 2 * calls.length + 1 →
        let r := step s (Run.after (step s) st (e :: es)) (.packet c t p)
        r.2.calls = [] ∧ r.2.reply = some ⟨errorHeader p.hdr, []⟩ ∧
          r.1.sessions.get id = none := by
  intro calls
  have hturns := turns_run s st he hes
  refine ⟨?_, hturns.seqs, hturns.count, hturns.starts, ?_⟩
  · intro hnil
    have hfirst := (turns_start s st he).1
    have happ : calls = (step s st e).2.calls.filterMap (authenCall id) ++ _ :=
      List.flatMap_cons
    rw [happ] at hnil
    exact hfirst (List.append_eq_nil_iff.mp hnil).1
  · intro c t p hp hseq
    have hid := hp.2.1
    subst hid
    obtain ⟨h1, h2, h3⟩ := refused_of_turns s c t hturns hp hseq
    exact ⟨h1, congrArg some h2, h3⟩

/-! A session of `alice`: the password is asked for until the session ends. -/

/-- A handler that asks for a password, whatever it is told. -/
def askAgain : Handler Unit :=
  handlerFunc (fun _ _ => .ok { status := authenStatusGetPass }) (fun _ => .error .eof)
    (fun _ => .error .eof)

/-- An authentication packet on a connection without obfuscation. -/
def clearPkt (id : UInt32) (seqNo : UInt8) (body : Bytes) : Pkt :=
  ⟨{ version := versionDefault, type := packetAuthentication, seqNo, flags := flagUnencrypted,
     sessionID := id, length := UInt32.ofNat body.length }, body⟩

/-- The body of an ASCII login of `user`. -/
def asciiLogin (user : String) : Bytes :=
  [1, 1, 1, 1, byteOf (lit user).length, 0, 0, 0] ++ lit user

/-- The body of a CONTINUE with the message `msg`. -/
def continueWith (msg : String) : Bytes := [0, byteOf (lit msg).length, 0, 0, 0] ++ lit msg

def tlsConn : Conn := { mode := .tls, secret := [], remoteAddr := lit "10.0.0.1:4949" }

theorem inbound_sequence_alice :
    let cfg : Config Unit := { handler := askAgain, mode := .tls }
    let calls := authenCalls 7 (Run.outputs (step (new cfg)) (State.init cfg ())
      [.packet tlsConn ⟨0, 0⟩ (clearPkt 7 1 (asciiLogin "alice")), .sweep 1,
        .packet tlsConn ⟨2, 2⟩ (clearPkt 7 3 (continueWith "guess"))])
    calls.length = 2 ∧ calls.map (fun a => a.1.seqNo.toNat) = [1, 3] := by
  intro cfg calls
  have h := inbound_sequence (new cfg) (State.init cfg ()) 7
    (.packet tlsConn ⟨0, 0⟩ (clearPkt 7 1 (asciiLogin "alice")))
    { action := 1, privLvl := 1, type := 1, service := 1, user := lit "alice", port := [],
      remAddr := [], data := [] } (by decide)
    [.sweep 1, .packet tlsConn ⟨2, 2⟩ (clearPkt 7 3 (continueWith "guess"))]
    (by decide)
  have hlen : calls.length = 2 := by decide
  refine ⟨hlen, h.2.1.trans ?_⟩
  show (List.range calls.length).map (2 * · + 1) = [1, 3]
  rw [hlen]
  rfl

end Server
end Proof
end Tacacs
