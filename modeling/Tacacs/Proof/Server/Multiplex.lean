import Tacacs.Proof.Framing
import Tacacs.Proof.Server.Isolation

/-!
# Many sessions on one connection

A connection whose packets all carry the same flags, and flags the server admits, is never ended
by the server: each packet it delivers is handled, one a turn. So what is written on it is what
the server's machine answers to those packets (`written_eq_replies`), and there the sessions do
not see each other: a packet moves the automaton of its own session only (`handle_acts`).

The flags matter. A flag the server refuses ends the connection at the first packet, whichever
session that is of, and the others get no answer (`multiplexing_refused`).
-/

set_option autoImplicit false

namespace Tacacs
namespace Proof
namespace Server

open GoSem Tacacs.Packet Tacacs.Transport
open Tacacs.Server hiding AuthenStart AuthenContinue
open Tacacs.Proof.Transport (reader)

/-! ## One connection -/

/-- What happens on a connection, in order: a packet is delivered and handled, or the sweeper
    runs. -/
inductive Delivery where
  | packet (t : Times) (p : Pkt)
  | sweep (now : Int)

namespace Delivery

def pkt : Delivery → Option Pkt
  | packet _ p => some p
  | sweep _ => none

/-- The delivery as a step of a world with one connection. -/
def act : Delivery → Act Unit
  | packet t _ => .serve () { t }
  | sweep now => .sweep now

/-- The delivery as an event of the server. -/
def event (c : Conn) : Delivery → Event
  | packet t p => .packet c t p
  | sweep now => .sweep now

/-- The delivery is not a packet of another session. -/
def isFor (id : UInt32) : Delivery → Bool
  | packet _ p => p.hdr.sessionID == id
  | sweep _ => true

end Delivery

/-- The packets a connection delivers. -/
def packets (ds : List Delivery) : List Pkt := ds.filterMap Delivery.pkt

/-- A server with one connection to serve, `input` being what its peer sends. -/
def oneConn {σ : Type} (st : State σ) (c : Conn) (input : Bytes) (loop : Loop := .first) :
    World σ Unit where
  st := st
  conns _ := { conn := c, input, loop }

/-- The packets written in a run of a server with one connection. -/
def written {σ : Type} (s : Server σ) (md5 : Crypto.Md5) (st : State σ) (c : Conn)
    (input : Bytes) (ds : List Delivery) : List Pkt :=
  (Run.outputs (World.step s md5) (oneConn st c input) (ds.map Delivery.act)).filterMap
    Sight.written

section Connection

variable {σ : Type}

/-- A packet with the flags of the connection, which the server admits, is handled. -/
theorem serveIteration_packet (s : Server σ) {md5 : Crypto.Md5} {c : Conn} {input rest : Bytes}
    {loop : Loop} {p : Pkt} (t : Times) (st : State σ)
    (hread : c.readPacket md5 input = (.ok p, rest)) (hadm : checkFlags s c p.hdr = .ok ())
    (hloop : loop = .first ∨ loop = .later p.hdr.flags) :
    serveIteration s md5 c { t } st loop input
      = { st := (handle s c t st p).st, loop := .later p.hdr.flags, input := rest,
          read := some p, calls := (handle s c t st p).calls,
          written := some (handle s c t st p).reply } := by
  have hpkt : servePacket s c { t } st loop p rest
      = { st := (handle s c t st p).st, loop := .later p.hdr.flags, input := rest,
          read := some p, calls := (handle s c t st p).calls,
          written := some (handle s c t st p).reply } := by
    unfold servePacket
    rw [hadm]
    exact if_pos hloop
  rw [← hpkt]
  unfold serveIteration
  rcases hloop with rfl | rfl
  · dsimp only
    rw [hread]
  · dsimp only
    rw [hread]

/-- A step of a world with one connection is a turn of its loop. -/
theorem step_oneConn (s : Server σ) (md5 : Crypto.Md5) (st : State σ) (c : Conn) (input : Bytes)
    (loop : Loop) (e : Env) :
    let r := serveIteration s md5 c e st loop input
    World.step s md5 (oneConn st c input loop) (.serve () e)
      = (oneConn r.st c r.input r.loop,
          { conn := some (), read := r.read, calls := r.calls, written := r.written }) := by
  intro r
  unfold World.step oneConn
  refine congrArg (fun conns => (World.mk r.st conns, _)) ?_
  funext u
  exact Function.update_self _ _ _

theorem step_oneConn_packet (s : Server σ) {md5 : Crypto.Md5} {c : Conn} {input rest : Bytes}
    {loop : Loop} {p : Pkt} (t : Times) (st : State σ)
    (hread : c.readPacket md5 input = (.ok p, rest)) (hadm : checkFlags s c p.hdr = .ok ())
    (hloop : loop = .first ∨ loop = .later p.hdr.flags) :
    World.step s md5 (oneConn st c input loop) (.serve () { t })
      = (oneConn (handle s c t st p).st c rest (.later p.hdr.flags),
          { conn := some (), read := some p, calls := (handle s c t st p).calls,
            written := some (handle s c t st p).reply }) := by
  rw [step_oneConn, serveIteration_packet s t st hread hadm hloop]

/-- **A connection with admitted flags is the server's machine**, fed with the packets that the
    stream holds. -/
theorem written_eq_replies (s : Server σ) (md5 : Crypto.Md5) (c : Conn) {flags : HeaderFlags}
    {ds : List Delivery}
    (hflags : ∀ p ∈ packets ds, p.hdr.flags = flags ∧ checkFlags s c p.hdr = .ok ())
    (st : State σ) {input : Bytes} (hinput : ((reader md5 c).readAll input).values = packets ds)
    {loop : Loop} (hloop : loop = .first ∨ loop = .later flags) :
    (Run.outputs (World.step s md5) (oneConn st c input loop) (ds.map Delivery.act)).filterMap
        Sight.written
      = (Run.outputs (step s) st (ds.map (Delivery.event c))).filterMap Seen.reply := by
  induction ds generalizing st input loop with
  | nil => rfl
  | cons d ds ih =>
    rw [List.map_cons, List.map_cons, Run.outputs_cons, Run.outputs_cons]
    cases d with
    | sweep now => exact ih hflags _ hinput hloop
    | packet t p =>
      obtain ⟨rest, hread, hrest⟩ := Frames.readAll_values_cons hinput
      obtain ⟨hp, hadm⟩ := hflags p List.mem_cons_self
      have hstep := step_oneConn_packet s t st hread hadm (hp.symm ▸ hloop)
      have htail := ih (fun q hq => hflags q (List.mem_cons_of_mem p hq)) (handle s c t st p).st
        hrest (Or.inr (congrArg Loop.later hp))
      show List.filterMap Sight.written ((World.step s md5 (oneConn st c input loop)
        (.serve () { t })).2 :: _) = _
      rw [show Delivery.act (.packet t p) = .serve () { t } from rfl, hstep]
      show (handle s c t st p).reply :: _ = (handle s c t st p).reply :: _
      rw [htail]
      rfl

end Connection

/-! ## One session among others -/

/-- The reply of an event, if it is for session `id`. -/
def replyFor (id : UInt32) (o : Seen) : Option Pkt :=
  o.reply.filter fun p => p.hdr.sessionID == id

/-- The event is not a packet of another session. -/
def eventIsFor (id : UInt32) : Event → Bool
  | .packet _ _ p => p.hdr.sessionID == id
  | .sweep _ => true

/-- Two servers that hold the same of session `id`. -/
structure SameSession (id : UInt32) (st st' : State Unit) : Prop where
  get : st.sessions.get id = st'.sessions.get id
  ttl : st.sessions.ttl = st'.sessions.ttl

theorem replyFor_packet (s : Server Unit) (id : UInt32) (c : Conn) (t : Times)
    (st : State Unit) (p : Pkt) :
    replyFor id (step s st (.packet c t p)).2
      = if p.hdr.sessionID = id then some (handle s c t st p).reply else none := by
  have hid : (handle s c t st p).reply.hdr.sessionID = p.hdr.sessionID := by
    rw [handle_reply_hdr]
    rfl
  show Option.filter _ (some (handle s c t st p).reply) = _
  rw [Option.filter_some, hid]
  simp only [beq_iff_eq]

/-- A packet of another session shows nothing and changes nothing. -/
theorem sameSession_skip (s : Server Unit) {id : UInt32} (st st' : State Unit) (e : Event)
    (h : SameSession id st st') (he : eventIsFor id e = false) :
    replyFor id (step s st e).2 = none ∧ SameSession id (step s st e).1 st' := by
  cases e with
  | sweep now => cases he
  | packet c t p =>
    have hid : p.hdr.sessionID ≠ id := by
      intro hid
      simp [eventIsFor, hid] at he
    have hacts := handle_acts s c t st p
    refine ⟨?_, ?_, ?_⟩
    · rw [replyFor_packet, if_neg hid]
    · exact (hacts.get_ne hid.symm).trans h.get
    · exact hacts.ttl.trans h.ttl

/-- A packet of the session is answered alike, and so is a run of the sweeper. -/
theorem sameSession_keep (s : Server Unit) {id : UInt32} (st st' : State Unit) (e : Event)
    (h : SameSession id st st') (he : eventIsFor id e = true) :
    replyFor id (step s st e).2 = replyFor id (step s st' e).2 ∧
      SameSession id (step s st e).1 (step s st' e).1 := by
  cases e with
  | sweep now =>
    refine ⟨rfl, ?_, ?_⟩
    · show (st.sessions.sweepExpired now).get id = (st'.sessions.sweepExpired now).get id
      rw [get_sweepExpired, get_sweepExpired, h.get, h.ttl]
    · show (st.sessions.sweepExpired now).ttl = (st'.sessions.sweepExpired now).ttl
      rw [ttl_sweepExpired, ttl_sweepExpired, h.ttl]
  | packet c t p =>
    have hid : p.hdr.sessionID = id := by simpa [eventIsFor] using he
    subst hid
    refine ⟨?_, get_handle_congr s c t p h.get, ?_⟩
    · rw [replyFor_packet, replyFor_packet, reply_handle_congr s c t fun _ => h.get]
    · exact (handle_acts s c t st p).ttl.trans (h.ttl.trans (handle_acts s c t st' p).ttl.symm)

/-- If only packets of the session are handled, every reply is for it. -/
theorem replyFor_of_solo (s : Server Unit) (id : UInt32) (st : State Unit) {es : List Event}
    (hes : ∀ e ∈ es, eventIsFor id e = true) :
    (Run.outputs (step s) st es).filterMap (replyFor id)
      = (Run.outputs (step s) st es).filterMap Seen.reply := by
  apply List.filterMap_congr
  intro o ho
  obtain ⟨pre, e, post, rfl, rfl⟩ := Run.exists_of_mem_outputs ho
  have he := hes e (List.mem_append_right _ List.mem_cons_self)
  cases e with
  | sweep now => rfl
  | packet c t p =>
    have hid : p.hdr.sessionID = id := by simpa [eventIsFor] using he
    rw [replyFor_packet, if_pos hid]
    rfl

theorem packets_filter (id : UInt32) (ds : List Delivery) :
    packets (ds.filter (Delivery.isFor id))
      = (packets ds).filter fun p => p.hdr.sessionID == id := by
  induction ds with
  | nil => rfl
  | cons d ds ih =>
    cases d with
    | sweep now => exact ih
    | packet t p =>
      show packets (List.filter _ (.packet t p :: ds)) = List.filter _ (p :: packets ds)
      cases hid : p.hdr.sessionID == id with
      | true =>
        have hfor : Delivery.isFor id (.packet t p) = true := hid
        rw [List.filter_cons_of_pos hfor, List.filter_cons_of_pos (by simp [hid]), ← ih]
        rfl
      | false =>
        have hfor : ¬Delivery.isFor id (.packet t p) = true := by simp [Delivery.isFor, hid]
        rw [List.filter_cons_of_neg hfor, List.filter_cons_of_neg (by simp [hid]), ih]

/-- **Sessions on one connection do not see each other.** Let the packets a connection delivers
    all carry the same flags, and flags that the server admits. Then the packets written for a
    session are the packets that are written if the packets of that session are the only ones
    the connection delivers. -/
theorem multiplexing (cfg : Config Unit) (md5 : Crypto.Md5) (c : Conn) (flags : HeaderFlags)
    (st : State Unit) (ds : List Delivery)
    (hflags : ∀ p ∈ packets ds, p.hdr.flags = flags ∧ checkFlags (new cfg) c p.hdr = .ok ())
    (id : UInt32) (input solo : Bytes)
    (hinput : ((reader md5 c).readAll input).values = packets ds)
    (hsolo : ((reader md5 c).readAll solo).values
      = (packets ds).filter fun p => p.hdr.sessionID == id) :
    (written (new cfg) md5 st c input ds).filter (fun p => p.hdr.sessionID == id)
      = written (new cfg) md5 st c solo (ds.filter (Delivery.isFor id)) := by
  have hfilter : (ds.map (Delivery.event c)).filter (eventIsFor id)
      = (ds.filter (Delivery.isFor id)).map (Delivery.event c) := by
    rw [List.filter_map]
    congr 2
    funext d
    cases d <;> rfl
  rw [← packets_filter] at hsolo
  have hflags' : ∀ p ∈ packets (ds.filter (Delivery.isFor id)),
      p.hdr.flags = flags ∧ checkFlags (new cfg) c p.hdr = .ok () := by
    intro p hp
    rw [packets_filter] at hp
    exact hflags p (List.mem_of_mem_filter hp)
  unfold written
  rw [written_eq_replies (new cfg) md5 c hflags st hinput (Or.inl rfl),
    written_eq_replies (new cfg) md5 c hflags' st hsolo (Or.inl rfl), List.filter_filterMap,
    ← hfilter, ← replyFor_of_solo _ id]
  · exact Run.outputs_purge (sameSession_skip (new cfg)) (sameSession_keep (new cfg)) ⟨rfl, rfl⟩ _
  · exact fun e he => (List.mem_filter.mp he).2

/-! `alice` in session 1 and `bob` in session 2, on one connection. -/

/-- The START of `alice`, the START of `bob`, the CONTINUE of `alice`. -/
def aliceBob : List Delivery :=
  [.packet ⟨0, 0⟩ (clearPkt 1 1 (asciiLogin "alice")),
    .packet ⟨1, 1⟩ (clearPkt 2 1 (asciiLogin "bob")), .sweep 2,
    .packet ⟨3, 3⟩ (clearPkt 1 3 (continueWith "pw"))]

/-- Clear packets that give their length arrive as they are. -/
theorem readAll_onWire (md5 : Crypto.Md5) (c : Conn) {ps : List Pkt}
    (hps : ∀ p ∈ ps, Transport.Sendable p ∧ Transport.delivered c p = p) :
    ((reader md5 c).readAll (ps.map (Transport.frame md5 c)).flatten).values = ps := by
  rw [Transport.readAll_written md5 rfl rfl fun p hp => (hps p hp).1]
  exact (List.map_congr_left fun p hp => (hps p hp).2).trans (List.map_id ps)

theorem multiplexing_alice_bob :
    let stream ps := (ps.map (Transport.frame default tlsConn)).flatten
    let alice := (packets aliceBob).filter fun p => p.hdr.sessionID == 1
    (written (new askByNameServer) default (State.init askByNameServer ()) tlsConn
        (stream (packets aliceBob)) aliceBob).filter (fun p => p.hdr.sessionID == 1)
      = written (new askByNameServer) default (State.init askByNameServer ()) tlsConn
          (stream alice) (aliceBob.filter (Delivery.isFor 1)) :=
  multiplexing askByNameServer default tlsConn flagUnencrypted (State.init askByNameServer ())
    aliceBob (by decide) 1 _ _ (readAll_onWire default tlsConn (by decide))
    (readAll_onWire default tlsConn (by decide))

/-- On a connection under legacy the same flags are refused: the first packet ends the
    connection and `bob` gets no answer, where alone `bob` gets an error. -/
theorem multiplexing_refused :
    let cfg : Config Unit := { handler := askByName, mode := .legacy }
    let c : Conn := { mode := .legacy, secret := lit "key", remoteAddr := lit "10.0.0.2:4950" }
    let stream ps := (ps.map (Transport.frame default c)).flatten
    let bob := (packets aliceBob).filter fun p => p.hdr.sessionID == 2
    (∀ p ∈ packets aliceBob, p.hdr.flags = flagUnencrypted) ∧
      ((reader default c).readAll (stream (packets aliceBob))).values = packets aliceBob ∧
      ((reader default c).readAll (stream bob)).values = bob ∧
      (written (new cfg) default (State.init cfg ()) c (stream (packets aliceBob)) aliceBob).filter
          (fun p => p.hdr.sessionID == 2) = [] ∧
      written (new cfg) default (State.init cfg ()) c (stream bob)
          (aliceBob.filter (Delivery.isFor 2))
        = [sendGenericError (clearPkt 2 1 (asciiLogin "bob")).hdr] := by
  refine ⟨by decide, readAll_onWire default _ (by decide), readAll_onWire default _ (by decide),
    by decide, by decide⟩

end Server
end Proof
end Tacacs
