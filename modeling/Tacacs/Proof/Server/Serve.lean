import Tacacs.Server.Serve
import Tacacs.Proof.Server.Sequence

/-!
# What a turn of the serving loop can do

A turn either reads nothing, and then nothing is handled or written, or it reads one packet and
writes one. `servePacket_cases` says what happens to a packet that was read: it is turned away
with the header-only error, or `checkFlags` let it through and it was handled.

Two properties of everything a server does follow, over any interleaving of any connections.
Both have an exact condition, and in both the condition is not always met:

* the number a reply carries is the packet's plus one **as a byte**, so it is a server's number
  exactly if the packet's was a client's, and not 255 (`outbound_seqNo_iff`);
* the flag policy is fixed when the server is made, from the mode in its configuration, while
  the mode of a connection comes from the secret provider. A server configured for TLS lets
  clear packets in on a legacy connection (`flagPolicy_iff`).
-/

set_option autoImplicit false

namespace Tacacs
namespace Proof
namespace Server

open GoSem Tacacs.Packet Tacacs.Transport
open Tacacs.Server hiding AuthenStart AuthenContinue

variable {σ : Type}

/-! ## One turn -/

/-- A turn reads a packet, or the loop returns and nothing happens. Which of the two depends on
    the connection and not on the state of the server. -/
theorem serveIteration_cases (s : Server σ) (md5 : Crypto.Md5) (c : Conn) (e : Env)
    (loop : Loop) (input : Bytes) :
    (∃ err rest, ∀ st, serveIteration s md5 c e st loop input
      = { st, loop := .returned err, input := rest }) ∨
    ∃ p rest, (∀ err, loop ≠ .returned err) ∧ c.readPacket md5 input = (.ok p, rest) ∧
      ∀ st, serveIteration s md5 c e st loop input = servePacket s c e st loop p rest := by
  unfold serveIteration
  split
  · exact Or.inl ⟨_, _, fun _ => rfl⟩
  · split
    · exact Or.inl ⟨_, _, fun _ => rfl⟩
    · exact Or.inl ⟨_, _, fun _ => rfl⟩
    · split
      · exact Or.inl ⟨_, _, fun _ => rfl⟩
      · exact Or.inl ⟨_, _, fun _ => rfl⟩
      · exact Or.inr ⟨_, _, ‹_›, ‹_›, fun _ => rfl⟩

/-- The loop has not returned. -/
def Live (l : Loop) : Prop := ∀ err, l ≠ .returned err

/-- A loop that has not returned looks at the context, reads, and goes on with the packet. -/
theorem serveIteration_live (s : Server σ) (md5 : Crypto.Md5) (c : Conn) (e : Env)
    (st : State σ) {loop : Loop} (input : Bytes) (hl : Live loop) :
    serveIteration s md5 c e st loop input =
      match e.ctxErr, e.readErr with
      | some err, _ => { st, loop := .returned (some err), input }
      | none, some err => { st, loop := .returned (some err), input }
      | none, none =>
          match c.readPacket md5 input with
          | (.error (.err err), input) => { st, loop := .returned (some err), input }
          | (.error .panic, input) => { st, loop := .returned none, input }
          | (.ok p, input) => servePacket s c e st loop p input := by
  unfold serveIteration
  split
  · next err => exact absurd rfl (hl err)
  · rfl

/-- A packet that was read and turned away, for its flags. -/
structure TurnedAway (st : State σ) (p : Pkt) (l : Loop) (r : Turn σ) : Prop where
  get : r.st.sessions.get = st.sessions.get
  ttl : r.st.sessions.ttl = st.sessions.ttl
  loop : r.loop = l
  calls : r.calls = []
  written : r.written = some (sendGenericError p.hdr)

/-- A packet that was read and handled, with outcome `h`. -/
structure Dispatched (h : Handled σ) (l : Loop) (r : Turn σ) : Prop where
  st : r.st = h.st
  loop : r.loop = l
  calls : r.calls = h.calls
  written : r.written = some h.reply

/-- What becomes of a packet that was read; again the state of the server has no say in it. -/
theorem servePacket_cases (s : Server σ) (c : Conn) (e : Env) (loop : Loop) (p : Pkt)
    (input : Bytes) :
    (∃ l, ∀ st, TurnedAway st p l (servePacket s c e st loop p input)) ∨
      (checkFlags s c p.hdr = .ok () ∧
        ∃ l, ∀ st, Dispatched (handle s c e.t st p) l (servePacket s c e st loop p input)) := by
  unfold servePacket
  cases hf : checkFlags s c p.hdr with
  | error err => exact Or.inl ⟨_, fun _ => ⟨rfl, rfl, rfl, rfl, rfl⟩⟩
  | ok u =>
    dsimp only
    split
    · exact Or.inr ⟨rfl, _, fun _ => ⟨rfl, rfl, rfl, rfl⟩⟩
    · exact Or.inl ⟨_, fun _ => ⟨rfl, rfl, rfl, rfl, rfl⟩⟩

theorem servePacket_read (s : Server σ) (c : Conn) (e : Env) (st : State σ) (loop : Loop)
    (p : Pkt) (input : Bytes) :
    (servePacket s c e st loop p input).read = some p ∧
      (servePacket s c e st loop p input).input = input := by
  unfold servePacket
  cases checkFlags s c p.hdr with
  | error err => exact ⟨rfl, rfl⟩
  | ok u =>
    dsimp only
    split <;> exact ⟨rfl, rfl⟩

/-- A served connection after a turn. -/
def Served.turned (v : Served) (r : Turn σ) : Served := { v with input := r.input, loop := r.loop }

/-! ## The number of a reply -/

/-- Every packet that is read is answered by one packet, with the echo of its header. -/
theorem servePacket_written (s : Server σ) (c : Conn) (e : Env) (st : State σ) (loop : Loop)
    (p : Pkt) (input : Bytes) :
    ∃ q, (servePacket s c e st loop p input).written = some q ∧ q.hdr = errorHeader p.hdr := by
  rcases servePacket_cases s c e loop p input with ⟨l, h⟩ | ⟨-, l, h⟩
  · exact ⟨_, (h st).written, rfl⟩
  · exact ⟨_, (h st).written, handle_reply_hdr s c e.t st p⟩

/-- A number a server may send: even, and not zero. -/
def ServerSeq (n : UInt8) : Prop := n.toNat % 2 = 0 ∧ n ≠ 0

/-- A number a client may send and still get a reply: odd, and not the last. -/
def ClientSeq (n : UInt8) : Prop := n.toNat % 2 = 1 ∧ n ≠ 255

instance (n : UInt8) : Decidable (ServerSeq n) := inferInstanceAs (Decidable (_ ∧ _))

theorem serverSeq_succ (n : UInt8) : ServerSeq (n + 1) ↔ ClientSeq n := by
  have hlt := n.toNat_lt
  have hadd : (n + 1).toNat = (n.toNat + 1) % 256 := UInt8.toNat_add n 1
  unfold ServerSeq ClientSeq
  rw [Ne, Ne, ← UInt8.toNat_inj, ← UInt8.toNat_inj, hadd]
  show (n.toNat + 1) % 256 % 2 = 0 ∧ ¬(n.toNat + 1) % 256 = 0 ↔ n.toNat % 2 = 1 ∧ ¬n.toNat = 255
  omega

section World

variable {ι : Type} [DecidableEq ι]

/-- What every turn keeps of a connection, a step of the world keeps of all of them. -/
theorem conns_step (s : Server σ) (md5 : Crypto.Md5) {P : ι → Served → Prop}
    (hturn : ∀ i v e st, P i v →
      P i (Served.turned v (serveIteration s md5 v.conn e st v.loop v.input)))
    (w : World σ ι) (act : Act ι) (h : ∀ i, P i (w.conns i)) (j : ι) :
    P j ((World.step s md5 w act).1.conns j) := by
  cases act with
  | sweep now => exact h j
  | serve i e =>
    have hi := hturn i (w.conns i) e w.st (h i)
    exact (Function.forall_update_iff w.conns P).mpr ⟨hi, fun j _ => h j⟩ j

/-- What is seen of a step: nothing, or a packet and its answer. -/
theorem sight_cases (s : Server σ) (md5 : Crypto.Md5) (w : World σ ι) (act : Act ι) :
    ((World.step s md5 w act).2.read = none ∧ (World.step s md5 w act).2.written = none) ∨
      ∃ p q, (World.step s md5 w act).2.read = some p ∧
        (World.step s md5 w act).2.written = some q ∧ q.hdr = errorHeader p.hdr := by
  cases act with
  | sweep now => exact Or.inl ⟨rfl, rfl⟩
  | serve i e =>
    let v := w.conns i
    show ((serveIteration s md5 v.conn e w.st v.loop v.input).read = none ∧
        (serveIteration s md5 v.conn e w.st v.loop v.input).written = none) ∨
      ∃ p q, (serveIteration s md5 v.conn e w.st v.loop v.input).read = some p ∧
        (serveIteration s md5 v.conn e w.st v.loop v.input).written = some q ∧
        q.hdr = errorHeader p.hdr
    rcases serveIteration_cases s md5 v.conn e v.loop v.input with
      ⟨err, rest, h⟩ | ⟨p, rest, -, -, h⟩
    · rw [h]
      exact Or.inl ⟨rfl, rfl⟩
    · rw [h]
      obtain ⟨q, hq, hhdr⟩ := servePacket_written s v.conn e w.st v.loop p rest
      exact Or.inr ⟨p, q, (servePacket_read s v.conn e w.st v.loop p rest).1, hq, hhdr⟩

/-- **Outbound numbers.** Whatever the state of the server and whatever the packet, what is
    written in answer to it carries an even number other than zero if and only if the packet
    carries an odd one other than 255; and so for every interleaving of any connections: all
    that is written is numbered as a server's packets are, if and only if all that is read is
    numbered so. -/
theorem outbound_seqNo_iff (s : Server σ) (md5 : Crypto.Md5) :
    (∀ c e st loop p input,
      (∀ q, (servePacket s c e st loop p input).written = some q → ServerSeq q.hdr.seqNo) ↔
        ClientSeq p.hdr.seqNo) ∧
    ∀ (w : World σ ι) acts,
      (∀ o ∈ Run.outputs (World.step s md5) w acts, ∀ q, o.written = some q →
          ServerSeq q.hdr.seqNo) ↔
        ∀ o ∈ Run.outputs (World.step s md5) w acts, ∀ p, o.read = some p →
          ClientSeq p.hdr.seqNo := by
  have hecho : ∀ {p q : Pkt}, q.hdr = errorHeader p.hdr →
      (ServerSeq q.hdr.seqNo ↔ ClientSeq p.hdr.seqNo) := by
    intro p q h
    rw [h]
    exact serverSeq_succ p.hdr.seqNo
  constructor
  · intro c e st loop p input
    obtain ⟨q, hq, hhdr⟩ := servePacket_written s c e st loop p input
    rw [hq, ← hecho hhdr]
    exact ⟨fun h => h q rfl, fun h q' hq' => by cases hq'; exact h⟩
  · intro w acts
    refine forall₂_congr fun o ho => ?_
    obtain ⟨pre, act, post, -, rfl⟩ := Run.exists_of_mem_outputs ho
    rcases sight_cases s md5 (Run.after (World.step s md5) w pre) act with
      ⟨hr, hw⟩ | ⟨p, q, hr, hw, hhdr⟩
    · rw [hr, hw]
      exact ⟨fun _ p hp => (by cases hp), fun _ q hq => (by cases hq)⟩
    · rw [hr, hw]
      constructor
      · intro h p' hp'
        cases hp'
        exact (hecho hhdr).mp (h q rfl)
      · intro h q' hq'
        cases hq'
        exact (hecho hhdr).mpr (h p rfl)

end World

/-- An authorization request numbered 255, as the bytes of a TLS connection: it is answered
    with number 0. -/
theorem outbound_seqNo_wraps :
    let cfg : Config Unit := { handler := askAgain, mode := .tls }
    let request : Bytes := [0xc0, 2, 255, 1, 0, 0, 0, 7, 0, 0, 0, 8] ++ [0, 1, 1, 1, 0, 0, 0, 0]
    (∀ md5, (Run.outputs (World.step (new cfg) md5)
      (World.init cfg () (fun _ : Unit => tlsConn) (fun _ => request))
      [.serve () {t := ⟨0, 0⟩}]).map (fun o => o.written.map (fun q => q.hdr.seqNo))
        = [some 0]) ∧ ¬ServerSeq 0 :=
  ⟨fun _ => rfl, by decide⟩

/-! ## Which packets reach the handler -/

/-- What the flag of a packet on connection `c` should be: set under TLS; under legacy clear,
    unless the configuration allows clear packets. -/
def FlagPolicy (cfg : Config σ) (c : Conn) (hdr : Header) : Prop :=
  (c.mode = .tls ∧ HeaderFlags.has hdr.flags flagUnencrypted = true) ∨
    (c.mode = .legacy ∧
      (HeaderFlags.has hdr.flags flagUnencrypted = false ∨ cfg.allowUnencrypted = true))

/-- Where the policy of the server is the one the connection should have. -/
def PolicyFits (cfg : Config σ) (c : Conn) : Prop :=
  c.mode = .tls ∨ cfg.allowUnencrypted = true ∨ cfg.mode ≠ .tls

/-- What `checkFlags` lets through: under legacy also everything, if the *configuration* is for
    TLS. -/
theorem checkFlags_ok {cfg : Config σ} {c : Conn} {hdr : Header} :
    checkFlags (new cfg) c hdr = .ok () ↔
      FlagPolicy cfg c hdr ∨ (c.mode = .legacy ∧ cfg.mode = .tls) := by
  unfold checkFlags FlagPolicy Crypto.Policy.checkUnencryptedFlag enforceTLSFlagPolicy new
  cases c.mode with
  | tls => cases HeaderFlags.has hdr.flags flagUnencrypted <;> simp
  | legacy =>
    cases HeaderFlags.has hdr.flags flagUnencrypted <;> cases cfg.allowUnencrypted <;>
      cases cfg.mode <;> simp

theorem flagPolicy_of_fits {cfg : Config σ} {c : Conn} {hdr : Header} (hfits : PolicyFits cfg c)
    (h : checkFlags (new cfg) c hdr = .ok ()) : FlagPolicy cfg c hdr := by
  rcases checkFlags_ok.mp h with h | ⟨hc, hm⟩
  · exact h
  · rcases hfits with ht | ha | hn
    · rw [hc] at ht
      cases ht
    · exact Or.inr ⟨hc, Or.inr ha⟩
    · exact absurd hm hn

/-- A handler is called for a packet that was read and whose flags passed. -/
theorem checkFlags_of_calls {s : Server σ} {md5 : Crypto.Md5} {c : Conn} {e : Env}
    {st : State σ} {loop : Loop} {input : Bytes}
    (h : (serveIteration s md5 c e st loop input).calls ≠ []) :
    ∃ p, (serveIteration s md5 c e st loop input).read = some p ∧
      checkFlags s c p.hdr = .ok () := by
  rcases serveIteration_cases s md5 c e loop input with
    ⟨err, rest, hidle⟩ | ⟨p, rest, -, -, hp⟩
  · rw [hidle] at h
    exact absurd rfl h
  · rw [hp] at h ⊢
    rcases servePacket_cases s c e loop p rest with ⟨l, haway⟩ | ⟨hf, -⟩
    · exact absurd (haway st).calls h
    · exact ⟨p, (servePacket_read s c e st loop p rest).1, hf⟩

/-- A START whose flags pass is put to the handler, if it comes first. -/
theorem calls_of_start {s : Server σ} {c : Conn} {p : Pkt} {start : AuthenStart}
    (hf : checkFlags s c p.hdr = .ok ()) (hp : startIn p.hdr.sessionID p = some start) (e : Env)
    (st : State σ) (input : Bytes) : (servePacket s c e st .first p input).calls ≠ [] := by
  unfold servePacket
  rw [hf]
  intro hnil
  apply (turns_start s st (e := .packet c e.t p) hp).1
  show (handle s c e.t st p).calls.filterMap _ = []
  rw [show (handle s c e.t st p).calls = [] from hnil]
  rfl

section World

variable {ι : Type} [DecidableEq ι]

/-- A connection keeps its mode and secret. -/
theorem conn_after (s : Server σ) (md5 : Crypto.Md5) (w : World σ ι) (acts : List (Act ι))
    (i : ι) : ((Run.after (World.step s md5) w acts).conns i).conn = (w.conns i).conn := by
  refine Run.after_invariant (G := fun _ => True)
    (P := fun w' : World σ ι => ∀ i, (w'.conns i).conn = (w.conns i).conn) ?_ (fun _ => rfl)
    (fun _ _ => trivial) i
  intro w' act h _
  exact conns_step s md5 (P := fun i v => v.conn = (w.conns i).conn) (fun _ _ _ _ hv => hv)
    w' act h

/-- A clear packet as the bytes of a stream. -/
def onWire (p : Pkt) : Bytes :=
  [p.hdr.version, p.hdr.type, p.hdr.seqNo, p.hdr.flags] ++ be32Bytes p.hdr.sessionID ++
    be32Bytes p.hdr.length ++ p.body

/-- A login of `erin` in the clear. -/
def clearLogin : Bytes := onWire (clearPkt 9 1 (asciiLogin "erin"))

theorem readPacket_clearLogin (md5 : Crypto.Md5) {c : Conn} (hc : c.mode = .legacy) :
    c.readPacket md5 clearLogin = (.ok (clearPkt 9 1 (asciiLogin "erin")), []) := by
  obtain ⟨mode, secret, addr⟩ := c
  cases hc
  rfl

/-- **Which flags get through.** On connection `i` of a server, whatever all the peers send and
    in whatever order the connections are served, the handler is called only for packets whose
    flag is as the mode of the connection asks — if and only if the connection is under TLS, or
    clear packets are allowed, or the configuration itself is not for TLS. -/
theorem flagPolicy_iff (cfg : Config σ) (h : σ) (md5 : Crypto.Md5) (conns : ι → Conn) (i : ι) :
    (∀ input acts, ∀ o ∈ Run.outputs (World.step (new cfg) md5)
        (World.init cfg h conns input) acts,
      o.conn = some i → o.calls ≠ [] → ∃ p, o.read = some p ∧ FlagPolicy cfg (conns i) p.hdr) ↔
      PolicyFits cfg (conns i) := by
  constructor
  · intro hall
    by_contra hfits
    have hlegacy : (conns i).mode = .legacy := by
      cases hm : (conns i).mode with
      | legacy => rfl
      | tls => exact absurd (Or.inl hm) hfits
    have htls : cfg.mode = .tls := by
      by_contra hm
      exact hfits (Or.inr (Or.inr hm))
    -- the run: the peer of `i` sends a clear login, and `i` is served once
    let p := clearPkt 9 1 (asciiLogin "erin")
    let e : Env := { t := ⟨0, 0⟩ }
    have hturn : serveIteration (new cfg) md5 (conns i) e (State.init cfg h) .first clearLogin
        = servePacket (new cfg) (conns i) e (State.init cfg h) .first p [] := by
      unfold serveIteration
      rw [readPacket_clearLogin md5 hlegacy]
    have hf : checkFlags (new cfg) (conns i) p.hdr = .ok () :=
      checkFlags_ok.mpr (Or.inr ⟨hlegacy, htls⟩)
    have hstart : startIn p.hdr.sessionID p = some ⟨1, 1, 1, 1, lit "erin", [], [], []⟩ := rfl
    have hcalls := calls_of_start hf hstart e (State.init cfg h) []
    rw [← hturn] at hcalls
    obtain ⟨p', hread, hpolicy⟩ := hall (fun _ => clearLogin) [.serve i e] _ List.mem_cons_self
      rfl hcalls
    have hp := (servePacket_read (new cfg) (conns i) e (State.init cfg h) .first p []).1
    rw [← hturn] at hp
    cases hp.symm.trans hread
    rcases hpolicy with ⟨ht, -⟩ | ⟨-, hclear | ha⟩
    · rw [hlegacy] at ht
      cases ht
    · exact absurd hclear (by decide)
    · exact hfits (Or.inr (Or.inl ha))
  · intro hfits input acts o ho hconn hcalls
    obtain ⟨pre, act, post, -, rfl⟩ := Run.exists_of_mem_outputs ho
    cases act with
    | sweep now => cases hconn
    | serve j e =>
      cases hconn
      have hc := conn_after (new cfg) md5 (World.init cfg h conns input) pre i
      obtain ⟨p, hread, hf⟩ := checkFlags_of_calls hcalls
      rw [hc] at hf
      exact ⟨p, hread, flagPolicy_of_fits hfits hf⟩

end World

/-- A server for TLS, without `AllowUnencrypted`, whose secret provider puts a client under
    legacy: the clear login of that client reaches the handler. -/
theorem flagPolicy_violated :
    let legacy : SecretProvider := ⟨fun _ => .ok { secret := lit "key", mode := .legacy }⟩
    let cfg : Config Unit := { handler := askAgain, mode := .tls, secretProvider := some legacy }
    let c : Conn := { mode := .legacy, secret := lit "key", remoteAddr := lit "10.0.0.2:4950" }
    let p := clearPkt 9 1 (asciiLogin "erin")
    acceptConn (new cfg) (lit "10.0.0.2:4950") = .ok c ∧
      (∀ md5, (Run.outputs (World.step (new cfg) md5)
        (World.init cfg () (fun _ : Unit => c) (fun _ => clearLogin))
        [.serve () { t := ⟨0, 0⟩ }]).map (fun o => (o.read, o.calls.length)) = [(some p, 1)]) ∧
      ¬FlagPolicy cfg c p.hdr := by
  refine ⟨rfl, fun _ => rfl, ?_⟩
  rintro (⟨hc, -⟩ | ⟨-, hclear | ha⟩)
  · cases hc
  · exact absurd hclear (by decide)
  · cases ha

end Server
end Proof
end Tacacs
