import Tacacs.Proof.Server.Serve
import Tacacs.Proof.Server.Passwords
import Mathlib.Data.Set.Insert

/-!
# What one connection can do to another

All connections share one registry, and a session is found in it by its id alone: nothing in it
says on which connection a START came in. So a connection **can** disturb another, by sending
an authentication packet with the id of a session the other continues
(`isolation_broken_by_shared_id`). It is the only way (`isolation`): connections that send no
such packet can be silenced, and nothing changes in what the other is sent.

The proof is an unwinding. Two worlds are `Alike` if they differ only in those connections, and
in the entries of sessions the observed connection does not continue. Related worlds stay so,
and write the same packets on it.
-/

set_option autoImplicit false

namespace Tacacs
namespace Proof
namespace Server

open GoSem Tacacs.Packet Tacacs.Transport
open Tacacs.Server hiding AuthenStart AuthenContinue

/-! ## The packets of a stream -/

/-- `p` is one of the packets read from the stream, if it is read to its end or to the first
    error. -/
inductive Delivers (md5 : Crypto.Md5) (c : Conn) : Bytes → Pkt → Prop where
  | next {input rest : Bytes} {p : Pkt} :
      c.readPacket md5 input = (.ok p, rest) → Delivers md5 c input p
  | later {input rest : Bytes} {p q : Pkt} :
      c.readPacket md5 input = (.ok p, rest) → Delivers md5 c rest q → Delivers md5 c input q

theorem delivers_iff {md5 : Crypto.Md5} {c : Conn} {input rest : Bytes} {p q : Pkt}
    (h : c.readPacket md5 input = (.ok p, rest)) :
    Delivers md5 c input q ↔ q = p ∨ Delivers md5 c rest q := by
  constructor
  · intro hd
    cases hd with
    | next h' =>
      rw [h] at h'
      cases h'
      exact Or.inl rfl
    | later h' hq =>
      rw [h] at h'
      cases h'
      exact Or.inr hq
  · rintro (rfl | hq)
    · exact .next h
    · exact .later h hq

theorem not_delivers_nil {md5 : Crypto.Md5} {c : Conn} {p : Pkt} : ¬Delivers md5 c [] p := by
  have hnil : c.readPacket md5 [] = (fail .eof, []) := rfl
  intro h
  cases h with
  | next h' => rw [hnil] at h'; cases h'
  | later h' _ => rw [hnil] at h'; cases h'

/-- A connection may yet read `p`. -/
def Awaits (md5 : Crypto.Md5) (v : Served) (p : Pkt) : Prop :=
  (∀ err, v.loop ≠ .returned err) ∧ Delivers md5 v.conn v.input p

section Turns

variable {σ : Type}

/-- What may be read after a turn could be read before it. -/
theorem awaits_of_turned {s : Server σ} {md5 : Crypto.Md5} {v : Served} {e : Env}
    {st : State σ} {q : Pkt}
    (h : Awaits md5 (Served.turned v (serveIteration s md5 v.conn e st v.loop v.input)) q) :
    Awaits md5 v q := by
  obtain ⟨hrun, hq⟩ := h
  rcases serveIteration_cases s md5 v.conn e v.loop v.input with
    ⟨err, rest, hidle⟩ | ⟨p, rest, hloop, hread, hp⟩
  · rw [hidle] at hrun
    exact absurd rfl (hrun err)
  · rw [hp] at hq
    refine ⟨hloop, .later hread ?_⟩
    rw [← (servePacket_read s v.conn e st v.loop p rest).2]
    exact hq

/-- A packet that a turn reads was awaited. -/
theorem awaits_of_read {s : Server σ} {md5 : Crypto.Md5} {v : Served} {e : Env} {st : State σ}
    {p : Pkt} (h : (serveIteration s md5 v.conn e st v.loop v.input).read = some p) :
    Awaits md5 v p := by
  rcases serveIteration_cases s md5 v.conn e v.loop v.input with
    ⟨err, rest, hidle⟩ | ⟨p', rest, hloop, hread, hp⟩
  · rw [hidle] at h
    cases h
  · rw [hp, (servePacket_read s v.conn e st v.loop p' rest).1] at h
    cases h
    exact ⟨hloop, .next hread⟩

/-- What a turn does to the registry: nothing, or it handles a packet that was awaited. -/
theorem turn_cases (s : Server σ) (md5 : Crypto.Md5) (v : Served) (e : Env) (st : State σ) :
    let r := serveIteration s md5 v.conn e st v.loop v.input
    (r.st.sessions.get = st.sessions.get ∧ r.st.sessions.ttl = st.sessions.ttl ∧ r.calls = []) ∨
      ∃ p, r.read = some p ∧ r.st = (handle s v.conn e.t st p).st ∧
        r.calls = (handle s v.conn e.t st p).calls := by
  intro r
  show (r.st.sessions.get = _ ∧ _ ∧ _) ∨ _
  unfold r
  rcases serveIteration_cases s md5 v.conn e v.loop v.input with
    ⟨err, rest, hidle⟩ | ⟨p, rest, -, -, hp⟩
  · rw [hidle]
    exact Or.inl ⟨rfl, rfl, rfl⟩
  · rw [hp]
    rcases servePacket_cases s v.conn e v.loop p rest with ⟨l, haway⟩ | ⟨-, l, hdone⟩
    · exact Or.inl ⟨(haway st).get, (haway st).ttl, (haway st).calls⟩
    · exact Or.inr ⟨p, (servePacket_read s v.conn e st v.loop p rest).1, (hdone st).st,
        (hdone st).calls⟩

theorem ttl_turn (s : Server σ) (md5 : Crypto.Md5) (v : Served) (e : Env) (st : State σ) :
    (serveIteration s md5 v.conn e st v.loop v.input).st.sessions.ttl = st.sessions.ttl := by
  rcases turn_cases s md5 v e st with ⟨-, h, -⟩ | ⟨p, -, h, -⟩
  · exact h
  · rw [h]
    exact (handle_acts s v.conn e.t st p).ttl

/-! ## Turns that leave some sessions alone -/

/-- No authentication packet for a session of `K` may yet be read. -/
def Harmless (md5 : Crypto.Md5) (K : Set UInt32) (v : Served) : Prop :=
  ∀ p, Awaits md5 v p → p.hdr.type = packetAuthentication → p.hdr.sessionID ∉ K

theorem Harmless.turned {md5 : Crypto.Md5} {K : Set UInt32} {v : Served} (h : Harmless md5 K v)
    (s : Server σ) (e : Env) (st : State σ) :
    Harmless md5 K (Served.turned v (serveIteration s md5 v.conn e st v.loop v.input)) :=
  fun p hp => h p (awaits_of_turned hp)

theorem get_turn_of_harmless {md5 : Crypto.Md5} {K : Set UInt32} {v : Served}
    (h : Harmless md5 K v) (s : Server σ) (e : Env) (st : State σ) {k : UInt32} (hk : k ∈ K) :
    (serveIteration s md5 v.conn e st v.loop v.input).st.sessions.get k
      = st.sessions.get k := by
  rcases turn_cases s md5 v e st with ⟨hget, -, -⟩ | ⟨p, hread, hst, -⟩
  · rw [hget]
  · rw [hst]
    apply get_handle_other
    intro htype hid
    exact h p (awaits_of_read hread) htype (hid ▸ hk)

end Turns

/-! ## The same turn in two states

From here on the handler is a function of its arguments: it has no state, which is to say that
its state is `Unit`. -/

/-- The same entry before, the same entry after. -/
theorem get_handle_congr (s : Server Unit) (c : Conn) (t : Times) (p : Pkt)
    {st st' : State Unit} {k : UInt32} (h : st.sessions.get k = st'.sessions.get k) :
    (handle s c t st p).st.sessions.get k = (handle s c t st' p).st.sessions.get k := by
  have ha := handle_acts s c t st p
  have ha' := handle_acts s c t st' p
  by_cases hk : k = p.hdr.sessionID
  · subst hk
    rw [ha.get_self, ha'.get_self, h]
  · rw [ha.get_ne hk, ha'.get_ne hk, h]

/-- Only a CONTINUE is answered from the registry. -/
theorem reply_handle_congr (s : Server Unit) (c : Conn) (t : Times) {p : Pkt}
    {st st' : State Unit} (h : IsContinue p.hdr.sessionID p →
      st.sessions.get p.hdr.sessionID = st'.sessions.get p.hdr.sessionID) :
    (handle s c t st p).reply = (handle s c t st' p).reply := by
  rw [(handle_acts s c t st p).reply, (handle_acts s c t st' p).reply]
  by_cases hc : IsContinue p.hdr.sessionID p
  · rw [h hc]
  · unfold react
    by_cases htype : p.hdr.type = packetAuthentication
    · have hseq : p.hdr.seqNo = 1 := by
        by_contra hne
        exact hc ⟨htype, rfl, hne⟩
      rw [if_pos htype, if_pos htype]
      unfold reactAuthen intake
      rw [if_pos hseq, if_pos hseq]
      cases AuthenStart.unmarshalBinary p.body <;> rfl
    · rw [if_neg htype, if_neg htype]

/-- How two turns of a connection compare that are made in two states of the server. -/
structure Abreast (md5 : Crypto.Md5) (v : Served) (st st' : State Unit) (r r' : Turn Unit) :
    Prop where
  turned : Served.turned v r = Served.turned v r'
  get : ∀ k, st.sessions.get k = st'.sessions.get k →
    r.st.sessions.get k = r'.st.sessions.get k
  written : (∀ p, Awaits md5 v p → IsContinue p.hdr.sessionID p →
    st.sessions.get p.hdr.sessionID = st'.sessions.get p.hdr.sessionID) → r.written = r'.written

theorem turn_abreast (s : Server Unit) (md5 : Crypto.Md5) (v : Served) (e : Env)
    (st st' : State Unit) :
    Abreast md5 v st st' (serveIteration s md5 v.conn e st v.loop v.input)
      (serveIteration s md5 v.conn e st' v.loop v.input) := by
  rcases serveIteration_cases s md5 v.conn e v.loop v.input with
    ⟨err, rest, hidle⟩ | ⟨p, rest, hloop, hread, hp⟩
  · rw [hidle, hidle]
    exact ⟨rfl, fun k hk => hk, fun _ => rfl⟩
  · rw [hp, hp]
    have hrest := (servePacket_read s v.conn e st v.loop p rest).2
    have hrest' := (servePacket_read s v.conn e st' v.loop p rest).2
    rcases servePacket_cases s v.conn e v.loop p rest with ⟨l, haway⟩ | ⟨-, l, hdone⟩
    · refine ⟨?_, ?_, ?_⟩
      · unfold Served.turned
        rw [hrest, hrest', (haway st).loop, (haway st').loop]
      · intro k hk
        rw [(haway st).get, (haway st').get]
        exact hk
      · intro _
        rw [(haway st).written, (haway st').written]
    · refine ⟨?_, ?_, ?_⟩
      · unfold Served.turned
        rw [hrest, hrest', (hdone st).loop, (hdone st').loop]
      · intro k hk
        rw [(hdone st).st, (hdone st').st]
        exact get_handle_congr s v.conn e.t p hk
      · intro hask
        rw [(hdone st).written, (hdone st').written]
        exact congrArg some (reply_handle_congr s v.conn e.t (hask p ⟨hloop, .next hread⟩))

/-! ## Unwinding -/

section World

variable {ι : Type} [DecidableEq ι]

/-- Two worlds that connection `A` cannot tell apart: they have the same connections, except for
    the `others`, and the same entries for the sessions of `K`; the `others` will touch none of
    these, and `A` will continue no session but these. -/
structure Alike (md5 : Crypto.Md5) (A : ι) (others : Set ι) (K : Set UInt32)
    (w w' : World Unit ι) : Prop where
  ttl : w.st.sessions.ttl = w'.st.sessions.ttl
  get : ∀ k ∈ K, w.st.sessions.get k = w'.st.sessions.get k
  same : ∀ i ∉ others, w.conns i = w'.conns i
  harmless : ∀ i ∈ others, Harmless md5 K (w.conns i) ∧ Harmless md5 K (w'.conns i)
  asks : ∀ p, Awaits md5 (w.conns A) p → IsContinue p.hdr.sessionID p → p.hdr.sessionID ∈ K

/-- What is written on a connection in a step. -/
def writtenAt (A : ι) (o : Sight ι) : Option Pkt := if o.conn = some A then o.written else none

theorem alike_step (s : Server Unit) {md5 : Crypto.Md5} {A : ι} {others : Set ι}
    {K : Set UInt32} (hA : A ∉ others) (w w' : World Unit ι) (act : Act ι)
    (h : Alike md5 A others K w w') :
    writtenAt A (World.step s md5 w act).2 = writtenAt A (World.step s md5 w' act).2 ∧
      Alike md5 A others K (World.step s md5 w act).1 (World.step s md5 w' act).1 := by
  have hleft := conns_step s md5 (P := fun i v => i ∈ others → Harmless md5 K v)
    (fun i v e st hv hi => (hv hi).turned s e st) w act fun i hi => (h.harmless i hi).1
  have hright := conns_step s md5 (P := fun i v => i ∈ others → Harmless md5 K v)
    (fun i v e st hv hi => (hv hi).turned s e st) w' act fun i hi => (h.harmless i hi).2
  have hharmless := fun i hi => And.intro (hleft i hi) (hright i hi)
  have hasks := conns_step s md5 (P := fun i v => i = A → ∀ p, Awaits md5 v p →
      IsContinue p.hdr.sessionID p → p.hdr.sessionID ∈ K)
    (fun i v e st hv hi p hp => hv hi p (awaits_of_turned hp)) w act
    (fun i hi => hi ▸ h.asks) A rfl
  cases act with
  | sweep now =>
    refine ⟨rfl, ?_, ?_, h.same, hharmless, hasks⟩
    · show (w.st.sessions.sweepExpired now).ttl = (w'.st.sessions.sweepExpired now).ttl
      rw [ttl_sweepExpired, ttl_sweepExpired, h.ttl]
    · intro k hk
      show (w.st.sessions.sweepExpired now).get k = (w'.st.sessions.sweepExpired now).get k
      rw [get_sweepExpired, get_sweepExpired, h.get k hk, h.ttl]
  | serve i e =>
    let r := serveIteration s md5 (w.conns i).conn e w.st (w.conns i).loop (w.conns i).input
    let r' := serveIteration s md5 (w'.conns i).conn e w'.st (w'.conns i).loop (w'.conns i).input
    have httl : r.st.sessions.ttl = r'.st.sessions.ttl :=
      (ttl_turn s md5 _ e w.st).trans (h.ttl.trans (ttl_turn s md5 _ e w'.st).symm)
    by_cases hi : i ∈ others
    · -- a turn of one of the others: neither world writes on `A` or touches a session of `K`
      have hiA : ¬some i = some A := fun heq => hA (Option.some.inj heq ▸ hi)
      obtain ⟨h1, h2⟩ := h.harmless i hi
      refine ⟨?_, httl, ?_, ?_, hharmless, hasks⟩
      · show (if some i = some A then r.written else none)
          = if some i = some A then r'.written else none
        rw [if_neg hiA, if_neg hiA]
      · intro k hk
        show r.st.sessions.get k = r'.st.sessions.get k
        rw [get_turn_of_harmless h1 s e w.st hk, get_turn_of_harmless h2 s e w'.st hk]
        exact h.get k hk
      · intro j hj
        have hji : j ≠ i := fun heq => hj (heq ▸ hi)
        show Function.update w.conns i _ j = Function.update w'.conns i _ j
        rw [Function.update_of_ne hji, Function.update_of_ne hji]
        exact h.same j hj
    · -- the same connection makes the same turn in both
      have hab : Abreast md5 (w.conns i) w.st w'.st r r' := by
        unfold r r'
        rw [← h.same i hi]
        exact turn_abreast s md5 (w.conns i) e w.st w'.st
      refine ⟨?_, httl, fun k hk => hab.get k (h.get k hk), ?_, hharmless, hasks⟩
      · show (if some i = some A then r.written else none)
          = if some i = some A then r'.written else none
        by_cases hiA : some i = some A
        · rw [if_pos hiA, if_pos hiA]
          apply hab.written
          intro p hp hc
          cases hiA
          exact h.get _ (h.asks p hp hc)
        · rw [if_neg hiA, if_neg hiA]
      · intro j hj
        show Function.update w.conns i (Served.turned (w.conns i) r) j
          = Function.update w'.conns i (Served.turned (w'.conns i) r') j
        rw [hab.turned, h.same i hi]
        by_cases hji : j = i
        · subst hji
          rw [Function.update_self, Function.update_self]
        · rw [Function.update_of_ne hji, Function.update_of_ne hji]
          exact h.same j hj

/-! ## Where a START came from -/

/-- A world reached from given streams, `os` being what was seen on the way: what is still
    awaited and what was read are packets of the streams, and every registered START was read
    on some connection. -/
structure Origin {σ : Type} (md5 : Crypto.Md5) (conns : ι → Conn) (input : ι → Bytes)
    (os : List (Sight ι)) (w : World σ ι) : Prop where
  awaits : ∀ i p, Awaits md5 (w.conns i) p → Delivers md5 (conns i) (input i) p
  reads : ∀ o ∈ os, ∀ i p, o.conn = some i → o.read = some p →
    Delivers md5 (conns i) (input i) p
  starts : ∀ id sctx, w.st.sessions.get id = some sctx →
    ∃ o ∈ os, ∃ i p, o.conn = some i ∧ o.read = some p ∧ startIn id p = some sctx.start

omit [DecidableEq ι] in
theorem origin_init {σ : Type} (md5 : Crypto.Md5) (cfg : Config σ) (h : σ) (conns : ι → Conn)
    (input : ι → Bytes) : Origin md5 conns input [] (World.init cfg h conns input) := by
  refine ⟨fun i p hp => hp.2, ?_, ?_⟩
  · intro o ho
    cases ho
  · intro id sctx hget
    cases hget

theorem origin_step {σ : Type} (s : Server σ) {md5 : Crypto.Md5} {conns : ι → Conn}
    {input : ι → Bytes} {os : List (Sight ι)} {w : World σ ι} (act : Act ι)
    (h : Origin md5 conns input os w) :
    Origin md5 conns input (os ++ [(World.step s md5 w act).2]) (World.step s md5 w act).1 := by
  -- a START that was accounted for still is
  have hold : ∀ id (sctx sctx' : SessionContext),
      w.st.sessions.get id = some sctx' → sctx.start = sctx'.start →
      ∃ o ∈ os ++ [(World.step s md5 w act).2], ∃ i p, o.conn = some i ∧ o.read = some p ∧
        startIn id p = some sctx.start := by
    intro id sctx sctx' hget hstart
    obtain ⟨o, ho, i, p, hi, hp, hs⟩ := h.starts id sctx' hget
    exact ⟨o, List.mem_append_left _ ho, i, p, hi, hp, hstart ▸ hs⟩
  have hawaits := conns_step s md5 (P := fun i v => ∀ p, Awaits md5 v p →
      Delivers md5 (conns i) (input i) p)
    (fun i v e st hv p hp => hv p (awaits_of_turned hp)) w act h.awaits
  have hreads : ∀ o ∈ os ++ [(World.step s md5 w act).2], ∀ i p, o.conn = some i →
      o.read = some p → Delivers md5 (conns i) (input i) p := by
    intro o ho i p hi hp
    rcases List.mem_append.mp ho with ho | ho
    · exact h.reads o ho i p hi hp
    · cases List.mem_singleton.mp ho
      cases act with
      | sweep now => cases hi
      | serve j e =>
        cases hi
        exact h.awaits i p (awaits_of_read hp)
  refine ⟨hawaits, hreads, ?_⟩
  intro id sctx hget
  cases act with
  | sweep now =>
    have hget' : (w.st.sessions.sweepExpired now).get id = some sctx := hget
    rw [get_sweepExpired] at hget'
    exact hold id sctx sctx (Option.filter_eq_some_iff.mp hget').1 rfl
  | serve i e =>
    let v := w.conns i
    let r := serveIteration s md5 v.conn e w.st v.loop v.input
    have hget' : r.st.sessions.get id = some sctx := hget
    rcases turn_cases s md5 v e w.st with ⟨hsame, -, -⟩ | ⟨p, hread, hst, -⟩
    · rw [show r.st.sessions.get = w.st.sessions.get from hsame] at hget'
      exact hold id sctx sctx hget' rfl
    · rw [show r.st = (handle s v.conn e.t w.st p).st from hst] at hget'
      cases hs : startOf id (.packet v.conn e.t p) with
      | some start =>
        have hwait := (turns_start s w.st hs).2.waiting sctx hget'
        refine ⟨_, List.mem_append_right _ (List.mem_singleton_self _), i, p, rfl, hread, ?_⟩
        rw [hwait.1]
        exact hs
      | none =>
        obtain ⟨sctx', hbefore, hstart⟩ := start_kept s hs hget'
        exact hold id sctx sctx' hbefore hstart

theorem origin_run {σ : Type} (s : Server σ) {md5 : Crypto.Md5} {conns : ι → Conn}
    {input : ι → Bytes} {w : World σ ι} (h : Origin md5 conns input [] w)
    (acts : List (Act ι)) :
    Origin md5 conns input (Run.outputs (World.step s md5) w acts)
      (Run.after (World.step s md5) w acts) :=
  Run.run_induction (World.step s md5) (fun _ os w => Origin md5 conns input os w) h
    (fun _ _ _ act ih => origin_step s act ih) acts

/-! ## The theorem -/

/-- No authentication packet sent on `B` is for a session that is continued on `A`. -/
def Apart (md5 : Crypto.Md5) (conns : ι → Conn) (input : ι → Bytes) (A B : ι) : Prop :=
  ∀ p q, Delivers md5 (conns A) (input A) p → IsContinue p.hdr.sessionID p →
    Delivers md5 (conns B) (input B) q → q.hdr.type = packetAuthentication →
    q.hdr.sessionID ≠ p.hdr.sessionID

/-- The packets written on a connection, in order. -/
def writtenOn (A : ι) (os : List (Sight ι)) : List Pkt := os.filterMap (writtenAt A)

/-- The streams with some connections silenced. -/
def silence (others : Set ι) [DecidablePred (· ∈ others)] (input : ι → Bytes) (i : ι) : Bytes :=
  if i ∈ others then [] else input i

omit [DecidableEq ι] in
theorem alike_init {md5 : Crypto.Md5} {conns : ι → Conn} {input : ι → Bytes} {A : ι}
    {others : Set ι} [DecidablePred (· ∈ others)] (h : ∀ B ∈ others, Apart md5 conns input A B)
    (cfg : Config Unit) :
    Alike md5 A others {k | ∃ p, Delivers md5 (conns A) (input A) p ∧ IsContinue k p}
      (World.init cfg () conns input) (World.init cfg () conns (silence others input)) := by
  refine ⟨rfl, fun _ _ => rfl, ?_, ?_, ?_⟩
  · intro i hi
    show Served.mk (conns i) (input i) .first = Served.mk (conns i) (silence others input i) .first
    unfold silence
    rw [if_neg hi]
  · intro B hB
    refine ⟨?_, ?_⟩
    · rintro q ⟨-, hq⟩ htype ⟨p, hp, hc⟩
      have hid := hc.2.1
      rw [← hid] at hc
      exact h B hB p q hp hc hq htype hid.symm
    · rintro q ⟨-, hq⟩
      have hq' : Delivers md5 (conns B) (silence others input B) q := hq
      unfold silence at hq'
      rw [if_pos hB] at hq'
      exact absurd hq' not_delivers_nil
  · rintro p ⟨-, hp⟩ hc
    exact ⟨p, hp, hc⟩

/-- **Isolation.** Let some connections send no authentication packet for a session that `A`
    continues. Then, whatever the streams and the order in which they are served, the packets
    written on `A` are those that are written if these connections send nothing; and a CONTINUE
    on `A` is put to the handler with a START that was read before, on none of them. -/
theorem isolation (cfg : Config Unit) (md5 : Crypto.Md5) (conns : ι → Conn) (input : ι → Bytes)
    (A : ι) (others : Set ι) [DecidablePred (· ∈ others)] (hA : A ∉ others)
    (h : ∀ B ∈ others, Apart md5 conns input A B) (acts : List (Act ι)) :
    writtenOn A (Run.outputs (World.step (new cfg) md5) (World.init cfg () conns input) acts)
        = writtenOn A (Run.outputs (World.step (new cfg) md5)
            (World.init cfg () conns (silence others input)) acts) ∧
      ∀ pre e post, acts = pre ++ .serve A e :: post → ∀ ac cont,
        .authenticate ac (some cont) ∈ (World.step (new cfg) md5
          (Run.after (World.step (new cfg) md5) (World.init cfg () conns input) pre)
          (.serve A e)).2.calls →
        ∃ o ∈ Run.outputs (World.step (new cfg) md5) (World.init cfg () conns input) pre,
          ∃ B p, B ∉ others ∧ o.conn = some B ∧ o.read = some p ∧
            startIn ac.sessionID p = some ac.start := by
  constructor
  · have hmap := Run.outputs_unwinding (alike_step (new cfg) hA) (alike_init h cfg) acts
    unfold writtenOn
    have hfm : ∀ os : List (Sight ι),
        os.filterMap (writtenAt A) = (os.map (writtenAt A)).filterMap id := by
      intro os
      rw [List.filterMap_map]
      rfl
    rw [hfm, hfm, hmap]
  · intro pre e post _ ac cont hcall
    have horigin := origin_run (new cfg) (origin_init md5 cfg () conns input) pre
    let w := Run.after (World.step (new cfg) md5) (World.init cfg () conns input) pre
    rcases turn_cases (new cfg) md5 (w.conns A) e w.st with ⟨-, -, hnone⟩ | ⟨p, hread, -, hcalls⟩
    · rw [show (World.step (new cfg) md5 w (.serve A e)).2.calls = [] from hnone] at hcall
      cases hcall
    · have hcall' : .authenticate ac (some cont) ∈
          (handle (new cfg) (w.conns A).conn e.t w.st p).calls := hcalls ▸ hcall
      obtain ⟨htype, ⟨start, -, -, hcont⟩ | ⟨sctx, ct, hin, rfl, -⟩⟩ :=
        authenticate_mem_handle hcall'
      · cases hcont
      · obtain ⟨hseq, hget, -, -⟩ := intake_continued hin
        obtain ⟨o, ho, B, q, hB, hq, hstart⟩ := horigin.starts _ _ hget
        refine ⟨o, ho, B, q, ?_, hB, hq, hstart⟩
        -- a START on one of the others would share its id with this CONTINUE
        intro hothers
        obtain ⟨hqtype, hqid, -⟩ := startIn_eq_some.mp hstart
        have hp := horigin.awaits A p (awaits_of_read hread)
        exact h B hothers p q hp ⟨htype, rfl, hseq⟩ (horigin.reads o ho B q hB hq) hqtype hqid

end World

/-! Two TLS connections, `true` and `false`. On the first, `alice` logs in in session 1. -/

/-- A handler that asks everybody for a password, by name. -/
def askByName : Handler Unit :=
  handlerFunc (fun ac _ => .ok { status := authenStatusGetPass, serverMsg := ac.start.user })
    (fun _ => .error .eof) (fun _ => .error .eof)

def askByNameServer : Config Unit := { handler := askByName, mode := .tls }

/-- The second connection brings a START of `bob` for session `id`. -/
def aliceAndBob (id : UInt32) : Bool → Bytes
  | true => onWire (clearPkt 1 1 (asciiLogin "alice")) ++ onWire (clearPkt 1 3 (continueWith "pw"))
  | false => onWire (clearPkt id 1 (asciiLogin "bob"))

/-- The START of `alice`, the START of `bob`, the CONTINUE of `alice`. -/
def interleaved : List (Act Bool) :=
  [.serve true { t := ⟨0, 0⟩ }, .serve false { t := ⟨1, 1⟩ }, .serve true { t := ⟨2, 2⟩ }]

/-- The packets of the two streams. -/
theorem delivers_alice {md5 : Crypto.Md5} {id : UInt32} {q : Pkt}
    (h : Delivers md5 tlsConn (aliceAndBob id true) q) :
    q = clearPkt 1 1 (asciiLogin "alice") ∨ q = clearPkt 1 3 (continueWith "pw") := by
  have hstart : tlsConn.readPacket md5 (aliceAndBob id true)
      = (.ok (clearPkt 1 1 (asciiLogin "alice")), onWire (clearPkt 1 3 (continueWith "pw"))) := rfl
  have hcont : tlsConn.readPacket md5 (onWire (clearPkt 1 3 (continueWith "pw")))
      = (.ok (clearPkt 1 3 (continueWith "pw")), []) := rfl
  rcases (delivers_iff hstart).mp h with h | h
  · exact Or.inl h
  · rcases (delivers_iff hcont).mp h with h | h
    · exact Or.inr h
    · exact absurd h not_delivers_nil

theorem delivers_bob {md5 : Crypto.Md5} {q : Pkt}
    (h : Delivers md5 tlsConn (aliceAndBob 2 false) q) :
    q = clearPkt 2 1 (asciiLogin "bob") := by
  have hstart : tlsConn.readPacket md5 (aliceAndBob 2 false)
      = (.ok (clearPkt 2 1 (asciiLogin "bob")), []) := rfl
  rcases (delivers_iff hstart).mp h with h | h
  · exact h
  · exact absurd h not_delivers_nil

/-- In a session of their own, `bob` does not disturb `alice`. -/
theorem isolation_alice_bob :
    writtenOn true (Run.outputs (World.step (new askByNameServer) default)
      (World.init askByNameServer () (fun _ => tlsConn) (aliceAndBob 2)) interleaved)
    = writtenOn true (Run.outputs (World.step (new askByNameServer) default)
      (World.init askByNameServer () (fun _ => tlsConn) (silence {false} (aliceAndBob 2)))
      interleaved) := by
  refine (isolation askByNameServer default (fun _ => tlsConn) (aliceAndBob 2) true {false}
    (by simp) ?_ interleaved).1
  intro B hB p q hp hc hq htype
  cases Set.mem_singleton_iff.mp hB
  rw [delivers_bob hq]
  rcases delivers_alice hp with rfl | rfl
  · decide
  · decide

/-- In the session of `alice`, `bob` does: the CONTINUE of `alice` is answered as one of
    `bob`. -/
theorem isolation_broken_by_shared_id :
    writtenOn true (Run.outputs (World.step (new askByNameServer) default)
      (World.init askByNameServer () (fun _ => tlsConn) (aliceAndBob 1)) interleaved)
    ≠ writtenOn true (Run.outputs (World.step (new askByNameServer) default)
      (World.init askByNameServer () (fun _ => tlsConn) (silence {false} (aliceAndBob 1)))
      interleaved) := by
  decide

end Server
end Proof
end Tacacs
