import Tacacs.Client
import Tacacs.Proof.Arguments
import Tacacs.Proof.Transport

/-!
# What a client believes

A client is run against a peer that delivers some stream of bytes, with a log of what it sent,
what it received and what it asked its user. A reply **binds** if it carries the id of the
session, the type of the request and the number after the last one sent.

The client looks at none of the three. It takes whatever decodes, so it acts only on replies
that bind exactly if the stream brings it no others (`replyBinding_iff`).
-/

set_option autoImplicit false

namespace Tacacs
namespace Proof
namespace Client

open GoSem Tacacs.Client Tacacs.Transport Tacacs.Protocol Tacacs.Proof.Arguments
open Tacacs.Packet (Header)

/-! ## A client on a stream -/

/-- What happens between a client and the outside. -/
inductive Event where
  | sent (hdr : Header)
  | received (p : Pkt)
  | asked (r : AuthenReply)

/-- The outside: the bytes the peer has yet to deliver, and what happened so far. -/
structure Line where
  input : Bytes
  log : List Event

/-- What else can happen to a client, depending on all that did: its context is cancelled, a
    write fails, a read times out. -/
structure Chance where
  ctxErr : List Event → Option GoError
  writeErr : List Event → Option GoError
  readErr : List Event → Option GoError

/-- Nothing goes wrong. -/
def calm : Chance := ⟨fun _ => none, fun _ => none, fun _ => none⟩

def Line.record (x : Line) (e : Event) : Line := { x with log := x.log ++ [e] }

/-- A `transport.Conn` over a stream. -/
def overStream (md5 : Crypto.Md5) (c : Conn) (ch : Chance) : Link Line where
  ctxErr x := ch.ctxErr x.log
  writePacket hdr body x :=
    match ch.writeErr x.log with
    | some err => (fail err, x.record (.sent hdr))
    | none => ((c.writePacket md5 hdr body).map (fun _ => ()), x.record (.sent hdr))
  readPacket x :=
    match ch.readErr x.log with
    | some err => (fail err, x)
    | none =>
        match c.readPacket md5 x.input with
        | (.error f, rest) => (.error f, { x with input := rest })
        | (.ok p, rest) => (.ok p, { x with input := rest }.record (.received p))

/-- What a user says, as a `contFn` that is logged. -/
def asking (user : AuthenReply → List Event → Except GoError GoString) : ContFn Line :=
  fun r x => (user r x.log, x.record (.asked r))

/-! ## Binding -/

def lastSent (log : List Event) : Option Header :=
  log.reverse.findSome? fun
    | .sent hdr => some hdr
    | _ => none

/-- `p` is the reply to the packet numbered `seq`. -/
def RepliesTo (id : UInt32) (ptype : PacketType) (seq : Nat) (p : Pkt) : Prop :=
  p.hdr.sessionID = id ∧ p.hdr.type = ptype ∧ p.hdr.seqNo.toNat = seq + 1

/-- The last thing that happened is that the reply to the last packet sent came in. -/
def Bound (id : UInt32) (ptype : PacketType) (log : List Event) : Prop :=
  ∃ pre hdr p, log = pre ++ [.received p] ∧ lastSent pre = some hdr ∧
    RepliesTo id ptype hdr.seqNo.toNat p

/-- Whenever the user was asked, it was on the strength of a reply that binds. -/
def Justified (id : UInt32) (ptype : PacketType) (log : List Event) : Prop :=
  ∀ pre r post, log = pre ++ .asked r :: post → Bound id ptype pre

/-- A call returned without error, and asked the user, only on the strength of a reply that
    binds. -/
structure OnStrength {α : Type} (id : UInt32) (ptype : PacketType) (o : Outcome α Line) :
    Prop where
  returned : o.err = none → Bound id ptype o.outside.log
  asked : Justified id ptype o.outside.log

section Binding

variable {id : UInt32} {ptype : PacketType} {log : List Event}

theorem lastSent_sent (log : List Event) (hdr : Header) :
    lastSent (log ++ [.sent hdr]) = some hdr := by
  unfold lastSent
  rw [List.reverse_append]
  rfl

theorem bound_received {hdr : Header} {p : Pkt} (hsent : lastSent log = some hdr) :
    Bound id ptype (log ++ [.received p]) ↔ RepliesTo id ptype hdr.seqNo.toNat p := by
  constructor
  · rintro ⟨pre, hdr', p', hlog, hsent', hreply⟩
    obtain ⟨hpre, hp⟩ := List.append_inj' hlog rfl
    cases hp
    rw [← hpre, hsent] at hsent'
    cases hsent'
    exact hreply
  · intro hreply
    exact ⟨log, hdr, p, rfl, hsent, hreply⟩

theorem justified_nil : Justified id ptype [] := by
  intro pre r post h
  exact absurd h.symm (List.append_ne_nil_of_right_ne_nil pre (List.cons_ne_nil _ _))

/-- One more event: if it is a question, it needs a reply that binds. -/
theorem Justified.snoc (h : Justified id ptype log) {e : Event}
    (he : ∀ r, e = .asked r → Bound id ptype log) : Justified id ptype (log ++ [e]) := by
  intro pre r post hlog
  rcases List.eq_nil_or_concat post with rfl | ⟨post', e', rfl⟩
  · obtain ⟨hpre, hr⟩ := List.append_inj' hlog rfl
    cases hr
    rw [← hpre]
    exact he r rfl
  · have hlog' : log ++ [e] = (pre ++ .asked r :: post') ++ [e'] := by
      rw [hlog, List.concat_eq_append, List.append_assoc, List.cons_append]
    exact h pre r post' (List.append_inj' hlog' rfl).1

theorem Justified.sent (h : Justified id ptype log) (hdr : Header) :
    Justified id ptype (log ++ [.sent hdr]) :=
  h.snoc fun r hr => by cases hr

theorem Justified.received (h : Justified id ptype log) (p : Pkt) :
    Justified id ptype (log ++ [.received p]) :=
  h.snoc fun r hr => by cases hr

theorem Justified.asked (h : Justified id ptype log) (r : AuthenReply)
    (hb : Bound id ptype log) : Justified id ptype (log ++ [.asked r]) :=
  h.snoc fun _ _ => hb

/-- An attempt to send, whatever became of it. -/
theorem Justified.attempt (h : Justified id ptype log) {hdr : Header} {after : List Event}
    (ha : after = [] ∨ after = [.sent hdr]) : Justified id ptype (log ++ after) := by
  rcases ha with rfl | rfl
  · rw [List.append_nil]
    exact h
  · exact h.sent hdr

/-- A call that fails has only its questions to justify. -/
theorem OnStrength.failed {α : Type} {o : Outcome α Line} {f : Fault GoError}
    (herr : o.err = some f) (h : Justified id ptype o.outside.log) : OnStrength id ptype o := by
  refine ⟨?_, h⟩
  intro hnone
  rw [herr] at hnone
  cases hnone

end Binding

/-! ## One send, one read -/

section Stream

variable {md5 : Crypto.Md5} {c : Conn} {ch : Chance}

theorem nextHeader_seqNo (version : Version) (ptype : PacketType) {sess : Session}
    (h : sess.nextSeq ≤ 255) : (nextHeader version ptype sess).seqNo.toNat = sess.nextSeq := by
  show (UInt8.ofNat sess.nextSeq).toNat = sess.nextSeq
  rw [UInt8.toNat_ofNat']
  exact Nat.mod_eq_of_lt (Nat.lt_succ_of_le h)

/-- Whether it fails or not, a write is logged. -/
theorem write_outside (hdr : Header) (body : Bytes) (x : Line) :
    ((overStream md5 c ch).writePacket hdr body x).2 = x.record (.sent hdr) := by
  show (match ch.writeErr x.log with | some err => _ | none => _ : Go GoError Unit × Line).2 = _
  cases ch.writeErr x.log <;> rfl

/-- A read fails, and nothing is logged, or it takes a packet from the stream. -/
theorem read_cases (md5 : Crypto.Md5) (c : Conn) (ch : Chance) (x : Line) :
    (∃ f rest, (overStream md5 c ch).readPacket x = (.error f, { x with input := rest })) ∨
    ∃ p rest, c.readPacket md5 x.input = (.ok p, rest) ∧
      (overStream md5 c ch).readPacket x = (.ok p, ⟨rest, x.log ++ [.received p]⟩) := by
  unfold overStream
  dsimp only
  cases ch.readErr x.log with
  | some err => exact Or.inl ⟨_, _, rfl⟩
  | none =>
    dsimp only
    rcases c.readPacket md5 x.input with ⟨f | p, rest⟩
    · exact Or.inl ⟨f, rest, rfl⟩
    · exact Or.inr ⟨p, rest, rfl, rfl⟩

/-- A send fails, before the write or with it, or the packet is out. -/
theorem stream_send_cases (md5 : Crypto.Md5) (c : Conn) (ch : Chance) (version : Version)
    (ptype : PacketType) (body : Bytes) (sess : Session) (x : Line) :
    (∃ f sess' after, (after = [] ∨ after = [.sent (nextHeader version ptype sess)]) ∧
      send (overStream md5 c ch) version ptype body sess x
        = { res := .error f, sess := sess', outside := ⟨x.input, x.log ++ after⟩ }) ∨
    (sess.nextSeq ≤ 255 ∧ send (overStream md5 c ch) version ptype body sess x
      = { res := .ok (), sess := { sess with nextSeq := sess.nextSeq + 2 },
          outside := ⟨x.input, x.log ++ [.sent (nextHeader version ptype sess)]⟩ }) := by
  rcases send_cases (overStream md5 c ch) version ptype body sess x with
    ⟨-, err, hs⟩ | ⟨-, hle, hs⟩
  · rw [hs]
    refine Or.inl ⟨.err err, sess, [], Or.inl rfl, ?_⟩
    rw [List.append_nil]
    rfl
  · rw [hs, write_outside]
    cases ((overStream md5 c ch).writePacket (nextHeader version ptype sess) body x).1 with
    | error f => exact Or.inl ⟨f, _, _, Or.inr rfl, rfl⟩
    | ok u => exact Or.inr ⟨hle, rfl⟩

/-- When nothing goes wrong, a write succeeds. -/
theorem calm_write (hdr : Header) (body : Bytes) (x : Line) :
    (overStream md5 c calm).writePacket hdr body x = (.ok (), x.record (.sent hdr)) := by
  show ((c.writePacket md5 hdr body).map (fun _ => ()), x.record (.sent hdr)) = _
  rw [Transport.conn_writePacket]
  rfl

theorem calm_read {input rest : Bytes} {log : List Event} {p : Pkt}
    (h : c.readPacket md5 input = (.ok p, rest)) :
    (overStream md5 c calm).readPacket ⟨input, log⟩ = (.ok p, ⟨rest, log ++ [.received p]⟩) := by
  show (match c.readPacket md5 input with | (.error f, rest) => _ | (.ok p, rest) => _
    : Go GoError Pkt × Line) = _
  rw [h]
  rfl

/-- When nothing goes wrong, a send goes out as long as there are numbers. -/
theorem calm_send {version : Version} {ptype : PacketType} {body : Bytes} {sess : Session}
    {x : Line} (h : sess.nextSeq ≤ 255) :
    send (overStream md5 c calm) version ptype body sess x =
      { res := .ok (), sess := { sess with nextSeq := sess.nextSeq + 2 },
        outside := x.record (.sent (nextHeader version ptype sess)) } := by
  rcases send_cases (overStream md5 c calm) version ptype body sess x with
    ⟨hc | hs, -⟩ | ⟨-, -, he⟩
  · exact absurd rfl hc
  · exact absurd h (Nat.not_le_of_lt hs)
  · rw [he, calm_write]

/-! ## Authorize and Account -/

/-- The request fits its encoding, and the session has a number left for it. -/
def CanSend (body : Go GoError Bytes) (sess : Session) : Prop :=
  (∃ sb, body = .ok sb) ∧ sess.nextSeq ≤ 255

/-- A packet that `Authorize` can use: it has a body, the body is a reply, and each argument of
    the reply is the text of one. -/
def UsableAuthor (p : Pkt) : Prop :=
  p.hdr.length ≠ 0 ∧ ∃ reply, Packet.AuthorReply.unmarshalBinary p.body = .ok reply ∧
    ∀ a ∈ reply.args, ∃ arg : Argument, WellNamed arg ∧ arg.string = a

/-- A packet that `Account` can use: it has a body, and the body is a reply. -/
def UsableAcct (p : Pkt) : Prop :=
  p.hdr.length ≠ 0 ∧ ∃ reply, Packet.AcctReply.unmarshalBinary p.body = .ok reply

theorem appendArguments_accepts_iff (args : List Argument) (texts : List GoString) :
    (appendArguments args texts).2 = none ↔
      ∀ a ∈ texts, ∃ arg : Argument, WellNamed arg ∧ arg.string = a := by
  induction texts generalizing args with
  | nil => simp [appendArguments]
  | cons a texts ih =>
    rw [List.forall_mem_cons]
    unfold appendArguments
    cases ha : parseArgument a with
    | error perr =>
      -- the loop stops at the first text that is not one of an argument
      have hnone : ¬∃ arg : Argument, WellNamed arg ∧ arg.string = a := by
        rintro ⟨arg, harg⟩
        rw [parseArgument_iff.mpr harg] at ha
        cases ha
      simp [hnone]
    | ok parsed =>
      have hsome : ∃ arg : Argument, WellNamed arg ∧ arg.string = a :=
        ⟨parsed, parseArgument_iff.mp ha⟩
      dsimp only
      rw [ih, and_iff_right hsome]

theorem authorResult_accepts_iff (p : Pkt) : (authorResult p).2 = none ↔ UsableAuthor p := by
  unfold authorResult UsableAuthor
  by_cases hlen : p.hdr.length = 0
  · simp [hlen]
  rw [if_neg hlen, and_iff_right hlen]
  cases Packet.AuthorReply.unmarshalBinary p.body with
  | error f => simp
  | ok reply =>
    simp only [Option.map_eq_none_iff, Except.ok.injEq, exists_eq_left']
    exact appendArguments_accepts_iff [] reply.args

theorem acctResult_accepts_iff (p : Pkt) : (acctResult p).2 = none ↔ UsableAcct p := by
  unfold acctResult UsableAcct
  by_cases hlen : p.hdr.length = 0
  · simp [hlen]
  rw [if_neg hlen, and_iff_right hlen]
  cases Packet.AcctReply.unmarshalBinary p.body with
  | error f => simp
  | ok reply => simp

/-- The first packet of the stream, if the call can use it, is the reply to the next packet
    sent. -/
def FirstBinds (md5 : Crypto.Md5) (c : Conn) (ptype : PacketType) (usable : Pkt → Prop)
    (sess : Session) (input : Bytes) : Prop :=
  ∀ p rest, c.readPacket md5 input = (.ok p, rest) → usable p →
    RepliesTo sess.sessionID ptype sess.nextSeq p

section Exchange

variable {α : Type} {ptype : PacketType} {body : Go GoError Bytes} {zero : α}
variable {result : Pkt → α × Option (Fault GoError)} {sess : Session} {input : Bytes}
variable {usable : Pkt → Prop} (hresult : ∀ p, (result p).2 = none ↔ usable p)

include hresult

theorem exchange_onStrength (h : CanSend body sess → FirstBinds md5 c ptype usable sess input)
    (ch : Chance) :
    OnStrength sess.sessionID ptype
      (exchange (overStream md5 c ch) ptype body zero result sess ⟨input, []⟩) := by
  have hnil : Justified sess.sessionID ptype [] := justified_nil
  unfold exchange
  cases hbody : body with
  | error f => exact OnStrength.failed rfl hnil
  | ok sb =>
    dsimp only
    rcases stream_send_cases md5 c ch versionDefault ptype sb sess ⟨input, []⟩ with
      ⟨f, sess', after, ha, hs⟩ | ⟨hle, hs⟩
    · rw [hs]
      exact OnStrength.failed rfl (hnil.attempt ha)
    · rw [hs]
      dsimp only
      rcases read_cases md5 c ch
          ⟨input, [] ++ [.sent (nextHeader versionDefault ptype sess)]⟩ with
        ⟨f, rest, hr⟩ | ⟨p, rest, hp, hr⟩
      · rw [hr]
        exact OnStrength.failed rfl (hnil.sent _)
      · rw [hr]
        refine ⟨?_, (hnil.sent _).received p⟩
        intro hnone
        apply (bound_received (lastSent_sent [] _)).mpr
        rw [nextHeader_seqNo _ _ hle]
        exact h ⟨⟨sb, hbody⟩, hle⟩ p rest hp ((hresult p).mp hnone)

omit hresult in
/-- When nothing goes wrong, the call gets to the first packet of the stream. -/
theorem calm_exchange {sb rest : Bytes} {p : Pkt} (hle : sess.nextSeq ≤ 255)
    (hp : c.readPacket md5 input = (.ok p, rest)) :
    exchange (overStream md5 c calm) ptype (.ok sb) zero result sess ⟨input, []⟩ =
      { value := (result p).1, err := (result p).2,
        sess := { sess with nextSeq := sess.nextSeq + 2 },
        outside := ⟨rest, [.sent (nextHeader versionDefault ptype sess)] ++ [.received p]⟩ } := by
  unfold exchange
  dsimp only
  rw [calm_send hle]
  dsimp only [Line.record]
  rw [calm_read hp]
  rfl

theorem firstBinds_of_onStrength (hsend : CanSend body sess)
    (h : OnStrength sess.sessionID ptype
      (exchange (overStream md5 c calm) ptype body zero result sess ⟨input, []⟩)) :
    FirstBinds md5 c ptype usable sess input := by
  intro p rest hp huse
  obtain ⟨⟨sb, rfl⟩, hle⟩ := hsend
  rw [calm_exchange hle hp] at h
  have hb := (bound_received (lastSent_sent [] _)).mp (h.returned ((hresult p).mpr huse))
  rw [nextHeader_seqNo _ _ hle] at hb
  exact hb

theorem exchange_iff :
    (∀ ch, OnStrength sess.sessionID ptype
      (exchange (overStream md5 c ch) ptype body zero result sess ⟨input, []⟩)) ↔
      (CanSend body sess → FirstBinds md5 c ptype usable sess input) := by
  constructor
  · intro h hsend
    exact firstBinds_of_onStrength hresult hsend (h calm)
  · intro h ch
    exact exchange_onStrength hresult h ch

end Exchange

/-! ## Authenticate -/

/-- A packet that the loop of `Authenticate` acts on, by returning or by asking the user: it has a
    body, the body is a reply, and the reply is not RESTART. -/
def Usable (p : Pkt) : Prop :=
  p.hdr.length ≠ 0 ∧ ∃ reply, Packet.AuthenReply.unmarshalBinary p.body = .ok reply ∧
    reply.status ≠ authenStatusRestart

/-- The statuses that end a login. -/
def endStatuses : List AuthenStatus :=
  [authenStatusPass, authenStatusFail, authenStatusError, authenStatusFollow]

/-- A packet that makes it ask the user: the reply is none of these, nor RESTART. -/
def Solicits (p : Pkt) : Prop :=
  p.hdr.length ≠ 0 ∧ ∃ reply, Packet.AuthenReply.unmarshalBinary p.body = .ok reply ∧
    reply.status ≠ authenStatusRestart ∧ reply.status ∉ endStatuses

theorem authenReply_ok_iff {p : Pkt} {r : AuthenReply} :
    authenReply p = .ok r ↔
      p.hdr.length ≠ 0 ∧ ∃ reply, Packet.AuthenReply.unmarshalBinary p.body = .ok reply ∧
        { reply with status := normalizeAuthenStatus reply.status } = r := by
  unfold authenReply
  by_cases hlen : p.hdr.length = 0
  · rw [if_pos hlen]
    exact iff_of_false (fun h => by cases h) fun h => h.1 hlen
  rw [if_neg hlen, and_iff_right hlen, bind_eq_ok]
  exact exists_congr fun reply => and_congr_right fun _ => ⟨Except.ok.inj, congrArg Except.ok⟩

/-- FOLLOW is taken for FAIL, so it ends a login too. -/
theorem isTerminal_normalize (status : AuthenStatus) :
    isTerminal (normalizeAuthenStatus status) = true ↔ status ∈ endStatuses := by
  unfold normalizeAuthenStatus endStatuses
  by_cases hfollow : status = authenStatusFollow
  · subst hfollow
    exact iff_of_true rfl (by simp)
  · simp [isTerminal, hfollow, or_assoc]

theorem normalize_eq_restart (status : AuthenStatus) :
    normalizeAuthenStatus status = authenStatusRestart ↔ status = authenStatusRestart := by
  unfold normalizeAuthenStatus
  split
  · next hfollow =>
    subst hfollow
    exact iff_of_false (by decide) (by decide)
  · exact Iff.rfl

/-- What the client decides about a reply, it decides about the packet. -/
theorem exists_authenReply_iff {p : Pkt} {P : AuthenStatus → Prop} :
    (∃ r, authenReply p = .ok r ∧ P r.status) ↔
      p.hdr.length ≠ 0 ∧ ∃ reply, Packet.AuthenReply.unmarshalBinary p.body = .ok reply ∧
        P (normalizeAuthenStatus reply.status) := by
  constructor
  · rintro ⟨r, hr, hP⟩
    obtain ⟨hlen, reply, hreply, rfl⟩ := authenReply_ok_iff.mp hr
    exact ⟨hlen, reply, hreply, hP⟩
  · rintro ⟨hlen, reply, hreply, hP⟩
    exact ⟨_, authenReply_ok_iff.mpr ⟨hlen, reply, hreply, rfl⟩, hP⟩

theorem usable_iff {p : Pkt} :
    Usable p ↔ ∃ r, authenReply p = .ok r ∧ r.status ≠ authenStatusRestart := by
  rw [exists_authenReply_iff (P := fun status => status ≠ authenStatusRestart)]
  simp only [ne_eq, normalize_eq_restart]
  exact Iff.rfl

theorem solicits_iff {p : Pkt} :
    Solicits p ↔ ∃ r, authenReply p = .ok r ∧
      r.status ≠ authenStatusRestart ∧ isTerminal r.status = false := by
  rw [exists_authenReply_iff
    (P := fun status => status ≠ authenStatusRestart ∧ isTerminal status = false)]
  simp only [ne_eq, normalize_eq_restart, ← Bool.not_eq_true, isTerminal_normalize]
  exact Iff.rfl

/-- `p` is read as the reply to the packet numbered `seq'`, by a client that has sent number
    `seq`, answers whatever it is asked, and has the given stream before it. -/
inductive Consulted (md5 : Crypto.Md5) (c : Conn) : Nat → Bytes → Nat → Pkt → Prop where
  | next {seq : Nat} {input rest : Bytes} {p : Pkt} :
      c.readPacket md5 input = (.ok p, rest) → Consulted md5 c seq input seq p
  | later {seq seq' : Nat} {input rest : Bytes} {p q : Pkt} :
      c.readPacket md5 input = (.ok p, rest) → Solicits p → seq + 2 ≤ 255 →
      Consulted md5 c (seq + 2) rest seq' q → Consulted md5 c seq input seq' q

/-- Every packet it acts on is the reply to the packet it is taken for. -/
def StreamBinds (md5 : Crypto.Md5) (c : Conn) (id : UInt32) (seq : Nat) (input : Bytes) : Prop :=
  ∀ seq' p, Consulted md5 c seq input seq' p → Usable p →
    RepliesTo id packetAuthentication seq' p

/-- What one round can do, `x` being the outside before it. -/
inductive Rounds (md5 : Crypto.Md5) (c : Conn) (version : Version) (sess : Session) (x : Line) :
    Round Line → Prop where
  /-- Nothing was read. -/
  | unread {o : Outcome AuthenReply Line} {f : Fault GoError} :
      o.err = some f → o.outside.log = x.log → Rounds md5 c version sess x (.done o)
  /-- A packet was read, and it was of no use, or nobody was there to be asked. -/
  | unused {o : Outcome AuthenReply Line} {f : Fault GoError} {p : Pkt} :
      o.err = some f → o.outside.log = x.log ++ [.received p] →
      Rounds md5 c version sess x (.done o)
  /-- The call returned. -/
  | returned {o : Outcome AuthenReply Line} {p : Pkt} {rest : Bytes} :
      c.readPacket md5 x.input = (.ok p, rest) → Usable p → o.err = none →
      o.outside.log = x.log ++ [.received p] → Rounds md5 c version sess x (.done o)
  /-- The user was asked, but nothing, or nothing that arrived, came of it. -/
  | stopped {o : Outcome AuthenReply Line} {f : Fault GoError} {p : Pkt} {rest : Bytes}
      {r : AuthenReply} {after : List Event} :
      c.readPacket md5 x.input = (.ok p, rest) → Solicits p → o.err = some f →
      (after = [] ∨ after = [.sent (nextHeader version packetAuthentication sess)]) →
      o.outside.log = x.log ++ [.received p] ++ [.asked r] ++ after →
      Rounds md5 c version sess x (.done o)
  /-- The user was asked, and the answer was sent. -/
  | again {p : Pkt} {rest : Bytes} {r : AuthenReply} :
      c.readPacket md5 x.input = (.ok p, rest) → Solicits p → sess.nextSeq ≤ 255 →
      Rounds md5 c version sess x (.again { sess with nextSeq := sess.nextSeq + 2 }
        ⟨rest, x.log ++ [.received p] ++ [.asked r] ++
          [.sent (nextHeader version packetAuthentication sess)]⟩)

theorem authenticateRound_rounds (md5 : Crypto.Md5) (c : Conn) (ch : Chance)
    (user : Option (AuthenReply → List Event → Except GoError GoString)) (version : Version)
    (sess : Session) (x : Line) :
    Rounds md5 c version sess x
      (authenticateRound (overStream md5 c ch) (user.map asking) version sess x) := by
  unfold authenticateRound
  rcases read_cases md5 c ch x with ⟨f, rest, hr⟩ | ⟨p, rest, hp, hr⟩
  · rw [hr]
    exact .unread rfl rfl
  rw [hr]
  dsimp only
  cases hrep : authenReply p with
  | error f => exact .unused rfl rfl
  | ok r =>
    dsimp only
    by_cases hrestart : r.status = authenStatusRestart
    · rw [if_neg (by rw [hrestart]; decide), if_pos hrestart]
      exact .unused rfl rfl
    cases hterm : isTerminal r.status with
    | true => exact .returned hp (usable_iff.mpr ⟨r, hrep, hrestart⟩) rfl rfl
    | false =>
      have hsol : Solicits p := solicits_iff.mpr ⟨r, hrep, hrestart, hterm⟩
      rw [if_neg (by simp), if_neg hrestart]
      unfold authenticateContinue
      cases user with
      | none => exact .unused rfl rfl
      | some user =>
        dsimp only [Option.map, asking, Line.record]
        cases user r (x.log ++ [.received p]) with
        | error err => exact .stopped hp hsol rfl (Or.inl rfl) (List.append_nil _).symm
        | ok msg =>
          dsimp only
          cases Tacacs.Packet.AuthenContinue.marshalBinary
              { userMsg := msg, data := [], flags := 0 } with
          | error f => exact .stopped hp hsol rfl (Or.inl rfl) (List.append_nil _).symm
          | ok cb =>
            dsimp only
            rcases stream_send_cases md5 c ch version packetAuthentication cb sess
                ⟨rest, x.log ++ [.received p] ++ [.asked r]⟩ with
              ⟨f, sess', after, ha, hs⟩ | ⟨hle, hs⟩
            · rw [hs]
              exact .stopped hp hsol rfl ha rfl
            · rw [hs]
              exact .again hp hsol hle

theorem Solicits.usable {p : Pkt} (h : Solicits p) : Usable p := by
  obtain ⟨hlen, reply, hreply, hrestart, -⟩ := h
  exact ⟨hlen, reply, hreply, hrestart⟩

section Loop

variable {version : Version} {id : UInt32} {sess : Session} {x : Line} {hdr : Header}

/-- A round that ends the call does so on the strength of what it read. -/
theorem Rounds.onStrength {o : Outcome AuthenReply Line}
    (h : Rounds md5 c version sess x (.done o)) (hsent : lastSent x.log = some hdr)
    (hlog : Justified id packetAuthentication x.log)
    (hbinds : StreamBinds md5 c id hdr.seqNo.toNat x.input) :
    OnStrength id packetAuthentication o := by
  cases h with
  | unread herr ho => exact OnStrength.failed herr (ho ▸ hlog)
  | unused herr ho => exact OnStrength.failed herr (ho ▸ hlog.received _)
  | returned hp huse herr ho =>
    have hbound := (bound_received hsent).mpr (hbinds _ _ (.next hp) huse)
    exact ⟨fun _ => ho ▸ hbound, ho ▸ hlog.received _⟩
  | stopped hp hsol herr hafter ho =>
    have hbound := (bound_received hsent).mpr (hbinds _ _ (.next hp) hsol.usable)
    apply OnStrength.failed herr
    rw [ho]
    exact ((hlog.received _).asked _ hbound).attempt hafter

/-- **Induction over the loop.** What holds of a round that ends the call, and of a round before
    the rest of it, holds of the call. -/
theorem loop_induction {P : Session → Line → Outcome AuthenReply Line → Prop}
    (user : Option (AuthenReply → List Event → Except GoError GoString))
    (done : ∀ sess x o, Rounds md5 c version sess x (.done o) → P sess x o)
    (again : ∀ sess x sess' x' o, Rounds md5 c version sess x (.again sess' x') →
      P sess' x' o → P sess x o) :
    P sess x (authenticateLoop (overStream md5 c ch) (user.map asking) version sess x) := by
  induction sess, x using authenticateLoop.induct (overStream md5 c ch) (user.map asking) version
    with
  | case1 sess x o hdone =>
    have hround := authenticateRound_rounds md5 c ch user version sess x
    rw [hdone] at hround
    rw [authenticateLoop_done hdone]
    exact done sess x o hround
  | case2 sess x sess' x' hagain ih =>
    have hround := authenticateRound_rounds md5 c ch user version sess x
    rw [hagain] at hround
    rw [authenticateLoop_again hagain]
    exact again sess x sess' x' _ hround ih

/-- The whole loop: it is entered with a packet just sent, and one number further each time. -/
theorem loop_onStrength (user : Option (AuthenReply → List Event → Except GoError GoString))
    (hsent : lastSent x.log = some hdr) (hseq : sess.nextSeq = hdr.seqNo.toNat + 2)
    (hlog : Justified id packetAuthentication x.log)
    (hbinds : StreamBinds md5 c id hdr.seqNo.toNat x.input) :
    OnStrength id packetAuthentication
      (authenticateLoop (overStream md5 c ch) (user.map asking) version sess x) := by
  refine loop_induction (P := fun sess x o => ∀ hdr : Header, lastSent x.log = some hdr →
    sess.nextSeq = hdr.seqNo.toNat + 2 → Justified id packetAuthentication x.log →
    StreamBinds md5 c id hdr.seqNo.toNat x.input → OnStrength id packetAuthentication o)
    user ?_ ?_ hdr hsent hseq hlog hbinds
  · intro sess x o hround hdr hsent _ hlog hbinds
    exact hround.onStrength hsent hlog hbinds
  · intro sess x sess' x' o hround ih hdr hsent hseq hlog hbinds
    cases hround with
    | again hp hsol hle =>
      have hbound := (bound_received hsent).mpr (hbinds _ _ (.next hp) hsol.usable)
      have hnext := nextHeader_seqNo version packetAuthentication hle
      apply ih _ (lastSent_sent _ _) (by rw [hnext]) (((hlog.received _).asked _ hbound).sent _)
      intro seq' q hq
      rw [hnext] at hq
      exact hbinds seq' q (.later hp hsol (hseq ▸ hle) (hseq ▸ hq))

/-- Nothing is ever struck from the log. -/
theorem loop_log (md5 : Crypto.Md5) (c : Conn) (ch : Chance)
    (user : Option (AuthenReply → List Event → Except GoError GoString)) (version : Version)
    (sess : Session) (x : Line) :
    x.log <+: (authenticateLoop (overStream md5 c ch) (user.map asking) version sess
      x).outside.log := by
  refine loop_induction (P := fun _ x o => x.log <+: o.outside.log) user ?_ ?_
  · intro sess x o hround
    cases hround with
    | unread _ ho => exact ⟨[], by rw [ho, List.append_nil]⟩
    | unused _ ho => exact ⟨_, ho.symm⟩
    | returned _ _ _ ho => exact ⟨_, ho.symm⟩
    | stopped _ _ _ _ ho =>
      rw [ho, List.append_assoc, List.append_assoc]
      exact List.prefix_append _ _
  · intro sess x sess' x' o hround ih
    refine List.IsPrefix.trans ?_ ih
    cases hround with
    | again _ _ _ =>
      dsimp only
      rw [List.append_assoc, List.append_assoc]
      exact List.prefix_append _ _

end Loop

/-! What follows is the other direction: when nothing goes wrong, and the user always answers,
the client does get to every packet that `Consulted` speaks of. -/

/-- A user who always answers, with nothing. -/
def always : AuthenReply → List Event → Except GoError GoString := fun _ _ => .ok []

section Calm

variable {r : AuthenReply}

/-- What a round does with the reply it has read. -/
theorem calm_round (version : Version) (sess : Session) (log : List Event) {input rest : Bytes}
    {p : Pkt} (hp : c.readPacket md5 input = (.ok p, rest)) (hrep : authenReply p = .ok r) :
    authenticateRound (overStream md5 c calm) (some (asking always)) version sess ⟨input, log⟩
      = if isTerminal r.status then
          .done { value := r, err := none, sess, outside := ⟨rest, log ++ [.received p]⟩ }
        else if r.status = authenStatusRestart then
          .done { value := r, sess, outside := ⟨rest, log ++ [.received p]⟩,
                  err := some (.err (validationError "authen" "server requested RESTART"
                    .invalidPacket)) }
        else
          authenticateContinue (overStream md5 c calm) (some (asking always)) version r sess
            ⟨rest, log ++ [.received p]⟩ := by
  unfold authenticateRound
  rw [calm_read hp]
  dsimp only
  rw [hrep]

/-- A packet that ends the loop. -/
theorem calm_round_terminal (version : Version) (sess : Session) (log : List Event)
    {input rest : Bytes} {p : Pkt} (hp : c.readPacket md5 input = (.ok p, rest))
    (hrep : authenReply p = .ok r) (hterm : isTerminal r.status = true) :
    authenticateRound (overStream md5 c calm) (some (asking always)) version sess ⟨input, log⟩
      = .done { value := r, err := none, sess, outside := ⟨rest, log ++ [.received p]⟩ } := by
  rw [calm_round version sess log hp hrep, if_pos hterm]

/-- A packet that solicits an answer. -/
theorem calm_round_solicits (version : Version) (sess : Session) (log : List Event)
    {input rest : Bytes} {p : Pkt} (hp : c.readPacket md5 input = (.ok p, rest))
    (hrep : authenReply p = .ok r) (hrestart : r.status ≠ authenStatusRestart)
    (hterm : isTerminal r.status = false) :
    authenticateRound (overStream md5 c calm) (some (asking always)) version sess ⟨input, log⟩
      = authenticateContinue (overStream md5 c calm) (some (asking always)) version r sess
          ⟨rest, log ++ [.received p]⟩ := by
  rw [calm_round version sess log hp hrep, if_neg (ne_true_of_eq_false hterm), if_neg hrestart]

variable {version : Version} {sess : Session} {x : Line}

theorem marshalBinary_nothing :
    Tacacs.Packet.AuthenContinue.marshalBinary { userMsg := [], data := [], flags := 0 }
      = .ok [0, 0, 0, 0, 0] := rfl

/-- The answer is sent, if there is a number for it. -/
theorem calm_continue (hle : sess.nextSeq ≤ 255) :
    authenticateContinue (overStream md5 c calm) (some (asking always)) version r sess x
      = .again { sess with nextSeq := sess.nextSeq + 2 }
          ((x.record (.asked r)).record
            (.sent (nextHeader version packetAuthentication sess))) := by
  unfold authenticateContinue
  dsimp only [asking, always]
  rw [marshalBinary_nothing]
  dsimp only
  rw [calm_send hle]

/-- And if there is none, the call ends, but the user has been asked. -/
theorem calm_continue_exhausted (hlt : 255 < sess.nextSeq) :
    ∃ o, authenticateContinue (overStream md5 c calm) (some (asking always)) version r sess x
        = .done o ∧ o.outside = x.record (.asked r) := by
  unfold authenticateContinue
  dsimp only [asking, always]
  rw [marshalBinary_nothing]
  dsimp only
  rcases send_cases (overStream md5 c calm) version packetAuthentication [0, 0, 0, 0, 0] sess
      (x.record (.asked r)) with ⟨-, err, hs⟩ | ⟨-, hle, -⟩
  · rw [hs]
    exact ⟨_, rfl, rfl⟩
  · exact absurd hle (Nat.not_le_of_lt hlt)

end Calm

/-- The loop gets to a packet it is said to consult, with the number that packet answers. -/
theorem calm_loop_reaches {seq seq' : Nat} {input : Bytes} {p : Pkt} {log : List Event}
    {hdr : Header} (version : Version) (sess : Session) (h : Consulted md5 c seq input seq' p)
    (hsent : lastSent log = some hdr) (hhdr : hdr.seqNo.toNat = seq)
    (hseq : sess.nextSeq = seq + 2) :
    ∃ sess' input' rest log' hdr', c.readPacket md5 input' = (.ok p, rest) ∧
      lastSent log' = some hdr' ∧ hdr'.seqNo.toNat = seq' ∧
      authenticateLoop (overStream md5 c calm) (some (asking always)) version sess ⟨input, log⟩ =
        authenticateLoop (overStream md5 c calm) (some (asking always)) version sess'
          ⟨input', log'⟩ := by
  induction h generalizing sess log hdr with
  | @next seq input rest p hp => exact ⟨sess, input, rest, log, hdr, hp, hsent, hhdr, rfl⟩
  | @later seq seq' input rest p q hp hsol hle hq ih =>
    obtain ⟨r, hrep, hrestart, hterm⟩ := solicits_iff.mp hsol
    have hle' : sess.nextSeq ≤ 255 := by rw [hseq]; exact hle
    have hround := calm_round_solicits version sess log hp hrep hrestart hterm
    rw [calm_continue hle'] at hround
    rw [authenticateLoop_again hround]
    refine ih _ (lastSent_sent _ _) ?_ ?_
    · rw [nextHeader_seqNo _ _ hle', hseq]
    · show sess.nextSeq + 2 = seq + 2 + 2
      rw [hseq]

/-- If the loop keeps to replies that bind, then the packets it gets to do. -/
theorem replies_of_consulted {seq seq' : Nat} {input : Bytes} {p : Pkt} {version : Version}
    {id : UInt32} {sess : Session} {log : List Event} {hdr : Header}
    (h : Consulted md5 c seq input seq' p) (huse : Usable p) (hsent : lastSent log = some hdr)
    (hhdr : hdr.seqNo.toNat = seq) (hseq : sess.nextSeq = seq + 2)
    (hon : OnStrength id packetAuthentication
      (authenticateLoop (overStream md5 c calm) (some (asking always)) version sess
        ⟨input, log⟩)) :
    RepliesTo id packetAuthentication seq' p := by
  obtain ⟨sess', input', rest, log', hdr', hp, hsent', hhdr', hloop⟩ :=
    calm_loop_reaches version sess h hsent hhdr hseq
  rw [hloop] at hon
  obtain ⟨r, hrep, hrestart⟩ := usable_iff.mp huse
  -- the reply it returns or asks about is this one, so it binds
  have hbound : Bound id packetAuthentication (log' ++ [.received p]) := by
    cases hterm : isTerminal r.status with
    | true =>
      rw [authenticateLoop_done (calm_round_terminal version sess' log' hp hrep hterm)] at hon
      exact hon.returned rfl
    | false =>
      have hround := calm_round_solicits version sess' log' hp hrep hrestart hterm
      by_cases hle : sess'.nextSeq ≤ 255
      · rw [calm_continue hle] at hround
        rw [authenticateLoop_again hround] at hon
        obtain ⟨post, hpost⟩ := loop_log md5 c calm (some always) version
          { sess' with nextSeq := sess'.nextSeq + 2 }
          ((Line.record ⟨rest, log' ++ [.received p]⟩ (.asked r)).record
            (.sent (nextHeader version packetAuthentication sess')))
        dsimp only [Option.map, Line.record] at hpost hon
        refine hon.asked _ r ([.sent (nextHeader version packetAuthentication sess')] ++ post)
          (hpost.symm.trans ?_)
        rw [List.append_assoc]
        exact (List.append_cons _ _ _).symm
      · obtain ⟨o, ho, hout⟩ := calm_continue_exhausted (Nat.lt_of_not_le hle)
        rw [ho] at hround
        rw [authenticateLoop_done hround] at hon
        exact hon.asked _ r [] (by rw [hout]; rfl)
  rw [← hhdr']
  exact (bound_received hsent').mp hbound

/-- When nothing goes wrong, a request that can be sent gets the call to the loop. -/
theorem calm_authenticate {req : AuthenRequest} {sb input : Bytes} {sess : Session}
    (contFn : Option (ContFn Line)) (hsb : req.marshalBinary = .ok sb)
    (hle : sess.nextSeq ≤ 255) :
    authenticate (overStream md5 c calm) contFn req sess ⟨input, []⟩ =
      authenticateLoop (overStream md5 c calm) contFn
        (majorVersion <<< 4 ||| minorVersionFor req.type)
        { sess with nextSeq := sess.nextSeq + 2 }
        ⟨input, [] ++ [.sent (nextHeader (majorVersion <<< 4 ||| minorVersionFor req.type)
          packetAuthentication sess)]⟩ := by
  unfold authenticate
  rw [hsb]
  dsimp only
  rw [calm_send hle]
  rfl

theorem authenticate_iff (md5 : Crypto.Md5) (c : Conn) (req : AuthenRequest) (sess : Session)
    (input : Bytes) :
    (∀ ch user, OnStrength sess.sessionID packetAuthentication
      (authenticate (overStream md5 c ch) (Option.map asking user) req sess ⟨input, []⟩)) ↔
      (CanSend req.marshalBinary sess →
        StreamBinds md5 c sess.sessionID sess.nextSeq input) := by
  constructor
  · rintro h ⟨⟨sb, hsb⟩, hle⟩ seq' p hp huse
    have hon := h calm (some always)
    rw [Option.map, calm_authenticate _ hsb hle] at hon
    exact replies_of_consulted hp huse (lastSent_sent [] _) (nextHeader_seqNo _ _ hle) rfl hon
  · intro h ch user
    have hnil : Justified sess.sessionID packetAuthentication [] := justified_nil
    unfold authenticate
    cases hsb : req.marshalBinary with
    | error f => exact OnStrength.failed rfl hnil
    | ok sb =>
      dsimp only
      rcases stream_send_cases md5 c ch (majorVersion <<< 4 ||| minorVersionFor req.type)
          packetAuthentication sb sess ⟨input, []⟩ with ⟨f, sess', after, ha, hs⟩ | ⟨hle, hs⟩
      · rw [hs]
        exact OnStrength.failed rfl (hnil.attempt ha)
      · rw [hs]
        have hseq := nextHeader_seqNo (majorVersion <<< 4 ||| minorVersionFor req.type)
          packetAuthentication hle
        refine loop_onStrength user (lastSent_sent [] _) (by rw [hseq]) (hnil.sent _) ?_
        rw [hseq]
        exact h ⟨⟨sb, hsb⟩, hle⟩

end Stream

/-! ## The theorem -/

/-- **Reply binding.** For every connection, session, request and stream: whatever else happens
    to the client and whatever its user says, `Authenticate`, `Authorize` and `Account` return
    without error, and ask the user, only on the strength of a reply that binds — if and only if
    the request cannot be sent at all, or the stream itself brings no other reply that the
    client would act on. -/
theorem replyBinding_iff (md5 : Crypto.Md5) (c : Conn) (sess : Session) (input : Bytes) :
    (∀ req, (∀ ch user, OnStrength sess.sessionID packetAuthentication
        (authenticate (overStream md5 c ch) (Option.map asking user) req sess ⟨input, []⟩)) ↔
      (CanSend req.marshalBinary sess →
        StreamBinds md5 c sess.sessionID sess.nextSeq input)) ∧
    (∀ req, (∀ ch, OnStrength sess.sessionID packetAuthorization
        (authorize (overStream md5 c ch) req sess ⟨input, []⟩)) ↔
      (CanSend req.packet.marshalBinary sess →
        FirstBinds md5 c packetAuthorization UsableAuthor sess input)) ∧
    (∀ req, (∀ ch, OnStrength sess.sessionID packetAccounting
        (account (overStream md5 c ch) req sess ⟨input, []⟩)) ↔
      (CanSend req.packet.marshalBinary sess →
        FirstBinds md5 c packetAccounting UsableAcct sess input)) := by
  refine ⟨?_, ?_, ?_⟩
  · intro req
    exact authenticate_iff md5 c req sess input
  · intro req
    exact exchange_iff authorResult_accepts_iff
  · intro req
    exact exchange_iff acctResult_accepts_iff

/-! A login of `alice` in session 7, on a connection whose peer delivers a PASS for session 99,
of type accounting and numbered 8. -/

def aliceLogin : AuthenRequest :=
  { action := 1, privLvl := 1, type := 1, service := 1, user := lit "alice", port := [],
    remAddr := [], data := [] }

def strayPass : Bytes := [0xc0, 3, 8, 1, 0, 0, 0, 99, 0, 0, 0, 6] ++ [1, 0, 0, 0, 0, 0]

def tlsClient : Conn := { mode := .tls, secret := [], remoteAddr := lit "10.0.0.1:300" }

/-- The login succeeds, on the strength of that packet. -/
theorem replyBinding_violated :
    (authenticate (overStream default tlsClient calm) none aliceLogin (newSession .client 7)
      ⟨strayPass, []⟩).err = none ∧
    (authenticate (overStream default tlsClient calm) none aliceLogin (newSession .client 7)
      ⟨strayPass, []⟩).value.status = authenStatusPass ∧
    ¬OnStrength 7 packetAuthentication
      (authenticate (overStream default tlsClient calm) none aliceLogin (newSession .client 7)
        ⟨strayPass, []⟩) := by
  let p : Pkt :=
    ⟨{ version := 0xc0, type := 3, seqNo := 8, flags := 1, sessionID := 99, length := 6 },
      [1, 0, 0, 0, 0, 0]⟩
  have hrun : authenticate (overStream default tlsClient calm) none aliceLogin
      (newSession .client 7) ⟨strayPass, []⟩ =
      { value := { status := authenStatusPass }, err := none,
        sess := { newSession .client 7 with nextSeq := 3 },
        outside := ⟨[], [.sent (nextHeader versionDefault packetAuthentication
          (newSession .client 7))] ++ [.received p]⟩ } := by
    exact authenticateLoop_done rfl
  rw [hrun]
  refine ⟨rfl, rfl, ?_⟩
  intro h
  have hreply := (bound_received (lastSent_sent [] _)).mp (h.returned rfl)
  exact absurd hreply.1 (by decide)

end Client
end Proof
end Tacacs
