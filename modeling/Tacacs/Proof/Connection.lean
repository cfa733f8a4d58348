import Tacacs.Connection
import Tacacs.Proof.Arguments
import Tacacs.Proof.Framing
import Tacacs.Proof.Server.Multiplex

/-!
# A client and a server understand each other

Between two calls nothing is under way on the connection (`Idle`). From there, a packet the
client sends is handled by the server as it was meant, and the reply is read as it was meant
(`connect_send`, `connect_read`). Everything else is what the two ends make of a body: the
decoder undoes the encoder, and an argument reads back as itself if its name has no separator
in it (`parseArgument_string`).

So `Authorize` and `Account`, over a connection, are calls of the handler (`transparent`): `ask`
is a machine that has no connection in it, and a client refines it.
-/

set_option autoImplicit false

namespace Tacacs
namespace Proof
namespace Connection

open GoSem Tacacs.Client Tacacs.Connection Tacacs.Protocol Tacacs.Transport
open Tacacs.Server hiding AuthenStart AuthenContinue
open Tacacs.Packet (Header)
open Tacacs.Proof.Arguments Tacacs.Proof.Packet Tacacs.Proof.Server Tacacs.Proof.Transport

/-! ## Arguments -/

theorem parseArguments_string {args : List Argument} (h : ∀ a ∈ args, WellNamed a) :
    parseArguments (args.map Argument.string) = .ok args := by
  induction args with
  | nil => rfl
  | cons a args ih =>
    rw [List.map_cons, parseArguments, parseArgument_string (h a List.mem_cons_self),
      ih fun b hb => h b (List.mem_cons_of_mem a hb)]
    rfl

theorem appendArguments_string {args : List Argument} (h : ∀ a ∈ args, WellNamed a)
    (acc : List Argument) :
    appendArguments acc (args.map Argument.string) = (acc ++ args, none) := by
  induction args generalizing acc with
  | nil => rw [List.append_nil]; rfl
  | cons a args ih =>
    rw [List.map_cons, appendArguments, parseArgument_string (h a List.mem_cons_self)]
    dsimp only
    rw [ih fun b hb => h b (List.mem_cons_of_mem a hb), List.append_assoc, List.singleton_append]

/-! ## One packet each way -/

/-- The flags that the packets of a client arrive with: it sets none, and TLS adds one. -/
def connFlags (d : Conn) : HeaderFlags := if d.mode = .tls then flagUnencrypted else 0

/-- No policy refuses them. -/
theorem checkFlags_connFlags {σ : Type} (s : Server σ) (d : Conn) {hdr : Header}
    (h : hdr.flags = connFlags d) : checkFlags s d hdr = .ok () := by
  unfold checkFlags connFlags at *
  rw [h]
  cases d.mode with
  | tls => rfl
  | legacy =>
    show s.policy.checkUnencryptedFlag false = .ok ()
    unfold Crypto.Policy.checkUnencryptedFlag
    rw [Bool.false_and]
    rfl

/-- Nothing is under way, and the server waits for a packet with the flags of the connection. -/
structure Idle {σ τ : Type} (d : Conn) (x : Pipe σ τ) : Prop where
  toServer : x.toServer = []
  toClient : x.toClient = []
  loop : x.loop = .first ∨ x.loop = .later (connFlags d)

theorem idle_fresh {σ τ : Type} (d : Conn) (st : State σ) (u : τ) :
    Idle d (Pipe.fresh st u) := ⟨rfl, rfl, Or.inl rfl⟩

section Turn

variable {σ τ : Type}

/-- How the server handles the next packet. -/
def handleNext (s : Server σ) (d : Conn) (clock : Clock) (x : Pipe σ τ) (p : Pkt) : Handled σ :=
  handle s d (clock.times x.turns) (sweepAll x.st (clock.sweeps x.turns)) p

/-- A pipe after a packet was handled, `out` being what the client has yet to read. -/
def answeredWith (d : Conn) (x : Pipe σ τ) (r : Handled σ) (out : Bytes) : Pipe σ τ :=
  { x with toServer := [], toClient := out, st := r.st, loop := .later (connFlags d),
           turns := x.turns + 1, calls := x.calls ++ r.calls }

theorem idle_answeredWith (d : Conn) (x : Pipe σ τ) (r : Handled σ) :
    Idle d (answeredWith d x r []) := ⟨rfl, rfl, Or.inr rfl⟩

/-- The next packet of a client, as it arrives. -/
def incoming (c : Conn) (version : Version) (ptype : PacketType) (sess : Session)
    (body : Bytes) : Pkt :=
  delivered c ⟨nextHeader version ptype sess, body⟩

/-- The sweeper does not touch the state of the handler. -/
theorem sweepAll_handler (st : State σ) (nows : List Int) :
    (sweepAll st nows).handler = st.handler := by
  unfold sweepAll
  induction nows generalizing st with
  | nil => rfl
  | cons now nows ih => rw [List.foldl_cons, ih]

/-- A stream that holds one packet. -/
theorem readPacket_frame_only (md5 : Crypto.Md5) {c d : Conn} (hmode : d.mode = c.mode)
    (hsecret : d.secret = c.secret) {p : Pkt} (hp : Sendable p) :
    d.readPacket md5 (frame md5 c p) = (.ok (delivered c p), []) := by
  rw [← List.append_nil (frame md5 c p)]
  exact readPacket_frame hmode hsecret hp []

variable (s : Server σ) (md5 : Crypto.Md5) {c d : Conn} (clock : Clock)
variable (hmode : d.mode = c.mode) (hsecret : d.secret = c.secret)
variable {x : Pipe σ τ}

include hmode in
theorem flags_arriving {hdr : Header} (h : hdr.flags = 0) (body : Bytes) :
    (arriving c hdr body).flags = connFlags d := by
  unfold arriving connFlags
  rw [h, hmode]
  rfl

include hmode hsecret in
/-- A packet that the client writes is handled, and the reply is on its way back. -/
theorem connect_write (hx : Idle d x) {hdr : Header} {body : Bytes} (hp : Sendable ⟨hdr, body⟩)
    (hflags : hdr.flags = 0) :
    (connect s md5 c d clock).writePacket hdr body x
      = (.ok (), answeredWith d x (handleNext s d clock x (delivered c ⟨hdr, body⟩))
          (frame md5 d (handleNext s d clock x (delivered c ⟨hdr, body⟩)).reply)) := by
  have hwrite : c.writePacket md5 hdr body = .ok (frame md5 c ⟨hdr, body⟩) :=
    conn_writePacket md5 c hdr body
  -- the server's turn: it reads this frame and no more, and its flag checks let it pass
  have hread := readPacket_frame_only md5 hmode hsecret hp
  have hf : (delivered c ⟨hdr, body⟩).hdr.flags = connFlags d := flags_arriving hmode hflags body
  have hturn := serveIteration_packet s (clock.times x.turns)
    (sweepAll x.st (clock.sweeps x.turns)) hread (checkFlags_connFlags s d hf) (hf.symm ▸ hx.loop)
  unfold connect serverTurn
  dsimp only
  rw [hwrite]
  dsimp only
  rw [hx.toServer, hx.toClient, List.nil_append, hturn, hf]
  dsimp only
  rw [conn_writePacket]
  rfl

include hmode hsecret in
/-- The client reads the reply, and nothing is left. -/
theorem connect_read {r : Handled σ} (hr : Sendable r.reply) :
    (connect s md5 c d clock).readPacket (answeredWith d x r (frame md5 d r.reply))
      = (.ok (delivered d r.reply), answeredWith d x r []) := by
  unfold connect answeredWith
  dsimp only
  rw [readPacket_frame_only md5 hmode.symm hsecret.symm hr]

include hmode hsecret in
theorem connect_send (hx : Idle d x) {version : Version} (hv : Version.valid version = true)
    (ptype : PacketType) {body : Bytes} (hb : body.length ≤ maxPacketSize) {sess : Session}
    (hs : sess.nextSeq ≤ 255) :
    let r := handleNext s d clock x (incoming c version ptype sess body)
    send (connect s md5 c d clock) version ptype body sess x
      = { res := .ok (), sess := { sess with nextSeq := sess.nextSeq + 2 },
          outside := answeredWith d x r (frame md5 d r.reply) } := by
  intro r
  rcases send_cases (connect s md5 c d clock) version ptype body sess x with
    ⟨hc | hn, -⟩ | ⟨-, -, he⟩
  · exact absurd rfl hc
  · exact absurd hs (Nat.not_le_of_lt hn)
  · have hp : Sendable ⟨nextHeader version ptype sess, body⟩ := ⟨hv, hb⟩
    rw [he, connect_write s md5 clock hmode hsecret hx hp rfl]
    rfl

include hmode hsecret in
/-- `Authorize` and `Account`, when the server has an answer to the request. -/
theorem exchange_connect {α : Type} (hx : Idle d x) (ptype : PacketType) {sb : Bytes}
    (hsb : sb.length ≤ maxPacketSize) (zero : α) (result : Pkt → α × Option (Fault GoError))
    {sess : Session} (hs : sess.nextSeq ≤ 255) {rb : Bytes} (hrb : rb.length ≤ maxPacketSize) :
    let p := incoming c versionDefault ptype sess sb
    let r := handleNext s d clock x p
    let res := result (delivered d (writeReply p.hdr rb))
    r.reply = writeReply p.hdr rb →
      exchange (connect s md5 c d clock) ptype (.ok sb) zero result sess x
        = { value := res.1, err := res.2, sess := { sess with nextSeq := sess.nextSeq + 2 },
            outside := answeredWith d x r [] } := by
  intro p r res hreply
  have hv : Version.valid versionDefault = true := rfl
  have hsend := connect_send s md5 clock hmode hsecret hx hv ptype hsb hs
  have hsendable : Sendable r.reply := by
    rw [hreply]
    exact ⟨hv, hrb⟩
  unfold exchange
  dsimp only at hsend ⊢
  rw [hsend]
  dsimp only
  rw [connect_read s md5 clock hmode hsecret hsendable, hreply]

/-- The length in the header tells a reply from the header-only error. -/
theorem delivered_length_ne_zero (d : Conn) {hdr : Header} {rb : Bytes}
    (hrb : rb.length ≤ maxPacketSize) (hne : rb ≠ []) :
    (delivered d (writeReply hdr rb)).hdr.length ≠ 0 := by
  intro h0
  have hl : (delivered d (writeReply hdr rb)).hdr.length.toNat = rb.length :=
    toNat_length_arriving (p := writeReply hdr rb) hrb
  rw [h0] at hl
  exact hne (List.length_eq_zero_iff.mp hl.symm)

end Turn

/-! ## What the server makes of a request -/

def authorContext (id : UInt32) (seqNo : UInt8) (remoteAddr : GoString) (req : AuthorRequest) :
    AuthorContext :=
  { sessionID := id, seqNo, method := req.method, privLvl := req.privLvl, type := req.type,
    service := req.service, user := req.user, port := req.port, remAddr := req.remAddr,
    args := req.args, remoteAddr }

def acctContext (id : UInt32) (seqNo : UInt8) (remoteAddr : GoString) (req : AcctRequest) :
    AcctContext :=
  { sessionID := id, seqNo, flags := req.flags, method := req.method, privLvl := req.privLvl,
    type := req.type, service := req.service, user := req.user, port := req.port,
    remAddr := req.remAddr, args := req.args, remoteAddr }

/-- The reply that carries an answer of the handler; an error is sent as a status. -/
def authorBody : Except GoError AuthorDecision → Packet.AuthorReply
  | .error _ => { status := authorStatusError }
  | .ok dec => { status := dec.status, serverMsg := dec.serverMsg,
                 args := dec.args.map Argument.string }

def acctBody : Except GoError AcctDecision → Packet.AcctReply
  | .error _ => { status := acctStatusError }
  | .ok dec => { status := dec.status, serverMsg := dec.serverMsg }

section Bodies

variable {σ : Type}

/-- A packet led to one call of the handler, which left it in state `h`, and to a reply. -/
structure Asked (r : Handled σ) (h : σ) (call : Call) (reply : Pkt) : Prop where
  handler : r.st.handler = h
  calls : r.calls = [call]
  reply : r.reply = reply

theorem handle_author (s : Server σ) (d : Conn) (t : Times) {st : State σ} {p : Pkt}
    (hp : p.hdr.type = packetAuthorization) {req : AuthorRequest}
    (hargs : ∀ a ∈ req.args, WellNamed a) (hb : req.packet.marshalBinary = .ok p.body)
    {h : σ} (hst : st.handler = h) {rb : Bytes} :
    let ac := authorContext p.hdr.sessionID p.hdr.seqNo d.remoteAddr req
    let a := s.cfg.handler.authorize ac h
    (authorBody a.1).marshalBinary = .ok rb →
      Asked (handle s d t st p) a.2 (.authorize ac) (writeReply p.hdr rb) := by
  subst hst
  intro ac a hrb
  have hne : p.hdr.type ≠ packetAuthentication := by rw [hp]; decide
  unfold handle handleAuthor
  rw [if_neg hne, if_pos hp, authorRequest_realises.decode_encode hb]
  dsimp only [AuthorRequest.packet]
  rw [parseArguments_string hargs]
  dsimp only
  show Asked (match a.1 with | .error _ => _ | .ok dec => _) _ _ _
  cases ha : a.1 with
  | error e =>
    rw [ha] at hrb
    exact ⟨rfl, rfl, congrArg (fun b => writeReply p.hdr (bytesOrNil b)) hrb⟩
  | ok dec =>
    rw [ha] at hrb
    exact ⟨rfl, rfl, congrArg (encodeReply p.hdr) hrb⟩

/-- The context of a request as it was decoded, with its arguments parsed. -/
def decodedAcctContext (hdr : Packet.Header) (remoteAddr : GoString) (req : Packet.AcctRequest)
    (args : List Argument) : AcctContext :=
  { sessionID := hdr.sessionID, seqNo := hdr.seqNo, flags := req.flags, method := req.method,
    privLvl := req.privLvl, type := req.type, service := req.service, user := req.user,
    port := req.port, remAddr := req.remAddr, args, remoteAddr }

theorem handle_acct_decoded (s : Server σ) (d : Conn) (t : Times) (st : State σ) {p : Pkt}
    (hp : p.hdr.type = packetAccounting) {req : Packet.AcctRequest}
    (hb : Packet.AcctRequest.unmarshalBinary p.body = .ok req)
    (hrec : AcctFlags.record req.flags ≠ .invalid) {args : List Argument}
    (hargs : parseArguments req.args = .ok args) {rb : Bytes} :
    let ac := decodedAcctContext p.hdr d.remoteAddr req args
    let a := s.cfg.handler.account ac st.handler
    (acctBody a.1).marshalBinary = .ok rb →
      Asked (handle s d t st p) a.2 (.account ac) (writeReply p.hdr rb) := by
  intro ac a hrb
  have hne : p.hdr.type ≠ packetAuthentication := by rw [hp]; decide
  have hne' : p.hdr.type ≠ packetAuthorization := by rw [hp]; decide
  unfold handle handleAcct
  rw [if_neg hne, if_neg hne', if_pos hp, hb]
  dsimp only
  rw [if_neg hrec, hargs]
  dsimp only
  show Asked (match a.1 with | .error _ => _ | .ok dec => _) _ _ _
  cases ha : a.1 with
  | error e =>
    rw [ha] at hrb
    exact ⟨rfl, rfl, congrArg (fun b => writeReply p.hdr (bytesOrNil b)) hrb⟩
  | ok dec =>
    rw [ha] at hrb
    exact ⟨rfl, rfl, congrArg (encodeReply p.hdr) hrb⟩

theorem handle_acct (s : Server σ) (d : Conn) (t : Times) {st : State σ} {p : Pkt}
    (hp : p.hdr.type = packetAccounting) {req : AcctRequest}
    (hrec : AcctFlags.record req.flags ≠ .invalid)
    (hargs : ∀ a ∈ req.args, WellNamed a) (hb : req.packet.marshalBinary = .ok p.body)
    {h : σ} (hst : st.handler = h) {rb : Bytes} :
    let ac := acctContext p.hdr.sessionID p.hdr.seqNo d.remoteAddr req
    let a := s.cfg.handler.account ac h
    (acctBody a.1).marshalBinary = .ok rb →
      Asked (handle s d t st p) a.2 (.account ac) (writeReply p.hdr rb) := by
  subst hst
  exact handle_acct_decoded s d t st hp (acctRequest_realises.decode_encode hb) hrec
    (parseArguments_string hargs)

end Bodies

/-! ## What fits a packet -/

structure ArgumentsFit (args : List Argument) : Prop where
  named : ∀ a ∈ args, WellNamed a
  length : ∀ a ∈ args, a.string.length ≤ 255
  count : args.length ≤ 255

/-- What is encoded, if anything, is no longer than the reader allows. -/
def WithinPacket (body : Go GoError Bytes) : Prop :=
  ∀ b, body = .ok b → b.length ≤ maxPacketSize

/-- A request that can be sent, and that the server accepts. -/
def Acceptable : Request → Prop
  | .authorize req => ArgumentsFit req.args ∧
      req.user.length ≤ 255 ∧ req.port.length ≤ 255 ∧ req.remAddr.length ≤ 255 ∧
      WithinPacket req.packet.marshalBinary
  | .account req => AcctFlags.record req.flags ≠ .invalid ∧ ArgumentsFit req.args ∧
      req.user.length ≤ 255 ∧ req.port.length ≤ 255 ∧ req.remAddr.length ≤ 255 ∧
      WithinPacket req.packet.marshalBinary

/-- What the handler answers to a request. -/
inductive Answer where
  | authorize (res : Except GoError AuthorDecision)
  | account (res : Except GoError AcctDecision)

/-- An answer that can be sent. An error always can. -/
def Answer.Fits : Answer → Prop
  | .authorize (.ok dec) => ArgumentsFit dec.args ∧ dec.serverMsg.length ≤ 65535 ∧
      WithinPacket (authorBody (.ok dec)).marshalBinary
  | .account (.ok dec) => dec.serverMsg.length ≤ 65535 ∧
      WithinPacket (acctBody (.ok dec)).marshalBinary
  | .authorize (.error _) | .account (.error _) => True

/-- What the caller is to get for an answer. FOLLOW is not passed on: in an authorization it is
    FAIL, in accounting ERROR. -/
def Answer.result : Answer → Result
  | .authorize (.ok dec) =>
      .authorize
        { status := if dec.status = authorStatusFollow then authorStatusFail else dec.status,
          args := dec.args, serverMsg := dec.serverMsg } none
  | .authorize (.error _) => .authorize { status := authorStatusError } none
  | .account (.ok dec) =>
      .account
        { status := if dec.status = acctStatusFollow then acctStatusError else dec.status,
          serverMsg := dec.serverMsg } none
  | .account (.error _) => .account { status := acctStatusError } none

theorem argsFit_string {args : List Argument} (h : ArgumentsFit args) :
    ArgsFit (args.map Argument.string) := by
  intro b hb
  obtain ⟨a, ha, rfl⟩ := List.mem_map.mp hb
  exact h.length a ha

theorem requestFits_string {args : List Argument} (h : ArgumentsFit args)
    {user port remAddr : GoString} (hu : user.length ≤ 255) (hp : port.length ≤ 255)
    (hr : remAddr.length ≤ 255) :
    RequestFits user port remAddr (args.map Argument.string) :=
  ⟨hu, hp, hr, argsFit_string h, (List.length_map _).trans_le h.count⟩

theorem withinPacket_of_bytes {α : Type} {F : Wire.Format α} {encode : α → Go GoError Bytes}
    {decode : Bytes → Go GoError α} (h : Wire.Realises F encode decode) {a : α}
    (hlen : (F.bytes a).length ≤ maxPacketSize) : WithinPacket (encode a) := by
  intro b hb
  rw [← ((h.encode_iff a b).mp hb).2]
  exact hlen

/-- A body that fits is encoded, within the bound, and not empty. -/
theorem exists_body {α : Type} {F : Wire.Format α} {encode : α → Go GoError Bytes}
    {decode : Bytes → Go GoError α} (h : Wire.Realises F encode decode) {a : α}
    (hfit : F.Fits a) (hne : F.bytes a ≠ []) (hlen : WithinPacket (encode a)) :
    ∃ b, encode a = .ok b ∧ b.length ≤ maxPacketSize ∧ b ≠ [] := by
  have henc : encode a = .ok (F.bytes a) := (h.encode_iff a _).mpr ⟨hfit, rfl⟩
  exact ⟨F.bytes a, henc, hlen _ henc, hne⟩

/-- The same, where the bound follows from the fields. -/
theorem exists_body_of_length {α : Type} {F : Wire.Format α} {encode : α → Go GoError Bytes}
    {decode : Bytes → Go GoError α} (h : Wire.Realises F encode decode) {a : α}
    (hfit : F.Fits a) (hne : F.bytes a ≠ []) (hlen : (F.bytes a).length ≤ maxPacketSize) :
    ∃ b, encode a = .ok b ∧ b.length ≤ maxPacketSize ∧ b ≠ [] :=
  exists_body h hfit hne (withinPacket_of_bytes h hlen)

theorem exists_authorBody {res : Except GoError AuthorDecision}
    (h : (Answer.authorize res).Fits) :
    ∃ b, (authorBody res).marshalBinary = .ok b ∧ b.length ≤ maxPacketSize ∧ b ≠ [] := by
  refine exists_body authorReply_realises ?_ (List.cons_ne_nil _ _) ?_
  · cases res with
    | error e =>
      exact ⟨Nat.zero_le _, Nat.zero_le _, fun a ha => absurd ha List.not_mem_nil, Nat.zero_le _⟩
    | ok dec =>
      exact ⟨h.2.1, Nat.zero_le _, argsFit_string h.1, (List.length_map _).trans_le h.1.count⟩
  · cases res with
    | error e => exact withinPacket_of_bytes authorReply_realises (Nat.le_of_ble_eq_true rfl)
    | ok dec => exact h.2.2

theorem exists_acctBody {res : Except GoError AcctDecision} (h : (Answer.account res).Fits) :
    ∃ b, (acctBody res).marshalBinary = .ok b ∧ b.length ≤ maxPacketSize ∧ b ≠ [] := by
  refine exists_body acctReply_realises ?_ (List.cons_ne_nil _ _) ?_
  · cases res with
    | error e => exact ⟨Nat.zero_le _, Nat.zero_le _⟩
    | ok dec => exact ⟨h.1, Nat.zero_le _⟩
  · cases res with
    | error e => exact withinPacket_of_bytes acctReply_realises (Nat.le_of_ble_eq_true rfl)
    | ok dec => exact h.2

/-- The client reads the answer that was sent. -/
theorem authorResult_delivered (d : Conn) (hdr : Header) {res : Except GoError AuthorDecision}
    (hfit : (Answer.authorize res).Fits) {rb : Bytes}
    (hrb : (authorBody res).marshalBinary = .ok rb) (hlen : rb.length ≤ maxPacketSize)
    (hne : rb ≠ []) :
    .authorize (authorResult (delivered d (writeReply hdr rb))).1
      (authorResult (delivered d (writeReply hdr rb))).2 = (Answer.authorize res).result := by
  have hdec : Packet.AuthorReply.unmarshalBinary (delivered d (writeReply hdr rb)).body
      = .ok (authorBody res) := authorReply_realises.decode_encode hrb
  unfold authorResult
  rw [if_neg (delivered_length_ne_zero d hlen hne), hdec]
  cases res with
  | error e => rfl
  | ok dec =>
    dsimp only [authorBody]
    rw [appendArguments_string hfit.1.named, List.nil_append]
    rfl

theorem acctResult_delivered (d : Conn) (hdr : Header) {res : Except GoError AcctDecision}
    {rb : Bytes} (hrb : (acctBody res).marshalBinary = .ok rb) (hlen : rb.length ≤ maxPacketSize)
    (hne : rb ≠ []) :
    .account (acctResult (delivered d (writeReply hdr rb))).1
      (acctResult (delivered d (writeReply hdr rb))).2 = (Answer.account res).result := by
  have hdec : Packet.AcctReply.unmarshalBinary (delivered d (writeReply hdr rb)).body
      = .ok (acctBody res) := acctReply_realises.decode_encode hrb
  unfold acctResult
  rw [if_neg (delivered_length_ne_zero d hlen hne), hdec]
  cases res with
  | error e => rfl
  | ok dec => rfl

/-! ## Calls of a client are calls of the handler -/

/-- Calling the handler with no connection in between: the state it is in, and the calls made. -/
structure Direct (σ : Type) where
  handler : σ
  calls : List Call

/-- The number of the next packet. -/
def Direct.seqNo {σ : Type} (a : Direct σ) : UInt8 := UInt8.ofNat (2 * a.calls.length + 1)

/-- One call of the handler, on behalf of session `id`. -/
def ask {σ : Type} (h : Handler σ) (id : UInt32) (remoteAddr : GoString) (a : Direct σ) :
    Request → Direct σ × Answer
  | .authorize req =>
      let ac := authorContext id a.seqNo remoteAddr req
      let r := h.authorize ac a.handler
      (⟨r.2, a.calls ++ [.authorize ac]⟩, .authorize r.1)
  | .account req =>
      let ac := acctContext id a.seqNo remoteAddr req
      let r := h.account ac a.handler
      (⟨r.2, a.calls ++ [.account ac]⟩, .account r.1)

/-- The `k`-th call of the handler, counted from 0, as it follows from the `k`-th request. -/
def callFor (id : UInt32) (remoteAddr : GoString) (k : Nat) : Request → Call
  | .authorize req => .authorize (authorContext id (UInt8.ofNat (2 * k + 1)) remoteAddr req)
  | .account req => .account (acctContext id (UInt8.ofNat (2 * k + 1)) remoteAddr req)

/-- There is a number left, and neither the request nor the answer is refused on its way. -/
structure Admitted {σ : Type} (h : Handler σ) (id : UInt32) (remoteAddr : GoString)
    (a : Direct σ) (req : Request) : Prop where
  number : a.calls.length < 128
  request : Acceptable req
  answer : (ask h id remoteAddr a req).2.Fits

section Refinement

variable {σ τ : Type} {h : Handler σ} {id : UInt32} {remoteAddr : GoString}

theorem ask_calls (a : Direct σ) (req : Request) :
    (ask h id remoteAddr a req).1.calls
      = a.calls ++ [callFor id remoteAddr a.calls.length req] := by
  cases req with
  | authorize req => rfl
  | account req => rfl

/-- The handler is called once for each request, in order. -/
theorem calls_after_ask (a : Direct σ) (reqs : List Request) :
    (Run.after (ask h id remoteAddr) a reqs).calls
      = a.calls ++ reqs.mapIdx fun k => callFor id remoteAddr (a.calls.length + k) := by
  induction reqs generalizing a with
  | nil => rw [List.mapIdx_nil, List.append_nil]; rfl
  | cons req reqs ih =>
    rw [Run.after_cons, ih, ask_calls, List.mapIdx_cons, List.length_append, List.append_assoc]
    simp only [List.length_singleton, List.singleton_append, Nat.add_zero, Nat.add_comm,
      Nat.add_left_comm]

/-- A client with its connection, and the handler alone: they are at the same point. -/
structure Tracks (d : Conn) (id : UInt32) (y : Session × Pipe σ τ) (a : Direct σ) : Prop where
  sess : y.1 = ⟨id, .client, 2 * a.calls.length + 1⟩
  idle : Idle d y.2
  handler : y.2.st.handler = a.handler
  calls : y.2.calls = a.calls

variable (s : Server σ) (md5 : Crypto.Md5) {c d : Conn} (clock : Clock)
variable (hmode : d.mode = c.mode) (hsecret : d.secret = c.secret)

include hmode hsecret in
/-- What the two kinds of request have in common. -/
theorem exchange_tracks {y : Session × Pipe σ τ} {a : Direct σ} (hy : Tracks d id y a)
    (hk : a.calls.length < 128) {α : Type} (ptype : PacketType) {sb : Bytes}
    (hsb : sb.length ≤ maxPacketSize) (zero : α) (result : Pkt → α × Option (Fault GoError))
    {rb : Bytes} (hrb : rb.length ≤ maxPacketSize) {next : σ} {call : Call} :
    let p := incoming c versionDefault ptype ⟨id, .client, 2 * a.calls.length + 1⟩ sb
    (∀ t st, st.handler = a.handler →
      Asked (handle s d t st p) next call (writeReply p.hdr rb)) →
    let o := exchange (connect s md5 c d clock) ptype (.ok sb) zero result y.1 y.2
    (o.value = (result (delivered d (writeReply p.hdr rb))).1 ∧
      o.err = (result (delivered d (writeReply p.hdr rb))).2) ∧
      Tracks d id (o.sess, o.outside) ⟨next, a.calls ++ [call]⟩ := by
  intro p hasked o
  obtain ⟨sess, x⟩ := y
  obtain ⟨rfl, hidle, hhandler, hcalls⟩ := hy
  -- the sweeper may have run since, but it does not touch the handler
  have hstep := hasked (clock.times x.turns) (sweepAll x.st (clock.sweeps x.turns))
    ((sweepAll_handler _ _).trans hhandler)
  -- 128 calls take the numbers 1, 3, …, 255
  have hs : 2 * a.calls.length + 1 ≤ 255 := by omega
  have ho : o = _ := exchange_connect s md5 clock hmode hsecret hidle ptype hsb zero result hs hrb
    hstep.reply
  rw [ho]
  refine ⟨⟨rfl, rfl⟩, ?_, idle_answeredWith d x _, hstep.handler, ?_⟩
  · show (⟨id, .client, 2 * a.calls.length + 1 + 2⟩ : Session) = _
    rw [List.length_append, List.length_singleton, Nat.mul_add]
  · show x.calls ++ (handleNext s d clock x p).calls = a.calls ++ [call]
    have hcalls : x.calls = a.calls := hcalls
    rw [hcalls, show (handleNext s d clock x p).calls = [call] from hstep.calls]

include hmode hsecret in
/-- One call of a client is one call of the handler. -/
theorem perform_tracks {y : Session × Pipe σ τ} {a : Direct σ} {req : Request}
    (hy : Tracks d id y a) (hadm : Admitted s.cfg.handler id d.remoteAddr a req) :
    (perform (connect s md5 c d clock) y req).2
        = (ask s.cfg.handler id d.remoteAddr a req).2.result ∧
      Tracks d id (perform (connect s md5 c d clock) y req).1
        (ask s.cfg.handler id d.remoteAddr a req).1 := by
  obtain ⟨hk, hreq, hans⟩ := hadm
  cases req with
  | authorize req =>
    obtain ⟨hargs, hu, hp, hr, hlen⟩ := hreq
    obtain ⟨sb, hsb, hsblen, -⟩ := exists_body (a := req.packet) authorRequest_realises
      (requestFits_string hargs hu hp hr) (List.cons_ne_nil _ _) hlen
    obtain ⟨rb, hrb, hrblen, hne⟩ := exists_authorBody hans
    obtain ⟨⟨hv, he⟩, ht⟩ := exchange_tracks s md5 clock hmode hsecret hy hk packetAuthorization
      hsblen {} authorResult hrblen
      (fun t _ hst => handle_author s d t rfl hargs.named hsb hst hrb)
    rw [← hsb] at hv he ht
    refine ⟨?_, ht⟩
    show Result.authorize (authorize _ req y.1 y.2).value _ = _
    unfold authorize
    rw [hv, he]
    exact authorResult_delivered d _ hans hrb hrblen hne
  | account req =>
    obtain ⟨hrec, hargs, hu, hp, hr, hlen⟩ := hreq
    obtain ⟨sb, hsb, hsblen, -⟩ := exists_body (a := req.packet) acctRequest_realises
      (requestFits_string hargs hu hp hr) (List.cons_ne_nil _ _) hlen
    obtain ⟨rb, hrb, hrblen, hne⟩ := exists_acctBody hans
    obtain ⟨⟨hv, he⟩, ht⟩ := exchange_tracks s md5 clock hmode hsecret hy hk packetAccounting
      hsblen {} acctResult hrblen
      (fun t _ hst => handle_acct s d t rfl hrec hargs.named hsb hst hrb)
    rw [← hsb] at hv he ht
    refine ⟨?_, ht⟩
    show Result.account (account _ req y.1 y.2).value _ = _
    unfold account
    rw [hv, he]
    exact acctResult_delivered d _ hrb hrblen hne

end Refinement

/-- **`Authorize` and `Account` are transparent.** Up to 128 calls on a new client, connected to
    a server in any state: the handler is called once for each, in order, with exactly what the
    request holds, and each call returns exactly what the handler answered. -/
theorem transparent {σ τ : Type} (s : Server σ) (md5 : Crypto.Md5) (c d : Conn) (clock : Clock)
    (hmode : d.mode = c.mode) (hsecret : d.secret = c.secret) (id : UInt32) (st : State σ)
    (user : τ) (reqs : List Request) (hcount : reqs.length ≤ 128)
    (hreqs : ∀ req ∈ reqs, Acceptable req)
    (hans : ∀ ans ∈ Run.outputs (ask s.cfg.handler id d.remoteAddr) ⟨st.handler, []⟩ reqs,
      ans.Fits) :
    let start : Session × Pipe σ τ := (newSession .client id, Pipe.fresh st user)
    let final := Run.after (perform (connect s md5 c d clock)) start reqs
    let direct := Run.after (ask s.cfg.handler id d.remoteAddr) ⟨st.handler, []⟩ reqs
    Run.outputs (perform (connect s md5 c d clock)) start reqs
        = (Run.outputs (ask s.cfg.handler id d.remoteAddr) ⟨st.handler, []⟩ reqs).map
            Answer.result ∧
      final.2.calls = reqs.mapIdx (callFor id d.remoteAddr) ∧
      final.2.st.handler = direct.handler := by
  intro start final direct
  have hcalls : ∀ pre, (Run.after (ask s.cfg.handler id d.remoteAddr) ⟨st.handler, []⟩ pre).calls
      = pre.mapIdx (callFor id d.remoteAddr) := by
    intro pre
    rw [calls_after_ask, List.nil_append]
    simp only [List.length_nil, Nat.zero_add]
  have hstart : Tracks d id start ⟨st.handler, []⟩ := ⟨rfl, idle_fresh d st user, rfl, rfl⟩
  have hadm : ∀ pre req, pre ++ [req] <+: reqs → Admitted s.cfg.handler id d.remoteAddr
      (Run.after (ask s.cfg.handler id d.remoteAddr) ⟨st.handler, []⟩ pre) req := by
    intro pre req hpre
    have hlen := hpre.length_le
    rw [List.length_append, List.length_singleton] at hlen
    refine ⟨?_, hreqs req (hpre.subset ?_), hans _ (Run.mem_outputs hpre)⟩
    · rw [hcalls, List.length_mapIdx]
      exact Nat.lt_of_lt_of_le hlen hcount
    · exact List.mem_append_right pre List.mem_cons_self
  obtain ⟨hout, hfinal⟩ := Run.refines (ask s.cfg.handler id d.remoteAddr) Answer.result
    (fun y a req hy hc => perform_tracks s md5 clock hmode hsecret hy hc) hstart hadm
  exact ⟨hout, hfinal.calls.trans (hcalls reqs), hfinal.handler⟩

/-! `alice` asks whether they may `show`, and it is put on record; then `bob` does the same. -/

def showCmd : List Argument := [⟨true, lit "cmd", lit "show"⟩, ⟨false, lit "cmd-arg", lit "ip"⟩]

def mayShow : AuthorRequest :=
  { method := 6, privLvl := 1, type := authenTypeASCII, service := 1, user := lit "alice",
    port := lit "tty1", remAddr := [], args := showCmd }

def showStarted : AcctRequest :=
  { flags := acctFlagStart, method := 6, privLvl := 1, type := authenTypeASCII, service := 1,
    user := lit "alice", port := lit "tty1", remAddr := [], args := showCmd }

/-- A handler that permits everything to `alice`, keeps no records of what they do, sends everybody
    else to another server and authenticates nobody. -/
def diverting : Handler Unit :=
  handlerFunc (fun _ _ => .ok { status := authenStatusFail })
    (fun ac => .ok
      { status := if ac.user = lit "alice" then authorStatusPassAdd else authorStatusFollow,
        args := ac.args, serverMsg := lit "ok" })
    (fun ac => if ac.user = lit "alice" then .error .eof
      else .ok { status := acctStatusFollow, serverMsg := lit "ask 10.0.0.2" })

theorem argumentsFit_showCmd : ArgumentsFit showCmd := by
  refine ⟨?_, by decide, by decide⟩
  intro a ha
  rcases List.mem_pair.mp ha with rfl | rfl
  · exact ⟨by decide, by decide, by decide⟩
  · exact ⟨by decide, by decide, by decide⟩

theorem transparent_alice :
    let cfg : Config Unit := { handler := diverting, mode := .legacy }
    let conn : Conn := { mode := .legacy, secret := lit "key", remoteAddr := lit "10.0.0.1:4949" }
    Run.outputs (perform (connect (new cfg) default conn conn ⟨fun _ => ⟨0, 0⟩, fun _ => []⟩))
        (newSession .client 7, Pipe.fresh (State.init cfg ()) ())
        [.authorize mayShow, .account showStarted, .authorize { mayShow with user := lit "bob" },
          .account { showStarted with user := lit "bob" }]
      = [.authorize { status := authorStatusPassAdd, args := showCmd, serverMsg := lit "ok" } none,
          .account { status := acctStatusError } none,
          .authorize { status := authorStatusFail, args := showCmd, serverMsg := lit "ok" } none,
          .account { status := acctStatusError, serverMsg := lit "ask 10.0.0.2" } none] := by
  intro cfg conn
  have hshow : Acceptable (.authorize mayShow) ∧
      Acceptable (.authorize { mayShow with user := lit "bob" }) :=
    ⟨⟨argumentsFit_showCmd, by decide, by decide, by decide,
        withinPacket_of_bytes authorRequest_realises (by decide)⟩,
      ⟨argumentsFit_showCmd, by decide, by decide, by decide,
        withinPacket_of_bytes authorRequest_realises (by decide)⟩⟩
  have hstarted : Acceptable (.account showStarted) ∧
      Acceptable (.account { showStarted with user := lit "bob" }) :=
    ⟨⟨by decide, argumentsFit_showCmd, by decide, by decide, by decide,
        withinPacket_of_bytes acctRequest_realises (by decide)⟩,
      ⟨by decide, argumentsFit_showCmd, by decide, by decide, by decide,
        withinPacket_of_bytes acctRequest_realises (by decide)⟩⟩
  have hpass : (Answer.authorize (.ok ⟨authorStatusPassAdd, showCmd, lit "ok"⟩)).Fits :=
    ⟨argumentsFit_showCmd, by decide, withinPacket_of_bytes authorReply_realises (by decide)⟩
  have hfollow : (Answer.authorize (.ok ⟨authorStatusFollow, showCmd, lit "ok"⟩)).Fits :=
    ⟨argumentsFit_showCmd, by decide, withinPacket_of_bytes authorReply_realises (by decide)⟩
  have hask : (Answer.account (.ok ⟨acctStatusFollow, lit "ask 10.0.0.2"⟩)).Fits :=
    ⟨by decide, withinPacket_of_bytes acctReply_realises (by decide)⟩
  refine (transparent (new cfg) default conn conn _ rfl rfl 7 (State.init cfg ()) ()
    [.authorize mayShow, .account showStarted, .authorize { mayShow with user := lit "bob" },
      .account { showStarted with user := lit "bob" }] (by decide) ?_ ?_).1
  · intro req hreq
    simp only [List.mem_cons, List.not_mem_nil, or_false] at hreq
    rcases hreq with rfl | rfl | rfl | rfl
    · exact hshow.1
    · exact hstarted.1
    · exact hshow.2
    · exact hstarted.2
  · have hfour : ∀ ans ∈ [Answer.authorize (.ok ⟨authorStatusPassAdd, showCmd, lit "ok"⟩),
        .account (.error .eof), .authorize (.ok ⟨authorStatusFollow, showCmd, lit "ok"⟩),
        .account (.ok ⟨acctStatusFollow, lit "ask 10.0.0.2"⟩)], ans.Fits := by
      simp only [List.forall_mem_cons]
      exact ⟨hpass, trivial, hfollow, hask, fun _ h => (by cases h)⟩
    exact hfour

end Connection
end Proof
end Tacacs
