import Tacacs.Proof.Server.Multiplex

/-!
# Flag bits that nobody defined

Two streams of packets that differ in undefined flag bits only, 0x01 and 0x04 being the defined
ones, should be served alike. They are decoded alike, the policy looks at a defined bit, the
handler sees no flags at all, and a reply echoes them: masking the undefined bits commutes with
everything up to `Handle` (`react_mask`).

But `ServeConn` compares the flags of each packet with those of the first, **all eight bits of
them**. Two streams are served alike exactly if that comparison comes out alike on both, or
comes too late to matter (`undefinedFlags_iff`).
-/

set_option autoImplicit false

namespace Tacacs
namespace Proof
namespace Server

open GoSem Tacacs.Packet Tacacs.Transport
open Tacacs.Server hiding AuthenStart AuthenContinue
open Tacacs.Proof.Transport (headerBytes clearBody readPacket_headerBytes)

/-! ## Masking -/

/-- The defined bits. -/
def maskFlags (f : HeaderFlags) : HeaderFlags := f &&& (flagUnencrypted ||| flagSingleConnect)

def maskHeader (h : Header) : Header := { h with flags := maskFlags h.flags }

def maskPkt (p : Pkt) : Pkt := ⟨maskHeader p.hdr, p.body⟩

def maskSession (ctx : SessionContext) : SessionContext :=
  { ctx with flags := maskFlags ctx.flags }

theorem has_maskFlags (f : HeaderFlags) :
    HeaderFlags.has (maskFlags f) flagUnencrypted = HeaderFlags.has f flagUnencrypted := by
  have hbit : maskFlags f &&& flagUnencrypted = f &&& flagUnencrypted :=
    UInt8.and_assoc f _ flagUnencrypted
  unfold HeaderFlags.has
  rw [hbit]

/-- Headers that are the same when masked differ in their flags only, and not in the bit that
    matters. -/
theorem eq_of_maskHeader {h h' : Header} (hm : maskHeader h = maskHeader h') :
    ∃ f, h' = { h with flags := f } ∧
      HeaderFlags.has f flagUnencrypted = HeaderFlags.has h.flags flagUnencrypted := by
  obtain ⟨version, type, seqNo, flags, id, length⟩ := h
  obtain ⟨version', type', seqNo', flags', id', length'⟩ := h'
  unfold maskHeader at hm
  injection hm with h1 h2 h3 h4 h5 h6
  cases h1
  cases h2
  cases h3
  cases h5
  cases h6
  refine ⟨flags', rfl, ?_⟩
  rw [← has_maskFlags, ← h4, has_maskFlags]

/-! ## Two streams -/

/-- The same bytes, except that the flags of some leading packets may differ in undefined bits.
    `wire` is the body as it is on the wire. -/
inductive SameStream : Bytes → Bytes → Prop where
  | same (tail : Bytes) : SameStream tail tail
  | packet {hdr hdr' : Header} {wire input input' : Bytes} :
      maskHeader hdr = maskHeader hdr' → hdr.length.toNat = wire.length →
      SameStream input input' →
      SameStream (headerBytes hdr ++ (wire ++ input)) (headerBytes hdr' ++ (wire ++ input'))

section Reading

variable {md5 : Crypto.Md5} {c : Conn} {input input' : Bytes}

/-- Two such streams are read alike: both fail, or both deliver a packet. -/
theorem SameStream.read (md5 : Crypto.Md5) (c : Conn) (h : SameStream input input') :
    (∃ f rest rest', c.readPacket md5 input = (.error f, rest) ∧
      c.readPacket md5 input' = (.error f, rest')) ∨
    ∃ p p' rest rest', c.readPacket md5 input = (.ok p, rest) ∧
      c.readPacket md5 input' = (.ok p', rest') ∧ maskPkt p = maskPkt p' ∧
      SameStream rest rest' := by
  cases h with
  | same =>
    rcases c.readPacket md5 input with ⟨f | p, rest⟩
    · exact Or.inl ⟨f, rest, rest, rfl, rfl⟩
    · exact Or.inr ⟨p, p, rest, rest, rfl, rfl, rfl, .same rest⟩
  | @packet hdr hdr' wire input input' hm hlen htail =>
    obtain ⟨f, rfl, hbit⟩ := eq_of_maskHeader hm
    have hbody : clearBody md5 c { hdr with flags := f } wire = clearBody md5 c hdr wire := by
      unfold clearBody
      rw [hbit]
    rw [readPacket_headerBytes md5 c hdr hlen,
      readPacket_headerBytes md5 c { hdr with flags := f } hlen, hbody]
    dsimp only
    split
    · exact Or.inl ⟨_, _, _, rfl, rfl⟩
    · split
      · exact Or.inl ⟨_, _, _, rfl, rfl⟩
      · exact Or.inr ⟨_, _, _, _, rfl, rfl, congrArg (Pkt.mk · _) hm, htail⟩

end Reading

/-! ## Handling -/

section Handling

variable {σ : Type}

theorem encodeReply_mask (hdr : Header) (body : Go GoError Bytes) :
    encodeReply (maskHeader hdr) body = maskPkt (encodeReply hdr body) := by
  cases body <;> rfl

/-- A packet handled, with the undefined bits of the reply masked. -/
def maskHandled (r : Handled σ) : Handled σ := { r with reply := maskPkt r.reply }

theorem handleAuthor_mask (s : Server σ) (c : Conn) (st : State σ) (hdr : Header)
    (body : Bytes) :
    handleAuthor s c st (maskHeader hdr) body = maskHandled (handleAuthor s c st hdr body) := by
  unfold handleAuthor
  cases AuthorRequest.unmarshalBinary body with
  | error f => rfl
  | ok req =>
    dsimp only
    cases parseArguments req.args with
    | error err => rfl
    | ok args =>
      dsimp only [maskHeader]
      split
      · rfl
      · rw [← maskHeader, encodeReply_mask]
        rfl

theorem handleAcct_mask (s : Server σ) (c : Conn) (st : State σ) (hdr : Header) (body : Bytes) :
    handleAcct s c st (maskHeader hdr) body = maskHandled (handleAcct s c st hdr body) := by
  unfold handleAcct
  cases AcctRequest.unmarshalBinary body with
  | error f => rfl
  | ok req =>
    dsimp only
    split
    · rfl
    · cases parseArguments req.args with
      | error err => rfl
      | ok args =>
        dsimp only [maskHeader]
        split
        · rfl
        · rw [← maskHeader, encodeReply_mask]
          rfl

/-- A packet of another type than authentication. -/
theorem handle_mask_other (s : Server σ) (c : Conn) (t : Times) (st : State σ) {p : Pkt}
    (hp : p.hdr.type ≠ packetAuthentication) :
    handle s c t st (maskPkt p) = maskHandled (handle s c t st p) := by
  unfold handle
  rw [if_neg hp, if_neg (show (maskPkt p).hdr.type ≠ packetAuthentication from hp)]
  show (if p.hdr.type = packetAuthorization then _ else if p.hdr.type = packetAccounting then _
    else _) = _
  split
  · exact handleAuthor_mask s c st p.hdr p.body
  · split
    · exact handleAcct_mask s c st p.hdr p.body
    · rfl

/-- A step of a session's automaton, with the undefined bits masked in what it registers and in
    what it replies. -/
def maskReaction (a : Reaction σ) : Reaction σ :=
  { a with entry := a.entry.map maskSession, reply := maskPkt a.reply }

theorem answered_mask (s : Server σ) (c : Conn) (t : Times) (h : σ) (hdr : Header)
    (sctx : SessionContext) (start : AuthenStart) (cont : Option AuthenContinue) :
    answered s c t h (maskHeader hdr) (maskSession sctx) start cont
      = maskReaction (answered s c t h hdr sctx start cont) := by
  have hreply : ∀ res, replyTo (maskHeader hdr) res = maskPkt (replyTo hdr res) := by
    intro res
    cases res with
    | error err => rfl
    | ok dec => exact encodeReply_mask hdr _
  have hctx : authenContext c (maskHeader hdr) start = authenContext c hdr start := rfl
  unfold answered maskReaction
  dsimp only
  rw [hreply, hctx]
  cases staysOpen (s.cfg.handler.authenticate (authenContext c hdr start) cont h).1 <;> rfl

/-- What becomes of a packet, with the undefined bits of its session masked. -/
def maskIntake : Intake → Intake
  | .continued sctx cont => .continued (maskSession sctx) cont
  | i => i

theorem intake_mask (entry : Option SessionContext) (hdr : Header) (body : Bytes) :
    intake (entry.map maskSession) (maskHeader hdr) body = maskIntake (intake entry hdr body) := by
  unfold intake
  by_cases hseq : hdr.seqNo = 1
  · rw [if_pos hseq, if_pos (show (maskHeader hdr).seqNo = 1 from hseq)]
    cases AuthenStart.unmarshalBinary body <;> rfl
  · rw [if_neg hseq, if_neg (show ¬(maskHeader hdr).seqNo = 1 from hseq)]
    cases entry with
    | none => rfl
    | some sctx =>
      have hnext : validateNextSeqNo (maskHeader hdr).seqNo (maskSession sctx).lastOutboundSeq
          = validateNextSeqNo hdr.seqNo sctx.lastOutboundSeq := rfl
      dsimp only [Option.map]
      rw [hnext]
      cases validateNextSeqNo hdr.seqNo sctx.lastOutboundSeq with
      | error err => rfl
      | ok u =>
        dsimp only
        cases AuthenContinue.unmarshalBinary body <;> rfl

/-- **Masking commutes** with the step of a session. -/
theorem react_mask (s : Server σ) (c : Conn) (t : Times) (h : σ)
    (entry : Option SessionContext) (p : Pkt) :
    react s c t h (entry.map maskSession) (maskPkt p)
      = maskReaction (react s c t h entry p) := by
  unfold react
  by_cases hp : p.hdr.type = packetAuthentication
  · rw [if_pos hp, if_pos (show (maskPkt p).hdr.type = packetAuthentication from hp)]
    show reactAuthen s c t h (entry.map maskSession) (maskHeader p.hdr) p.body = _
    unfold reactAuthen
    rw [intake_mask]
    cases intake entry p.hdr p.body with
    | refused => rfl
    | outOfSequence => rfl
    | opened start => exact answered_mask s c t h p.hdr (openedSession c t p.hdr start) start none
    | continued sctx cont => exact answered_mask s c t h p.hdr sctx sctx.start (some cont)
  · rw [if_neg hp, if_neg (show (maskPkt p).hdr.type ≠ packetAuthentication from hp),
      handle_mask_other s c t _ hp]
    rfl

/-! ## Two states -/

/-- The same state, but for undefined bits of the flags that sessions were opened with. -/
structure SameState (st st' : State σ) : Prop where
  ttl : st.sessions.ttl = st'.sessions.ttl
  get : ∀ k, (st.sessions.get k).map maskSession = (st'.sessions.get k).map maskSession
  handler : st.handler = st'.handler

theorem SameState.refl (st : State σ) : SameState st st := ⟨rfl, fun _ => rfl, rfl⟩

theorem SameState.sweep {st st' : State σ} (h : SameState st st') (now : Int) :
    SameState { st with sessions := st.sessions.sweepExpired now }
      { st' with sessions := st'.sessions.sweepExpired now } := by
  have hlive : ∀ (ttl : Int) (o : Option SessionContext),
      (o.filter (live ttl now)).map maskSession = (o.map maskSession).filter (live ttl now) := by
    intro ttl o
    cases o with
    | none => rfl
    | some ctx =>
      rw [Option.map_some, Option.filter_some, Option.filter_some]
      show Option.map maskSession (if live ttl now ctx = true then _ else _)
        = if live ttl now ctx = true then _ else _
      split <;> rfl
  refine ⟨?_, ?_, h.handler⟩
  · rw [ttl_sweepExpired, ttl_sweepExpired]
    exact h.ttl
  · intro k
    rw [get_sweepExpired, get_sweepExpired, hlive, hlive, h.get, h.ttl]

/-- The handling of two packets that are the same when masked. -/
theorem handle_same (s : Server σ) (c : Conn) (t : Times) {st st' : State σ} {p p' : Pkt}
    (hst : SameState st st') (hp : maskPkt p = maskPkt p') :
    (handle s c t st p).calls = (handle s c t st' p').calls ∧
      maskPkt (handle s c t st p).reply = maskPkt (handle s c t st' p').reply ∧
      SameState (handle s c t st p).st (handle s c t st' p').st := by
  have ha := handle_acts s c t st p
  have ha' := handle_acts s c t st' p'
  have hid : (maskPkt p).hdr.sessionID = (maskPkt p').hdr.sessionID := by rw [hp]
  have hreact : maskReaction (react s c t st.handler (st.sessions.get p.hdr.sessionID) p)
      = maskReaction (react s c t st'.handler (st'.sessions.get p'.hdr.sessionID) p') := by
    rw [← react_mask, ← react_mask, hst.get, hst.handler, hp]
    exact congrArg (fun id => react s c t st'.handler ((st'.sessions.get id).map maskSession) _) hid
  have hcalls := congrArg Reaction.calls hreact
  have hreply := congrArg Reaction.reply hreact
  have hentry := congrArg Reaction.entry hreact
  have hhandler := congrArg Reaction.handler hreact
  refine ⟨?_, ?_, ?_, ?_, ?_⟩
  · rw [ha.calls, ha'.calls]
    exact hcalls
  · rw [ha.reply, ha'.reply]
    exact hreply
  · rw [ha.ttl, ha'.ttl]
    exact hst.ttl
  · intro k
    by_cases hk : k = p.hdr.sessionID
    · have hself' : (handle s c t st' p').st.sessions.get p.hdr.sessionID = _ :=
        (congrArg _ hid).trans ha'.get_self
      rw [hk, ha.get_self, hself']
      exact hentry
    · rw [ha.get_ne hk, ha'.get_ne (fun hk' => hk (hk'.trans hid.symm))]
      exact hst.get k
  · rw [ha.handler, ha'.handler]
    exact hhandler

/-! ## Packets that are refused anyway -/

/-- A packet that is answered with the bare header, and about which the handler is not asked:
    it is of no known type, its body does not decode, or it continues no session, or continues
    one out of turn. -/
def Refused (st : State σ) (p : Pkt) : Prop :=
  if p.hdr.type = packetAuthentication then
    if p.hdr.seqNo = 1 then ∀ start, AuthenStart.unmarshalBinary p.body ≠ .ok start
    else ∀ sctx cont, st.sessions.get p.hdr.sessionID = some sctx →
      validateNextSeqNo p.hdr.seqNo sctx.lastOutboundSeq = .ok () →
      AuthenContinue.unmarshalBinary p.body ≠ .ok cont
  else if p.hdr.type = packetAuthorization then
    ∀ req, AuthorRequest.unmarshalBinary p.body ≠ .ok req
  else if p.hdr.type = packetAccounting then
    ∀ req, AcctRequest.unmarshalBinary p.body ≠ .ok req
  else True

/-- The handler was not asked, and the reply has no body. -/
def Bare (r : Handled σ) : Prop := r.calls = [] ∧ r.reply.body = []

/-- An authentication packet is refused before the handler is asked, or the handler is asked. -/
theorem refused_iff_bare_authen (s : Server σ) (c : Conn) (t : Times) (st : State σ) {p : Pkt}
    (hp : p.hdr.type = packetAuthentication) :
    Refused st p ↔ Bare (handleAuthen s c t st p.hdr p.body) := by
  have hasked : ∀ st start cont, ¬Bare (answerAuthen s c t st p.hdr start cont) := by
    intro st start cont hbare
    unfold answerAuthen at hbare
    dsimp only at hbare
    split at hbare
    · cases hbare.1
    · cases hbare.1
  have hnot : ∀ st' : State σ,
      Bare ({ st := st', reply := sendGenericError p.hdr } : Handled σ) :=
    fun _ => ⟨rfl, rfl⟩
  unfold Refused handleAuthen
  rw [if_pos hp]
  by_cases hseq : p.hdr.seqNo = 1
  · rw [if_pos hseq, if_pos hseq]
    cases hb : AuthenStart.unmarshalBinary p.body with
    | error f => exact ⟨fun _ => hnot _, fun _ start h => by cases h⟩
    | ok start => exact ⟨fun h => absurd rfl (h start), fun h => absurd h (hasked _ _ _)⟩
  · rw [if_neg hseq, if_neg hseq]
    cases hget : st.sessions.get p.hdr.sessionID with
    | none => exact ⟨fun _ => hnot _, fun _ sctx cont h => by cases h⟩
    | some sctx =>
      dsimp only
      cases hv : validateNextSeqNo p.hdr.seqNo sctx.lastOutboundSeq with
      | error err =>
        refine ⟨fun _ => hnot _, ?_⟩
        rintro - sctx' cont ⟨⟩ hv'
        rw [hv] at hv'
        cases hv'
      | ok u =>
        dsimp only
        cases hb : AuthenContinue.unmarshalBinary p.body with
        | error f => exact ⟨fun _ => hnot _, fun _ _ _ _ _ h => by cases h⟩
        | ok cont =>
          exact ⟨fun h => absurd rfl (h sctx cont rfl hv), fun h => absurd h (hasked _ _ _)⟩

theorem refused_iff_bare_author (s : Server σ) (c : Conn) (st : State σ) (hdr : Header)
    (body : Bytes) :
    (∀ req, AuthorRequest.unmarshalBinary body ≠ .ok req) ↔
      Bare (handleAuthor s c st hdr body) := by
  unfold handleAuthor
  cases hb : AuthorRequest.unmarshalBinary body with
  | error f => exact ⟨fun _ => ⟨rfl, rfl⟩, fun _ req h => by cases h⟩
  | ok req =>
    refine ⟨fun h => absurd rfl (h req), fun hbare => ?_⟩
    dsimp only at hbare
    split at hbare
    · cases hbare.2
    · split at hbare
      · cases hbare.1
      · cases hbare.1

theorem refused_iff_bare_acct (s : Server σ) (c : Conn) (st : State σ) (hdr : Header)
    (body : Bytes) :
    (∀ req, AcctRequest.unmarshalBinary body ≠ .ok req) ↔ Bare (handleAcct s c st hdr body) := by
  unfold handleAcct
  cases hb : AcctRequest.unmarshalBinary body with
  | error f => exact ⟨fun _ => ⟨rfl, rfl⟩, fun _ req h => by cases h⟩
  | ok req =>
    refine ⟨fun h => absurd rfl (h req), fun hbare => ?_⟩
    dsimp only at hbare
    split at hbare
    · cases hbare.2
    · split at hbare
      · cases hbare.2
      · split at hbare
        · cases hbare.1
        · cases hbare.1

theorem refused_iff_bare (s : Server σ) (c : Conn) (t : Times) (st : State σ) (p : Pkt) :
    Refused st p ↔ Bare (handle s c t st p) := by
  unfold handle
  by_cases h1 : p.hdr.type = packetAuthentication
  · rw [if_pos h1]
    exact refused_iff_bare_authen s c t st h1
  unfold Refused
  rw [if_neg h1, if_neg h1]
  by_cases h2 : p.hdr.type = packetAuthorization
  · rw [if_pos h2, if_pos h2]
    exact refused_iff_bare_author s c st p.hdr p.body
  rw [if_neg h2, if_neg h2]
  by_cases h3 : p.hdr.type = packetAccounting
  · rw [if_pos h3, if_pos h3]
    exact refused_iff_bare_acct s c st p.hdr p.body
  · rw [if_neg h3, if_neg h3]
    exact ⟨fun _ => ⟨rfl, rfl⟩, fun _ => trivial⟩

/-- A dispatched packet is answered as one that is turned away, exactly if it is refused. -/
theorem refused_iff_turnedAway (s : Server σ) (c : Conn) (t : Times) (st : State σ) {p p' : Pkt}
    (hp : maskPkt p = maskPkt p') :
    Refused st p ↔ (handle s c t st p).calls = [] ∧
      maskPkt (handle s c t st p).reply = maskPkt (sendGenericError p'.hdr) := by
  have hhdr : maskHeader (errorHeader p.hdr) = maskHeader (errorHeader p'.hdr) :=
    congrArg (fun q : Pkt => errorHeader q.hdr) hp
  rw [refused_iff_bare s c t]
  refine and_congr_right fun _ => ?_
  unfold maskPkt sendGenericError
  rw [handle_reply_hdr, hhdr, Pkt.mk.injEq]
  exact ⟨fun h => ⟨rfl, h⟩, fun h => h.2⟩

/-! ## Two turns -/

/-- The flags of `p` are those of the connection, as far as the loop has seen any. -/
def Fits (l : Loop) (p : Pkt) : Prop := l = .first ∨ l = .later p.hdr.flags

/-- What is done in two turns is the same, but for undefined bits. -/
def SameDone {ι : Type} (o o' : Sight ι) : Prop :=
  o.calls = o'.calls ∧ o.written.toList.map maskPkt = o'.written.toList.map maskPkt

/-- A turn as it is seen. -/
def Turn.sight (r : Turn σ) : Sight Unit :=
  { conn := some (), read := r.read, calls := r.calls, written := r.written }

theorem checkFlags_same (s : Server σ) (c : Conn) {p p' : Pkt} (hp : maskPkt p = maskPkt p') :
    checkFlags s c p.hdr = checkFlags s c p'.hdr := by
  obtain ⟨f, hf, hbit⟩ := eq_of_maskHeader (congrArg Pkt.hdr hp)
  unfold checkFlags
  rw [hf, hbit]

/-- A packet that passes and fits is handled. -/
theorem servePacket_fits (s : Server σ) (c : Conn) (e : Env) (st : State σ) {l : Loop} {p : Pkt}
    (rest : Bytes) (hf : checkFlags s c p.hdr = .ok ()) (hl : Fits l p) :
    (servePacket s c e st l p rest).st = (handle s c e.t st p).st ∧
      Turn.sight (servePacket s c e st l p rest) =
        { conn := some (), read := some p, calls := (handle s c e.t st p).calls,
          written := some (handle s c e.t st p).reply } := by
  unfold servePacket
  rw [hf]
  dsimp only
  rw [if_pos (show l = .first ∨ l = .later p.hdr.flags from hl)]
  exact ⟨rfl, rfl⟩

/-- A packet that does not pass, or does not fit, is turned away, and the loop returns. -/
theorem servePacket_away (s : Server σ) (c : Conn) (e : Env) (st : State σ) {l : Loop} {p : Pkt}
    (rest : Bytes) (h : ¬(checkFlags s c p.hdr = .ok () ∧ Fits l p)) :
    ¬Live (servePacket s c e st l p rest).loop ∧
      Turn.sight (servePacket s c e st l p rest) =
        { conn := some (), read := some p, written := some (sendGenericError p.hdr) } := by
  unfold servePacket
  cases hf : checkFlags s c p.hdr with
  | error err => exact ⟨fun hlive => hlive _ rfl, rfl⟩
  | ok u =>
    dsimp only
    rw [if_neg (show ¬(l = .first ∨ l = .later p.hdr.flags) from fun hl => h ⟨hf, hl⟩)]
    exact ⟨fun hlive => hlive _ rfl, rfl⟩

/-- Two packets that are the same when masked, each served in its loop: the same is done exactly
    if they do not pass, or both fit or neither does, or the packet is refused anyway. -/
theorem servePacket_same (s : Server σ) (c : Conn) (e : Env) {st st' : State σ} (l l' : Loop)
    {p p' : Pkt} (rest rest' : Bytes) (hst : SameState st st') (hp : maskPkt p = maskPkt p') :
    (SameDone (Turn.sight (servePacket s c e st l p rest))
        (Turn.sight (servePacket s c e st' l' p' rest')) ↔
      (checkFlags s c p.hdr = .ok () → (Fits l p ↔ Fits l' p') ∨ Refused st p)) ∧
    (Live (servePacket s c e st l p rest).loop → Live (servePacket s c e st' l' p' rest').loop →
      SameState (servePacket s c e st l p rest).st (servePacket s c e st' l' p' rest').st) := by
  have hflags := checkFlags_same s c hp
  obtain ⟨hcalls, hreply, hstate⟩ := handle_same s c e.t hst hp
  -- both are turned away
  have haway : ¬(checkFlags s c p.hdr = .ok () ∧ Fits l p) →
      ¬(checkFlags s c p'.hdr = .ok () ∧ Fits l' p') →
      SameDone (Turn.sight (servePacket s c e st l p rest))
        (Turn.sight (servePacket s c e st' l' p' rest')) := by
    intro h h'
    rw [(servePacket_away s c e st rest h).2, (servePacket_away s c e st' rest' h').2]
    refine ⟨rfl, List.singleton_inj.mpr ?_⟩
    show sendGenericError (maskPkt p).hdr = sendGenericError (maskPkt p').hdr
    rw [hp]
  by_cases hok : checkFlags s c p.hdr = .ok ()
  · have hok' : checkFlags s c p'.hdr = .ok () := hflags ▸ hok
    by_cases hl : Fits l p
    · obtain ⟨hr, hsight⟩ := servePacket_fits s c e st rest hok hl
      by_cases hl' : Fits l' p'
      · obtain ⟨hr', hsight'⟩ := servePacket_fits s c e st' rest' hok' hl'
        rw [hr, hr', hsight, hsight']
        exact ⟨⟨fun _ _ => Or.inl (iff_of_true hl hl'),
          fun _ => ⟨hcalls, List.singleton_inj.mpr hreply⟩⟩, fun _ _ => hstate⟩
      · obtain ⟨hdead', hsight'⟩ := servePacket_away s c e st' rest' (fun h => hl' h.2)
        have hrefused := refused_iff_turnedAway s c e.t st hp
        rw [hsight, hsight']
        refine ⟨⟨fun hdone _ => ?_, fun h => ?_⟩, fun _ hlive' => absurd hlive' hdead'⟩
        · exact Or.inr (hrefused.mpr ⟨hdone.1, List.singleton_inj.mp hdone.2⟩)
        · rcases h hok with hiff | href
          · exact absurd (hiff.mp hl) hl'
          · exact ⟨(hrefused.mp href).1, List.singleton_inj.mpr (hrefused.mp href).2⟩
    · have hdead := (servePacket_away s c e st rest (fun h => hl h.2)).1
      refine ⟨?_, fun hlive => absurd hlive hdead⟩
      by_cases hl' : Fits l' p'
      · obtain ⟨-, hsight'⟩ := servePacket_fits s c e st' rest' hok' hl'
        have hrefused := refused_iff_turnedAway s c e.t st (p := p) rfl
        rw [hcalls, hreply] at hrefused
        rw [(servePacket_away s c e st rest (fun h => hl h.2)).2, hsight']
        refine ⟨fun hdone _ => ?_, fun h => ?_⟩
        · exact Or.inr (hrefused.mpr ⟨hdone.1.symm, (List.singleton_inj.mp hdone.2).symm⟩)
        · rcases h hok with hiff | href
          · exact absurd (hiff.mpr hl') hl
          · exact ⟨(hrefused.mp href).1.symm, List.singleton_inj.mpr (hrefused.mp href).2.symm⟩
      · exact ⟨fun _ _ => Or.inl (iff_of_false hl hl'),
          fun _ => haway (fun h => hl h.2) (fun h => hl' h.2)⟩
  · have hok' : ¬checkFlags s c p'.hdr = .ok () := hflags ▸ hok
    have hdead := (servePacket_away s c e st (l := l) rest (fun h => hok h.1)).1
    exact ⟨⟨fun _ h => absurd h hok, fun _ => haway (fun h => hok h.1) (fun h => hok' h.1)⟩,
      fun hlive => absurd hlive hdead⟩

/-! ## What a turn reads -/

/-- The packet that the next turn reads, if it reads one: the loop has not returned, the context
    is not cancelled, the read does not time out, and the stream holds a packet. -/
def upcoming (md5 : Crypto.Md5) (v : Served) (e : Env) : Option Pkt :=
  match v.loop with
  | .returned _ => none
  | _ =>
      if e.ctxErr = none ∧ e.readErr = none then (v.conn.readPacket md5 v.input).1.toOption
      else none

/-- A turn, by what it reads. -/
theorem serveIteration_upcoming (s : Server σ) (md5 : Crypto.Md5) (c : Conn) (e : Env)
    (l : Loop) (input : Bytes) :
    (upcoming md5 { conn := c, input, loop := l } e = none ∧
      ∀ st, ¬Live (serveIteration s md5 c e st l input).loop ∧
        Turn.sight (serveIteration s md5 c e st l input) = { conn := some () }) ∨
    ∃ p rest, upcoming md5 { conn := c, input, loop := l } e = some p ∧ Live l ∧
      e.ctxErr = none ∧ e.readErr = none ∧ c.readPacket md5 input = (.ok p, rest) ∧
      ∀ st, serveIteration s md5 c e st l input = servePacket s c e st l p rest := by
  by_cases hl : Live l
  · have hup : upcoming md5 { conn := c, input, loop := l } e =
        if e.ctxErr = none ∧ e.readErr = none then (c.readPacket md5 input).1.toOption
        else none := by
      cases l with
      | returned err => exact absurd rfl (hl err)
      | first => rfl
      | later flags => rfl
    have hturn := fun st => serveIteration_live s md5 c e st input hl
    cases hctx : e.ctxErr with
    | some err =>
      refine Or.inl ⟨by rw [hup, hctx]; simp, fun st => ?_⟩
      rw [hturn, hctx]
      exact ⟨fun h => h _ rfl, rfl⟩
    | none =>
      cases hread : e.readErr with
      | some err =>
        refine Or.inl ⟨by rw [hup, hread]; simp, fun st => ?_⟩
        rw [hturn, hctx, hread]
        exact ⟨fun h => h _ rfl, rfl⟩
      | none =>
        rw [hctx, hread, if_pos ⟨rfl, rfl⟩] at hup
        rcases hp : c.readPacket md5 input with ⟨(err | _) | p, rest⟩
        · refine Or.inl ⟨by rw [hup, hp]; rfl, fun st => ?_⟩
          rw [hturn, hctx, hread, hp]
          exact ⟨fun h => h _ rfl, rfl⟩
        · refine Or.inl ⟨by rw [hup, hp]; rfl, fun st => ?_⟩
          rw [hturn, hctx, hread, hp]
          exact ⟨fun h => h _ rfl, rfl⟩
        · refine Or.inr ⟨p, rest, by rw [hup, hp]; rfl, hl, rfl, rfl, rfl, fun st => ?_⟩
          rw [hturn, hctx, hread, hp]
  · cases l with
    | returned err => exact Or.inl ⟨rfl, fun st => ⟨fun h => h _ rfl, rfl⟩⟩
    | first => exact absurd (fun err h => by cases h) hl
    | later flags => exact absurd (fun err h => by cases h) hl

/-! ## Two runs -/

/-- What the two runs have to agree on in a step: neither reads a packet, or both do, and then
    its flags violate the policy, or in both they are those of the first packet, or in neither,
    or the packet is refused whatever its flags. -/
def Agree (s : Server σ) (md5 : Crypto.Md5) (w w' : World σ Unit) : Act Unit → Prop
  | .sweep _ => True
  | .serve () e =>
      match upcoming md5 (w.conns ()) e, upcoming md5 (w'.conns ()) e with
      | none, none => True
      | some p, some p' =>
          checkFlags s (w.conns ()).conn p.hdr = .ok () →
            (Fits (w.conns ()).loop p ↔ Fits (w'.conns ()).loop p') ∨ Refused w.st p
      | _, _ => False

/-- Two worlds with one connection each. As long as neither loop has returned, their states are
    the same, and so are the streams they have before them. -/
structure InStep (c : Conn) (w w' : World σ Unit) : Prop where
  conn : ∃ st input l, w = oneConn st c input l
  conn' : ∃ st input l, w' = oneConn st c input l
  same : Live (w.conns ()).loop → Live (w'.conns ()).loop →
    SameState w.st w'.st ∧ SameStream (w.conns ()).input (w'.conns ()).input

theorem SameDone.symm {ι : Type} {o o' : Sight ι} (h : SameDone o o') : SameDone o' o :=
  ⟨h.1.symm, h.2.symm⟩

/-- A turn that reads a packet is not like one that reads none: it writes. -/
theorem not_sameDone_idle (s : Server σ) (c : Conn) (e : Env) (st : State σ) (l : Loop) (p : Pkt)
    (rest : Bytes) :
    ¬SameDone (Turn.sight (servePacket s c e st l p rest)) { conn := some () } := by
  rintro ⟨-, hwritten⟩
  obtain ⟨q, hq, -⟩ := servePacket_written s c e st l p rest
  rw [show (Turn.sight (servePacket s c e st l p rest)).written = some q from hq] at hwritten
  cases hwritten

theorem turn_same (s : Server σ) (md5 : Crypto.Md5) (c : Conn) (e : Env) {st st' : State σ}
    {input input' : Bytes} {l l' : Loop}
    (h : Live l → Live l' → SameState st st' ∧ SameStream input input') :
    let r := serveIteration s md5 c e st l input
    let r' := serveIteration s md5 c e st' l' input'
    (SameDone (Turn.sight r) (Turn.sight r') ↔
      Agree s md5 (oneConn st c input l) (oneConn st' c input' l') (.serve () e)) ∧
    (Live r.loop → Live r'.loop → SameState r.st r'.st ∧ SameStream r.input r'.input) := by
  intro r r'
  unfold Agree
  dsimp only [oneConn]
  rcases serveIteration_upcoming s md5 c e l input with
    ⟨hup, hidle⟩ | ⟨p, rest, hup, hl, -, -, hread, hturn⟩
  · obtain ⟨hdead, hsight⟩ := hidle st
    refine ⟨?_, fun hlive => absurd hlive hdead⟩
    rw [hup, hsight]
    rcases serveIteration_upcoming s md5 c e l' input' with
      ⟨hup', hidle'⟩ | ⟨p', rest', hup', -, -, -, -, hturn'⟩
    · rw [hup', (hidle' st').2]
      exact ⟨fun _ => trivial, fun _ => ⟨rfl, rfl⟩⟩
    · rw [hup', show r' = servePacket s c e st' l' p' rest' from hturn' st']
      exact ⟨fun hdone => not_sameDone_idle s c e st' l' p' rest' hdone.symm, False.elim⟩
  · have hr : r = servePacket s c e st l p rest := hturn st
    rcases serveIteration_upcoming s md5 c e l' input' with
      ⟨hup', hidle'⟩ | ⟨p', rest', hup', hl', -, -, hread', hturn'⟩
    · obtain ⟨hdead', hsight'⟩ := hidle' st'
      refine ⟨?_, fun _ hlive' => absurd hlive' hdead'⟩
      rw [hup, hup', hsight', hr]
      exact ⟨not_sameDone_idle s c e st l p rest, False.elim⟩
    · have hr' : r' = servePacket s c e st' l' p' rest' := hturn' st'
      obtain ⟨hst, hstream⟩ := h hl hl'
      -- both read, and what they read is the same when masked
      have hboth : maskPkt p = maskPkt p' ∧ SameStream rest rest' := by
        rcases hstream.read md5 c with ⟨f, _, _, hfail, -⟩ | ⟨q, q', _, _, hq, hq', hsame⟩
        · rw [hread] at hfail
          cases hfail
        · rw [hread] at hq
          rw [hread'] at hq'
          cases hq
          cases hq'
          exact hsame
      obtain ⟨hdone, hstate⟩ := servePacket_same s c e l l' rest rest' hst hboth.1
      rw [hup, hup', hr, hr', (servePacket_read s c e st l p rest).2,
        (servePacket_read s c e st' l' p' rest').2]
      exact ⟨hdone, fun hlive hlive' => ⟨hstate hlive hlive', hboth.2⟩⟩

/-- One step of the two runs. -/
theorem inStep_step (s : Server σ) (md5 : Crypto.Md5) {c : Conn} {w w' : World σ Unit}
    (h : InStep c w w') (act : Act Unit) :
    (SameDone (World.step s md5 w act).2 (World.step s md5 w' act).2 ↔ Agree s md5 w w' act) ∧
      InStep c (World.step s md5 w act).1 (World.step s md5 w' act).1 := by
  obtain ⟨⟨st, input, l, rfl⟩, ⟨st', input', l', rfl⟩, hsame⟩ := h
  cases act with
  | sweep now =>
    refine ⟨⟨fun _ => trivial, fun _ => ⟨rfl, rfl⟩⟩, ⟨_, _, _, rfl⟩, ⟨_, _, _, rfl⟩, ?_⟩
    intro hlive hlive'
    obtain ⟨hst, hstream⟩ := hsame hlive hlive'
    exact ⟨hst.sweep now, hstream⟩
  | serve u e =>
    obtain ⟨hdone, hnext⟩ := turn_same s md5 c e hsame
    rw [step_oneConn, step_oneConn]
    exact ⟨hdone, ⟨_, _, _, rfl⟩, ⟨_, _, _, rfl⟩, hnext⟩

theorem inStep_run (s : Server σ) (md5 : Crypto.Md5) {c : Conn} {w w' : World σ Unit}
    (h : InStep c w w') (acts : List (Act Unit)) :
    InStep c (Run.after (World.step s md5) w acts) (Run.after (World.step s md5) w' acts) := by
  induction acts generalizing w w' with
  | nil => exact h
  | cons act acts ih => exact ih (inStep_step s md5 h act).2

/-- The same calls of the handler so far, and the same packets written, but for undefined bits. -/
def SameSoFar (os os' : List (Sight Unit)) : Prop :=
  os.flatMap Sight.calls = os'.flatMap Sight.calls ∧
    (os.filterMap Sight.written).map maskPkt = (os'.filterMap Sight.written).map maskPkt

theorem sameSoFar_snoc {os os' : List (Sight Unit)} (h : SameSoFar os os') (o o' : Sight Unit) :
    SameSoFar (os ++ [o]) (os' ++ [o']) ↔ SameDone o o' := by
  have hlast : ∀ o : Sight Unit, [o].filterMap Sight.written = o.written.toList := by
    intro o
    cases hw : o.written with
    | none => rw [List.filterMap_cons_none hw]; rfl
    | some q => rw [List.filterMap_cons_some hw]; rfl
  unfold SameSoFar SameDone
  rw [List.flatMap_append, List.flatMap_append, h.1, List.append_cancel_left_eq,
    List.filterMap_append, List.filterMap_append, List.map_append, List.map_append, h.2,
    List.append_cancel_left_eq, hlast, hlast, List.flatMap_singleton, List.flatMap_singleton]

end Handling

/-! ## The theorem -/

/-- **Undefined flag bits.** For every server, connection and state, and for every two streams
    that differ in undefined flag bits only: however the two runs of `ServeConn` go on, at every
    moment the handler has been called alike and the same packets have been written, up to those
    bits — if and only if in every step the two agree on whether the packet at hand has the
    flags of the first, or that does not matter. -/
theorem undefinedFlags_iff {σ : Type} (s : Server σ) (md5 : Crypto.Md5) (c : Conn)
    (st : State σ) {input input' : Bytes} (h : SameStream input input')
    (acts : List (Act Unit)) :
    (∀ pre, pre <+: acts →
      SameSoFar (Run.outputs (World.step s md5) (oneConn st c input) pre)
        (Run.outputs (World.step s md5) (oneConn st c input') pre)) ↔
    ∀ pre act, pre ++ [act] <+: acts →
      Agree s md5 (Run.after (World.step s md5) (oneConn st c input) pre)
        (Run.after (World.step s md5) (oneConn st c input') pre) act := by
  have hstart : InStep c (oneConn st c input) (oneConn st c input') :=
    ⟨⟨_, _, _, rfl⟩, ⟨_, _, _, rfl⟩, fun _ _ => ⟨SameState.refl st, h⟩⟩
  refine Iff.trans ?_ (Run.forall_prefix_iff₂ (C := Agree s md5)
    (P := fun os os' w w' => SameSoFar os os' ∧ InStep c w w') ⟨⟨rfl, rfl⟩, hstart⟩ ?_ acts)
  · refine forall₂_congr fun pre _ => ?_
    exact ⟨fun hpre => ⟨hpre, inStep_run s md5 hstart pre⟩, fun hpre => hpre.1⟩
  · intro os os' w w' act ⟨hsofar, hin⟩
    obtain ⟨hdone, hnext⟩ := inStep_step s md5 hin act
    rw [sameSoFar_snoc hsofar, hdone]
    exact ⟨fun h => h.1, fun h => ⟨h, hnext⟩⟩

/-! Two logins on a TLS connection, the second one with the flags `f`. -/

def twoLogins (f : HeaderFlags) : Bytes :=
  headerBytes (clearPkt 9 1 (asciiLogin "erin")).hdr ++ (asciiLogin "erin" ++
    (headerBytes { (clearPkt 11 1 (asciiLogin "erin")).hdr with flags := f } ++
      (asciiLogin "erin" ++ [])))

theorem sameStream_twoLogins : SameStream (twoLogins 0x01) (twoLogins 0x03) :=
  .packet rfl rfl (.packet rfl rfl (.same []))

/-- The two streams are read, served and compared as the theorem says. -/
theorem undefinedFlags_iff_twoLogins :
    let s := new ({ handler := askAgain, mode := .tls } : Config Unit)
    let st : State Unit := { sessions := newSessionManager 0, handler := () }
    let acts : List (Act Unit) := [.serve () { t := ⟨0, 0⟩ }, .sweep 1, .serve () { t := ⟨2, 2⟩ }]
    SameStream (twoLogins 0x01) (twoLogins 0x03) ∧
    ((∀ pre, pre <+: acts →
      SameSoFar (Run.outputs (World.step s default) (oneConn st tlsConn (twoLogins 0x01)) pre)
        (Run.outputs (World.step s default) (oneConn st tlsConn (twoLogins 0x03)) pre)) ↔
    ∀ pre act, pre ++ [act] <+: acts →
      Agree s default (Run.after (World.step s default) (oneConn st tlsConn (twoLogins 0x01)) pre)
        (Run.after (World.step s default) (oneConn st tlsConn (twoLogins 0x03)) pre) act) :=
  ⟨sameStream_twoLogins, undefinedFlags_iff _ _ _ _ sameStream_twoLogins _⟩

/-- The bit 0x02, which nobody defined, keeps the second login from the handler. -/
theorem undefinedFlags_violated :
    let s := new ({ handler := askAgain, mode := .tls } : Config Unit)
    let st : State Unit := { sessions := newSessionManager 0, handler := () }
    let acts : List (Act Unit) := [.serve () { t := ⟨0, 0⟩ }, .serve () { t := ⟨1, 1⟩ }]
    let seen := fun f => Run.outputs (World.step s default) (oneConn st tlsConn (twoLogins f)) acts
    SameStream (twoLogins 0x01) (twoLogins 0x03) ∧
      ((seen 0x01).flatMap Sight.calls).length = 2 ∧
      ((seen 0x03).flatMap Sight.calls).length = 1 ∧
      ¬SameSoFar (seen 0x01) (seen 0x03) := by
  intro s st acts seen
  have h1 : ((seen 0x01).flatMap Sight.calls).length = 2 := by decide +kernel
  have h3 : ((seen 0x03).flatMap Sight.calls).length = 1 := by decide +kernel
  refine ⟨sameStream_twoLogins, h1, h3, ?_⟩
  intro h
  rw [h.1, h3] at h1
  cases h1

end Server
end Proof
end Tacacs
