import Tacacs.Proof.Server.Dialogue
import Tacacs.Proof.Server.Passwords

/-!
# How the server consults its handler

A packet leads to one call of the handler or to none. Without one the state of the handler stays
as it is; with one it becomes what the call leaves, and the reply is what the answer is encoded
to (`handle_consults`). An invariant of a handler that keeps state is shown from this, one call
at a time. And a PASS or a grant is always the handler's: `step_pass`, `step_grants`.
-/

set_option autoImplicit false

namespace Tacacs
namespace Proof
namespace Server

open GoSem Tacacs.Packet Tacacs.Transport
open Tacacs.Server hiding AuthenStart AuthenContinue

variable {σ : Type}

def authorReplyTo (hdr : Header) : Except GoError AuthorDecision → Pkt
  | .error _ => sendAuthorError hdr
  | .ok dec => encodeReply hdr (AuthorReply.marshalBinary
      { status := dec.status, serverMsg := dec.serverMsg, args := dec.args.map Argument.string })

def acctReplyTo (hdr : Header) : Except GoError AcctDecision → Pkt
  | .error _ => sendAcctError hdr
  | .ok dec => encodeReply hdr (AcctReply.marshalBinary
      { status := dec.status, serverMsg := dec.serverMsg })

/-- `r` is what comes of a packet with header `hdr`, `w` being the state of the handler. -/
inductive Consults (s : Server σ) (hdr : Header) (w : σ) (r : Handled σ) : Prop where
  | unasked : r.calls = [] → r.st.handler = w → Consults s hdr w r
  | authenticate (ac : AuthenContext) (cont : Option AuthenContinue) :
      r.calls = [.authenticate ac cont] →
      r.st.handler = (s.cfg.handler.authenticate ac cont w).2 →
      r.reply = replyTo hdr (s.cfg.handler.authenticate ac cont w).1 → Consults s hdr w r
  | authorize (ac : AuthorContext) :
      r.calls = [.authorize ac] → r.st.handler = (s.cfg.handler.authorize ac w).2 →
      r.reply = authorReplyTo hdr (s.cfg.handler.authorize ac w).1 → Consults s hdr w r
  | account (ac : AcctContext) :
      r.calls = [.account ac] → r.st.handler = (s.cfg.handler.account ac w).2 →
      r.reply = acctReplyTo hdr (s.cfg.handler.account ac w).1 → Consults s hdr w r

theorem handleAuthen_consults (s : Server σ) (c : Conn) (t : Times) (st : State σ) (hdr : Header)
    (body : Bytes) : Consults s hdr st.handler (handleAuthen s c t st hdr body) := by
  have hacts := handleAuthen_acts s c t st hdr body
  unfold reactAuthen at hacts
  cases hi : intake (st.sessions.get hdr.sessionID) hdr body with
  | refused =>
    rw [hi] at hacts
    exact .unasked hacts.calls hacts.handler
  | outOfSequence =>
    rw [hi] at hacts
    exact .unasked hacts.calls hacts.handler
  | opened start =>
    rw [hi] at hacts
    exact .authenticate _ _ hacts.calls hacts.handler hacts.reply
  | continued sctx cont =>
    rw [hi] at hacts
    exact .authenticate _ _ hacts.calls hacts.handler hacts.reply

theorem handleAuthor_consults (s : Server σ) (c : Conn) (st : State σ) (hdr : Header)
    (body : Bytes) : Consults s hdr st.handler (handleAuthor s c st hdr body) := by
  unfold handleAuthor
  cases AuthorRequest.unmarshalBinary body with
  | error e => exact .unasked rfl rfl
  | ok req =>
    dsimp only
    cases parseArguments req.args with
    | error e => exact .unasked rfl rfl
    | ok args =>
      dsimp only
      generalize AuthorContext.mk _ _ _ _ _ _ _ _ _ _ _ = ac
      cases h : (s.cfg.handler.authorize ac st.handler).1 with
      | error e => exact .authorize ac rfl rfl (by rw [h]; rfl)
      | ok dec => exact .authorize ac rfl rfl (by rw [h]; rfl)

theorem handleAcct_consults (s : Server σ) (c : Conn) (st : State σ) (hdr : Header)
    (body : Bytes) : Consults s hdr st.handler (handleAcct s c st hdr body) := by
  unfold handleAcct
  cases AcctRequest.unmarshalBinary body with
  | error e => exact .unasked rfl rfl
  | ok req =>
    dsimp only
    split
    · exact .unasked rfl rfl
    · cases parseArguments req.args with
      | error e => exact .unasked rfl rfl
      | ok args =>
        dsimp only
        generalize AcctContext.mk _ _ _ _ _ _ _ _ _ _ _ _ = ac
        cases h : (s.cfg.handler.account ac st.handler).1 with
        | error e => exact .account ac rfl rfl (by rw [h]; rfl)
        | ok dec => exact .account ac rfl rfl (by rw [h]; rfl)

theorem handle_consults (s : Server σ) (c : Conn) (t : Times) (st : State σ) (p : Pkt) :
    Consults s p.hdr st.handler (handle s c t st p) := by
  unfold handle
  split
  · exact handleAuthen_consults s c t st p.hdr p.body
  · split
    · exact handleAuthor_consults s c st p.hdr p.body
    · split
      · exact handleAcct_consults s c st p.hdr p.body
      · exact .unasked rfl rfl

/-- The packet carries this password: as the data of a PAP START, or as the message of a
    CONTINUE. -/
def Carries (start : Packet.AuthenStart) (p : Pkt) (password : GoString) : Prop :=
  (p.hdr.seqNo = 1 ∧ start.type = authenTypePAP ∧ password = start.data) ∨
    (p.hdr.seqNo ≠ 1 ∧ ∃ ct, Packet.AuthenContinue.unmarshalBinary p.body = .ok ct ∧
      password = ct.userMsg)

/-- A packet that is answered with PASS was put to the handler, together with the last START of
    its session. -/
theorem step_pass {s : Server σ} {es : List Event} {st : State σ} (hst : Remembers es st)
    {c : Conn} {t : Times} {p q : Pkt} {reply : Packet.AuthenReply}
    (hq : (step s st (.packet c t p)).2.reply = some q)
    (htype : q.hdr.type = packetAuthentication)
    (hreply : Packet.AuthenReply.unmarshalBinary q.body = .ok reply)
    (hpass : reply.status = authenStatusPass) :
    ∃ start cont dec, lastStart q.hdr.sessionID (es ++ [.packet c t p]) = some start ∧
      (s.cfg.handler.authenticate (authenContext c p.hdr start) cont st.handler).1 = .ok dec ∧
      dec.status = authenStatusPass ∧
      ∀ password, presented start cont = some password → Carries start p password := by
  have hq' : (handle s c t st p).reply = q := Option.some.inj hq
  have hhdr := handle_reply_hdr s c t st p
  rw [hq'] at hhdr
  have hid : q.hdr.sessionID = p.hdr.sessionID := by rw [hhdr]; rfl
  have hptype : p.hdr.type = packetAuthentication := by rw [← htype, hhdr]; rfl
  rw [← hq'] at hreply
  obtain ⟨start, cont, dec, hdec, hdecided, hfrom⟩ := handle_pass hptype hreply hpass
  refine ⟨start, cont, dec, ?_, hdec, hdecided, ?_⟩
  · rw [hid, lastStart_snoc]
    rcases hfrom with ⟨hseq, hb, -⟩ | ⟨hseq, ⟨sctx, hget, rfl⟩, -⟩
    · rw [show startOf p.hdr.sessionID (.packet c t p) = some start from
        startIn_eq_some.mpr ⟨hptype, rfl, hseq, hb⟩]
      rfl
    · have hnone : startOf p.hdr.sessionID (.packet c t p) = none := by
        show startIn p.hdr.sessionID p = none
        unfold startIn
        rw [if_neg fun hall => hseq hall.2.2]
      rw [hnone]
      exact hst _ _ hget
  · intro password hpresented
    rcases hfrom with ⟨hseq, -, rfl⟩ | ⟨hseq, -, ct, hb, rfl⟩
    · by_cases hpap : start.type = authenTypePAP
      · have hdata : some start.data = some password := (if_pos hpap).symm.trans hpresented
        exact .inl ⟨hseq, hpap, (Option.some.inj hdata).symm⟩
      · have hnone : none = some password := (if_neg hpap).symm.trans hpresented
        cases hnone
    · exact .inr ⟨hseq, ct, hb, (Option.some.inj hpresented).symm⟩

def Grants (status : AuthorStatus) : Prop :=
  status = authorStatusPassAdd ∨ status = authorStatusPassRepl

/-- A reply that decodes to a grant was a decision to grant. -/
theorem authorReplyTo_grants {hdr : Header} {res : Except GoError AuthorDecision}
    {reply : AuthorReply}
    (h : AuthorReply.unmarshalBinary (authorReplyTo hdr res).body = .ok reply)
    (hgrants : Grants reply.status) : ∃ dec, res = .ok dec ∧ Grants dec.status := by
  cases res with
  | error e =>
    have herr : AuthorReply.unmarshalBinary (sendAuthorError hdr).body
        = .ok { status := authorStatusError } := rfl
    rw [show (authorReplyTo hdr (.error e)).body = (sendAuthorError hdr).body from rfl, herr] at h
    cases h
    exact absurd hgrants (by unfold Grants; decide)
  | ok dec =>
    refine ⟨dec, rfl, ?_⟩
    unfold authorReplyTo at h
    dsimp only at h
    cases hm : AuthorReply.marshalBinary { status := dec.status, serverMsg := dec.serverMsg,
                                           args := dec.args.map Argument.string } with
    | error e =>
      rw [hm] at h
      exact absurd h (by simp [encodeReply, sendGenericError, AuthorReply.unmarshalBinary])
    | ok rb =>
      rw [hm, show (encodeReply hdr (.ok rb)).body = rb from rfl,
        Packet.authorReply_realises.decode_encode hm] at h
      cases h
      exact hgrants

/-- An authorization packet that is answered with a grant was put to the handler, with the user
    and the arguments it carries. -/
theorem step_grants {s : Server σ} {st : State σ} {c : Conn} {t : Times} {p q : Pkt}
    {reply : AuthorReply} (hq : (step s st (.packet c t p)).2.reply = some q)
    (htype : q.hdr.type = packetAuthorization)
    (hreply : AuthorReply.unmarshalBinary q.body = .ok reply) (hgrants : Grants reply.status) :
    ∃ req ac dec, AuthorRequest.unmarshalBinary p.body = .ok req ∧ ac.user = req.user ∧
      parseArguments req.args = .ok ac.args ∧
      (s.cfg.handler.authorize ac st.handler).1 = .ok dec ∧ Grants dec.status := by
  have hq' : (handle s c t st p).reply = q := Option.some.inj hq
  have hhdr := handle_reply_hdr s c t st p
  rw [hq'] at hhdr
  have hptype : p.hdr.type = packetAuthorization := by rw [← htype, hhdr]; rfl
  have hne : p.hdr.type ≠ packetAuthentication := by rw [hptype]; decide
  rw [← hq'] at hreply
  unfold handle at hreply
  rw [if_neg hne, if_pos hptype] at hreply
  unfold handleAuthor at hreply
  cases hreq : AuthorRequest.unmarshalBinary p.body with
  | error e =>
    rw [hreq] at hreply
    exact absurd hreply (by simp [sendGenericError, AuthorReply.unmarshalBinary])
  | ok req =>
    rw [hreq] at hreply
    dsimp only at hreply
    cases hargs : parseArguments req.args with
    | error e =>
      rw [hargs] at hreply
      have herr : AuthorReply.unmarshalBinary (authorReplyTo p.hdr (.error e)).body = .ok reply :=
        hreply
      obtain ⟨dec, hdec, -⟩ := authorReplyTo_grants herr hgrants
      cases hdec
    | ok args =>
      rw [hargs] at hreply
      dsimp only at hreply
      generalize hac : AuthorContext.mk _ _ _ _ _ _ _ _ _ _ _ = ac at hreply
      have htold : AuthorReply.unmarshalBinary
          (authorReplyTo p.hdr (s.cfg.handler.authorize ac st.handler).1).body = .ok reply := by
        cases hanswer : (s.cfg.handler.authorize ac st.handler).1 with
        | error e => rw [hanswer] at hreply; exact hreply
        | ok dec => rw [hanswer] at hreply; exact hreply
      obtain ⟨dec, hdec, hdecided⟩ := authorReplyTo_grants htold hgrants
      refine ⟨req, ac, dec, rfl, ?_, ?_, hdec, hdecided⟩
      · rw [← hac]
      · rw [hargs, ← hac]

end Server
end Proof
end Tacacs
