import Tacacs.Client
import Tacacs.Proof.Packet.Bodies

/-!
# The arguments of a rejection

`AuthorResult` documents that the arguments of a rejected authorization are to be ignored.
`Client.Authorize` parses the arguments of every reply before it returns, whatever the status: an
argument that parses ends up in the result, and one that does not makes an error of a denial. So
the arguments are ignored only where there are none.
-/

set_option autoImplicit false

namespace Tacacs
namespace Proof
namespace Client

open GoSem Tacacs.Client Tacacs.Transport Tacacs.Protocol
open Tacacs.Packet (AuthorReply)

/-! ## The loop over the arguments -/

/-- What was there stays in front. -/
theorem appendArguments_prefix (args : List Argument) (raw : List GoString) :
    args <+: (appendArguments args raw).1 := by
  induction raw generalizing args with
  | nil => exact List.prefix_refl _
  | cons a rest ih =>
    unfold appendArguments
    cases parseArgument a with
    | error perr => exact List.prefix_refl _
    | ok parsed => exact (List.prefix_append args [parsed]).trans (ih _)

/-- Any argument leaves a trace, as an argument of the result or as an error. -/
theorem appendArguments_ignored_iff (raw : List GoString) :
    (appendArguments [] raw).1 = [] ∧ (appendArguments [] raw).2 = none ↔ raw = [] := by
  cases raw with
  | nil => exact ⟨fun _ => rfl, fun _ => ⟨rfl, rfl⟩⟩
  | cons a rest =>
    refine ⟨?_, fun h => by cases h⟩
    unfold appendArguments
    cases parseArgument a with
    | error perr =>
      rintro ⟨-, h⟩
      cases h
    | ok parsed =>
      rintro ⟨h, -⟩
      have hprefix : [] ++ [parsed] <+: (appendArguments ([] ++ [parsed]) rest).1 :=
        appendArguments_prefix _ _
      rw [h] at hprefix
      exact absurd (List.prefix_nil.mp hprefix) (List.cons_ne_nil _ _)

/-! ## A call that gets its reply -/

/-- The request is encoded and sent, and `p` is read. -/
def Receives {ν : Type} (l : Link ν) (req : AuthorRequest) (sess : Session) (x : ν) (p : Pkt) :
    Prop :=
  ∃ sb, req.packet.marshalBinary = .ok sb ∧
    let s := send l versionDefault packetAuthorization sb sess x
    s.res = .ok () ∧ (l.readPacket s.outside).1 = .ok p

/-- `p` is the well-formed reply `r`. -/
def Carries (p : Pkt) (r : AuthorReply) : Prop :=
  p.hdr.length ≠ 0 ∧ r.marshalBinary = .ok p.body

/-- A reply as a result, with the arguments up to the first that does not parse. -/
def resultOf (r : AuthorReply) : AuthorResult where
  status := normalizeAuthorStatus r.status
  args := (appendArguments [] r.args).1
  serverMsg := r.serverMsg

/-- What `Authorize` returns. -/
theorem authorize_received {ν : Type} {l : Link ν} {req : AuthorRequest} {sess : Session} {x : ν}
    {p : Pkt} {r : AuthorReply} (h : Receives l req sess x p) (hp : Carries p r) :
    (authorize l req sess x).value = resultOf r ∧
      (authorize l req sess x).err = (appendArguments [] r.args).2.map .err := by
  obtain ⟨sb, hsb, hsend, hread⟩ := h
  obtain ⟨hlen, hbody⟩ := hp
  have hresult : authorResult p = (resultOf r, (appendArguments [] r.args).2.map .err) := by
    unfold authorResult
    rw [if_neg hlen, Packet.authorReply_realises.decode_encode hbody]
    rfl
  unfold authorize exchange
  rw [hsb]
  dsimp only
  rw [hsend]
  dsimp only
  rw [hread]
  dsimp only
  rw [hresult]
  exact ⟨rfl, rfl⟩

/-! ## The theorem -/

/-- The call returned the rejection `r` and no error, and nothing of its arguments. -/
structure Rejected {ν : Type} (r : AuthorReply) (o : Outcome AuthorResult ν) : Prop where
  err : o.err = none
  status : o.value.status = if r.status = authorStatusError then authorStatusError
    else authorStatusFail
  serverMsg : o.value.serverMsg = r.serverMsg
  args : o.value.args = []

theorem rejected_iff {ν : Type} {l : Link ν} {req : AuthorRequest} {sess : Session} {x : ν}
    {p : Pkt} {r : AuthorReply} {args : List GoString}
    (hstatus : r.status = authorStatusFail ∨ r.status = authorStatusError ∨
      r.status = authorStatusFollow)
    (h : Receives l req sess x p) (hp : Carries p { r with args := args }) :
    Rejected r (authorize l req sess x) ↔ args = [] := by
  obtain ⟨hvalue, herr⟩ := authorize_received h hp
  have hnormal : normalizeAuthorStatus r.status
      = if r.status = authorStatusError then authorStatusError else authorStatusFail := by
    rcases hstatus with hs | hs | hs
    · rw [hs]
      decide
    · rw [hs]
      decide
    · rw [hs]
      decide
  rw [← appendArguments_ignored_iff]
  constructor
  · intro hrej
    have hargs := hrej.args
    have hnone := hrej.err
    rw [hvalue] at hargs
    rw [herr, Option.map_eq_none_iff] at hnone
    exact ⟨hargs, hnone⟩
  · rintro ⟨hargs, hnone⟩
    refine ⟨?_, ?_, ?_, ?_⟩
    · rw [herr, hnone]
      rfl
    · rw [hvalue]
      exact hnormal
    · rw [hvalue]
      rfl
    · rw [hvalue]
      exact hargs

/-- **When the arguments of a rejection are ignored.** Take two well-formed replies with one of
    the statuses FAIL, ERROR and FOLLOW that differ in their arguments only, and two calls of
    `Authorize` that receive them. Both return the same result, the rejection without arguments,
    and no error, if and only if neither reply has an argument. -/
theorem rejection_ignores_args_iff {ν₁ ν₂ : Type} (l₁ : Link ν₁) (l₂ : Link ν₂)
    (req₁ req₂ : AuthorRequest) (sess₁ sess₂ : Session) (x₁ : ν₁) (x₂ : ν₂) (p₁ p₂ : Pkt)
    (r : AuthorReply) (args₁ args₂ : List GoString)
    (hstatus : r.status = authorStatusFail ∨ r.status = authorStatusError ∨
      r.status = authorStatusFollow)
    (h₁ : Receives l₁ req₁ sess₁ x₁ p₁) (h₂ : Receives l₂ req₂ sess₂ x₂ p₂)
    (hp₁ : Carries p₁ { r with args := args₁ }) (hp₂ : Carries p₂ { r with args := args₂ }) :
    ((authorize l₁ req₁ sess₁ x₁).value = (authorize l₂ req₂ sess₂ x₂).value ∧
        Rejected r (authorize l₁ req₁ sess₁ x₁) ∧ Rejected r (authorize l₂ req₂ sess₂ x₂)) ↔
      args₁ = [] ∧ args₂ = [] := by
  rw [rejected_iff hstatus h₁ hp₁, rejected_iff hstatus h₂ hp₂]
  refine ⟨fun h => h.2, fun h => ⟨?_, h⟩⟩
  obtain ⟨hargs₁, hargs₂⟩ := h
  subst hargs₁ hargs₂
  rw [(authorize_received h₁ hp₁).1, (authorize_received h₂ hp₂).1]

/-! ## A server that says no -/

/-- What is read is always `p`. -/
def answering (p : Pkt) : Link Unit where
  ctxErr _ := none
  writePacket _ _ x := (.ok (), x)
  readPacket x := (.ok p, x)

/-- A request of `alice` to run `reload`. -/
def mayReload : AuthorRequest :=
  { method := 6, privLvl := 1, type := authenTypeASCII, service := 1, user := lit "alice",
    port := [], remAddr := [],
    args := [{ mandatory := true, name := lit "cmd", value := lit "reload" }] }

def refusal : AuthorReply := { status := authorStatusFail, serverMsg := lit "no", args := [] }

/-- `refusal` in a packet. -/
def refusalPkt : Pkt :=
  ⟨{ version := versionDefault, type := packetAuthorization, seqNo := 2, flags := 0,
     sessionID := 7, length := 8 }, [0x10, 0, 0, 2, 0, 0] ++ lit "no"⟩

/-- `refusal` with an argument that has no separator. -/
def garbledPkt : Pkt :=
  ⟨{ refusalPkt.hdr with length := 12 }, [0x10, 1, 0, 2, 0, 0, 3] ++ lit "no" ++ lit "why"⟩

/-- Without arguments the refusal is what is returned, to one client as to another. -/
theorem rejection_ignores_args_refusal :
    let o := authorize (answering refusalPkt) mayReload (newSession .client 7) ()
    let o' := authorize (answering ⟨{ refusalPkt.hdr with sessionID := 9 }, refusalPkt.body⟩)
      { mayReload with user := lit "bob" } (newSession .client 9) ()
    o.value = o'.value ∧ Rejected refusal o ∧ Rejected refusal o' :=
  (rejection_ignores_args_iff _ _ _ _ _ _ () () _ _ refusal [] [] (Or.inl rfl)
    ⟨_, rfl, rfl, rfl⟩ ⟨_, rfl, rfl, rfl⟩ ⟨by decide, rfl⟩ ⟨by decide, rfl⟩).mpr ⟨rfl, rfl⟩

/-- The garbled refusal differs in its arguments only, and is returned as an error. -/
theorem rejection_heeds_args :
    Carries refusalPkt refusal ∧ Carries garbledPkt { refusal with args := [lit "why"] } ∧
    (authorize (answering refusalPkt) mayReload (newSession .client 7) ()).err = none ∧
    (authorize (answering garbledPkt) mayReload (newSession .client 7) ()).err
      = some (.err (validationError "argument" "missing separator" .invalidArgument)) :=
  ⟨⟨by decide, rfl⟩, ⟨by decide, rfl⟩, rfl, rfl⟩

end Client
end Proof
end Tacacs
