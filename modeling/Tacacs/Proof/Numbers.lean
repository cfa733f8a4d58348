import Tacacs.Proof.Exchanges

/-!
# The numbers of a client run out

A client takes the numbers of its packets from one session, through all its calls: 1, 3, 5 and so
on to 255 (`numbers_run`). That is 128 numbers. The counter is an `int`, so it passes 255 instead
of wrapping, and from then on `send` refuses.

This is also what ends the loop of `Authenticate`. It has no bound of its own, and a server may
ask for more for ever; but a round that is not the last takes a number.
-/

set_option autoImplicit false

namespace Tacacs
namespace Proof
namespace Connection

open GoSem Tacacs.Client Tacacs.Connection Tacacs.Protocol Tacacs.Transport
open Tacacs.Packet (Header)

variable {ν : Type}

/-! ## Which numbers are taken -/

def seqNos (hdrs : List Header) : List Nat := hdrs.map fun hdr => hdr.seqNo.toNat

/-- The packets recorded in between have the next numbers of the session, which are taken. -/
def Numbered (sess : Session) (log : List Header) (sess' : Session) (log' : List Header) : Prop :=
  ∃ hdrs, log' = log ++ hdrs ∧ seqNos hdrs = List.range' sess.nextSeq hdrs.length 2 ∧
    sess'.nextSeq = sess.nextSeq + 2 * hdrs.length

/-- Numbers taken, and then more. -/
theorem seqNos_append {hdrs hdrs' : List Header} {s : Nat}
    (h : seqNos hdrs = List.range' s hdrs.length 2)
    (h' : seqNos hdrs' = List.range' (s + 2 * hdrs.length) hdrs'.length 2) :
    seqNos (hdrs ++ hdrs') = List.range' s (hdrs ++ hdrs').length 2 := by
  unfold seqNos at h h' ⊢
  rw [List.map_append, h, h', List.length_append, List.range'_append]

theorem numbered_accrues : Accrues Numbered where
  refl sess log := ⟨[], (List.append_nil log).symm, rfl, rfl⟩
  trans := by
    rintro s₁ s₂ s₃ l₁ l₂ l₃ ⟨hdrs, rfl, hseq, hnext⟩ ⟨hdrs', rfl, hseq', hnext'⟩
    refine ⟨hdrs ++ hdrs', List.append_assoc _ _ _, ?_, ?_⟩
    · rw [hnext] at hseq'
      exact seqNos_append hseq hseq'
    · rw [hnext', hnext, List.length_append]
      omega
  sent version ptype sess log hle :=
    ⟨[nextHeader version ptype sess], rfl,
      congrArg (fun n => [n]) (Client.nextHeader_seqNo version ptype hle), rfl⟩

/-- A call, on the link as it is then: each call has a context of its own, and between two calls
    the server may change its mind. -/
def callOn (y : Session × ν) (a : Link ν × Exchange ν) : (Session × ν) × List Header :=
  exchangeStep a.1 y a.2

/-- **The numbers of a run.** -/
theorem numbers_run (id : UInt32) (x : ν) (calls : List (Link ν × Exchange ν)) :
    let y := (newSession .client id, x)
    let hdrs := (Run.outputs callOn y calls).flatten
    seqNos hdrs = List.range' 1 hdrs.length 2 ∧
      (Run.after callOn y calls).1.nextSeq = 1 + 2 * hdrs.length := by
  refine Run.run_induction callOn (fun _ os z =>
    seqNos os.flatten = List.range' 1 os.flatten.length 2 ∧
      z.1.nextSeq = 1 + 2 * os.flatten.length) ⟨rfl, rfl⟩ ?_ calls
  rintro _ os z ⟨l, e⟩ ⟨hseq, hnext⟩
  obtain ⟨hdrs, hlog, hseq', hnext'⟩ := numbered_accrues.exchangeStep l z e
  unfold callOn
  rw [List.nil_append] at hlog
  rw [List.flatten_append, List.flatten_singleton, hlog]
  refine ⟨?_, ?_⟩
  · rw [hnext] at hseq'
    exact seqNos_append hseq hseq'
  · rw [hnext', hnext, List.length_append]
    omega

/-- A byte holds 128 odd numbers. -/
theorem length_le_of_seqNos {hdrs : List Header} (h : seqNos hdrs = List.range' 1 hdrs.length 2) :
    hdrs.length ≤ 128 := by
  by_contra hlt
  have hmem : 257 ∈ seqNos hdrs := by
    rw [h, List.mem_range']
    exact ⟨128, by omega, rfl⟩
  obtain ⟨hdr, -, hseq⟩ := List.mem_map.mp hmem
  have hbyte := hdr.seqNo.toNat_lt
  omega

/-! ## A call without a number left -/

/-- The error a call returns. -/
def callErr (l : Link ν) (y : Session × ν) : Exchange ν → Option (Fault GoError)
  | .authenticate contFn req => (authenticate l contFn req y.1 y.2).err
  | .request (.authorize req) => (authorize l req y.1 y.2).err
  | .request (.account req) => (account l req y.1 y.2).err

/-- What stops a call that has no number left: its own request, its context, or that. -/
def obstacle (l : Link ν) (y : Session × ν) (e : Exchange ν) : Fault GoError :=
  match e.body with
  | .error f => f
  | .ok _ => unsentError l y.2

/-- A request fails in the same way, whatever it is to return. -/
theorem exchange_exhausted (l : Link ν) {α : Type} (ptype : PacketType) (body : Go GoError Bytes)
    (zero : α) (result : Pkt → α × Option (Fault GoError)) {sess : Session} (x : ν)
    (h : 255 < sess.nextSeq) :
    (exchange l ptype body zero result sess x).err = some (match body with
      | .error f => f
      | .ok _ => unsentError l x) := by
  unfold exchange
  cases body with
  | error f => rfl
  | ok sb =>
    dsimp only
    rw [send_exhausted l _ _ sb x h]

/-- **A call without a number left** fails. That it sends nothing is `exchangeStep_of_not_sends`. -/
theorem callErr_exhausted (l : Link ν) (y : Session × ν) (e : Exchange ν)
    (h : 255 < y.1.nextSeq) : callErr l y e = some (obstacle l y e) := by
  cases e with
  | authenticate contFn req =>
    unfold callErr obstacle authenticate Exchange.body
    dsimp only
    cases req.marshalBinary with
    | error f => rfl
    | ok sb =>
      dsimp only
      rw [send_exhausted l _ _ sb y.2 h]
  | request req =>
    cases req with
    | authorize req => exact exchange_exhausted l packetAuthorization _ {} authorResult y.2 h
    | account req => exact exchange_exhausted l packetAccounting _ {} acctResult y.2 h

/-! ## The rounds of `Authenticate` -/

/-- At most `n` rounds of the loop; `none` if there is another one to come. -/
def loopWithin (l : Link ν) (contFn : Option (ContFn ν)) (version : Version) :
    Nat → Session → ν → Option (Outcome AuthenReply ν)
  | 0, _, _ => none
  | n + 1, sess, x =>
      match authenticateRound l contFn version sess x with
      | .done o => some o
      | .again sess' x' => loopWithin l contFn version n sess' x'

/-- `Authenticate`, with at most `n` rounds of its loop. -/
def authenticateWithin (n : Nat) (l : Link ν) (contFn : Option (ContFn ν)) (req : AuthenRequest)
    (sess : Session) (x : ν) : Option (Outcome AuthenReply ν) :=
  let version : Version := majorVersion <<< 4 ||| minorVersionFor req.type
  match req.marshalBinary with
  | .error f => some { value := { status := 0 }, err := some f, sess, outside := x }
  | .ok sb =>
      let s := send l version packetAuthentication sb sess x
      match s.res with
      | .error f =>
          some { value := { status := 0 }, err := some f, sess := s.sess, outside := s.outside }
      | .ok () => loopWithin l contFn version n s.sess s.outside

/-- As many rounds as there are numbers left, and one more, are enough. -/
theorem loopWithin_eq (l : Link ν) (contFn : Option (ContFn ν)) (version : Version) :
    ∀ (n : Nat) (sess : Session) (x : ν), 0 < n → 257 < sess.nextSeq + 2 * n →
      loopWithin l contFn version n sess x = some (authenticateLoop l contFn version sess x) := by
  intro n
  induction n with
  | zero =>
    intro sess x hpos
    exact absurd hpos (Nat.lt_irrefl 0)
  | succ n ih =>
    intro sess x _ hn
    unfold loopWithin
    cases hround : authenticateRound l contFn version sess x with
    | done o =>
      dsimp only
      rw [authenticateLoop_done hround]
    | again sess' x' =>
      dsimp only
      obtain ⟨hle, hnext⟩ := authenticateRound_again hround
      rw [authenticateLoop_again hround]
      apply ih
      · omega
      · omega

theorem authenticateWithin_eq (l : Link ν) (contFn : Option (ContFn ν)) (req : AuthenRequest)
    {sess : Session} (x : ν) (h : 1 ≤ sess.nextSeq) :
    authenticateWithin 128 l contFn req sess x = some (authenticate l contFn req sess x) := by
  unfold authenticateWithin authenticate
  cases req.marshalBinary with
  | error f => rfl
  | ok sb =>
    dsimp only
    cases hres : (send l (majorVersion <<< 4 ||| minorVersionFor req.type) packetAuthentication sb
      sess x).res with
    | error f => rfl
    | ok u =>
      -- the START has taken a number
      have hnext := (send_ok hres).2
      apply loopWithin_eq
      · decide
      · omega

/-! ## A whole life of a client -/

/-- **A client writes 128 packets and no more**, whatever the servers answer and the users type.
    Their numbers are odd and go up. A call that comes after them fails before it has written
    anything, and for want of a number if nothing else is wrong with it. The loop of
    `Authenticate` goes round 128 times at most. -/
theorem client_numbers_end (id : UInt32) (x : ν) (calls : List (Link ν × Exchange ν)) :
    let y := (newSession .client id, x)
    let hdrs := (Run.outputs callOn y calls).flatten
    let z := Run.after callOn y calls
    (∀ n ∈ seqNos hdrs, n % 2 = 1 ∧ n ≤ 255) ∧ (seqNos hdrs).Pairwise (· < ·) ∧
      hdrs.length ≤ 128 ∧
      (hdrs.length = 128 → ∀ l e, (callOn z (l, e)).2 = [] ∧
        ∃ f, callErr l z e = some f ∧
          ((∃ sb, e.body = .ok sb) → l.ctxErr z.2 = none → f = .err outOfNumbers)) ∧
      ∀ l contFn req,
        authenticateWithin 128 l contFn req z.1 z.2 = some (authenticate l contFn req z.1 z.2) := by
  intro y hdrs z
  have hseq : seqNos hdrs = List.range' 1 hdrs.length 2 := (numbers_run id x calls).1
  have hnext : z.1.nextSeq = 1 + 2 * hdrs.length := (numbers_run id x calls).2
  have hlen : hdrs.length ≤ 128 := length_le_of_seqNos hseq
  refine ⟨fun n hn => ?_, ?_, hlen, fun hall l e => ?_, fun l contFn req => ?_⟩
  · rw [hseq, List.mem_range'] at hn
    obtain ⟨i, hi, rfl⟩ := hn
    omega
  · rw [hseq]
    exact List.pairwise_lt_range' 2
  · have hend : 255 < z.1.nextSeq := by
      rw [hnext, hall]
      decide
    refine ⟨?_, obstacle l z e, callErr_exhausted l z e hend, ?_⟩
    · unfold callOn
      rw [exchangeStep_of_not_sends fun h => absurd h.2.2 (Nat.not_le_of_lt hend)]
    · rintro ⟨sb, hbody⟩ hctx
      unfold obstacle
      rw [hbody]
      dsimp only [unsentError]
      rw [hctx]
      rfl
  · apply authenticateWithin_eq
    rw [hnext]
    omega

/-- A server that answers nothing. -/
def silent : Link Unit where
  ctxErr _ := none
  writePacket _ _ x := (.ok (), x)
  readPacket x := (.error (.err .eof), x)

/-- The same, for a caller who has given up already. -/
def givenUp : Link Unit :=
  { silent with ctxErr := fun _ => some (.other [.text "context canceled"]) }

def whoAmI : Exchange Unit :=
  .request (.authorize { method := 0, privLvl := 0, type := 0, service := 0,
                         user := [], port := [], remAddr := [], args := [] })

/-- A call after the last number whose context is done fails with the error of the context. -/
theorem client_numbers_end_givenUp :
    let y := (newSession .client 7, ())
    let calls := List.replicate 128 (silent, whoAmI)
    let z := Run.after callOn y calls
    (Run.outputs callOn y calls).flatten.length = 128 ∧
      callErr givenUp z whoAmI = some (.err (.other [.text "context canceled"])) ∧
      callErr givenUp z whoAmI ≠ some (.err outOfNumbers) := by
  decide +kernel

end Connection
end Proof
end Tacacs
