import Tacacs.Crypto
import Tacacs.Lib.Keystream

/-!
# The pad of RFC 8907

`pseudoPad` is a loop with a digest that feeds the next one, a first round without it and a last
block that may be cut short. The RFC gives the digests by recursion. The two agree: the pad is an
initial piece of the stream of digests, as long as the body.

The pad depends on the header and on the **length** of the body only, so the second time it is
applied undoes the first.
-/

set_option autoImplicit false

namespace Tacacs
namespace Proof
namespace Pad

open GoSem Tacacs.Crypto

/-! ## Its length -/

theorem length_padLoop (md5 : Md5) (base : Bytes) (n : Nat) (pad prev : Bytes)
    (h : pad.length ≤ n) : (padLoop md5 base n pad prev).length = n := by
  induction pad, prev using padLoop.induct md5 base n with
  | case1 pad prev hlt digest remaining ih =>
    rw [padLoop, if_pos hlt]
    apply ih
    have hd : digest.length = md5DigestSize := md5.length_sum (base ++ prev)
    have hr : remaining ≤ n - pad.length := Nat.min_le_left _ _
    rw [List.length_append, List.length_take]
    omega
  | case2 pad prev hge =>
    rw [padLoop, if_neg hge]
    omega

theorem length_pseudoPad (md5 : Md5) (body key : Bytes) (id : UInt32) (version seqNo : UInt8) :
    (pseudoPad md5 body key id version seqNo).length = body.length := by
  unfold pseudoPad
  by_cases hn : body.length = 0
  · simp [hn]
  · simp only [if_neg hn]
    exact length_padLoop md5 _ _ [] [] (Nat.zero_le _)

theorem pseudoPad_congr (md5 : Md5) {body body' : Bytes} (h : body.length = body'.length)
    (key : Bytes) (id : UInt32) (version seqNo : UInt8) :
    pseudoPad md5 body key id version seqNo = pseudoPad md5 body' key id version seqNo := by
  unfold pseudoPad
  rw [h]

/-! ## Applied twice -/

theorem zipWith_xor_cancel {b pad : Bytes} (h : b.length ≤ pad.length) :
    List.zipWith (· ^^^ ·) (List.zipWith (· ^^^ ·) b pad) pad = b := by
  induction b generalizing pad with
  | nil => rfl
  | cons x b ih =>
    cases pad with
    | nil => cases h
    | cons y pad =>
      rw [List.zipWith_cons_cons, List.zipWith_cons_cons, ih (Nat.le_of_succ_le_succ h)]
      rw [UInt8.xor_assoc, UInt8.xor_self, UInt8.xor_zero]

theorem length_xorPad (md5 : Md5) (body key : Bytes) (id : UInt32) (version seqNo : UInt8) :
    (xorPad md5 body key id version seqNo).length = body.length := by
  unfold xorPad
  rw [List.length_zipWith, length_pseudoPad, Nat.min_self]

/-- The pad undoes itself. -/
theorem xorPad_xorPad (md5 : Md5) (body key : Bytes) (id : UInt32) (version seqNo : UInt8) :
    xorPad md5 (xorPad md5 body key id version seqNo) key id version seqNo = body := by
  have hpad := pseudoPad_congr md5 (length_xorPad md5 body key id version seqNo) key id version
    seqNo
  rw [xorPad, hpad]
  apply zipWith_xor_cancel
  rw [length_pseudoPad]

/-! ## The loop writes the stream of digests -/

/-- What the digests of a pad are chained by. -/
def chain (md5 : Md5) (base prev : Bytes) : Bytes := md5.sum (base ++ prev)

theorem initial_padLoop (md5 : Md5) (base : Bytes) (n : Nat) (pad prev : Bytes) (m : Nat)
    (hpad : Keystream.Initial (chain md5 base) md5DigestSize pad)
    (hm : pad.length < n → pad.length = md5DigestSize * m ∧
      prev = Keystream.before (chain md5 base) m) :
    Keystream.Initial (chain md5 base) md5DigestSize (padLoop md5 base n pad prev) := by
  induction pad, prev using padLoop.induct md5 base n generalizing m with
  | case1 pad prev hlt digest remaining ih =>
    obtain ⟨hlen, hprev⟩ := hm hlt
    have hdigest : digest = Keystream.block (chain md5 base) m := by
      rw [Keystream.block_eq, ← hprev]
      rfl
    have hsize : digest.length = md5DigestSize := md5.length_sum (base ++ prev)
    have hr : remaining = min (n - pad.length) md5DigestSize := rfl
    rw [padLoop, if_pos hlt]
    refine ih (m + 1) ?_ ?_
    · rw [hdigest]
      exact hpad.append_take hlen (hr ▸ Nat.min_le_right _ _)
    · -- there is another round only after a whole block
      intro hmore
      refine ⟨?_, hdigest⟩
      rw [List.length_append, List.length_take] at hmore ⊢
      rw [Nat.mul_succ]
      omega
  | case2 pad prev hge =>
    rw [padLoop, if_neg hge]
    exact hpad

theorem initial_pseudoPad (md5 : Md5) (body key : Bytes) (id : UInt32) (version seqNo : UInt8) :
    Keystream.Initial (chain md5 (be32Bytes id ++ key ++ [version, seqNo])) md5DigestSize
      (pseudoPad md5 body key id version seqNo) := by
  unfold pseudoPad
  by_cases hn : body.length = 0
  · simp only [if_pos hn]
    exact Keystream.Initial.nil
  · simp only [if_neg hn]
    exact initial_padLoop md5 _ _ [] [] 0 Keystream.Initial.nil fun _ => ⟨rfl, rfl⟩

/-! ## The digests of the RFC -/

/-- `MD5_n`, counted from 1. -/
def rfcDigest (md5 : Md5) (key : Bytes) (id : UInt32) (version seqNo : UInt8) : Nat → Bytes
  | 0 => []
  | 1 => md5.sum (be32Bytes id ++ key ++ [version, seqNo])
  | n + 2 =>
      md5.sum (be32Bytes id ++ key ++ [version, seqNo] ++
        rfcDigest md5 key id version seqNo (n + 1))

theorem rfcDigest_eq_block (md5 : Md5) (key : Bytes) (id : UInt32) (version seqNo : UInt8)
    (m : Nat) :
    rfcDigest md5 key id version seqNo (m + 1)
      = Keystream.block (chain md5 (be32Bytes id ++ key ++ [version, seqNo])) m := by
  induction m with
  | zero =>
    rw [rfcDigest, Keystream.block, chain, List.append_nil]
  | succ m ih =>
    rw [rfcDigest, ih]
    rfl

theorem getElem?_pseudoPad (md5 : Md5) (body key : Bytes) (id : UInt32) (version seqNo : UInt8)
    {i : Nat} (hi : i < body.length) :
    (pseudoPad md5 body key id version seqNo)[i]?
      = (rfcDigest md5 key id version seqNo (i / 16 + 1))[i % 16]? := by
  rw [rfcDigest_eq_block]
  exact initial_pseudoPad md5 body key id version seqNo i (by rwa [length_pseudoPad])

theorem length_rfcDigest (md5 : Md5) (key : Bytes) (id : UInt32) (version seqNo : UInt8)
    (m : Nat) : (rfcDigest md5 key id version seqNo (m + 1)).length = 16 := by
  rw [rfcDigest_eq_block, Keystream.block_eq]
  exact md5.length_sum _

theorem getElem?_xorPad (md5 : Md5) (body key : Bytes) (id : UInt32) (version seqNo : UInt8)
    {i : Nat} (hi : i < body.length) :
    ∃ d, (rfcDigest md5 key id version seqNo (i / 16 + 1))[i % 16]? = some d ∧
      (xorPad md5 body key id version seqNo)[i]? = some (body[i] ^^^ d) := by
  have hlt : i % 16 < (rfcDigest md5 key id version seqNo (i / 16 + 1)).length := by
    rw [length_rfcDigest]
    exact Nat.mod_lt _ (by decide)
  refine ⟨_, List.getElem?_eq_getElem hlt, ?_⟩
  unfold xorPad
  rw [List.getElem?_zipWith, getElem?_pseudoPad md5 body key id version seqNo hi,
    List.getElem?_eq_getElem hi, List.getElem?_eq_getElem hlt]

/-! ## The four operations -/

theorem obfuscate_eq_xorPad (md5 : Md5) : obfuscate md5 = xorPad md5 := by
  funext body key id version seqNo
  unfold obfuscate
  by_cases hn : body.length = 0
  · rw [if_pos hn, List.length_eq_zero_iff.mp hn]
    rfl
  · rw [if_neg hn]

/-- `Obfuscate`, `Deobfuscate`, `ObfuscateInPlace` and `DeobfuscateInPlace`. -/
def operations (md5 : Md5) : List (Bytes → Bytes → UInt32 → UInt8 → UInt8 → Bytes) :=
  [obfuscate md5, deobfuscate md5, obfuscateInPlace md5, deobfuscateInPlace md5]

theorem eq_xorPad_of_mem_operations {md5 : Md5}
    {op : Bytes → Bytes → UInt32 → UInt8 → UInt8 → Bytes} (h : op ∈ operations md5) :
    op = xorPad md5 := by
  unfold operations at h
  simp only [List.mem_cons, List.not_mem_nil, or_false] at h
  rcases h with rfl | rfl | rfl | rfl
  · exact obfuscate_eq_xorPad md5
  · exact obfuscate_eq_xorPad md5
  · rfl
  · rfl

/-- **Obfuscation is the pad of RFC 8907.** Each of the four operations keeps the length, XORs
    byte `i` with byte `i % 16` of `MD5_(i / 16 + 1)`, and undoes each of the four; the pad of a
    shorter body is a prefix of the pad of a longer one. -/
theorem obfuscation_is_rfcPad (md5 : Md5) (body key : Bytes) (id : UInt32)
    (version seqNo : UInt8) :
    (∀ op ∈ operations md5,
      (op body key id version seqNo).length = body.length ∧
      (∀ i, (hi : i < body.length) →
        ∃ d, (rfcDigest md5 key id version seqNo (i / 16 + 1))[i % 16]? = some d ∧
          (op body key id version seqNo)[i]? = some (body[i] ^^^ d)) ∧
      ∀ op' ∈ operations md5, op' (op body key id version seqNo) key id version seqNo = body) ∧
    ∀ longer : Bytes, body.length ≤ longer.length →
      pseudoPad md5 body key id version seqNo <+: pseudoPad md5 longer key id version seqNo := by
  refine ⟨?_, ?_⟩
  · intro op hop
    rw [eq_xorPad_of_mem_operations hop]
    refine ⟨length_xorPad md5 body key id version seqNo, ?_, ?_⟩
    · intro i hi
      exact getElem?_xorPad md5 body key id version seqNo hi
    · intro op' hop'
      rw [eq_xorPad_of_mem_operations hop']
      exact xorPad_xorPad md5 body key id version seqNo
  · intro longer hle
    refine (initial_pseudoPad md5 body key id version seqNo).isPrefix
      (initial_pseudoPad md5 longer key id version seqNo) ?_
    rw [length_pseudoPad, length_pseudoPad]
    exact hle

end Pad
end Proof
end Tacacs
