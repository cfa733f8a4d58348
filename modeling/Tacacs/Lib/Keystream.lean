import Mathlib.Data.List.Basic

/-!
# A stream of symbols from a chain of blocks

Each block of the chain is made from the one before it, the first from nothing. Blocks of `k`
symbols make up a stream, and symbol `i` of the stream is symbol `i % k` of block `i / k`.

A loop that appends block after block and cuts the last one short holds an **initial** piece of
the stream at every turn. That is all there is to know of it: pieces of the same stream are
prefixes of each other.
-/

set_option autoImplicit false

namespace Keystream

variable {α : Type}

/-- Block `m`, counted from 0. -/
def block (f : List α → List α) : Nat → List α
  | 0 => f []
  | m + 1 => f (block f m)

/-- The block before block `m`, empty for the first. -/
def before (f : List α → List α) : Nat → List α
  | 0 => []
  | m + 1 => block f m

theorem block_eq (f : List α → List α) (m : Nat) : block f m = f (before f m) := by
  cases m with
  | zero => rfl
  | succ m => rfl

def symbol (f : List α → List α) (k i : Nat) : Option α := (block f (i / k))[i % k]?

/-- `s` is what the stream begins with. -/
def Initial (f : List α → List α) (k : Nat) (s : List α) : Prop :=
  ∀ i < s.length, s[i]? = symbol f k i

section Initial

variable {f : List α → List α} {k : Nat}

theorem Initial.nil : Initial f k [] := fun _ h => absurd h (Nat.not_lt_zero _)

/-- The next block, or the first symbols of it. -/
theorem Initial.append_take {s : List α} {m r : Nat} (h : Initial f k s)
    (hlen : s.length = k * m) (hr : r ≤ k) : Initial f k (s ++ (block f m).take r) := by
  intro i hi
  by_cases hs : i < s.length
  · rw [List.getElem?_append_left hs]
    exact h i hs
  · have hle : s.length ≤ i := Nat.le_of_not_lt hs
    have hlt : i - s.length < r := by
      rw [List.length_append, List.length_take] at hi
      omega
    -- `i` lies in block `m`
    obtain ⟨j, rfl⟩ : ∃ j, i = k * m + j := ⟨i - k * m, by omega⟩
    have hj : j < k := by omega
    have hk : 0 < k := by omega
    rw [List.getElem?_append_right hle, List.getElem?_take_of_lt hlt, symbol,
      Nat.mul_add_div hk, Nat.div_eq_of_lt hj, Nat.mul_add_mod, Nat.mod_eq_of_lt hj, hlen,
      Nat.add_sub_cancel_left, Nat.add_zero]

theorem Initial.isPrefix {s t : List α} (hs : Initial f k s) (ht : Initial f k t)
    (hle : s.length ≤ t.length) : s <+: t := by
  rw [List.prefix_iff_eq_take]
  apply List.ext_getElem?
  intro i
  by_cases hi : i < s.length
  · rw [List.getElem?_take_of_lt hi, hs i hi, ht i (Nat.lt_of_lt_of_le hi hle)]
  · rw [List.getElem?_eq_none (Nat.le_of_not_lt hi),
      List.getElem?_eq_none (by rw [List.length_take]; omega)]

end Initial

end Keystream
