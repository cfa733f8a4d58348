/-!
# Typed heaps

A heap of cells of one type, addressed by references. Cells from `next` on are not allocated
yet; `alloc` takes the first of them. A reference that is allocated keeps its cell when others
are allocated, and a write is seen through every copy of the reference written to.
-/

set_option autoImplicit false

namespace Mem

/-- A pointer that is not nil. -/
structure Ref (α : Type) where
  addr : Nat
deriving DecidableEq, Repr

structure Heap (α : Type) where
  cell : Nat → α
  next : Nat

namespace Heap

variable {α : Type} (h : Heap α)

def read (p : Ref α) : α := h.cell p.addr

/-- The reference is allocated. -/
def has (p : Ref α) : Prop := p.addr < h.next

/-- `&v` for a new variable `v`. -/
def alloc (v : α) : Ref α × Heap α :=
  (⟨h.next⟩, { cell := fun n => if n = h.next then v else h.cell n, next := h.next + 1 })

/-- `*p = v`. -/
def write (p : Ref α) (v : α) : Heap α :=
  { h with cell := fun n => if n = p.addr then v else h.cell n }

/-- A heap with these cells allocated. -/
def ofList [Inhabited α] (l : List α) : Heap α :=
  { cell := fun n => l.getD n default, next := l.length }

variable {h}

@[simp] theorem read_alloc_new (v : α) : (h.alloc v).2.read (h.alloc v).1 = v := if_pos rfl

theorem has_alloc_new (v : α) : (h.alloc v).2.has (h.alloc v).1 := Nat.lt_succ_self h.next

theorem read_alloc_old {p : Ref α} (hp : h.has p) (v : α) : (h.alloc v).2.read p = h.read p :=
  if_neg (Nat.ne_of_lt hp)

theorem has_alloc_old {p : Ref α} (hp : h.has p) (v : α) : (h.alloc v).2.has p :=
  Nat.lt_succ_of_lt hp

@[simp] theorem read_write_self (p : Ref α) (v : α) : (h.write p v).read p = v := if_pos rfl

theorem read_write_ne {p q : Ref α} (hq : q ≠ p) (v : α) : (h.write p v).read q = h.read q := by
  refine if_neg fun heq => hq ?_
  cases p
  cases q
  exact congrArg Ref.mk heq

@[simp] theorem has_write {p q : Ref α} {v : α} : (h.write p v).has q ↔ h.has q := Iff.rfl

end Heap

end Mem
