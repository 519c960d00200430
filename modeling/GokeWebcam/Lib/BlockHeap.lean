import GokeWebcam.Lib.ByteMemory

/-!
# Blocks

A heap is a set of blocks, each under its address. An allocation takes an address that was not used
before; the free of an address that holds no block, and a read behind the end of a block, have no result.

* `Heap.add`, `Heap.free`, `Heap.read`: the operations.
* `blocks_add`, `blocks_free`: an operation leaves the other blocks alone.
-/

namespace GokeWebcam.Lib

/-- From `next` on no address is used. -/
structure Heap where
  blocks : ℕ → Option (List Byte)
  next : ℕ
  fresh : ∀ a, next ≤ a → blocks a = none

namespace Heap

variable {h h' : Heap} {a b n : ℕ} {block : List Byte}

theorem fresh_add (h : Heap) (block : List Byte) (a : ℕ) (ha : h.next + 1 ≤ a) :
    Function.update h.blocks h.next (some block) a = none := by
  rw [Function.update_of_ne (by omega)]
  exact h.fresh a (by omega)

theorem fresh_free (h : Heap) (a b : ℕ) (hb : h.next ≤ b) : Function.update h.blocks a none b = none := by
  rw [Function.update_apply, h.fresh b hb]
  simp

/-- The heap with one more block, which stands at `h.next`. -/
def add (h : Heap) (block : List Byte) : Heap where
  blocks := Function.update h.blocks h.next (some block)
  next := h.next + 1
  fresh := h.fresh_add block

/-- The heap without the block at the address. -/
def free (h : Heap) (a : ℕ) : Option Heap :=
  if (h.blocks a).isSome then
    some { blocks := Function.update h.blocks a none, next := h.next, fresh := h.fresh_free a }
  else none

/-- The first `n` bytes of the block at the address. -/
def read (h : Heap) (a n : ℕ) : Option (List Byte) :=
  (h.blocks a).bind fun block => if n ≤ block.length then some (block.take n) else none

theorem lt_next (hread : (h.blocks a).isSome) : a < h.next := by
  by_contra hle
  rw [h.fresh a (by omega)] at hread
  simp at hread

theorem blocks_of_read (hread : h.read a n = some block) : (h.blocks a).isSome := by
  rw [read, Option.bind_eq_some_iff] at hread
  obtain ⟨stored, hstored, -⟩ := hread
  simp [hstored]

@[simp] theorem blocks_add_next : (h.add block).blocks h.next = some block := by simp [add]

theorem blocks_add (ha : a ≠ h.next) : (h.add block).blocks a = h.blocks a := by
  simp [add, Function.update_of_ne ha]

theorem exists_free (ha : (h.blocks a).isSome) : ∃ h', h.free a = some h' := by
  rw [free, if_pos ha]
  exact ⟨_, rfl⟩

theorem blocks_free (hfree : h.free a = some h') : h'.blocks = Function.update h.blocks a none := by
  rw [free] at hfree
  split_ifs at hfree
  cases hfree
  rfl

theorem next_free (hfree : h.free a = some h') : h'.next = h.next := by
  rw [free] at hfree
  split_ifs at hfree
  cases hfree
  rfl

end Heap

end GokeWebcam.Lib
