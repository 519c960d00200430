import Mathlib.Data.List.Basic

/-!
# The last write

Messages under way to a register: `write m` is the value that a message writes, if it is one for this register.
Taken in their order, they leave the value of the last of them.

* `settled_append`: messages behind others.
* `settled_eraseIdx_of_none`, `settled_eraseIdx_of_first`: a message for another register is taken, or the first one
  for this register.
-/

namespace GokeWebcam.Lib

universe u v

variable {μ : Type u} {ν : Type v} {write : μ → Option ν} {pending sent : List μ} {current value : ν} {m : μ} {i : ℕ}

/-- What the register holds after all messages. -/
def settled (write : μ → Option ν) (pending : List μ) (current : ν) : ν :=
  (pending.filterMap write).getLast?.getD current

theorem settled_append : settled write (pending ++ sent) current = settled write sent (settled write pending current) := by
  unfold settled
  rw [List.filterMap_append, List.getLast?_append, Option.getD_or]

theorem settled_of_none (h : ∀ m ∈ pending, write m = none) : settled write pending current = current := by
  unfold settled
  rw [List.filterMap_eq_nil_iff.mpr h]
  rfl

theorem settled_singleton : settled write [m] current = (write m).getD current := by
  unfold settled
  rcases h : write m with _ | value
  · rw [List.filterMap_cons_none h]
    rfl
  · rw [List.filterMap_cons_some h]
    rfl

/-- The messages before a message, it, and those behind it. -/
theorem eq_append_of_getElem? (hm : pending[i]? = some m) :
    pending = pending.take i ++ m :: pending.drop (i + 1) ∧ pending.eraseIdx i = pending.take i ++ pending.drop (i + 1) := by
  obtain ⟨hlt, rfl⟩ := List.getElem?_eq_some_iff.mp hm
  refine ⟨?_, List.eraseIdx_eq_take_drop_succ _ _⟩
  rw [← List.drop_eq_getElem_cons hlt, List.take_append_drop]

/-- A message for another register changes nothing. -/
theorem settled_eraseIdx_of_none (hm : pending[i]? = some m) (h : write m = none) :
    settled write (pending.eraseIdx i) current = settled write pending current := by
  obtain ⟨hsplit, herase⟩ := eq_append_of_getElem? hm
  unfold settled
  rw [herase]
  conv_rhs => rw [hsplit]
  rw [List.filterMap_append, List.filterMap_append, List.filterMap_cons_none h]

/-- The first message for the register writes its value. -/
theorem settled_eraseIdx_of_first (hm : pending[i]? = some m) (h : write m = some value)
    (hfirst : ∀ j < i, ∀ other, pending[j]? = some other → write other = none) :
    settled write (pending.eraseIdx i) value = settled write pending current := by
  obtain ⟨hsplit, herase⟩ := eq_append_of_getElem? hm
  have hbefore : ∀ other ∈ pending.take i, write other = none := by
    intro other hother
    obtain ⟨j, hj⟩ := List.mem_iff_getElem?.mp hother
    rw [List.getElem?_take] at hj
    split_ifs at hj with hlt
    exact hfirst j hlt other hj
  rw [herase, settled_append, settled_of_none hbefore]
  conv_rhs => rw [hsplit, settled_append, settled_of_none hbefore, ← List.singleton_append, settled_append]
  rw [settled_singleton, h]
  rfl

end GokeWebcam.Lib
