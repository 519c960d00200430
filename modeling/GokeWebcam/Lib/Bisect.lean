import Mathlib

/-!
# Bisection of a sorted table

A table is a function of places `i : ℤ`; a search looks for a key between two places `low` and
`high`, both included, so that an empty window is one with `high < low`.

* `bisect`: the search with three ways out of a comparison.
* `bisect_found`: a place that is found holds the key. This needs no order in the table.
* `bisect_absent`: in a sorted table a key that is not found belongs before the place returned.
-/

namespace GokeWebcam.Lib

/-- What a search returns: the place of the key, or where the window ended. -/
inductive Bisection
  | found (mid : ℤ)
  | absent (low : ℤ)
  deriving DecidableEq, Repr

variable {α : Type*} [LinearOrder α] {f : ℤ → α} {key : α} {low high mid place : ℤ}

/-- The binary search for `key` among the places from `low` to `high`. -/
def bisect (f : ℤ → α) (key : α) (low high : ℤ) : Bisection :=
  if low ≤ high then
    let mid := (low + high) / 2
    if key < f mid then bisect f key low (mid - 1)
    else if f mid < key then bisect f key (mid + 1) high
    else .found mid
  else .absent low
termination_by (high + 1 - low).toNat

theorem bisect_found (h : bisect f key low high = .found mid) :
    low ≤ mid ∧ mid ≤ high ∧ f mid = key := by
  fun_induction bisect f key low high with
  | case1 low high hle m hlt ih =>
      obtain ⟨h₁, h₂, h₃⟩ := ih h
      exact ⟨h₁, by omega, h₃⟩
  | case2 low high hle m hge hlt ih =>
      obtain ⟨h₁, h₂, h₃⟩ := ih h
      exact ⟨by omega, h₂, h₃⟩
  | case3 low high hle m hge hle' =>
      obtain rfl : m = mid := Bisection.found.inj h
      exact ⟨by omega, by omega, le_antisymm (not_lt.mp hge) (not_lt.mp hle')⟩
  | case4 => cases h

/-- The window shrinks to the place before which the key belongs. -/
theorem bisect_absent (hsort : MonotoneOn f (Set.Icc low high)) (hwindow : low ≤ high + 1)
    (h : bisect f key low high = .absent place) :
    (low ≤ place ∧ place ≤ high + 1) ∧ (∀ i, low ≤ i → i < place → f i < key) ∧
      ∀ i, place ≤ i → i ≤ high → key < f i := by
  fun_induction bisect f key low high with
  | case1 low high hle m hlt ih =>
      -- the key is below the middle, so it is below everything from there on
      have hsub : Set.Icc low (m - 1) ⊆ Set.Icc low high :=
        Set.Icc_subset_Icc le_rfl (by omega)
      obtain ⟨⟨h₁, h₂⟩, hbelow, habove⟩ := ih (hsort.mono hsub) (by omega) h
      refine ⟨⟨h₁, by omega⟩, hbelow, fun i hi hih => ?_⟩
      by_cases him : i < m
      · exact habove i hi (by omega)
      · have hmi : f m ≤ f i := hsort ⟨by omega, by omega⟩ ⟨by omega, hih⟩ (by omega)
        exact hlt.trans_le hmi
  | case2 low high hle m hge hlt ih =>
      have hsub : Set.Icc (m + 1) high ⊆ Set.Icc low high :=
        Set.Icc_subset_Icc (by omega) le_rfl
      obtain ⟨⟨h₁, h₂⟩, hbelow, habove⟩ := ih (hsort.mono hsub) (by omega) h
      refine ⟨⟨by omega, h₂⟩, fun i hli hi => ?_, habove⟩
      by_cases hmi : m < i
      · exact hbelow i (by omega) hi
      · have him : f i ≤ f m := hsort ⟨hli, by omega⟩ ⟨by omega, by omega⟩ (by omega)
        exact him.trans_lt hlt
  | case3 => cases h
  | case4 low high hempty =>
      cases h
      exact ⟨⟨le_rfl, hwindow⟩, fun i hli hi => absurd hi (by omega), fun i hi hih => by omega⟩

end GokeWebcam.Lib
