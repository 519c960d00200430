import Mathlib

/-!
# A table of slots in a memory

An array of `n` slots as code with integer indices sees it: the memory is a function on all
integers, the indices `0, …, n - 1` are the table, and a write through any other index lands
outside it.

* `firstSlot`: the search loop that returns the first slot it accepts, or `-1`.
* `takeSlot`: the slot that is in use for a key already, or the first free one, filled for it.
* `modifySlot`: a write to the slot a search has found.
* `AtMostOne`: no two valid slots of the table have the same key.
* `AtMostOne.mono`, `AtMostOne.update`: emptying slots keeps this, and so does filling one for a key
  that no other valid slot has.
-/

namespace GokeWebcam.Lib

universe u v

variable {σ : Type u} {κ : Type v}

/-- The index is one of the table's. -/
def InTable (n : ℕ) (i : ℤ) : Prop := 0 ≤ i ∧ i < n

instance {n : ℕ} {i : ℤ} : Decidable (InTable n i) := inferInstanceAs (Decidable (_ ∧ _))

theorem inTable_iff {n : ℕ} {i : ℤ} : InTable n i ↔ ∃ k : ℕ, k < n ∧ (k : ℤ) = i := by
  constructor
  · rintro ⟨h0, hn⟩
    exact ⟨i.toNat, by omega, Int.toNat_of_nonneg h0⟩
  · rintro ⟨k, hk, rfl⟩
    exact ⟨by omega, by exact_mod_cast hk⟩

theorem forall_inTable {n : ℕ} {P : ℤ → Prop} :
    (∀ i, InTable n i → P i) ↔ ∀ k : ℕ, k < n → P k := by
  constructor
  · intro h k hk
    exact h k (inTable_iff.mpr ⟨k, hk, rfl⟩)
  · intro h i hi
    obtain ⟨k, hk, rfl⟩ := inTable_iff.mp hi
    exact h k hk

/-- What holds of all slots of a table can be checked. -/
instance {n : ℕ} {P : ℤ → Prop} [DecidablePred P] : Decidable (∀ i, InTable n i → P i) :=
  decidable_of_iff _ forall_inTable.symm

/-! ### The search -/

/-- The first slot that is accepted, or `-1`. -/
def firstSlot (n : ℕ) (p : σ → Bool) (t : ℤ → σ) : ℤ :=
  match (List.range n).find? fun i : ℕ => p (t i) with
  | some i => i
  | none => -1

variable {n : ℕ} {p : σ → Bool} {t t' : ℤ → σ} {i : ℤ}

/-- The search finds the first accepted slot of the table, or there is none. -/
theorem firstSlot_cases (n : ℕ) (p : σ → Bool) (t : ℤ → σ) :
    (InTable n (firstSlot n p t) ∧ p (t (firstSlot n p t)) = true ∧
        ∀ j, InTable n j → j < firstSlot n p t → p (t j) = false) ∨
      (firstSlot n p t = -1 ∧ ∀ i, InTable n i → p (t i) = false) := by
  unfold firstSlot
  rcases hfind : (List.range n).find? fun i : ℕ => p (t i) with _ | k
  · refine .inr ⟨rfl, forall_inTable.mpr fun k hk => ?_⟩
    have hnot := List.find?_eq_none.mp hfind k (List.mem_range.mpr hk)
    simpa using hnot
  · obtain ⟨haccepted, hmem, hfirst⟩ := List.find?_range_eq_some.mp hfind
    refine .inl ⟨inTable_iff.mpr ⟨k, List.mem_range.mp hmem, rfl⟩, haccepted, ?_⟩
    intro j hj hlt
    obtain ⟨m, -, rfl⟩ := inTable_iff.mp hj
    have hlt : (m : ℤ) < k := hlt
    simpa using hfirst m (by omega)

/-- An accepted slot with none before it is the one that is found. -/
theorem firstSlot_eq {j : ℤ} (hj : InTable n j) (hp : p (t j) = true)
    (hfirst : ∀ k, InTable n k → k < j → p (t k) = false) : firstSlot n p t = j := by
  rcases firstSlot_cases n p t with ⟨hin, hp', hfirst'⟩ | ⟨-, hall⟩
  · apply le_antisymm
    · by_contra hlt
      rw [hfirst' j hj (by omega)] at hp
      cases hp
    · by_contra hlt
      rw [hfirst _ hin (by omega)] at hp'
      cases hp'
  · rw [hall j hj] at hp
    cases hp

theorem not_inTable_neg_one : ¬ InTable n (-1) := by
  intro h
  exact absurd h.1 (by decide)

theorem firstSlot_ne_iff : firstSlot n p t ≠ -1 ↔ ∃ i, InTable n i ∧ p (t i) = true := by
  rcases firstSlot_cases n p t with ⟨hin, hp, -⟩ | ⟨hnone, hall⟩
  · constructor
    · intro _
      exact ⟨_, hin, hp⟩
    · intro _ heq
      rw [heq] at hin
      exact not_inTable_neg_one hin
  · constructor
    · intro hne
      exact absurd hnone hne
    · rintro ⟨i, hi, hp⟩
      rw [hall i hi] at hp
      cases hp

theorem firstSlot_inTable (h : firstSlot n p t ≠ -1) : InTable n (firstSlot n p t) := by
  rcases firstSlot_cases n p t with ⟨hin, -⟩ | ⟨hnone, -⟩
  · exact hin
  · exact absurd hnone h

/-! ### Writes -/

/-- The slot that is in use already, or the first free one after it was filled, with its index; `-1`
if there is neither. -/
def takeSlot (n : ℕ) (old free : σ → Bool) (fill : σ → σ) (t : ℤ → σ) : (ℤ → σ) × ℤ :=
  let i := firstSlot n old t
  if i ≠ -1 then (t, i)
  else
    let i := firstSlot n free t
    if i ≠ -1 then (Function.update t i (fill (t i)), i) else (t, -1)

/-- A write to the slot a search has returned. -/
def modifySlot (i : ℤ) (f : σ → σ) (t : ℤ → σ) : ℤ → σ :=
  if i ≠ -1 then Function.update t i (f (t i)) else t

/-- The slots outside the table are the same. -/
def SameOutside (n : ℕ) (t t' : ℤ → σ) : Prop := ∀ i, ¬ InTable n i → t' i = t i

/-- A slot is found that is in use already, or none is and a free one is filled, or all are taken. -/
theorem takeSlot_cases (n : ℕ) (old free : σ → Bool) (fill : σ → σ) (t : ℤ → σ) :
    (∃ i, InTable n i ∧ old (t i) = true ∧ takeSlot n old free fill t = (t, i)) ∨
      ((∀ i, InTable n i → old (t i) = false) ∧
        ((∃ i, InTable n i ∧ free (t i) = true ∧
            (∀ j, InTable n j → j < i → free (t j) = false) ∧
            takeSlot n old free fill t = (Function.update t i (fill (t i)), i)) ∨
          ((∀ i, InTable n i → free (t i) = false) ∧ takeSlot n old free fill t = (t, -1)))) := by
  unfold takeSlot
  obtain ⟨hin, hold, -⟩ | ⟨hnone, hall⟩ := firstSlot_cases n old t
  · have hne : firstSlot n old t ≠ -1 := firstSlot_ne_iff.mpr ⟨_, hin, hold⟩
    exact .inl ⟨_, hin, hold, if_pos hne⟩
  · refine .inr ⟨hall, ?_⟩
    rw [if_neg (not_not.mpr hnone)]
    obtain ⟨hin, hfree, hfirst⟩ | ⟨hfull, hnot⟩ := firstSlot_cases n free t
    · have hne : firstSlot n free t ≠ -1 := firstSlot_ne_iff.mpr ⟨_, hin, hfree⟩
      exact .inl ⟨_, hin, hfree, hfirst, if_pos hne⟩
    · exact .inr ⟨hnot, if_neg (not_not.mpr hfull)⟩

theorem SameOutside.refl : SameOutside n t t := by
  intro _ _
  rfl

theorem sameOutside_update {s : σ} (hi : InTable n i) : SameOutside n t (Function.update t i s) := by
  intro j hj
  apply Function.update_of_ne
  intro hji
  exact hj (hji ▸ hi)

theorem sameOutside_modifySlot {f : σ → σ} (h : i ≠ -1 → InTable n i) :
    SameOutside n t (modifySlot i f t) := by
  unfold modifySlot
  split_ifs with hi
  · exact sameOutside_update (h hi)
  · exact SameOutside.refl

/-! ### One valid slot for each key -/

/-- No two valid slots of the table have the same key. -/
def AtMostOne (n : ℕ) (valid : σ → Prop) (key : σ → κ) (t : ℤ → σ) : Prop :=
  ∀ i j, InTable n i → InTable n j → valid (t i) → valid (t j) → key (t i) = key (t j) → i = j

variable {valid : σ → Prop} {key : σ → κ}

/-- Slots may become invalid. -/
theorem AtMostOne.mono (h : AtMostOne n valid key t)
    (hsub : ∀ i, InTable n i → valid (t' i) → valid (t i) ∧ key (t' i) = key (t i)) :
    AtMostOne n valid key t' := by
  intro i j hi hj hvi hvj hkey
  obtain ⟨hvi, hki⟩ := hsub i hi hvi
  obtain ⟨hvj, hkj⟩ := hsub j hj hvj
  exact h i j hi hj hvi hvj (hki ▸ hkj ▸ hkey)

/-- One slot may be filled for a key that no other valid slot has. -/
theorem AtMostOne.update {s : σ} (h : AtMostOne n valid key t)
    (hnew : valid s → ∀ j, InTable n j → j ≠ i → valid (t j) → key (t j) ≠ key s) :
    AtMostOne n valid key (Function.update t i s) := by
  intro a b ha hb hva hvb hkey
  by_cases hai : a = i
  · by_cases hbi : b = i
    · rw [hai, hbi]
    · rw [hai, Function.update_self] at hva hkey
      rw [Function.update_of_ne hbi] at hvb hkey
      exact absurd hkey.symm (hnew hva b hb hbi hvb)
  · rw [Function.update_of_ne hai] at hva hkey
    by_cases hbi : b = i
    · rw [hbi, Function.update_self] at hvb hkey
      exact absurd hkey (hnew hvb a ha hai hva)
    · rw [Function.update_of_ne hbi] at hvb hkey
      exact h a b ha hb hva hvb hkey

/-- One slot may become invalid or keep its key. -/
theorem AtMostOne.update_of_imp {s : σ} (h : AtMostOne n valid key t)
    (hsub : valid s → valid (t i) ∧ key s = key (t i)) :
    AtMostOne n valid key (Function.update t i s) := by
  refine h.mono fun j _ hvj => ?_
  by_cases hji : j = i
  · rw [hji, Function.update_self] at hvj ⊢
    exact hsub hvj
  · rw [Function.update_of_ne hji] at hvj ⊢
    exact ⟨hvj, rfl⟩

theorem AtMostOne.modifySlot {f : σ → σ} (h : AtMostOne n valid key t)
    (hsub : ∀ s, valid (f s) → valid s ∧ key (f s) = key s) :
    AtMostOne n valid key (modifySlot i f t) := by
  unfold Lib.modifySlot
  split_ifs
  · exact h.update_of_imp (hsub _)
  · exact h

end GokeWebcam.Lib
