import Mathlib

/-!
# Bit helpers on `int` words

`common/misc.c` keeps sets of servers, threads and conditions as bits of an `int`. An `int` is a
`BitVec 32`; a bit number below 32 is a `ℕ` (a shift by 32 or more is undefined in C and does not
occur in the callers).

The lemmas reduce the helpers to `BitVec.getLsbD`, so that a set kept in a word is reasoned about
bit by bit.
-/

namespace GokeWebcam.Common

/-- A C `int`. -/
abbrev CInt := BitVec 32

/-- What is decided to be false has every consequence. -/
theorem refuted {p q : Prop} [Decidable p] (h : decide p = false) (hp : p) : q :=
  absurd hp (of_decide_eq_false h)

/-- `(a >> bit) & 0x01`.
Source: `common/misc.c` `misc_get_bit` -/
def miscGetBit (a : CInt) (bit : ℕ) : CInt := a.sshiftRight bit &&& 1#32

/-- Clear the bit, then set it.
Source: `common/misc.c` `misc_set_bit` -/
def miscSetBit (a : CInt) (bit : ℕ) : CInt := (a &&& ~~~(1#32 <<< bit)) ||| (1#32 <<< bit)

/-- Source: `common/misc.c` `misc_clear_bit` -/
def miscClearBit (a : CInt) (bit : ℕ) : CInt := a &&& ~~~(1#32 <<< bit)

/-- Whether `a` is exactly the word of the `num` lowest bits.
Source: `common/misc.c` `misc_full_bit` -/
def miscFullBit (a : CInt) (num : ℕ) : Bool := a == (1#32 <<< num) - 1#32

variable {a b : CInt} {i j : ℕ}

/-- `1 << i` has exactly the bit `i`. -/
theorem getLsbD_one_shiftLeft (hj : j < 32) : (1#32 <<< i).getLsbD j = decide (i = j) := by
  rw [BitVec.getLsbD_shiftLeft, BitVec.getLsbD_one]
  by_cases h : i = j
  · subst h
    simp [hj]
  · by_cases hlt : j < i
    · simp [h, hlt]
    · have : ¬ j - i = 0 := by omega
      simp [h, this]

/-- Bit 0 of the result is the bit asked for, and there is no other. -/
theorem getLsbD_miscGetBit (hi : i < 32) :
    (miscGetBit a i).getLsbD j = (decide (j = 0) && a.getLsbD i) := by
  rw [miscGetBit, BitVec.getLsbD_and, BitVec.getLsbD_sshiftRight, BitVec.getLsbD_one]
  by_cases h : j = 0
  · subst h
    simp [hi]
  · simp [h]

/-- The result of `misc_get_bit` is the bit as an `int`. -/
theorem miscGetBit_eq (hi : i < 32) : miscGetBit a i = if a.getLsbD i then 1#32 else 0#32 := by
  apply BitVec.eq_of_getLsbD_eq
  intro k _
  rw [getLsbD_miscGetBit hi]
  split_ifs with h
  · rw [h, Bool.and_true, BitVec.getLsbD_one]
    simp
  · simp [h]

theorem miscGetBit_eq_zero (hi : i < 32) : miscGetBit a i = 0#32 ↔ a.getLsbD i = false := by
  rw [miscGetBit_eq hi]
  split_ifs with h <;> simp [h]

theorem miscGetBit_ne_zero (hi : i < 32) : miscGetBit a i ≠ 0#32 ↔ a.getLsbD i = true := by
  rw [ne_eq, miscGetBit_eq_zero hi, Bool.not_eq_false]

@[simp] theorem getLsbD_miscSetBit (hj : j < 32) :
    (miscSetBit a i).getLsbD j = (decide (i = j) || a.getLsbD j) := by
  unfold miscSetBit
  simp only [BitVec.getLsbD_or, BitVec.getLsbD_and, BitVec.getLsbD_not, getLsbD_one_shiftLeft hj, hj]
  by_cases h : i = j <;> simp [h]

@[simp] theorem getLsbD_miscClearBit (hj : j < 32) :
    (miscClearBit a i).getLsbD j = (a.getLsbD j && !decide (i = j)) := by
  unfold miscClearBit
  simp only [BitVec.getLsbD_and, BitVec.getLsbD_not, getLsbD_one_shiftLeft hj, hj]
  simp

/-- The bit is clear afterwards. -/
theorem getLsbD_miscClearBit_self : (miscClearBit a i).getLsbD i = false := by
  by_cases hi : i < 32
  · simp [getLsbD_miscClearBit hi]
  · exact BitVec.getLsbD_of_ge _ _ (by omega)

/-- Clearing a bit never sets one. -/
theorem getLsbD_of_miscClearBit (h : (miscClearBit a i).getLsbD j = true) : a.getLsbD j = true := by
  rw [miscClearBit, BitVec.getLsbD_and, Bool.and_eq_true] at h
  exact h.1

/-- Words that agree on all bits are equal. -/
theorem eq_of_getLsbD (h : ∀ i, i < 32 → a.getLsbD i = b.getLsbD i) : a = b :=
  BitVec.eq_of_getLsbD_eq fun i hi => h i hi

/-- A positive power of two as an `int` is the same number as a word. -/
theorem toNat_of_toInt_eq_two_pow {k : ℕ} (h : a.toInt = 2 ^ k) :
    a.toNat = 2 ^ k ∧ 2 ^ k < 2 ^ 31 := by
  have hcast : ((2 ^ k : ℕ) : Int) = 2 ^ k := by simp
  have hcond := BitVec.toInt_eq_toNat_cond a
  have hpos : 0 < 2 ^ k := Nat.two_pow_pos k
  split at hcond
  · exact ⟨by omega, by omega⟩
  · omega

end GokeWebcam.Common
