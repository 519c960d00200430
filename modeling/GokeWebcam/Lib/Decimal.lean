import GokeWebcam.Lib.CString

/-!
# Decimal numbers in a text

`strtod` of the C library on a text of digits, signs, points and exponents. The value is rounded to 53 binary
digits, halves to the even neighbour; the range of the exponent of a `double` is not cut.

* `roundBinary_intCast`: an integer with no more digits than there are is not changed.
* `strtod_suffix`: what is left is the end of the text.
* `strtod_showInt`: the digits of an integer are read back.
-/

namespace GokeWebcam.Lib

/-! ### Rounding -/

/-- The nearest integer, of two the even one. -/
def roundHalfEven (q : ℚ) : ℤ :=
  if q - q.floor < 1 / 2 then q.floor
  else if 1 / 2 < q - q.floor then q.floor + 1
  else if q.floor % 2 = 0 then q.floor
  else q.floor + 1

/-- The nearest number with `p` binary digits. -/
def roundBinary (p : ℕ) (q : ℚ) : ℚ :=
  if q = 0 then 0
  else roundHalfEven (q / 2 ^ (Int.log 2 |q| + 1 - p)) * 2 ^ (Int.log 2 |q| + 1 - p)

variable {p : ℕ} {v : ℤ} {n : ℕ} {s : List Char}

theorem roundHalfEven_intCast : roundHalfEven v = v := by
  have hfloor : (v : ℚ).floor = v := Rat.floor_intCast v
  rw [roundHalfEven, hfloor, sub_self, if_pos (by norm_num)]

theorem roundBinary_intCast (hv : |v| < 2 ^ p) : roundBinary p v = v := by
  rw [roundBinary]
  split_ifs with hzero
  · exact hzero.symm
  · have habs : (0 : ℚ) < |(v : ℚ)| := abs_pos.mpr hzero
    have hlt : |(v : ℚ)| < (2 : ℚ) ^ (p : ℤ) := by
      rw [zpow_natCast]
      exact_mod_cast hv
    have hlog : Int.log 2 |(v : ℚ)| < p := (Int.lt_zpow_iff_log_lt (by decide) habs).mp (by exact_mod_cast hlt)
    obtain ⟨k, hk⟩ := Int.eq_ofNat_of_zero_le (show 0 ≤ (p : ℤ) - (Int.log 2 |(v : ℚ)| + 1) by omega)
    have hunit : Int.log 2 |(v : ℚ)| + 1 - p = -(k : ℤ) := by
      omega
    have hquot : (v : ℚ) / 2 ^ (-(k : ℤ)) = ((v * 2 ^ k : ℤ) : ℚ) := by
      rw [zpow_neg, zpow_natCast, div_inv_eq_mul]
      push_cast
      rfl
    rw [hunit, hquot, roundHalfEven_intCast, ← hquot, div_mul_cancel₀]
    positivity

/-! ### Reading -/

/-- A sign in front, and whether it is a minus. -/
def takeSign : List Char → Bool × List Char
  | '-' :: s => (true, s)
  | '+' :: s => (false, s)
  | s => (false, s)

/-- The digits behind a point. -/
def takeFraction : List Char → List Char × List Char
  | '.' :: s => (s.takeWhile Char.isDigit, s.dropWhile Char.isDigit)
  | s => ([], s)

/-- An exponent counts only with a digit in it. -/
def takeExponent (s : List Char) : ℤ × List Char :=
  match s with
  | [] => (0, [])
  | c :: later =>
    let sign := takeSign later
    let digits := sign.2.takeWhile Char.isDigit
    if (c = 'e' ∨ c = 'E') ∧ digits ≠ [] then
      (if sign.1 then -Nat.ofDigitChars 10 digits 0 else Nat.ofDigitChars 10 digits 0,
        sign.2.dropWhile Char.isDigit)
    else (0, c :: later)

/-- The number and what stands behind it. -/
def strtod (s : List Char) : Option (ℚ × List Char) :=
  let sign := takeSign s
  let whole := sign.2.takeWhile Char.isDigit
  let fraction := takeFraction (sign.2.dropWhile Char.isDigit)
  if whole ++ fraction.1 = [] then none
  else
    let exponent := takeExponent fraction.2
    let size : ℚ := Nat.ofDigitChars 10 (whole ++ fraction.1) 0 * 10 ^ (exponent.1 - fraction.1.length)
    some (roundBinary 53 (if sign.1 then -size else size), exponent.2)

theorem takeSign_suffix : (takeSign s).2 <:+ s := by
  rw [takeSign.eq_def]
  split
  · exact List.suffix_cons _ _
  · exact List.suffix_cons _ _
  · exact List.suffix_rfl

theorem takeFraction_suffix : (takeFraction s).2 <:+ s := by
  rw [takeFraction.eq_def]
  split
  · exact (List.dropWhile_suffix _).trans (List.suffix_cons _ _)
  · exact List.suffix_rfl

theorem takeExponent_suffix : (takeExponent s).2 <:+ s := by
  rw [takeExponent.eq_def]
  split
  · exact List.suffix_rfl
  · next c later =>
    have hbehind : (takeSign later).2.dropWhile Char.isDigit <:+ c :: later :=
      ((List.dropWhile_suffix _).trans takeSign_suffix).trans (List.suffix_cons _ _)
    dsimp only
    split_ifs
    · exact hbehind
    · exact hbehind
    · exact List.suffix_rfl

theorem strtod_suffix {q : ℚ} {left : List Char} (h : strtod s = some (q, left)) : left <:+ s := by
  rw [strtod] at h
  dsimp only at h
  split_ifs at h
  all_goals
    cases h
    exact ((takeExponent_suffix.trans takeFraction_suffix).trans (List.dropWhile_suffix _)).trans
      takeSign_suffix

theorem takeSign_of_digit (h : ∀ c ∈ s, c.isDigit = true) : takeSign s = (false, s) := by
  rw [takeSign.eq_def]
  split
  · exact absurd (h '-' List.mem_cons_self) (by decide)
  · exact absurd (h '+' List.mem_cons_self) (by decide)
  · rfl

theorem strtod_digits (hne : s ≠ []) (h : ∀ c ∈ s, c.isDigit = true) (sign : List Char) (negative : Bool)
    (hsign : takeSign (sign ++ s) = (negative, s)) :
    strtod (sign ++ s) = some (roundBinary 53 (if negative then -(Nat.ofDigitChars 10 s 0 : ℚ)
      else Nat.ofDigitChars 10 s 0), []) := by
  have htake : s.takeWhile Char.isDigit = s := List.takeWhile_eq_self_iff.mpr h
  have hdrop : s.dropWhile Char.isDigit = [] := List.dropWhile_eq_nil_iff.mpr h
  simp [strtod, hsign, htake, hdrop, takeFraction, takeExponent, hne]

/-- The digits of an integer that a `double` holds give the integer. -/
theorem strtod_showInt (hv : |v| < 2 ^ 53) : strtod (showInt v) = some ((v : ℚ), []) := by
  have hvalue : ∀ n : ℕ, Nat.ofDigitChars 10 (showNat n) 0 = n := fun n => Nat.ofDigitChars_ten_toDigits
  rw [showInt]
  split_ifs with hneg
  · have hread := strtod_digits (s := showNat (-v).toNat) Nat.toDigits_ne_nil
      (fun c => isDigit_of_mem_showNat) ['-'] true rfl
    have hcast : (-((-v).toNat : ℚ)) = v := by
      have hnat : (((-v).toNat : ℤ) : ℚ) = ((-v : ℤ) : ℚ) := by rw [Int.toNat_of_nonneg (by omega)]
      rw [← Int.cast_natCast, hnat, Int.cast_neg, neg_neg]
    rw [← List.singleton_append, hread, hvalue, if_pos rfl, hcast, roundBinary_intCast hv]
  · have hread := strtod_digits (s := showNat v.toNat) Nat.toDigits_ne_nil
      (fun c => isDigit_of_mem_showNat) [] false (takeSign_of_digit fun c => isDigit_of_mem_showNat)
    have hcast : ((v.toNat : ℚ)) = v := by
      rw [← Int.cast_natCast, Int.toNat_of_nonneg (by omega)]
    rw [← List.nil_append (showNat v.toNat), hread, hvalue, if_neg (by simp), hcast, roundBinary_intCast hv]

end GokeWebcam.Lib
