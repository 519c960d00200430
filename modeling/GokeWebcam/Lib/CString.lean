import Mathlib

/-!
# Strings of the C library

A string is the list of its characters before the terminating zero. The functions are `strstr`,
`strtoll` to the base 10 and the `%lld` and `%0kd` of `printf`; a value that `long long` does not hold is not
cut, so `strtoll` is for strings of at most eighteen characters. `strncmp` looks at memory, a
character for each place, and may look past a given length.

* `strstr_isSome_iff`: a string is found iff it is an infix.
* `strtoll_showNat`, `strtoll_showPadded`: the digits of a number are read back.
* `strncmp_terminated_iff`: the first bytes of a memory against a string.
-/

namespace GokeWebcam.Lib

variable {s t p sub : List Char} {c : Char} {n k : ℕ}

/-- The part of `s` from the first place where `sub` stands. -/
def strstr : List Char → List Char → Option (List Char)
  | [], sub => if sub.isPrefixOf [] then some [] else none
  | c :: s, sub => if sub.isPrefixOf (c :: s) then some (c :: s) else strstr s sub

/-- Whether `sub` stands in `s`. -/
def occurs (s sub : List Char) : Bool := (strstr s sub).isSome

theorem strstr_of_prefix (h : sub <+: s) : strstr s sub = some s := by
  have hprefix : sub.isPrefixOf s = true := List.isPrefixOf_iff_prefix.mpr h
  rcases s with _ | ⟨c, s⟩
  · rw [strstr, if_pos hprefix]
  · rw [strstr, if_pos hprefix]

/-- What is found is an end of the string and begins with what was looked for. -/
theorem prefix_of_strstr (h : strstr s sub = some p) : sub <+: p ∧ p <:+ s := by
  induction s with
  | nil =>
      rw [strstr] at h
      split_ifs at h with hprefix
      cases h
      exact ⟨List.isPrefixOf_iff_prefix.mp hprefix, List.suffix_rfl⟩
  | cons c s ih =>
      rw [strstr] at h
      split_ifs at h with hprefix
      · cases h
        exact ⟨List.isPrefixOf_iff_prefix.mp hprefix, List.suffix_rfl⟩
      · obtain ⟨h₁, h₂⟩ := ih h
        exact ⟨h₁, h₂.trans (List.suffix_cons c s)⟩

theorem strstr_isSome_iff : occurs s sub = true ↔ sub <:+: s := by
  rw [occurs]
  constructor
  · intro h
    obtain ⟨p, hp⟩ := Option.isSome_iff_exists.mp h
    obtain ⟨hfront, hsuffix⟩ := prefix_of_strstr hp
    exact hfront.isInfix.trans hsuffix.isInfix
  · intro h
    induction s with
    | nil =>
        rw [List.infix_nil] at h
        subst h
        rfl
    | cons c s ih =>
        rw [strstr]
        split_ifs with hprefix
        · rfl
        · rcases List.infix_cons_iff.mp h with hfront | hlater
          · exact absurd (List.isPrefixOf_iff_prefix.mpr hfront) hprefix
          · exact ih hlater

/-! ### Numbers -/

/-- Source: `isspace` in the C locale -/
def isSpace (c : Char) : Bool :=
  c = ' ' || c = '\t' || c = '\n' || c = '\r' || c = '\x0b' || c = '\x0c'

/-- The number that the digits at the front of a string make. -/
def leadingDigits (s : List Char) : ℕ := Nat.ofDigitChars 10 (s.takeWhile Char.isDigit) 0

/-- Blanks and a sign, then digits. -/
def strtoll (s : List Char) : ℤ :=
  match s.dropWhile isSpace with
  | '-' :: t => -leadingDigits t
  | '+' :: t => leadingDigits t
  | t => leadingDigits t

/-- `%lld` of a value that is not negative. -/
def showNat (n : ℕ) : List Char := Nat.toDigits 10 n

/-- `%lld`. -/
def showInt (v : ℤ) : List Char := if v < 0 then '-' :: showNat (-v).toNat else showNat v.toNat

/-- `%0kd`. -/
def showPadded (k : ℕ) (v : ℤ) : List Char :=
  if v < 0 then '-' :: (showNat (-v).toNat).leftpad (k - 1) '0' else (showNat v.toNat).leftpad k '0'

theorem isDigit_of_mem_showNat (h : c ∈ showNat n) : c.isDigit = true :=
  Nat.isDigit_of_mem_toDigits (by decide) (by decide) h

/-- A number that begins with a digit has neither blanks nor a sign. -/
theorem strtoll_cons (hc : c.isDigit = true) : strtoll (c :: s) = leadingDigits (c :: s) := by
  have hspace : isSpace c = false := by
    rw [Bool.eq_false_iff]
    intro h
    simp only [isSpace, Bool.or_eq_true, decide_eq_true_eq] at h
    rcases h with ((((h | h) | h) | h) | h) | h <;> subst h <;> revert hc <;> decide
  rw [strtoll, List.dropWhile_cons_of_neg (by simp [hspace])]
  split
  case h_1 h =>
    cases h
    exact absurd hc (by decide)
  case h_2 h =>
    cases h
    exact absurd hc (by decide)
  case h_3 => rfl

/-- Digits and nothing behind them. -/
theorem strtoll_digits (hne : s ≠ []) (hdigits : ∀ c ∈ s, c.isDigit = true) :
    strtoll s = Nat.ofDigitChars 10 s 0 := by
  rcases s with _ | ⟨c, s⟩
  · exact absurd rfl hne
  · have htake : (c :: s).takeWhile Char.isDigit = c :: s := List.takeWhile_eq_self_iff.mpr hdigits
    rw [strtoll_cons (hdigits c List.mem_cons_self), leadingDigits, htake]

/-- The digits of a number, and nothing behind them, give the number. -/
theorem strtoll_showNat : strtoll (showNat n) = n := by
  have hne : showNat n ≠ [] := Nat.toDigits_ne_nil
  rw [strtoll_digits hne fun c => isDigit_of_mem_showNat]
  exact congrArg Nat.cast Nat.ofDigitChars_ten_toDigits

/-- Digits make a number below the power of ten of their count. -/
theorem ofDigitChars_lt (hdigits : ∀ c ∈ s, c.isDigit = true) :
    Nat.ofDigitChars 10 s 0 < 10 ^ s.length := by
  induction s using List.reverseRecOn with
  | nil => decide
  | append_singleton s c ih =>
      have hs := ih fun d hd => hdigits d (List.mem_append_left _ hd)
      have hc : c.toNat - 48 < 10 := by
        have hdigit := hdigits c (by simp)
        simp only [Char.isDigit, Bool.and_eq_true, decide_eq_true_eq] at hdigit
        have hle : c.val.toNat ≤ 57 := by simpa using UInt32.le_iff_toNat_le.mp hdigit.2
        change c.val.toNat - 48 < 10
        omega
      rw [Nat.ofDigitChars_append, Nat.ofDigitChars_cons, Nat.ofDigitChars_nil, List.length_append,
        List.length_singleton, Nat.pow_succ]
      change 10 * Nat.ofDigitChars 10 s 0 + (c.toNat - 48) < _
      omega

theorem leadingDigits_lt : leadingDigits s < 10 ^ s.length := by
  have htake : ∀ c ∈ s.takeWhile Char.isDigit, c.isDigit = true :=
    fun c hc => List.mem_takeWhile_imp hc
  have hlength : (s.takeWhile Char.isDigit).length ≤ s.length := (List.takeWhile_prefix _).length_le
  exact (ofDigitChars_lt htake).trans_le (Nat.pow_le_pow_right (by decide) hlength)

/-- A number that begins with a one. -/
theorem leadingDigits_one_lt (hlength : s.length ≤ k) : leadingDigits ('1' :: s) < 2 * 10 ^ k := by
  have htake : ∀ c ∈ s.takeWhile Char.isDigit, c.isDigit = true :=
    fun c hc => List.mem_takeWhile_imp hc
  have hdigits : ('1' :: s).takeWhile Char.isDigit = '1' :: s.takeWhile Char.isDigit :=
    List.takeWhile_cons_of_pos (by decide)
  have hle : (s.takeWhile Char.isDigit).length ≤ k :=
    (List.takeWhile_prefix _).length_le.trans hlength
  have hlt := ofDigitChars_lt htake
  have hpow : 10 ^ (s.takeWhile Char.isDigit).length ≤ 10 ^ k :=
    Nat.pow_le_pow_right (by decide) hle
  rw [leadingDigits, hdigits, Nat.ofDigitChars_cons, Nat.ofDigitChars_eq_ofDigitChars_zero]
  change 10 ^ _ * 1 + _ < _
  omega

theorem length_showNat (hlow : 10 ^ k ≤ n) (hhigh : n < 10 ^ (k + 1)) :
    (showNat n).length = k + 1 := by
  have hle : (showNat n).length ≤ k + 1 :=
    (Nat.length_toDigits_le_iff (by decide) k.succ_pos).mpr hhigh
  have hpos : 0 < (showNat n).length := Nat.length_toDigits_pos
  by_contra hne
  have hshort : (showNat n).length ≤ k := by omega
  have hlt : n < 10 ^ k := (Nat.length_toDigits_le_iff (by decide) (by omega)).mp hshort
  omega

/-- The first digit of a number is its quotient by the power of ten. -/
theorem showNat_eq_cons (hlow : 10 ^ k ≤ n) (hhigh : n < 10 ^ (k + 1)) :
    ∃ c ds, showNat n = c :: ds ∧ c.toNat - 48 = n / 10 ^ k := by
  have hlength := length_showNat hlow hhigh
  rcases hshow : showNat n with _ | ⟨c, ds⟩
  · rw [hshow] at hlength
    cases hlength
  · have hdigits : ∀ d ∈ ds, d.isDigit = true := fun d hd =>
      isDigit_of_mem_showNat (hshow ▸ List.mem_cons_of_mem c hd)
    have hvalue : Nat.ofDigitChars 10 (c :: ds) 0 = n := by
      rw [← hshow]
      exact Nat.ofDigitChars_ten_toDigits
    have hlt := ofDigitChars_lt hdigits
    have hds : ds.length = k := by
      rw [hshow, List.length_cons] at hlength
      omega
    rw [Nat.ofDigitChars_cons, Nat.ofDigitChars_eq_ofDigitChars_zero, hds] at hvalue
    rw [hds] at hlt
    refine ⟨c, ds, rfl, ?_⟩
    rw [← hvalue, Nat.mul_add_div (Nat.pow_pos (by decide)), Nat.div_eq_of_lt hlt]
    exact (Nat.zero_add _).symm

/-! ### Padded numbers -/

variable {v : ℤ}

theorem isDigit_of_mem_showPadded (hv : 0 ≤ v) (h : c ∈ showPadded k v) : c.isDigit = true := by
  rw [showPadded, if_neg (Int.not_lt.mpr hv), List.leftpad, List.mem_append] at h
  rcases h with h | h
  · rw [List.eq_of_mem_replicate h]
    decide
  · exact isDigit_of_mem_showNat h

/-- A number with no more digits than the field has places fills it. -/
theorem length_showPadded (hk : 0 < k) (hv : 0 ≤ v) (hhigh : v < 10 ^ k) :
    (showPadded k v).length = k := by
  have hnat : v.toNat < 10 ^ k := by
    zify
    rw [Int.toNat_of_nonneg hv]
    exact hhigh
  have hle : (showNat v.toNat).length ≤ k := (Nat.length_toDigits_le_iff (by decide) hk).mpr hnat
  rw [showPadded, if_neg (Int.not_lt.mpr hv), List.length_leftpad]
  exact max_eq_left hle

/-- The zeros in front do not change the number. -/
theorem strtoll_showPadded (hv : 0 ≤ v) : strtoll (showPadded k v) = v := by
  have hne : showPadded k v ≠ [] := by
    rw [showPadded, if_neg (Int.not_lt.mpr hv), List.leftpad]
    exact List.append_ne_nil_of_right_ne_nil _ Nat.toDigits_ne_nil
  rw [strtoll_digits hne fun c => isDigit_of_mem_showPadded hv, showPadded,
    if_neg (Int.not_lt.mpr hv), List.leftpad, Nat.ofDigitChars_append, Nat.ofDigitChars_replicate_zero,
    Nat.mul_zero]
  have hdigits : Nat.ofDigitChars 10 (showNat v.toNat) 0 = v.toNat := Nat.ofDigitChars_ten_toDigits
  rw [hdigits, Int.toNat_of_nonneg hv]

/-! ### The first bytes of a memory -/

/-- A string in memory, with its terminating zero. -/
def terminated (s : List Char) : ℕ → Char := fun i => s.getD i '\x00'

/-- The first `n` bytes. -/
def firstBytes (m : ℕ → Char) (n : ℕ) : List Char := (List.range n).map m

/-- Whether `strncmp` returns 0 on the two memories. -/
def strncmp (m m' : ℕ → Char) : ℕ → Bool
  | 0 => true
  | n + 1 =>
    m 0 = m' 0 && (m 0 = '\x00' || strncmp (fun i => m (i + 1)) (fun i => m' (i + 1)) n)

variable {m : ℕ → Char}

theorem firstBytes_succ : firstBytes m (n + 1) = m 0 :: firstBytes (fun i => m (i + 1)) n := by
  rw [firstBytes, List.range_succ_eq_map, List.map_cons, List.map_map]
  rfl

@[simp] theorem length_firstBytes : (firstBytes m n).length = n := by simp [firstBytes]

/-- The bytes of a string from a place on. -/
theorem firstBytes_terminated {start : ℕ} (h : start + n ≤ s.length) :
    firstBytes (fun i => terminated s (start + i)) n = (s.drop start).take n := by
  apply List.ext_getElem
  · simp
    omega
  · intro i hi hi'
    have hlt : i < n := by simpa using hi
    have hs : start + i < s.length := by omega
    simp [firstBytes, terminated, hs]

/-- Against a string without a zero, the comparison succeeds when the bytes are a beginning of the
string, or begin with all of it and a zero. -/
theorem strncmp_terminated_iff (hs : '\x00' ∉ s) :
    strncmp m (terminated s) n = true ↔
      firstBytes m n <+: s ∨ s ++ ['\x00'] <+: firstBytes m n := by
  induction n generalizing m s with
  | zero => simp [strncmp, firstBytes]
  | succ n ih =>
      rw [strncmp, firstBytes_succ]
      rcases s with _ | ⟨c, s⟩
      · have hzero : terminated [] 0 = '\x00' := rfl
        rw [hzero]
        by_cases hm : m 0 = '\x00'
        · simp [hm]
        · simp [hm, Ne.symm hm]
      · have hhead : terminated (c :: s) 0 = c := rfl
        have htail : (fun i => terminated (c :: s) (i + 1)) = terminated s := rfl
        have hc : c ≠ '\x00' := fun hc => hs (hc ▸ List.mem_cons_self)
        have hrest := @ih s (fun i => m (i + 1)) fun hmem => hs (List.mem_cons_of_mem _ hmem)
        rw [hhead, htail, List.cons_append, List.cons_prefix_cons, List.cons_prefix_cons]
        by_cases hm : m 0 = c
        · have hne : ¬ m 0 = '\x00' := hm ▸ hc
          simp only [hm, hc, decide_true, decide_false, Bool.true_and, Bool.false_or, true_and]
          exact hrest
        · simp [hm, Ne.symm hm]

/-- Compared up to the length of the string, the bytes are the string. -/
theorem strncmp_length_iff (hs : '\x00' ∉ s) :
    strncmp m (terminated s) s.length = true ↔ firstBytes m s.length = s := by
  rw [strncmp_terminated_iff hs]
  constructor
  · rintro (hfront | hfront)
    · exact hfront.eq_of_length length_firstBytes
    · have hlength := hfront.length_le
      simp at hlength
  · intro heq
    rw [heq]
    exact .inl List.prefix_rfl

end GokeWebcam.Lib
