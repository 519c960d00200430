import GokeWebcam.Common.CJson

/-!
# JSON strings and their quotes

`cJSON_Print` of a string puts it in quotes and escapes it; `json_del_yinhao` of `common/json/json.c` takes
the quotes off again, and leaves the escapes.

* `jsonDelYinhao_printString`: what is left is the escaped string.
* `take_escape_eq_iff`: when the first bytes of the escaped string are those of the string.
-/

namespace GokeWebcam.Common

open Lib

variable {v : CStr} {bs w : List Byte} {b : Byte} {n k : ℕ}

/-! ### Printing -/

/-- The byte of a character constant. -/
def chr (c : Char) : Byte := BitVec.ofNat 8 c.toNat

/-- Source: `%04x` in `sprintf` -/
def hexDigit (n : ℕ) : Byte := chr (Nat.digitChar n)

/-- A byte that is not escaped.
Source: `common/cJSON/cJSON.c` `print_string_ptr` -/
def Plain (b : Byte) : Prop := 31#8 < b ∧ b ≠ chr '"' ∧ b ≠ chr '\\'

instance : DecidablePred Plain := fun _ => inferInstanceAs (Decidable (_ ∧ _ ∧ _))

/-- What stands behind the backslash.
Source: `common/cJSON/cJSON.c` `print_string_ptr` -/
def escapeCode (b : Byte) : List Byte :=
  if b = chr '\\' then [chr '\\']
  else if b = chr '"' then [chr '"']
  else if b = 8#8 then [chr 'b']
  else if b = 12#8 then [chr 'f']
  else if b = 10#8 then [chr 'n']
  else if b = 13#8 then [chr 'r']
  else if b = 9#8 then [chr 't']
  else [chr 'u', chr '0', chr '0', hexDigit (b.toNat / 16), hexDigit (b.toNat % 16)]

def escapeByte (b : Byte) : List Byte := if Plain b then [b] else chr '\\' :: escapeCode b

def escape (bs : List Byte) : List Byte := bs.flatMap escapeByte

theorem chr_ne_zero {c : Char} (h : c.toNat % 256 ≠ 0) : chr c ≠ 0#8 := by
  intro hzero
  have htoNat := congrArg BitVec.toNat hzero
  rw [chr, BitVec.toNat_ofNat] at htoNat
  exact h htoNat

theorem hexDigit_ne_zero (n : Fin 16) : hexDigit n.val ≠ 0#8 := by
  decide +revert

theorem escapeCode_ne_zero : ∀ c ∈ escapeCode b, c ≠ 0#8 := by
  have hhigh : hexDigit (b.toNat / 16) ≠ 0#8 := hexDigit_ne_zero ⟨b.toNat / 16, by omega⟩
  have hlow : hexDigit (b.toNat % 16) ≠ 0#8 := hexDigit_ne_zero ⟨b.toNat % 16, by omega⟩
  unfold escapeCode
  split_ifs
  all_goals
    intro c hc
    simp only [List.mem_cons, List.not_mem_nil, or_false] at hc
  case neg =>
    rcases hc with rfl | rfl | rfl | rfl | rfl
    · exact chr_ne_zero (by decide)
    · exact chr_ne_zero (by decide)
    · exact chr_ne_zero (by decide)
    · exact hhigh
    · exact hlow
  all_goals
    subst hc
    exact chr_ne_zero (by decide)

theorem escapeByte_ne_zero (hb : b ≠ 0#8) : ∀ c ∈ escapeByte b, c ≠ 0#8 := by
  intro c hc
  rw [escapeByte] at hc
  split_ifs at hc
  · rwa [List.mem_singleton.mp hc]
  · rcases List.mem_cons.mp hc with rfl | hc
    · decide
    · exact escapeCode_ne_zero c hc

theorem noNul_escape (v : CStr) : ∀ c ∈ chr '"' :: escape v.bytes ++ [chr '"'], c ≠ 0#8 := by
  intro c hc
  simp only [List.cons_append, List.mem_cons, List.mem_append, List.not_mem_nil, or_false, escape,
    List.mem_flatMap] at hc
  rcases hc with rfl | ⟨b, hb, hc⟩ | rfl
  · decide
  · exact escapeByte_ne_zero (v.noNul b hb) c hc
  · decide

/-- Source: `common/cJSON/cJSON.c` `print_string_ptr` -/
def printString (v : CStr) : CStr := ⟨chr '"' :: escape v.bytes ++ [chr '"'], noNul_escape v⟩

/-- `other` is what an item prints as that is no string.
Source: `common/cJSON/cJSON.c` `print_value` -/
def CJson.print (other : CJson → CStr) : CJson → CStr
  | .string v => printString v
  | item => other item

/-! ### Taking the quotes off -/

/-- Source: `common/json/json.c` `json_del_yinhao`, `strcpy(str, str + 1)` -/
def dropQuote : List Byte → List Byte
  | [] => []
  | b :: bs => if b = chr '"' then bs else b :: bs

/-- The place of the first quote from `i` on. -/
def strchrQuote (bs : List Byte) (i : ℕ) : Option ℕ :=
  ((bs.drop i).findIdx? fun b => b = chr '"').map (i + ·)

/-- Source: `common/json/json.c` `json_del_yinhao`, the loop -/
def lastQuote (bs : List Byte) : ℕ → ℕ → ℕ
  | 0, lp => lp
  | fuel + 1, lp =>
    match strchrQuote bs (lp + 1) with
    | none => lp
    | some p => lastQuote bs fuel p

/-- The bytes that are left. -/
def delQuotes (bs : List Byte) : List Byte := (dropQuote bs).take (lastQuote (dropQuote bs) bs.length 0)

theorem mem_dropQuote (h : b ∈ dropQuote bs) : b ∈ bs := by
  rcases bs with _ | ⟨c, bs⟩
  · exact h
  · rw [dropQuote] at h
    split_ifs at h
    · exact List.mem_cons_of_mem _ h
    · exact h

theorem noNul_delQuotes (v : CStr) : ∀ b ∈ delQuotes v.bytes, b ≠ 0#8 :=
  fun b hb => v.noNul b (mem_dropQuote (List.mem_of_mem_take hb))

/-- Source: `common/json/json.c` `json_del_yinhao` -/
def jsonDelYinhao (v : CStr) : CStr := ⟨delQuotes v.bytes, noNul_delQuotes v⟩

/-- A quote that is found is one, at the place or behind it. -/
theorem strchrQuote_some {i p : ℕ} (h : strchrQuote bs i = some p) :
    i ≤ p ∧ ∃ hp : p < bs.length, bs[p] = chr '"' := by
  rw [strchrQuote, Option.map_eq_some_iff] at h
  obtain ⟨j, hj, rfl⟩ := h
  rw [List.findIdx?_eq_some_iff_getElem] at hj
  obtain ⟨hlt, hquote, -⟩ := hj
  rw [List.length_drop] at hlt
  rw [List.getElem_drop, decide_eq_true_eq] at hquote
  exact ⟨by omega, by omega, hquote⟩

/-- No quote is found when there is none. -/
theorem strchrQuote_none {i p : ℕ} (h : strchrQuote bs i = none) (hle : i ≤ p) (hp : p < bs.length) :
    bs[p] ≠ chr '"' := by
  rw [strchrQuote, Option.map_eq_none_iff, List.findIdx?_eq_none_iff] at h
  have hmem : bs[p] ∈ bs.drop i := by
    rw [List.mem_drop_iff_getElem]
    exact ⟨p - i, by omega, by simp [Nat.add_sub_cancel' hle]⟩
  simpa using h _ hmem

/-- The loop stops at the last quote, which is at the end. -/
theorem lastQuote_append (fuel lp : ℕ) (hlp : lp ≤ w.length) (hfuel : w.length < lp + fuel + 1) :
    lastQuote (w ++ [chr '"']) fuel lp = w.length := by
  induction fuel generalizing lp with
  | zero =>
    rw [lastQuote]
    omega
  | succ fuel ih =>
    rw [lastQuote]
    rcases hfound : strchrQuote (w ++ [chr '"']) (lp + 1) with _ | p
    · by_contra hne
      refine strchrQuote_none hfound (p := w.length) ?_ (by simp) (by simp)
      dsimp only at hne
      omega
    · obtain ⟨hle, hp, -⟩ := strchrQuote_some hfound
      rw [List.length_append, List.length_singleton] at hp
      exact ih p (by omega) (by omega)

theorem jsonDelYinhao_printString : (jsonDelYinhao (printString v)).bytes = escape v.bytes := by
  have hprint : (printString v).bytes = chr '"' :: (escape v.bytes ++ [chr '"']) := rfl
  have hdrop : dropQuote (printString v).bytes = escape v.bytes ++ [chr '"'] := by
    rw [hprint, dropQuote, if_pos rfl]
  have hlength : (printString v).bytes.length = (escape v.bytes).length + 2 := by simp [printString]
  have hbytes : (jsonDelYinhao (printString v)).bytes = delQuotes (printString v).bytes := rfl
  rw [hbytes, delQuotes, hdrop, hlength, lastQuote_append _ _ (Nat.zero_le _) (by omega),
    List.take_left']
  rfl

/-! ### The first bytes -/

/-- Neither of the first `n` bytes is escaped; or from the first that is, they are all backslashes, and the
string is that long. -/
def Fits (n : ℕ) (bs : List Byte) : Prop :=
  (bs.take n).dropWhile (fun b => Plain b) = [] ∨
    (n ≤ bs.length ∧ ∀ b ∈ (bs.take n).dropWhile (fun b => Plain b), b = chr '\\')

theorem escape_cons : escape (b :: bs) = escapeByte b ++ escape bs := rfl

theorem escapeByte_backslash : escapeByte (chr '\\') = [chr '\\', chr '\\'] := by decide

/-- Behind the first backslash the escaped string lags behind. -/
theorem take_backslashes_iff (hk : 0 < k) :
    (List.replicate k (chr '\\') ++ escape bs).take n = bs.take n ↔
      n ≤ bs.length ∧ ∀ b ∈ bs.take n, b = chr '\\' := by
  induction bs generalizing n k with
  | nil =>
    obtain ⟨k, rfl⟩ := Nat.exists_eq_succ_of_ne_zero hk.ne'
    cases n with
    | zero => simp
    | succ n => simp [List.replicate_succ]
  | cons b bs ih =>
    obtain ⟨k, rfl⟩ := Nat.exists_eq_succ_of_ne_zero hk.ne'
    cases n with
    | zero => simp
    | succ n =>
      rw [List.replicate_succ, List.cons_append, List.take_succ_cons, List.take_succ_cons,
        List.cons.injEq]
      by_cases hb : b = chr '\\'
      · have hlag : List.replicate k (chr '\\') ++ escape (b :: bs) =
            List.replicate (k + 2) (chr '\\') ++ escape bs := by
          rw [escape_cons, hb, escapeByte_backslash, List.replicate_add, List.append_assoc]
          rfl
        rw [hlag, ih (Nat.succ_pos _)]
        simp [hb]
      · have hne : ¬ chr '\\' = b := fun h => hb h.symm
        simp [hb, hne]

theorem take_escape_eq_iff : (escape bs).take n = bs.take n ↔ Fits n bs := by
  induction bs generalizing n with
  | nil => simp [escape, Fits]
  | cons b bs ih =>
    cases n with
    | zero => simp [Fits]
    | succ n =>
      rw [escape_cons, escapeByte]
      by_cases hplain : Plain b
      · rw [if_pos hplain, List.singleton_append, List.take_succ_cons, List.take_succ_cons,
          List.cons.injEq, ih]
        simp [Fits, hplain]
      · rw [if_neg hplain, List.cons_append, List.take_succ_cons, List.take_succ_cons, List.cons.injEq]
        by_cases hb : b = chr '\\'
        · have hcode : escapeCode b ++ escape bs = List.replicate 1 (chr '\\') ++ escape bs := by
            rw [escapeCode, if_pos hb]
            rfl
          rw [hcode, take_backslashes_iff Nat.one_pos]
          rw [hb] at hplain ⊢
          simp [Fits, hplain]
        · have hne : ¬ chr '\\' = b := fun h => hb h.symm
          simp [Fits, hplain, hb, hne]

end GokeWebcam.Common
