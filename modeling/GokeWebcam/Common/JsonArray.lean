import GokeWebcam.Common.Misc
import GokeWebcam.Lib.ByteMemory

/-!
# The strings of a JSON array

`json_verify_get_array` of `common/json/json.c` copies the strings of an array one behind the other into a
buffer. Each copy is given the room that is left but for the last byte; nothing ends the text.

* `memory_copyItems`: what the buffer holds when all copies stay inside; `exists_outside`: when one does not.
* `getArraySound_iff`: the copies stay inside and leave a text that begins like the strings iff the strings
  before the last one fit, and the text ends before the last byte or that byte was zero.
* `third_outside`: two strings that fill the buffer before a third one.
-/

namespace GokeWebcam.Common

open Lib

/-- A string of json-c, which keeps the length in an `int`. -/
structure JsonText extends CStr where
  length_lt : bytes.length < 2 ^ 31

/-- What json-c has under a key; the elements of an array by their texts, of which `null` has none.
Source: `json_object_object_get_ex`, `json_object_array_get_idx`, `json_object_get_string` -/
inductive JsonMember
  | array (items : List (Option JsonText))
  | other

/-- The buffer, and where in it how many bytes were written. -/
structure Copied where
  memory : Memory
  writes : List (ℕ × ℕ) := []

/-- An `int` as the size of a copy. -/
def sizeT (n : ℤ) : ℕ := (n % 2 ^ 32).toNat

/-- The bytes of the text and zeros behind them, `n` in all.
Source: `strncpy` -/
def Copied.strncpy (value : Copied) (dst : ℕ) (src : List Byte) (n : ℕ) : Copied where
  memory := fun i => if dst ≤ i ∧ i < dst + n then src.getD (i - dst) 0#8 else value.memory i
  writes := value.writes ++ [(dst, n)]

/-- The loop; `cnt` is the length of the strings before.
Source: `common/json/json.c` `json_verify_get_array` -/
def copyItems (valLen : CInt) : List (Option JsonText) → ℕ → Copied → Copied
  | [], _, value => value
  | none :: items, cnt, value => copyItems valLen items cnt value
  | some strTmp :: items, cnt, value =>
    copyItems valLen items (cnt + strTmp.strlen)
      (value.strncpy cnt strTmp.bytes (sizeT (valLen.toInt - cnt - 1)))

/-- Source: `common/json/json.c` `json_verify_get_array` -/
def jsonVerifyGetArray (parse : List Char → Option (List Char → Option JsonMember))
    (string key : List Char) (valLen : CInt) (value : Memory) : ℤ × Copied :=
  match parse string with
  | none => (-1, { memory := value })
  | some object =>
    match object key with
    | some (.array items) => (0, copyItems valLen items 0 { memory := value })
    | _ => (-1, { memory := value })

/-! ### What is asked for -/

variable {valLen : CInt} {text : JsonText} {texts done : List JsonText} {value : Copied} {m : Memory}
  {cnt n i : ℕ}

/-- The bytes of the strings, one behind the other. -/
def allBytes (texts : List JsonText) : List Byte := texts.flatMap fun text => text.bytes

/-- All writes are inside the buffer, and it holds a string that begins like the strings. -/
structure GetArraySound (valLen : CInt) (texts : List JsonText) (value : Copied) : Prop where
  inside : ∀ w ∈ value.writes, w.2 ≠ 0 → w.1 + w.2 ≤ valLen.toNat
  text : ∃ s, loadStr value.memory 0 valLen.toNat = some s ∧ s.bytes <+: allBytes texts

/-- The strings before the last one leave room for a byte, and there is a zero behind the text: one that a
copy writes, or the last byte of the buffer, or the first one if there is nothing to copy. -/
def ArrayFits (valLen : CInt) (m : Memory) (texts : List JsonText) : Prop :=
  (allBytes texts.dropLast).length < valLen.toNat ∧
    ((allBytes texts).length + 1 < valLen.toNat ∧ texts ≠ [] ∨
      m (if texts = [] then 0 else valLen.toNat - 1) = 0#8)

instance : Decidable (ArrayFits valLen m texts) := inferInstanceAs (Decidable (_ ∧ _))

/-! ### Copies inside the buffer -/

theorem allBytes_append {texts' : List JsonText} :
    allBytes (texts ++ texts') = allBytes texts ++ allBytes texts' := List.flatMap_append

theorem allBytes_singleton : allBytes [text] = text.bytes := List.append_nil _

theorem toInt_eq_toNat_of_pos (hlen : 0 < valLen.toInt) : valLen.toInt = valLen.toNat := by
  have hlt := valLen.isLt
  rw [BitVec.toInt_eq_toNat_cond] at hlen ⊢
  split_ifs at hlen ⊢ <;> omega

/-- The size of a copy that begins in the buffer. -/
theorem sizeT_of_lt (hlen : 0 < valLen.toInt) (hcnt : cnt < valLen.toNat) :
    sizeT (valLen.toInt - cnt - 1) = valLen.toNat - 1 - cnt := by
  have hlt := valLen.isLt
  rw [sizeT, toInt_eq_toNat_of_pos hlen]
  omega

/-- What the buffer holds after some strings. -/
def HoldsTexts (valLen : CInt) (m : Memory) (texts : List JsonText) (value : Copied) : Prop :=
  (∀ w ∈ value.writes, w.2 ≠ 0 → w.1 + w.2 ≤ valLen.toNat) ∧
    ∀ i, value.memory i =
      if i < valLen.toNat - 1 ∧ texts ≠ [] then (allBytes texts).getD i 0#8 else m i

theorem holdsTexts_strncpy (hlen : 0 < valLen.toInt) (h : HoldsTexts valLen m done value)
    (hcnt : (allBytes done).length < valLen.toNat) :
    HoldsTexts valLen m (done ++ [text]) (value.strncpy (allBytes done).length text.bytes
      (sizeT (valLen.toInt - (allBytes done).length - 1))) := by
  rw [sizeT_of_lt hlen hcnt]
  constructor
  · intro w hw hne
    rcases List.mem_append.mp hw with hold | hnew
    · exact h.1 w hold hne
    · rw [List.mem_singleton.mp hnew] at hne ⊢
      dsimp only at hne ⊢
      omega
  · intro i
    rw [Copied.strncpy, allBytes_append, allBytes_singleton]
    dsimp only
    rw [h.2 i]
    by_cases hbefore : i < (allBytes done).length
    · -- a byte of the strings before, of which there is one at least
      have hdone : done ≠ [] := by
        rintro rfl
        exact absurd hbefore (Nat.not_lt_zero _)
      rw [if_neg (by omega), List.getD_append _ _ _ _ hbefore]
      simp [hdone]
    · have hright : (allBytes done ++ text.bytes).getD i 0#8 =
          text.bytes.getD (i - (allBytes done).length) 0#8 :=
        List.getD_append_right _ _ _ _ (not_lt.mp hbefore)
      by_cases hroom : i < valLen.toNat - 1
      · rw [if_pos (by omega), if_pos ⟨hroom, by simp⟩, hright]
      · rw [if_neg (by omega), if_neg (by omega), if_neg (by omega)]

/-- The strings before the last one fit, so that every copy begins in the buffer. -/
theorem holdsTexts_copyItems (hlen : 0 < valLen.toInt) (h : HoldsTexts valLen m done value)
    (hfit : (allBytes (done ++ texts).dropLast).length < valLen.toNat) :
    HoldsTexts valLen m (done ++ texts)
      (copyItems valLen (texts.map some) (allBytes done).length value) := by
  induction texts generalizing done value with
  | nil => simpa [copyItems] using h
  | cons text texts ih =>
      have hbefore : (allBytes done).length < valLen.toNat := by
        rw [List.dropLast_append_cons, allBytes_append, List.length_append] at hfit
        omega
      have hcopy := @holdsTexts_strncpy valLen text done value m hlen h hbefore
      have hrest := ih hcopy (by rwa [List.append_assoc])
      rw [allBytes_append, allBytes_singleton, List.length_append, List.append_assoc] at hrest
      exact hrest

/-! ### Copies outside the buffer -/

theorem mem_writes_copyItems {items : List (Option JsonText)} {w : ℕ × ℕ} (h : w ∈ value.writes) :
    w ∈ (copyItems valLen items cnt value).writes := by
  induction items generalizing cnt value with
  | nil => exact h
  | cons item items ih =>
      rcases item with _ | text
      · exact ih h
      · exact ih (List.mem_append_left _ h)

/-- A copy that begins behind the buffer is not empty. -/
theorem sizeT_of_le (hlen : 0 < valLen.toInt) (hcnt : valLen.toNat ≤ cnt)
    (hlt : cnt < valLen.toNat + 2 ^ 31) : sizeT (valLen.toInt - cnt - 1) ≠ 0 := by
  have hint : valLen.toInt = valLen.toNat := toInt_eq_toNat_of_pos hlen
  rw [sizeT, hint]
  omega

theorem exists_outside (hlen : 0 < valLen.toInt) (hcnt : cnt < valLen.toNat + 2 ^ 31)
    (hne : texts ≠ []) (hfit : valLen.toNat ≤ cnt + (allBytes texts.dropLast).length) :
    ∃ w ∈ (copyItems valLen (texts.map some) cnt value).writes,
      w.2 ≠ 0 ∧ valLen.toNat < w.1 + w.2 := by
  induction texts generalizing cnt value with
  | nil => exact absurd rfl hne
  | cons text texts ih =>
      by_cases hout : valLen.toNat ≤ cnt
      · have hsize := sizeT_of_le hlen hout hcnt
        have hmem : (cnt, sizeT (valLen.toInt - cnt - 1)) ∈
            (copyItems valLen (texts.map some) (cnt + text.strlen)
              (value.strncpy cnt text.bytes (sizeT (valLen.toInt - cnt - 1)))).writes :=
          mem_writes_copyItems (List.mem_append_right _ (List.mem_singleton_self _))
        refine ⟨_, hmem, hsize, ?_⟩
        dsimp only
        omega
      · have htexts : texts ≠ [] := by
          rintro rfl
          simp [allBytes] at hfit
          omega
        have hlength := text.length_lt
        refine ih (by rw [CStr.strlen]; omega) htexts ?_
        rw [List.dropLast_cons_of_ne_nil htexts] at hfit
        simp only [allBytes, List.flatMap_cons, List.length_append, CStr.strlen] at hfit ⊢
        omega

/-! ### The text in the buffer -/

theorem noNul_take : ∀ b ∈ (allBytes texts).take n, b ≠ 0#8 := by
  intro b hb
  obtain ⟨text, -, hmem⟩ := List.mem_flatMap.mp (List.mem_of_mem_take hb)
  exact text.noNul b hmem

/-- As much of the strings as there is room for is in the buffer, with a zero behind it or not. -/
theorem loadStr_holdsTexts (hlen : 0 < valLen.toNat) (hne : texts ≠ [])
    (h : HoldsTexts valLen m texts value) :
    (∃ s, loadStr value.memory 0 valLen.toNat = some s ∧ s.bytes <+: allBytes texts) ↔
      (allBytes texts).length + 1 < valLen.toNat ∨ m (valLen.toNat - 1) = 0#8 := by
  have hlast : value.memory (valLen.toNat - 1) = m (valLen.toNat - 1) := by
    rw [h.2]
    exact if_neg (by omega)
  constructor
  · rintro ⟨s, hload, -⟩
    by_contra hnot
    rw [not_or, not_lt] at hnot
    obtain ⟨k, hk, hzero⟩ := loadStr_isSome_iff.mp (Option.isSome_of_mem hload)
    rw [Nat.zero_add] at hzero
    by_cases hkl : k = valLen.toNat - 1
    · rw [hkl, hlast] at hzero
      exact hnot.2 hzero
    · have hbyte : k < (allBytes texts).length := by omega
      rw [h.2, if_pos ⟨by omega, hne⟩, List.getD_eq_getElem _ _ hbyte] at hzero
      obtain ⟨text, -, hmem⟩ := List.mem_flatMap.mp (List.getElem_mem hbyte)
      exact text.noNul _ hmem hzero
  · intro hroom
    have hload : loadStr value.memory 0 valLen.toNat =
        some ⟨(allBytes texts).take (valLen.toNat - 1), noNul_take⟩ := by
      apply loadStr_of_bytes
      · intro k hk
        rw [List.length_take] at hk
        rw [Nat.zero_add, h.2, if_pos ⟨by omega, hne⟩, List.getElem_take,
          List.getD_eq_getElem _ _ (by omega)]
      · rw [CStr.strlen, List.length_take, Nat.zero_add]
        rcases hroom with hshort | hzero
        · rw [min_eq_right (by omega), h.2, if_pos ⟨by omega, hne⟩, List.getD_eq_default _ _ le_rfl]
        · by_cases hshort : (allBytes texts).length < valLen.toNat - 1
          · rw [min_eq_right (by omega), h.2, if_pos ⟨hshort, hne⟩,
              List.getD_eq_default _ _ le_rfl]
          · rw [min_eq_left (by omega), hlast]
            exact hzero
      · rw [CStr.strlen, List.length_take]
        omega
    exact ⟨_, hload, List.take_prefix ..⟩

theorem loadStr_empty_iff (hlen : 0 < valLen.toNat) :
    (∃ s, loadStr m 0 valLen.toNat = some s ∧ s.bytes <+: []) ↔ m 0 = 0#8 := by
  constructor
  · rintro ⟨s, hload, hprefix⟩
    have hzero := zero_of_loadStr hload
    rw [CStr.strlen, List.prefix_nil.mp hprefix] at hzero
    exact hzero
  · intro hzero
    refine ⟨.empty, loadStr_of_bytes (fun k hk => absurd hk (Nat.not_lt_zero k)) hzero hlen, ?_⟩
    exact List.prefix_refl _

/-- The array is copied soundly iff it fits. -/
theorem getArraySound_iff (parse : List Char → Option (List Char → Option JsonMember))
    (string key : List Char) (texts : List JsonText)
    (harray : (parse string).bind (fun object => object key) = some (.array (texts.map some)))
    (valLen : CInt) (hlen : 0 < valLen.toInt) (m : Memory) :
    GetArraySound valLen texts (jsonVerifyGetArray parse string key valLen m).2 ↔
      ArrayFits valLen m texts := by
  have hpos : 0 < valLen.toNat := by
    have hint := toInt_eq_toNat_of_pos hlen
    omega
  have hcopy : (jsonVerifyGetArray parse string key valLen m).2 =
      copyItems valLen (texts.map some) 0 { memory := m } := by
    obtain ⟨object, hobject, hmember⟩ := Option.bind_eq_some_iff.mp harray
    rw [jsonVerifyGetArray, hobject]
    dsimp only
    rw [hmember]
  rw [hcopy, ArrayFits]
  by_cases hfit : (allBytes texts.dropLast).length < valLen.toNat
  · have hstart : HoldsTexts valLen m [] { memory := m } :=
      ⟨fun w hw => absurd hw List.not_mem_nil, fun i => (if_neg (by simp)).symm⟩
    have hholds : HoldsTexts valLen m texts (copyItems valLen (texts.map some) 0 { memory := m }) :=
      holdsTexts_copyItems hlen hstart hfit
    by_cases hnil : texts = []
    · subst hnil
      constructor
      · exact fun h => ⟨hpos, .inr ((loadStr_empty_iff hpos).mp h.text)⟩
      · rintro ⟨-, hnot | hzero⟩
        · exact absurd rfl hnot.2
        · exact ⟨hholds.1, (loadStr_empty_iff hpos).mpr hzero⟩
    · have htext := loadStr_holdsTexts hpos hnil hholds
      simp only [hfit, hnil, true_and, not_false_eq_true, and_true, if_false, ne_eq]
      exact ⟨fun h => htext.mp h.text, fun h => ⟨hholds.1, htext.mpr h⟩⟩
  · have hne : texts ≠ [] := by
      rintro rfl
      exact hfit hpos
    obtain ⟨w, hw, hsize, hout⟩ := @exists_outside valLen texts { memory := m } 0 hlen (by omega) hne
      (by omega)
    refine iff_of_false (fun h => ?_) fun h => hfit h.1
    exact absurd (h.inside w hw hsize) (not_le.mpr hout)

/-- The array of some strings under one key, as text. -/
def arrayOf (texts : List JsonText) : List Char → Option (List Char → Option JsonMember) :=
  fun _ => some fun key => if key = ['k'] then some (.array (texts.map some)) else none

/-- Four bytes. -/
def fourText : JsonText := { CStr.ofChars "abcd".toList with length_lt := by decide }

theorem getArraySound_two : GetArraySound 16#32 [fourText, fourText]
    (jsonVerifyGetArray (arrayOf [fourText, fourText]) [] ['k'] 16#32 fun _ => 1#8).2 :=
  (getArraySound_iff (arrayOf [fourText, fourText]) [] ['k'] [fourText, fourText] rfl 16#32
    (by decide) fun _ => 1#8).mpr (by decide)

/-- The third copy begins at the end of the buffer and is given nearly the whole memory. -/
theorem third_outside : ¬ GetArraySound 8#32 [fourText, fourText, fourText]
    (jsonVerifyGetArray (arrayOf [fourText, fourText, fourText]) [] ['k'] 8#32 fun _ => 0#8).2 := by
  intro h
  have hout := h.inside (8, 4294967295) (by decide) (by decide)
  exact absurd hout (by decide)

end GokeWebcam.Common
