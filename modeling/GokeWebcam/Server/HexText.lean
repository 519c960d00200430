import GokeWebcam.Server.WifiConfigure

/-!
# Hexadecimal text, decoded in place

`misc_str_hex_2_hex` of `common/misc.c` on the memory of its arrays. The provisioning calls it with the
text of the BSSID and of the token as source and destination, so that the bytes overwrite the text while
it is being read.

* `Spells`: a text of hexadecimal digits, of either case, and the bytes it stands for.
* `hexPasses_spec`: after each pass what is written is the bytes of what was read, and what is still to be
  read is unchanged.
* `miscStrHex2Hex_decodes`: the bytes of any such text are written, and half its length is returned, in
  place as in a separate array.
* `hex2Hex_in_place`: the array of the provisioning afterwards, whatever text is in it.
-/

namespace GokeWebcam.Server.Wifi

open Lib Common

/-! ### The function -/

/-- Two characters are read, and a byte is written.
Source: `common/misc.c` `misc_str_hex_2_hex`, one pass of the loop -/
def hexPass (dst src i : ℕ) (m : Memory) (temp : Byte) : Memory × Byte :=
  let temp := hexByte temp (m (src + 2 * i)) (m (src + 2 * i + 1))
  (Function.update m (dst + i) temp, temp)

/-- The memory and `temp` after some passes. -/
def hexPasses (dst src : ℕ) (m : Memory) : ℕ → Memory × Byte
  | 0 => (m, 0#8)
  | i + 1 =>
    let before := hexPasses dst src m i
    hexPass dst src i before.1 before.2

/-- The memory afterwards, and what is returned.
Source: `common/misc.c` `misc_str_hex_2_hex` -/
def miscStrHex2Hex (m : Memory) (dst src : ℕ) (srcLen : CInt) : Memory × CInt :=
  let passes := (srcLen.toInt.tdiv 2).toNat
  ((hexPasses dst src m passes).1, BitVec.ofNat 32 passes)

/-! ### What it is to do -/

/-- A digit with the value, of either case. -/
def digitsOf (v : Fin 16) : List Byte :=
  [chr ("0123456789abcdef".toList.getD v.val '0'), chr ("0123456789ABCDEF".toList.getD v.val '0')]

/-- A character that is a hexadecimal digit. -/
def IsHexDigit (c : Byte) : Prop := ∃ v, c ∈ digitsOf v

instance : DecidablePred IsHexDigit := fun c => inferInstanceAs (Decidable (∃ v, c ∈ digitsOf v))

/-- The text gives each byte by two digits, the high one first. -/
inductive Spells : List Byte → List Byte → Prop
  | nil : Spells [] []
  | cons {hi lo : Fin 16} {c d : Byte} {text bytes : List Byte} (hc : c ∈ digitsOf hi)
      (hd : d ∈ digitsOf lo) (h : Spells text bytes) :
      Spells (c :: d :: text) (BitVec.ofNat 8 (16 * hi.val + lo.val) :: bytes)

/-- The destination is the source, or the bytes to be written and the text do not overlap. -/
def Apart (dst src len : ℕ) : Prop := dst = src ∨ dst + len / 2 ≤ src ∨ src + len ≤ dst

variable {m : Memory} {dst src i j n len : ℕ} {temp a b c : Byte} {text bytes : List Byte}

/-! ### Digits -/

theorem nibble_digitsOf : ∀ v, ∀ c ∈ digitsOf v, nibble c = some (BitVec.ofNat 8 v.val) := by
  intro v c hc
  rw [digitsOf, List.mem_cons, List.mem_singleton] at hc
  rcases hc with rfl | rfl
  · revert v
    decide
  · revert v
    decide

/-- Two digits make their byte, whatever was there before. -/
theorem hexByte_digits {hi lo : Fin 16} {c d : Byte} (hc : c ∈ digitsOf hi) (hd : d ∈ digitsOf lo) :
    hexByte temp c d = BitVec.ofNat 8 (16 * hi.val + lo.val) := by
  rw [hexByte, nibble_digitsOf hi c hc, nibble_digitsOf lo d hd]
  apply BitVec.eq_of_toNat_eq
  simp only [Option.map_some, Option.getD_some, BitVec.toNat_add, BitVec.toNat_shiftLeft,
    BitVec.toNat_ofNat, Nat.shiftLeft_eq]
  omega

/-- A text of an even number of digits stands for bytes, half as many. -/
theorem exists_spells (heven : Even text.length) (hdigits : ∀ c ∈ text, IsHexDigit c) :
    ∃ bytes, Spells text bytes ∧ bytes.length = text.length / 2 := by
  fun_induction strHex2Hex 0#8 text with
  | case1 temp c d text ih =>
    have hrest : Even text.length := by
      simp only [List.length_cons] at heven
      rw [Nat.even_iff] at heven ⊢
      omega
    obtain ⟨bytes, hbytes, hlength⟩ := ih hrest fun x hx => hdigits x (by simp [hx])
    obtain ⟨hi, hc⟩ := hdigits c (by simp)
    obtain ⟨lo, hd⟩ := hdigits d (by simp)
    refine ⟨_, .cons hc hd hbytes, ?_⟩
    simp only [List.length_cons]
    omega
  | case2 text temp hshort =>
    rcases text with _ | ⟨c, _ | ⟨d, text⟩⟩
    · exact ⟨[], .nil, rfl⟩
    · exact absurd heven (by simp)
    · exact absurd rfl (hshort c d text)

/-- The bytes it stands for are what is written for it. -/
theorem strHex2Hex_of_spells (h : Spells text bytes) (temp : Byte) : strHex2Hex temp text = bytes := by
  induction h generalizing temp with
  | nil => rfl
  | cons hc hd _ ih =>
    rw [strHex2Hex, hexByte_digits hc hd, ih]

/-- Two characters more make one byte more, which depends on the last one. -/
theorem strHex2Hex_append (heven : Even text.length) (temp : Byte) : strHex2Hex temp (text ++ [a, b]) =
    strHex2Hex temp text ++ [hexByte ((strHex2Hex temp text).getLastD temp) a b] := by
  fun_induction strHex2Hex temp text with
  | case1 temp c d text ih =>
    have hrest : Even text.length := by
      simp only [List.length_cons] at heven
      rw [Nat.even_iff] at heven ⊢
      omega
    rw [List.cons_append, List.cons_append, strHex2Hex, ih hrest, List.getLastD_cons, List.cons_append]
  | case2 text temp hshort =>
    rcases text with _ | ⟨c, _ | ⟨d, text⟩⟩
    · rfl
    · exact absurd heven (by simp)
    · exact absurd rfl (hshort c d text)

/-! ### The loop -/

theorem toInt_ofNat_of_lt (h : n < 2 ^ 31) : (BitVec.ofNat 32 n).toInt = n := by
  rw [BitVec.toInt_ofNat']
  apply Int.bmod_eq_of_le
  · omega
  · omega

/-- After each pass the bytes of what was read stand at the destination, the last one is in `temp`, and
all else is unchanged, what is still to be read among it. -/
theorem hexPasses_spec (hapart : Apart dst src len) (hj : 2 * j ≤ len) :
    load (hexPasses dst src m j).1 dst j = strHex2Hex 0#8 (load m src (2 * j)) ∧
      (hexPasses dst src m j).2 = (strHex2Hex 0#8 (load m src (2 * j))).getLastD 0#8 ∧
      ∀ i, i < dst ∨ dst + j ≤ i → (hexPasses dst src m j).1 i = m i := by
  induction j with
  | zero => exact ⟨rfl, rfl, fun _ _ => rfl⟩
  | succ j ih =>
    obtain ⟨hwritten, htemp, hframe⟩ := ih (by omega)
    have hhi : (hexPasses dst src m j).1 (src + 2 * j) = m (src + 2 * j) := by
      apply hframe
      rcases hapart with rfl | h | h
      · omega
      · omega
      · omega
    have hlo : (hexPasses dst src m j).1 (src + 2 * j + 1) = m (src + 2 * j + 1) := by
      apply hframe
      rcases hapart with rfl | h | h
      · omega
      · omega
      · omega
    have hread : load m src (2 * (j + 1)) =
        load m src (2 * j) ++ [m (src + 2 * j), m (src + 2 * j + 1)] := by
      rw [Nat.mul_succ, load_succ, load_succ, List.append_assoc]
      rfl
    have heven : Even (load m src (2 * j)).length := by
      rw [length_load]
      exact even_two_mul j
    have hbyte : (hexPasses dst src m (j + 1)).2 =
        hexByte ((strHex2Hex 0#8 (load m src (2 * j))).getLastD 0#8) (m (src + 2 * j))
          (m (src + 2 * j + 1)) := by
      rw [← htemp, ← hhi, ← hlo]
      rfl
    have hmemory : (hexPasses dst src m (j + 1)).1 =
        Function.update (hexPasses dst src m j).1 (dst + j) (hexPasses dst src m (j + 1)).2 := rfl
    rw [hread, strHex2Hex_append heven, ← hbyte]
    refine ⟨?_, List.getLastD_concat.symm, ?_⟩
    · have hsame : load (hexPasses dst src m (j + 1)).1 dst j = load (hexPasses dst src m j).1 dst j := by
        apply load_congr
        intro i _ hi
        rw [hmemory, Function.update_of_ne (by omega)]
      rw [load_succ, hsame, hwritten, hmemory, Function.update_self]
    · intro i hi
      rw [hmemory, Function.update_of_ne (by omega)]
      exact hframe i (by omega)

/-- The bytes of a text of an even number of hexadecimal digits, of either case, are written, and half its
length is returned; the same bytes in place and in an array apart from the text, and nothing else. -/
theorem miscStrHex2Hex_decodes (text : List Byte) (heven : Even text.length)
    (hdigits : ∀ c ∈ text, IsHexDigit c) :
    ∃ bytes, Spells text bytes ∧ bytes.length = text.length / 2 ∧
      ∀ (m : Memory) (dst src : ℕ) (srcLen : CInt), load m src text.length = text →
        srcLen.toInt = text.length → Apart dst src text.length →
        load (miscStrHex2Hex m dst src srcLen).1 dst (text.length / 2) = bytes ∧
          (miscStrHex2Hex m dst src srcLen).2.toInt = (text.length / 2 : ℕ) ∧
          ∀ i, i < dst ∨ dst + text.length / 2 ≤ i → (miscStrHex2Hex m dst src srcLen).1 i = m i := by
  obtain ⟨bytes, hspells, hlength⟩ := exists_spells heven hdigits
  refine ⟨bytes, hspells, hlength, ?_⟩
  intro m dst src srcLen hsrc hlen hapart
  have hdouble : 2 * (text.length / 2) = text.length := Nat.two_mul_div_two_of_even heven
  have hpasses : (srcLen.toInt.tdiv 2).toNat = text.length / 2 := by
    rw [hlen]
    rfl
  obtain ⟨hwritten, -, hframe⟩ := @hexPasses_spec m dst src (text.length / 2) text.length hapart (by omega)
  rw [hdouble, hsrc, strHex2Hex_of_spells hspells] at hwritten
  rw [miscStrHex2Hex, hpasses]
  refine ⟨hwritten, ?_, hframe⟩
  have hrange : srcLen.toInt < 2 ^ 31 := BitVec.toInt_lt
  exact toInt_ofNat_of_lt (by omega)

/-- The text `aB12`, in place. -/
theorem miscStrHex2Hex_in_place : ∃ m : Memory,
    load m 0 4 = "aB12".toList.map chr ∧
      load (miscStrHex2Hex m 0 0 4#32).1 0 2 = [0xab#8, 0x12#8] ∧
      (miscStrHex2Hex m 0 0 4#32).2.toInt = 2 := by
  have hall : ("aB12".toList.map chr).all (fun c => decide (IsHexDigit c)) = true := by decide
  have hdigits : ∀ c ∈ "aB12".toList.map chr, IsHexDigit c :=
    fun c hc => of_decide_eq_true (List.all_eq_true.mp hall c hc)
  obtain ⟨bytes, hspells, -, hdecodes⟩ := miscStrHex2Hex_decodes ("aB12".toList.map chr) (by decide) hdigits
  have hsrc : load (store (fun _ => 0#8) 0 ("aB12".toList.map chr)) 0 4 = "aB12".toList.map chr := load_store
  obtain ⟨hwritten, hreturned, -⟩ := hdecodes _ 0 0 4#32 hsrc (by decide) (.inl rfl)
  refine ⟨_, hsrc, hwritten.trans ?_, hreturned⟩
  exact (strHex2Hex_of_spells hspells 0#8).symm.trans (by decide)

/-! ### The arrays of the provisioning -/

/-- A last character without another one is not read. -/
theorem strHex2Hex_take (temp : Byte) (text : List Byte) :
    strHex2Hex temp (text.take (2 * (text.length / 2))) = strHex2Hex temp text := by
  fun_induction strHex2Hex temp text with
  | case1 temp c d text ih =>
    have hhalf : 2 * ((c :: d :: text).length / 2) = 2 * (text.length / 2) + 1 + 1 := by
      simp only [List.length_cons]
      omega
    rw [hhalf, List.take_succ_cons, List.take_succ_cons, strHex2Hex, ih]
  | case2 text temp hshort =>
    rcases text with _ | ⟨c, _ | ⟨d, text⟩⟩
    · rfl
    · simp [strHex2Hex]
    · exact absurd rfl (hshort c d text)

theorem length_strHex2Hex_eq (temp : Byte) (text : List Byte) :
    (strHex2Hex temp text).length = text.length / 2 := by
  fun_induction strHex2Hex temp text with
  | case1 temp c d text ih =>
    simp only [List.length_cons, ih]
    omega
  | case2 text temp hshort =>
    rcases text with _ | ⟨c, _ | ⟨d, text⟩⟩
    · rfl
    · simp
    · exact absurd rfl (hshort c d text)

/-- The array after the call with its own text, whatever this is. -/
theorem hex2Hex_in_place {k : ℕ} (t : TextArray k) (hk : k < 2 ^ 31) (m : Memory) (a : ℕ)
    (hm : load m a (k + 1) = t.bytes) :
    load (miscStrHex2Hex m a a (BitVec.ofNat 32 t.text.length)).1 a (k + 1) = t.hex2Hex.bytes := by
  have hlength := length_text t
  have htext : load m a t.text.length = t.text := by
    have hprefix : t.text <+: load m a (k + 1) := by
      rw [hm]
      exact List.takeWhile_prefix _
    rw [List.prefix_iff_eq_take.mp hprefix, take_load (by omega), length_load]
  have hpasses : ((BitVec.ofNat 32 t.text.length).toInt.tdiv 2).toNat = t.text.length / 2 := by
    rw [toInt_ofNat_of_lt (by omega)]
    rfl
  have hread : load m a (2 * (t.text.length / 2)) = t.text.take (2 * (t.text.length / 2)) := by
    rw [← take_load (Nat.mul_div_le _ _), htext]
  obtain ⟨hwritten, -, hframe⟩ := @hexPasses_spec m a a (t.text.length / 2) t.text.length (.inl rfl) (by omega)
  rw [hread, strHex2Hex_take] at hwritten
  have hbehind : load (hexPasses a a m (t.text.length / 2)).1 (a + t.text.length / 2)
      (k + 1 - t.text.length / 2) = t.bytes.drop (t.text.length / 2) := by
    rw [← hm, drop_load (by omega)]
    exact load_congr fun i hi _ => hframe i (.inr hi)
  have hsplit : k + 1 = t.text.length / 2 + (k + 1 - t.text.length / 2) := by omega
  have hbytes : t.hex2Hex.bytes = strHex2Hex 0#8 t.text ++ t.bytes.drop (strHex2Hex 0#8 t.text).length := rfl
  rw [hbytes, length_strHex2Hex_eq, miscStrHex2Hex, hpasses, hsplit, load_add, hwritten, ← hbehind]

end GokeWebcam.Server.Wifi
