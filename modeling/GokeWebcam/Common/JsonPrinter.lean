import GokeWebcam.Common.JsonReader

/-!
# Printing JSON

`cJSON_Print` and `cJSON_PrintUnformatted` of an item whose numbers are `int`s, with memory for the whole text.

* `derives_printValue`: a value that is nested no deeper than allowed is printed as one of its texts.
* `cjsonParse_cjsonPrint_iff`: exactly these values come back when the text is parsed.
* `cjsonParse_cut_of_derives`: no beginning of the text is accepted.
-/

namespace GokeWebcam.Common

open Lib

/-! ### The functions of the printer -/

/-- What a formatted text has in addition. -/
def whenFormat (format : Bool) (bytes : List Byte) : List Byte := if format then bytes else []

/-- The tabulators of a formatted line. -/
def tabs (format : Bool) (depth : ℕ) : List Byte := whenFormat format (List.replicate depth (chr '\t'))

/-- The string under a name. -/
def nameStr (name : List Char) : CStr := .ofChars name

mutual

/-- Source: `common/cJSON/cJSON.c` `print_value` -/
def printValue (format : Bool) (depth : ℕ) : CJson → List Byte
  | .null => literal "null"
  | .bool false => literal "false"
  | .bool true => literal "true"
  | .number n => (showInt n.toInt).map chr
  | .string s => (printString s).bytes
  | .array child => chr '[' :: (printElements format (depth + 1) child ++ [chr ']'])
  | .object child => chr '\x7b' :: (whenFormat format [chr '\n'] ++
      (printMembers format (depth + 1) child ++ (tabs format depth ++ [chr '\x7d'])))

/-- Source: `common/cJSON/cJSON.c` `print_array`, the loop -/
def printElements (format : Bool) (depth : ℕ) : List CJson → List Byte
  | [] => []
  | v :: later => printValue format depth v ++
      ((if later.isEmpty then [] else chr ',' :: whenFormat format [chr ' ']) ++
        printElements format depth later)

/-- Source: `common/cJSON/cJSON.c` `print_object`, the loop -/
def printMembers (format : Bool) (depth : ℕ) : List (List Char × CJson) → List Byte
  | [] => []
  | (name, v) :: later => tabs format depth ++ ((printString (nameStr name)).bytes ++
      (chr ':' :: (whenFormat format [chr '\t'] ++ (printValue format depth v ++
        ((if later.isEmpty then [] else [chr ',']) ++ (whenFormat format [chr '\n'] ++
          printMembers format depth later))))))

end

/-- The numbers of levels, and names that are strings. -/
def Nested : ℕ → CJson → Prop
  | 0, .array _ => False
  | 0, .object _ => False
  | room + 1, .array child => ∀ v ∈ child, Nested room v
  | room + 1, .object child => ∀ item ∈ child, (∀ c ∈ item.1, 0 < c.toNat ∧ c.toNat < 256) ∧ Nested room item.2
  | _, _ => True

variable {format : Bool} {depth room : ℕ} {v : CJson} {vs : List CJson} {bs rest text ws : List Byte} {b : Byte}
  {n : CInt} {str : CStr} {name : List Char} {child : List (List Char × CJson)}

/-! ### Strings -/

theorem unquoted_escape : Unquoted (escape bs) := by
  induction bs with
  | nil => exact .nil
  | cons b bs ih =>
    rw [escape_cons, escapeByte]
    split_ifs with hplain
    · exact .plain hplain.2.1 hplain.2.2 ih
    · have hdigit : ∀ k : Fin 16, hexDigit k.val ≠ chr '"' ∧ hexDigit k.val ≠ chr '\\' := by decide
      have hhigh := hdigit ⟨b.toNat / 16, by omega⟩
      have hlow := hdigit ⟨b.toNat % 16, by omega⟩
      unfold escapeCode
      split_ifs
      case neg =>
        refine .escaped (.plain (by decide) (by decide) (.plain (by decide) (by decide) ?_))
        exact .plain hhigh.1 hhigh.2 (.plain hlow.1 hlow.2 ih)
      all_goals exact .escaped ih

/-- Four digits below 128 stand for the byte. -/
theorem unescapeNext_u {c₁ c₂ c₃ c₄ : Byte} (h : parseHex4 [c₁, c₂, c₃, c₄] < 128) :
    unescapeNext (chr '\\' :: chr 'u' :: c₁ :: c₂ :: c₃ :: c₄ :: rest) =
      some ([BitVec.ofNat 8 (parseHex4 [c₁, c₂, c₃, c₄] &&& 0x7F)], 6) := by
  have hcode : parseHex4 ((chr '\\' :: chr 'u' :: c₁ :: c₂ :: c₃ :: c₄ :: rest).drop 2) =
      parseHex4 [c₁, c₂, c₃, c₄] := rfl
  have hliteral : utf16LiteralToUtf8 (chr '\\' :: chr 'u' :: c₁ :: c₂ :: c₃ :: c₄ :: rest) =
      some ([BitVec.ofNat 8 (parseHex4 [c₁, c₂, c₃, c₄] &&& 0x7F)], 6) := by
    rw [utf16LiteralToUtf8, if_neg (by simp), hcode]
    dsimp only
    rw [if_neg (by omega), if_neg (by omega), utf8Encode]
    dsimp only
    rw [if_pos h]
    rfl
  exact hliteral

theorem unescapeNext_escapeByte :
    unescapeNext (escapeByte b ++ rest) = some ([b], (escapeByte b).length) := by
  rw [escapeByte]
  split_ifs with hplain
  · exact if_pos hplain.2.2
  · unfold escapeCode
    split_ifs with h₁ h₂ h₃ h₄ h₅ h₆ h₇
    case neg =>
      have hall : ∀ b : Byte, ¬ Plain b →
          parseHex4 [chr '0', chr '0', hexDigit (b.toNat / 16), hexDigit (b.toNat % 16)] = b.toNat ∧
            b.toNat < 128 ∧ BitVec.ofNat 8 (b.toNat &&& 0x7F) = b ∨ b = chr '"' ∨ b = chr '\\' := by
        decide
      rcases hall b hplain with ⟨hcode, hlt, hb⟩ | hb | hb
      · have hread := @unescapeNext_u rest _ _ _ _ (hcode ▸ hlt)
        rw [hcode, hb] at hread
        exact hread
      · exact absurd hb h₂
      · exact absurd hb h₁
    all_goals
      subst b
      rfl

theorem unescape_escape {fuel : ℕ} (h : bs.length ≤ fuel) : unescape fuel (escape bs) = some bs := by
  induction bs generalizing fuel with
  | nil =>
    cases fuel with
    | zero => rfl
    | succ fuel => rfl
  | cons b bs ih =>
    obtain ⟨fuel, rfl⟩ := Nat.exists_eq_succ_of_ne_zero (Nat.pos_iff_ne_zero.mp (Nat.zero_lt_of_lt h))
    have hne : escape (b :: bs) ≠ [] := by
      rw [escape_cons, escapeByte]
      split_ifs <;> simp
    rw [unescape, if_neg hne, escape_cons, unescapeNext_escapeByte, Option.bind_some, List.drop_left,
      ih (Nat.le_of_succ_le_succ h)]
    rfl

theorem length_le_escape : bs.length ≤ (escape bs).length := by
  induction bs with
  | nil => exact Nat.le_refl _
  | cons b bs ih =>
    have hpos : 0 < (escapeByte b).length := by
      rw [escapeByte]
      split_ifs <;> simp
    rw [escape_cons, List.length_append, List.length_cons]
    omega

/-- A printed string is one of the texts of the string. -/
theorem stringText_printString : StringText str (printString str).bytes := by
  refine .quoted unquoted_escape (unescape_escape length_le_escape) ?_
  obtain ⟨bytes, hbytes⟩ := str
  have htake : bytes.takeWhile (· ≠ 0#8) = bytes :=
    List.takeWhile_eq_self_iff.mpr fun b hb => by simpa using hbytes b hb
  simp only [ofOutput, CStr.mk.injEq]
  exact htake.symm

/-! ### Numbers and names -/

theorem charOf_chr {c : Char} (h : c.toNat < 256) : charOf (chr c) = c := by
  rw [charOf, chr, BitVec.toNat_ofNat, Nat.mod_eq_of_lt h, Char.ofNat_toNat]

theorem chr_charOf : chr (charOf b) = b := by
  have hall : ∀ b : Byte, chr (charOf b) = b := by decide
  exact hall b

theorem isDigit_or_minus {c : Char} {v : ℤ} (h : c ∈ showInt v) : c = '-' ∨ c.isDigit = true := by
  rw [showInt] at h
  split_ifs at h
  · exact (List.mem_cons.mp h).imp id isDigit_of_mem_showNat
  · exact .inr (isDigit_of_mem_showNat h)

theorem toNat_lt_of_digit {c : Char} (h : c = '-' ∨ c.isDigit = true) : c.toNat < 256 := by
  rcases h with rfl | h
  · decide
  · simp only [Char.isDigit, Bool.and_eq_true, decide_eq_true_eq] at h
    have hle : c.val.toNat ≤ 57 := by simpa using UInt32.le_iff_toNat_le.mp h.2
    change c.val.toNat < 256
    omega

theorem map_charOf_showInt {v : ℤ} : ((showInt v).map chr).map charOf = showInt v := by
  rw [List.map_map]
  exact (List.map_congr_left fun c hc => charOf_chr (toNat_lt_of_digit (isDigit_or_minus hc))).trans (List.map_id _)

theorem valueintOf_toInt : valueintOf (n.toInt : ℚ) = n := by
  have hlt := n.toInt_lt
  have hle := n.le_toInt
  rw [valueintOf]
  split_ifs with hmax hmin
  · have hge : 2147483647 ≤ n.toInt := by exact_mod_cast hmax
    apply BitVec.eq_of_toInt_eq
    rw [show (2147483647#32 : CInt).toInt = 2147483647 by decide]
    norm_num at *
    omega
  · have hge : n.toInt ≤ -2147483648 := by exact_mod_cast hmin
    apply BitVec.eq_of_toInt_eq
    rw [show (-2147483648#32 : CInt).toInt = -2147483648 by decide]
    norm_num at *
    omega
  · rw [Rat.num_intCast, Rat.den_intCast, Nat.cast_one, Int.tdiv_one, BitVec.ofInt_toInt]

theorem length_showInt : (showInt n.toInt).length ≤ 63 := by
  have hlt := n.toInt_lt
  have hle := n.le_toInt
  have hshow : ∀ k : ℕ, k ≤ 2 ^ 31 → (showNat k).length ≤ 62 := by
    intro k hk
    refine (Nat.length_toDigits_le_iff (by decide) (by decide)).mpr (hk.trans_lt (by norm_num))
  norm_num at hlt hle
  rw [showInt]
  split_ifs
  · exact Nat.succ_le_succ (hshow _ (by omega))
  · exact (hshow _ (by omega)).trans (by decide)

/-- A printed number is one of the texts of the number. -/
theorem numberText_showInt : NumberText n ((showInt n.toInt).map chr) := by
  have hbyte : ∀ {c : Char}, c = '-' ∨ c.isDigit = true → NumberStart (chr c) := by
    intro c hc
    rw [NumberStart, charOf_chr (toNat_lt_of_digit hc)]
    exact hc.imp (congrArg chr) id
  have hnumber : ∀ b : Byte, NumberStart b → isNumberByte b = true := by decide
  have hvalue : |n.toInt| < 2 ^ 53 := by
    have hle := n.toInt_lt
    have hge := n.le_toInt
    rw [abs_lt]
    constructor
    all_goals norm_num at *; omega
  constructor
  case starts =>
    have hne : showInt n.toInt ≠ [] := by
      rw [showInt]
      split_ifs
      · simp
      · exact Nat.toDigits_ne_nil
    obtain ⟨c, later, hcons⟩ := List.exists_cons_of_ne_nil hne
    have hc : c ∈ showInt n.toInt := hcons ▸ List.mem_cons_self
    exact ⟨chr c, later.map chr, by rw [hcons]; rfl, hbyte (isDigit_or_minus hc)⟩
  case short =>
    rw [List.length_map]
    exact length_showInt
  case bytes =>
    intro b hb
    obtain ⟨c, hc, rfl⟩ := List.mem_map.mp hb
    exact hnumber _ (hbyte (isDigit_or_minus hc))
  case value =>
    exact ⟨_, by rw [map_charOf_showInt, strtod_showInt hvalue], valueintOf_toInt.symm⟩

/-- The characters of a name that is a string. -/
theorem map_charOf_nameStr (h : ∀ c ∈ name, 0 < c.toNat ∧ c.toNat < 256) :
    (nameStr name).bytes.map charOf = name := by
  have htake : (name.map chr).takeWhile (· ≠ 0#8) = name.map chr := by
    refine List.takeWhile_eq_self_iff.mpr fun b hb => ?_
    obtain ⟨c, hc, rfl⟩ := List.mem_map.mp hb
    have hne : chr c ≠ 0#8 := chr_ne_zero (by have hpos := h c hc; omega)
    simpa using hne
  have hbytes : (nameStr name).bytes = name.map chr := htake
  rw [hbytes, List.map_map]
  exact (List.map_congr_left fun c hc => charOf_chr (h c hc).2).trans (List.map_id _)

/-! ### Lists -/

theorem blanks_whenFormat (h : Blanks isBlank bs) : Blanks isBlank (whenFormat format bs) := by
  rw [whenFormat]
  split_ifs
  · exact h
  · exact List.forall_mem_nil _

theorem blanks_tabs : Blanks isBlank (tabs format depth) := by
  refine blanks_whenFormat fun b hb => ?_
  rw [List.eq_of_mem_replicate hb]
  decide

theorem blanks_singleton (h : isBlank b = true) : Blanks isBlank (whenFormat format [b]) :=
  blanks_whenFormat fun _ hc => (List.mem_singleton.mp hc) ▸ h

theorem blanks_append (h : Blanks isBlank bs) (h' : Blanks isBlank ws) : Blanks isBlank (bs ++ ws) :=
  fun b hb => (List.mem_append.mp hb).elim (h b) (h' b)

theorem blanks_nil : Blanks isBlank [] := List.forall_mem_nil _

theorem items_printElements (hne : vs ≠ [])
    (h : ∀ v ∈ vs, Derives room v (printValue format depth v)) :
    Items isBlank (chr ',') (Derives room) vs (printElements format depth vs) := by
  induction vs with
  | nil => exact absurd rfl hne
  | cons v later ih =>
    have hv := h v List.mem_cons_self
    rcases later with _ | ⟨w, later⟩
    · have hlast : Items isBlank (chr ',') (Derives room) [v] _ := .last blanks_nil hv blanks_nil
      simpa [printElements] using hlast
    · have hlater := ih (List.cons_ne_nil _ _) fun w hw => h w (List.mem_cons_of_mem _ hw)
      have hspace : Blanks isBlank (whenFormat format [chr ' ']) := blanks_singleton (by decide)
      have hcons := Items.cons blanks_nil hv blanks_nil (hlater.blanks hspace)
      simpa [printElements] using hcons

/-- The members are printed with the end of the line behind the last, and blanks may follow. -/
theorem items_printMembers (hne : child ≠ []) (hws : Blanks isBlank ws)
    (h : ∀ item ∈ child, (∀ c ∈ item.1, 0 < c.toNat ∧ c.toNat < 256) ∧
      Derives room item.2 (printValue format depth item.2)) :
    Items isBlank (chr ',') (MemberText (Derives room)) child (printMembers format depth child ++ ws) := by
  induction child with
  | nil => exact absurd rfl hne
  | cons item later ih =>
    obtain ⟨name, v⟩ := item
    obtain ⟨hname, hv⟩ := h (name, v) List.mem_cons_self
    have htabs : Blanks isBlank (tabs format depth) := blanks_tabs
    have htab : Blanks isBlank (whenFormat format [chr '\t']) := blanks_singleton (by decide)
    have hline : Blanks isBlank (whenFormat format [chr '\n']) := blanks_singleton (by decide)
    have hmember : MemberText (Derives room) (name, v) ((printString (nameStr name)).bytes ++
        ([] ++ chr ':' :: (whenFormat format [chr '\t'] ++ printValue format depth v))) := by
      have hmk := MemberText.mk (@stringText_printString (nameStr name)) blanks_nil htab hv
      rwa [map_charOf_nameStr hname] at hmk
    rcases later with _ | ⟨other, later⟩
    · have hlast : Items isBlank (chr ',') (MemberText (Derives room)) [(name, v)] _ :=
        .last htabs hmember (blanks_append hline hws)
      simpa [printMembers] using hlast
    · have hlater := ih (List.cons_ne_nil _ _) fun item hitem => h item (List.mem_cons_of_mem _ hitem)
      have hcons := Items.cons htabs hmember blanks_nil (hlater.blanks hline)
      simpa [printMembers] using hcons

theorem scalarText_printValue (h : Nested 0 v) : ScalarText v (printValue format depth v) := by
  cases v with
  | null => exact .null
  | bool value =>
    cases value with
    | false => exact .false
    | true => exact .true
  | number n => exact .number numberText_showInt
  | string s => exact .string stringText_printString
  | array child => exact absurd h id
  | object child => exact absurd h id

/-- A value that is nested no deeper than allowed is printed as one of its texts. -/
theorem derives_printValue (h : Nested room v) : Derives room v (printValue format depth v) := by
  induction room generalizing v depth with
  | zero => exact scalarText_printValue h
  | succ room ih =>
    cases v with
    | array child =>
      refine .inr (.array ?_)
      rcases child with _ | ⟨v, later⟩
      · exact .empty blanks_nil
      · exact .items (items_printElements (List.cons_ne_nil _ _) fun w hw => ih (h w hw))
    | object child =>
      rw [printValue]
      refine .inr (.object ?_)
      have hline : Blanks isBlank (whenFormat format [chr '\n']) := blanks_singleton (by decide)
      have htabs : Blanks isBlank (tabs format depth) := blanks_tabs
      rcases child with _ | ⟨item, later⟩
      · have hempty := @Enclosed.empty _ _ isBlank (chr ',') (chr '\x7d') (MemberText (Derives room)) _
          (blanks_append hline htabs)
        simpa [printMembers] using hempty
      · have hitems : Items isBlank (chr ',') (MemberText (Derives room)) (item :: later)
            (printMembers format (depth + 1) (item :: later) ++ tabs format depth) :=
          items_printMembers (List.cons_ne_nil item later) htabs fun w hw => ⟨(h w hw).1, ih (h w hw).2⟩
        have henclosed := @Enclosed.items _ _ _ _ (chr '\x7d') _ _ _ (hitems.blanks hline)
        simpa using henclosed
    | null => exact .inl (scalarText_printValue trivial)
    | bool value => exact .inl (scalarText_printValue trivial)
    | number n => exact .inl (scalarText_printValue trivial)
    | string s => exact .inl (scalarText_printValue trivial)

/-! ### Round trip -/

/-- A value that has a text is nested no deeper than allowed. -/
theorem nested_of_derives (h : Derives room v text) : Nested room v := by
  have hscalar : ∀ {room : ℕ} {v : CJson} {text : List Byte}, ScalarText v text → Nested room v := by
    intro room v text h
    cases h
    all_goals cases room <;> trivial
  have hname : ∀ b : Byte, b ≠ 0#8 → 0 < (charOf b).toNat ∧ (charOf b).toNat < 256 := by decide
  induction room generalizing v text with
  | zero => exact hscalar h
  | succ room ih =>
    rcases h with h | h
    · exact hscalar h
    · cases h with
      | array hchild =>
        intro v hv
        obtain ⟨t, ht⟩ := hchild.exists_text v hv
        exact ih ht
      | object hchild =>
        intro item hitem
        obtain ⟨t, ht⟩ := hchild.exists_text item hitem
        cases ht with
        | @mk name v _ _ _ _ _ _ _ hv =>
          refine ⟨fun c hc => ?_, ih hv⟩
          obtain ⟨b, hb, rfl⟩ := List.mem_map.mp hc
          exact hname b (name.noNul b hb)

theorem whenFormat_ne_zero (h : ∀ b ∈ bs, b ≠ 0#8) : ∀ b ∈ whenFormat format bs, b ≠ 0#8 := by
  rw [whenFormat]
  split_ifs
  · exact h
  · exact List.forall_mem_nil _

theorem tabs_ne_zero : ∀ b ∈ tabs format depth, b ≠ 0#8 := by
  refine whenFormat_ne_zero fun b hb => ?_
  rw [List.eq_of_mem_replicate hb]
  decide

theorem showInt_ne_zero : ∀ b ∈ (showInt n.toInt).map chr, b ≠ 0#8 := by
  intro b hb hzero
  have hbyte := (numberText_showInt (n := n)).bytes b hb
  rw [hzero] at hbyte
  exact absurd hbyte (by decide)

mutual

theorem printValue_ne_zero (format : Bool) (depth : ℕ) : ∀ v, ∀ b ∈ printValue format depth v, b ≠ 0#8
  | .null => (by decide : ∀ b ∈ literal "null", b ≠ 0#8)
  | .bool false => (by decide : ∀ b ∈ literal "false", b ≠ 0#8)
  | .bool true => (by decide : ∀ b ∈ literal "true", b ≠ 0#8)
  | .number _ => showInt_ne_zero
  | .string s => (printString s).noNul
  | .array child => by
    have hchild := printElements_ne_zero format (depth + 1) child
    simp only [printValue, List.forall_mem_cons, List.forall_mem_append]
    exact ⟨by decide, hchild, by decide, List.forall_mem_nil _⟩
  | .object child => by
    have hchild := printMembers_ne_zero format (depth + 1) child
    have hline : ∀ b ∈ whenFormat format [chr '\n'], b ≠ 0#8 := whenFormat_ne_zero (by decide)
    have htabs : ∀ b ∈ tabs format depth, b ≠ 0#8 := tabs_ne_zero
    simp only [printValue, List.forall_mem_cons, List.forall_mem_append]
    exact ⟨by decide, hline, hchild, htabs, by decide, List.forall_mem_nil _⟩

theorem printElements_ne_zero (format : Bool) (depth : ℕ) :
    ∀ vs, ∀ b ∈ printElements format depth vs, b ≠ 0#8
  | [] => List.forall_mem_nil _
  | v :: later => by
    have hv := printValue_ne_zero format depth v
    have hlater := printElements_ne_zero format depth later
    have hspace : ∀ b ∈ whenFormat format [chr ' '], b ≠ 0#8 := whenFormat_ne_zero (by decide)
    simp only [printElements, List.forall_mem_append]
    refine ⟨hv, ?_, hlater⟩
    split_ifs
    · exact List.forall_mem_nil _
    · exact List.forall_mem_cons.mpr ⟨by decide, hspace⟩

theorem printMembers_ne_zero (format : Bool) (depth : ℕ) :
    ∀ child, ∀ b ∈ printMembers format depth child, b ≠ 0#8
  | [] => List.forall_mem_nil _
  | (name, v) :: later => by
    have hv := printValue_ne_zero format depth v
    have hlater := printMembers_ne_zero format depth later
    have htab : ∀ b ∈ whenFormat format [chr '\t'], b ≠ 0#8 := whenFormat_ne_zero (by decide)
    have hline : ∀ b ∈ whenFormat format [chr '\n'], b ≠ 0#8 := whenFormat_ne_zero (by decide)
    simp only [printMembers, List.forall_mem_append, List.forall_mem_cons]
    refine ⟨tabs_ne_zero, (printString (nameStr name)).noNul, by decide, htab, hv, ?_, hline, hlater⟩
    split_ifs
    · exact List.forall_mem_nil _
    · decide

end

/-- Source: `common/cJSON/cJSON.c` `cJSON_Print`, `cJSON_PrintUnformatted` -/
def cjsonPrint (format : Bool) (item : CJson) : CStr :=
  ⟨printValue format 0 item, printValue_ne_zero format 0 item⟩

/-- What is parsed of the text of a value. -/
theorem cjsonParse_of_derives {value : CStr} (h : Derives cjsonNestingLimit v value.bytes) :
    cjsonParse value = some v := by
  have hzero : Ends [0#8] := by
    intro b hb
    rw [← Option.some.inj hb]
    decide
  have hbom : skipUtf8Bom (value.bytes ++ [0#8]) = value.bytes ++ [0#8] := by
    have hskip : skipUtf8Bom ([] ++ ([] ++ (value.bytes ++ ([] ++ [0#8])))) =
        [] ++ (value.bytes ++ ([] ++ [0#8])) := skipUtf8Bom_append (.inl rfl) blanks_nil h
    simpa using hskip
  have hblank : bufferSkipWhitespace (value.bytes ++ [0#8]) = value.bytes ++ [0#8] :=
    skipBlank_begins blanks_nil (derives_begins (.inl rfl) h)
  rw [cjsonParse, hbom, hblank, parseValue_of_text h fun _ => hzero]
  rfl

/-- The text of a value is read as the value iff it is nested no deeper than the limit, with names that are
strings. -/
theorem cjsonParse_cjsonPrint_iff (format : Bool) (v : CJson) :
    cjsonParse (cjsonPrint format v) = some v ↔ Nested cjsonNestingLimit v := by
  constructor
  · intro h
    obtain ⟨⟨w, rest⟩, hread, rfl⟩ := Option.map_eq_some_iff.mp h
    by_cases hnumber : w.isNumber = true
    · cases w with
      | number n => trivial
      | null | bool _ | string _ | array _ | object _ => cases hnumber
    · obtain ⟨text, -, htext⟩ := text_of_parseValue hread fun h => absurd h hnumber
      exact nested_of_derives htext
  · exact fun h => cjsonParse_of_derives (derives_printValue h)

/-! ### Beginnings of a text -/

/-- The first bytes of a string. -/
def cut (str : CStr) (k : ℕ) : CStr := ⟨str.bytes.take k, fun b hb => str.noNul b (List.mem_of_mem_take hb)⟩

/-- Only a number begins like one. -/
theorem numberStart_iff (h : parseValue room (b :: text) = some (v, rest)) : v.isNumber = true ↔ NumberStart b := by
  have hvalue : ∃ array object, valueBy array object (b :: text) = some (v, rest) := by
    cases room with
    | zero => exact ⟨_, _, h⟩
    | succ room => exact ⟨_, _, h⟩
  obtain ⟨array, object, hvalue⟩ := hvalue
  constructor
  · intro hnumber
    have hmapped : ∀ {α : Type} {read : Option (α × List Byte)} {f : α × List Byte → CJson × List Byte},
        read.map f = some (v, rest) → (∀ a, (f a).1.isNumber = false) → NumberStart b := by
      intro α read f heq hnot
      obtain ⟨a, -, ha⟩ := Option.map_eq_some_iff.mp heq
      have hfalse := hnot a
      rw [ha, hnumber] at hfalse
      cases hfalse
    rw [valueBy] at hvalue
    split_ifs at hvalue with hnull hfalse htrue hquote hstart
    · cases hvalue
      cases hnumber
    · cases hvalue
      cases hnumber
    · cases hvalue
      cases hnumber
    · exact hmapped hvalue fun _ => rfl
    · simpa [NumberStart] using hstart
    · exact hmapped hvalue fun _ => rfl
    · exact hmapped hvalue fun _ => rfl
  · intro hstart
    have hother : ∀ c : Byte, NumberStart c → c ≠ chr 'n' ∧ c ≠ chr 'f' ∧ c ≠ chr 't' ∧ c ≠ chr '"' := by
      decide
    obtain ⟨hn, hf, ht, hquote⟩ := hother b hstart
    rw [valueBy_cons hn hf ht, if_neg hquote, if_pos hstart] at hvalue
    obtain ⟨read, -, heq⟩ := Option.map_eq_some_iff.mp hvalue
    cases heq
    rfl

/-- No beginning of a text is accepted, unless it is that of a number. -/
theorem cjsonParse_cut_of_derives {value : CStr} {k : ℕ} (h : Derives cjsonNestingLimit v value.bytes)
    (hv : v.isNumber = false) (hk : k < value.strlen) : cjsonParse (cut value k) = none := by
  have hread : parseValue cjsonNestingLimit (value.bytes ++ [0#8]) = some (v, [0#8]) :=
    parseValue_of_text h fun hnumber => absurd hnumber (by simp [hv])
  by_contra hne
  obtain ⟨w, hw⟩ := Option.ne_none_iff_exists'.mp hne
  obtain ⟨⟨w, rest⟩, hshort, rfl⟩ := Option.map_eq_some_iff.mp hw
  have hcut : (cut value k).bytes = value.bytes.take k := rfl
  have hinput : bufferSkipWhitespace (skipUtf8Bom (value.bytes.take k ++ [0#8])) = value.bytes.take k ++ [0#8] ∧
      ∃ b tail, value.bytes.take k ++ [0#8] = b :: tail ∧ ¬ NumberStart b := by
    obtain ⟨c, later, hcons, hc, hbom⟩ := derives_begins (.inr (.inr rfl)) h
    rw [hcons] at hread ⊢
    rcases k with _ | ⟨k⟩
    · exact ⟨rfl, 0#8, [], rfl, by decide⟩
    · have hmark : skipUtf8Bom (c :: (later.take k ++ [0#8])) = c :: (later.take k ++ [0#8]) := by
        refine if_neg fun hmark => hbom ?_
        exact (List.cons.inj hmark.2).1
      have hblank : bufferSkipWhitespace (c :: (later.take k ++ [0#8])) = c :: (later.take k ++ [0#8]) :=
        skipBlank_append blanks_nil hc
      rw [List.take_succ_cons, List.cons_append, hmark, hblank]
      refine ⟨rfl, c, _, rfl, fun hstart => ?_⟩
      rw [(numberStart_iff hread).mpr hstart] at hv
      cases hv
  obtain ⟨hskip, b, tail, hcons, hstart⟩ := hinput
  rw [hcut, hskip] at hshort
  have hnot : ¬ w.isNumber = true := fun hnumber => hstart ((numberStart_iff (hcons ▸ hshort)).mp hnumber)
  obtain ⟨text, htext, hderives⟩ := text_of_parseValue hshort fun hnumber => absurd hnumber hnot
  obtain ⟨behind, rfl, htake⟩ := @exists_of_terminated _ _ _ _ _ [] hderives htext
  -- what was read of the beginning is read of the whole text too, and more is left there
  have hwhole : value.bytes ++ [0#8] = text ++ (behind ++ (value.bytes.drop k ++ [0#8])) := by
    rw [← List.append_assoc, ← List.append_assoc, ← List.nil_append (text ++ behind), ← htake,
      List.take_append_drop]
  have hagain : parseValue cjsonNestingLimit (text ++ (behind ++ (value.bytes.drop k ++ [0#8]))) =
      some (w, behind ++ (value.bytes.drop k ++ [0#8])) :=
    parseValue_of_text hderives fun hnumber => absurd hnumber hnot
  rw [← hwhole, hread] at hagain
  have hlength := congrArg List.length (congrArg Prod.snd (Option.some.inj hagain))
  simp only [List.length_append, List.length_drop, List.length_singleton] at hlength
  rw [CStr.strlen] at hk
  omega

/-- No beginning of the text of a value that is not a number is accepted. -/
theorem cjsonParse_cut (format : Bool) (v : CJson) (k : ℕ) (hnested : Nested cjsonNestingLimit v)
    (hv : v.isNumber = false) (hk : k < (cjsonPrint format v).strlen) :
    cjsonParse (cut (cjsonPrint format v) k) = none :=
  cjsonParse_cut_of_derives (derives_printValue hnested) hv hk

theorem cjsonParse_cut_emptyObject : cjsonParse (cut (cjsonPrint true (.object [])) 2) = none :=
  cjsonParse_cut true (.object []) 2 (fun _ hitem => absurd hitem List.not_mem_nil) rfl (by decide)

end GokeWebcam.Common
