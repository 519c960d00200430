import GokeWebcam.Common.JsonText
import GokeWebcam.Lib.Decimal
import GokeWebcam.Lib.Separated

/-!
# Reading JSON

`cJSON_Parse`. The input of a function is the content of the buffer from the offset on, with the zero that
ends it; a failure has no result, and memory is always there. What is left of the depth goes down with each
array or object until there is none.

* `Derives`: the texts of a value that is nested no deeper than allowed.
* `parseValue_of_text`, `text_of_parseValue`: these are what `parse_value` takes off its input.
* `cjsonParse_iff`: what `cJSON_Parse` accepts, for a value that is not a number.
-/

namespace GokeWebcam.Common

open Lib

/-! ### The functions of the parser -/

/-- The bytes of a string literal. -/
def literal (s : String) : List Byte := s.toList.map chr

/-- The character of a byte. -/
def charOf (b : Byte) : Char := Char.ofNat b.toNat

/-- A byte that `buffer_skip_whitespace` steps over, the zero at the end too.
Source: `common/cJSON/cJSON.c` `buffer_skip_whitespace` -/
def isBlank (b : Byte) : Bool := b ≤ 32#8

/-- Source: `common/cJSON/cJSON.c` `buffer_skip_whitespace` -/
def bufferSkipWhitespace (input : List Byte) : List Byte := skipBlank isBlank input

/-- Source: `common/cJSON/cJSON.c` `parse_number`, the cases of the loop -/
def isNumberByte (b : Byte) : Bool :=
  (charOf b).isDigit || b = chr '+' || b = chr '-' || b = chr 'e' || b = chr 'E' || b = chr '.'

/-- The `int` of a number, the nearest one where it does not fit.
Source: `common/cJSON/cJSON.c` `parse_number` -/
def valueintOf (number : ℚ) : CInt :=
  if 2147483647 ≤ number then 2147483647#32
  else if number ≤ -2147483648 then -2147483648#32
  else BitVec.ofInt 32 (number.num.tdiv number.den)

/-- Source: `common/cJSON/cJSON.c` `parse_number` -/
def parseNumber : Reader Byte CInt := fun input =>
  let numberCString := ((input.take 63).takeWhile isNumberByte).map charOf
  (strtod numberCString).map fun number =>
    (valueintOf number.1, input.drop (numberCString.length - number.2.length))

/-- The value of a digit. -/
def hexValue (b : Byte) : Option ℕ :=
  if chr '0' ≤ b ∧ b ≤ chr '9' then some (b.toNat - 48)
  else if chr 'A' ≤ b ∧ b ≤ chr 'F' then some (10 + b.toNat - 65)
  else if chr 'a' ≤ b ∧ b ≤ chr 'f' then some (10 + b.toNat - 97)
  else none

/-- Four digits, or zero when one of them is none.
Source: `common/cJSON/cJSON.c` `parse_hex4` -/
def parseHex4 (input : List Byte) : ℕ :=
  ((input.take 4).foldlM (fun h b => (hexValue b).map (16 * h + ·)) 0).getD 0

/-- The bytes behind the first, and what is left of the code point for that.
Source: `common/cJSON/cJSON.c` `utf16_literal_to_utf8`, the loop -/
def utf8Tail : ℕ → ℕ → ℕ × List Byte
  | 0, codepoint => (codepoint, [])
  | k + 1, codepoint =>
    let front := utf8Tail k (codepoint >>> 6)
    (front.1, front.2 ++ [BitVec.ofNat 8 ((codepoint ||| 0x80) &&& 0xBF)])

/-- Source: `common/cJSON/cJSON.c` `utf16_literal_to_utf8`, from the code point on -/
def utf8Encode (codepoint : ℕ) : Option (List Byte) :=
  let encoded (k mark : ℕ) : List Byte :=
    let tail := utf8Tail k codepoint
    BitVec.ofNat 8 ((tail.1 ||| mark) &&& 0xFF) :: tail.2
  if codepoint < 0x80 then some [BitVec.ofNat 8 (codepoint &&& 0x7F)]
  else if codepoint < 0x800 then some (encoded 1 0xC0)
  else if codepoint < 0x10000 then some (encoded 2 0xE0)
  else if codepoint ≤ 0x10FFFF then some (encoded 3 0xF0)
  else none

/-- The bytes that are written, and how many are read.
Source: `common/cJSON/cJSON.c` `utf16_literal_to_utf8` -/
def utf16LiteralToUtf8 (input : List Byte) : Option (List Byte × ℕ) :=
  if input.length < 6 then none
  else
    let firstCode := parseHex4 (input.drop 2)
    if 0xDC00 ≤ firstCode ∧ firstCode ≤ 0xDFFF then none
    else if 0xD800 ≤ firstCode ∧ firstCode ≤ 0xDBFF then
      let second := input.drop 6
      if second.length < 6 then none
      else if second.take 2 ≠ literal "\\u" then none
      else
        let secondCode := parseHex4 (second.drop 2)
        if secondCode < 0xDC00 ∨ 0xDFFF < secondCode then none
        else
          (utf8Encode (0x10000 + (((firstCode &&& 0x3FF) <<< 10) ||| (secondCode &&& 0x3FF)))).map (·, 12)
    else (utf8Encode firstCode).map (·, 6)

/-- What a round of the loop over a string writes, and how many bytes it reads. Behind the last byte stands
the quote that ends the string, and a backslash there is read with it.
Source: `common/cJSON/cJSON.c` `parse_string` -/
def unescapeNext (input : List Byte) : Option (List Byte × ℕ) :=
  let b := input.headD (chr '"')
  let c := input.tail.headD (chr '"')
  if b ≠ chr '\\' then some ([b], 1)
  else if c = chr 'b' then some ([8#8], 2)
  else if c = chr 'f' then some ([12#8], 2)
  else if c = chr 'n' then some ([10#8], 2)
  else if c = chr 'r' then some ([13#8], 2)
  else if c = chr 't' then some ([9#8], 2)
  else if c = chr '"' ∨ c = chr '\\' ∨ c = chr '/' then some ([c], 2)
  else if c = chr 'u' then utf16LiteralToUtf8 input
  else none

/-- Source: `common/cJSON/cJSON.c` `parse_string`, the second loop -/
def unescape : ℕ → List Byte → Option (List Byte)
  | 0, input => if input = [] then some [] else none
  | fuel + 1, input =>
    if input = [] then some []
    else (unescapeNext input).bind fun next => (unescape fuel (input.drop next.2)).map (next.1 ++ ·)

/-- The bytes up to the quote that ends the string, and those behind it.
Source: `common/cJSON/cJSON.c` `parse_string`, the first loop -/
def scanString : List Byte → Option (List Byte × List Byte)
  | [] => none
  | [b] => if b = chr '"' then some ([], []) else none
  | b :: c :: rest =>
    if b = chr '"' then some ([], c :: rest)
    else if b = chr '\\' then (scanString rest).map fun scanned => (b :: c :: scanned.1, scanned.2)
    else (scanString (c :: rest)).map fun scanned => (b :: scanned.1, scanned.2)

/-- The string in the bytes that were written. -/
def ofOutput (output : List Byte) : CStr :=
  ⟨output.takeWhile (· ≠ 0#8), fun _ hb => by simpa using List.mem_takeWhile_imp hb⟩

/-- Source: `common/cJSON/cJSON.c` `parse_string` -/
def parseString : Reader Byte CStr := fun input =>
  if input.head? ≠ some (chr '"') then none
  else
    (scanString input.tail).bind fun scanned =>
      (unescape scanned.1.length scanned.1).map fun output => (ofOutput output, scanned.2)

/-- Source: `common/cJSON/cJSON.c` `parse_array` -/
def parseArray (value : Reader Byte CJson) : Reader Byte (List CJson) :=
  fun input => enclosed isBlank (chr ',') (chr ']') value input.tail

/-- A name and its value.
Source: `common/cJSON/cJSON.c` `parse_object`, the loop -/
def parseMember (value : Reader Byte CJson) : Reader Byte (List Char × CJson) := fun input =>
  (parseString input).bind fun name =>
    let input := bufferSkipWhitespace name.2
    if input.head? = some (chr ':') then
      (value (bufferSkipWhitespace input.tail)).map fun item => ((name.1.bytes.map charOf, item.1), item.2)
    else none

/-- Source: `common/cJSON/cJSON.c` `parse_object` -/
def parseObject (value : Reader Byte CJson) : Reader Byte (List (List Char × CJson)) :=
  fun input => enclosed isBlank (chr ',') (chr '\x7d') (parseMember value) input.tail

/-- The cases of a value, with the readers of arrays and of objects.
Source: `common/cJSON/cJSON.c` `parse_value` -/
def valueBy (array : Reader Byte (List CJson)) (object : Reader Byte (List (List Char × CJson))) :
    Reader Byte CJson := fun input =>
  if (literal "null").isPrefixOf input then some (.null, input.drop 4)
  else if (literal "false").isPrefixOf input then some (.bool false, input.drop 5)
  else if (literal "true").isPrefixOf input then some (.bool true, input.drop 4)
  else if input.head? = some (chr '"') then (parseString input).map fun s => (.string s.1, s.2)
  else if input.head?.any fun b => b = chr '-' || (charOf b).isDigit then
    (parseNumber input).map fun n => (.number n.1, n.2)
  else if input.head? = some (chr '[') then (array input).map fun child => (.array child.1, child.2)
  else if input.head? = some (chr '\x7b') then (object input).map fun child => (.object child.1, child.2)
  else none

/-- The number is that of the levels that are left, up to `CJSON_NESTING_LIMIT`.
Source: `common/cJSON/cJSON.c` `parse_value` -/
def parseValue : ℕ → Reader Byte CJson
  | 0 => valueBy (fun _ => none) fun _ => none
  | room + 1 => valueBy (parseArray (parseValue room)) (parseObject (parseValue room))

/-- Source: `common/cJSON/cJSON.h` `CJSON_NESTING_LIMIT` -/
def cjsonNestingLimit : ℕ := 1000

/-- Source: `common/cJSON/cJSON.c` `skip_utf8_bom` -/
def skipUtf8Bom (input : List Byte) : List Byte :=
  if 4 < input.length ∧ input.take 3 = [0xEF#8, 0xBB#8, 0xBF#8] then input.drop 3 else input

/-- Source: `common/cJSON/cJSON.c` `cJSON_Parse` -/
def cjsonParse (value : CStr) : Option CJson :=
  (parseValue cjsonNestingLimit (bufferSkipWhitespace (skipUtf8Bom (value.bytes ++ [0#8])))).map (·.1)

/-! ### The texts of a value -/

/-- No byte of a number comes next. -/
def Ends (rest : List Byte) : Prop := ∀ b, rest.head? = some b → isNumberByte b = false

/-- A byte that a number begins with. -/
def NumberStart (b : Byte) : Prop := b = chr '-' ∨ (charOf b).isDigit = true

instance : DecidablePred NumberStart := fun _ => inferInstanceAs (Decidable (_ ∨ _))

/-- The texts of a number. -/
structure NumberText (n : CInt) (text : List Byte) : Prop where
  starts : ∃ b later, text = b :: later ∧ NumberStart b
  short : text.length ≤ 63
  bytes : ∀ b ∈ text, isNumberByte b = true
  value : ∃ number, strtod (text.map charOf) = some (number, []) ∧ n = valueintOf number

/-- Every quote stands behind a backslash, and no backslash stands alone at the end. -/
inductive Unquoted : List Byte → Prop
  | nil : Unquoted []
  | plain {b body} (quote : b ≠ chr '"') (backslash : b ≠ chr '\\') (later : Unquoted body) :
      Unquoted (b :: body)
  | escaped {c body} (later : Unquoted body) : Unquoted (chr '\\' :: c :: body)

/-- The texts of a string. -/
inductive StringText (s : CStr) : List Byte → Prop
  | quoted {body output} (closed : Unquoted body) (value : unescape body.length body = some output)
      (string : s = ofOutput output) : StringText s (chr '"' :: (body ++ [chr '"']))

/-- The texts of a name and its value. -/
inductive MemberText (Text : CJson → List Byte → Prop) : List Char × CJson → List Byte → Prop
  | mk {name v front ws ws' text} (string : StringText name front) (before : Blanks isBlank ws)
      (behind : Blanks isBlank ws') (value : Text v text) :
      MemberText Text (name.bytes.map charOf, v) (front ++ (ws ++ chr ':' :: (ws' ++ text)))

/-- The texts of a value that is neither an array nor an object. -/
inductive ScalarText : CJson → List Byte → Prop
  | null : ScalarText .null (literal "null")
  | false : ScalarText (.bool false) (literal "false")
  | true : ScalarText (.bool true) (literal "true")
  | string {s text} (h : StringText s text) : ScalarText (.string s) text
  | number {n text} (h : NumberText n text) : ScalarText (.number n) text

/-- The texts of an array or an object. -/
inductive ContainerText (Text : CJson → List Byte → Prop) : CJson → List Byte → Prop
  | array {child text} (h : Enclosed isBlank (chr ',') (chr ']') Text child text) :
      ContainerText Text (.array child) (chr '[' :: text)
  | object {child text} (h : Enclosed isBlank (chr ',') (chr '\x7d') (MemberText Text) child text) :
      ContainerText Text (.object child) (chr '\x7b' :: text)

/-- The texts of a value with no more levels of arrays and objects than `room`. -/
def Derives : ℕ → CJson → List Byte → Prop
  | 0, v, text => ScalarText v text
  | room + 1, v, text => ScalarText v text ∨ ContainerText (Derives room) v text

variable {input rest text body output : List Byte} {b c : Byte} {n : CInt} {s : CStr} {v : CJson} {room : ℕ}

/-! ### Numbers -/

theorem parseNumber_of_text (h : NumberText n text) (hrest : Ends rest) :
    parseNumber (text ++ rest) = some (n, rest) := by
  obtain ⟨number, hvalue, rfl⟩ := h.value
  have hstop : rest.takeWhile isNumberByte = [] := by
    rw [List.takeWhile_eq_nil_iff]
    intro hpos
    have hhead := hrest (rest[0]) (by simp [List.head?_eq_getElem?])
    simp [hhead]
  have htake : ((text ++ rest).take 63).takeWhile isNumberByte = text := by
    rw [← List.take_takeWhile, List.takeWhile_append_of_pos h.bytes, hstop, List.append_nil,
      List.take_of_length_le h.short]
  rw [parseNumber]
  simp [htake, hvalue]

/-- Where no byte of a number comes next, all bytes of the number were read. -/
theorem text_of_parseNumber (hstarts : ∃ b later, input = b :: later ∧ NumberStart b)
    (h : parseNumber input = some (n, rest)) (hrest : Ends rest) :
    ∃ text, input = text ++ rest ∧ NumberText n text := by
  have hprefix : (input.take 63).takeWhile isNumberByte <+: input :=
    (List.takeWhile_prefix _).trans (List.take_prefix _ _)
  have hbytes : ∀ b ∈ (input.take 63).takeWhile isNumberByte, isNumberByte b = true :=
    fun b hb => List.mem_takeWhile_imp hb
  have hshort : ((input.take 63).takeWhile isNumberByte).length ≤ 63 :=
    (List.takeWhile_prefix _).length_le.trans (List.length_take_le _ _)
  rw [parseNumber] at h
  generalize (input.take 63).takeWhile isNumberByte = text at h hprefix hbytes hshort
  obtain ⟨later, rfl⟩ := hprefix
  obtain ⟨⟨number, left⟩, hvalue, heq⟩ := Option.map_eq_some_iff.mp h
  obtain ⟨rfl, rfl⟩ := Prod.mk.injEq _ _ _ _ ▸ heq
  obtain ⟨front, hfront⟩ := strtod_suffix hvalue
  have hleft : left = [] := by
    rcases left with _ | ⟨c, left⟩
    · rfl
    · have hlength := congrArg List.length hfront
      simp only [List.length_append, List.length_cons, List.length_map] at hlength
      have hlt : front.length < text.length := by omega
      have hread : (text.map charOf).length - (c :: left).length = front.length := by
        simp only [List.length_map, List.length_cons]
        omega
      have hnext := hrest text[front.length] (by
        rw [hread, List.head?_drop, List.getElem?_append_left hlt, List.getElem?_eq_getElem hlt])
      rw [hbytes _ (List.getElem_mem hlt)] at hnext
      cases hnext
  subst hleft
  have hall : (text ++ later).drop ((text.map charOf).length - ([] : List Char).length) = later := by simp
  refine ⟨text, by rw [hall], ?_, hshort, hbytes, number, hvalue, rfl⟩
  obtain ⟨b, behind, hcons, hb⟩ := hstarts
  rcases text with _ | ⟨c, text⟩
  · cases hvalue
  · rw [List.cons_append, List.cons.injEq] at hcons
    exact ⟨c, text, rfl, hcons.1 ▸ hb⟩

/-! ### Strings -/

theorem scanString_of_closed (h : Unquoted body) : scanString (body ++ chr '"' :: rest) = some (body, rest) := by
  induction h with
  | nil =>
    rcases rest with _ | ⟨c, rest⟩
    · simp [scanString]
    · simp [scanString]
  | @plain b body hquote hback _ ih =>
    rcases hinput : body ++ chr '"' :: rest with _ | ⟨c, later⟩
    · simp at hinput
    · rw [List.cons_append, hinput, scanString, if_neg hquote, if_neg hback, ← hinput, ih]
      rfl
  | escaped _ ih =>
    rw [List.cons_append, List.cons_append, scanString, if_neg (by decide), if_pos rfl, ih]
    rfl

theorem closed_of_scanString (h : scanString input = some (body, rest)) :
    input = body ++ chr '"' :: rest ∧ Unquoted body := by
  fun_induction scanString input generalizing body with
  | case1 => cases h
  | case2 =>
    cases h
    exact ⟨rfl, .nil⟩
  | case3 => cases h
  | case4 =>
    cases h
    exact ⟨rfl, .nil⟩
  | case5 c rest' hquote ih =>
    obtain ⟨⟨body', rest''⟩, hscan, heq⟩ := Option.map_eq_some_iff.mp h
    obtain ⟨rfl, rfl⟩ := Prod.mk.injEq _ _ _ _ ▸ heq
    obtain ⟨rfl, hclosed⟩ := ih hscan
    exact ⟨rfl, .escaped hclosed⟩
  | case6 b c rest' hquote hback ih =>
    obtain ⟨⟨body', rest''⟩, hscan, heq⟩ := Option.map_eq_some_iff.mp h
    obtain ⟨rfl, rfl⟩ := Prod.mk.injEq _ _ _ _ ▸ heq
    obtain ⟨hcons, hclosed⟩ := ih hscan
    exact ⟨by rw [hcons]; rfl, .plain hquote hback hclosed⟩

theorem parseString_of_text (h : StringText s text) : parseString (text ++ rest) = some (s, rest) := by
  obtain ⟨hclosed, hvalue, rfl⟩ := h
  rw [parseString]
  simp [scanString_of_closed hclosed, hvalue]

theorem text_of_parseString (h : parseString input = some (s, rest)) :
    ∃ text, input = text ++ rest ∧ StringText s text := by
  rw [parseString] at h
  split_ifs at h with hquote
  obtain ⟨later, rfl⟩ := List.head?_eq_some_iff.mp (not_not.mp hquote)
  obtain ⟨⟨body, rest'⟩, hscan, h⟩ := Option.bind_eq_some_iff.mp h
  obtain ⟨output, hvalue, heq⟩ := Option.map_eq_some_iff.mp h
  obtain ⟨rfl, rfl⟩ := Prod.mk.injEq _ _ _ _ ▸ heq
  rw [List.tail_cons] at hscan
  obtain ⟨rfl, hclosed⟩ := closed_of_scanString hscan
  exact ⟨_, by simp, .quoted hclosed hvalue rfl⟩

/-! ### Values -/

variable {array : Reader Byte (List CJson)} {object : Reader Byte (List (List Char × CJson))}
  {value : Reader Byte CJson} {Text : CJson → List Byte → Prop} {item : List Char × CJson}

theorem literal_cons (a : Char) (s : List Char) :
    literal (String.ofList (a :: s)) = chr a :: s.map chr := by simp [literal]

theorem isPrefixOf_literal {a : Char} {s : List Char} (h : b ≠ chr a) :
    (literal (String.ofList (a :: s))).isPrefixOf (b :: rest) = false := by
  rw [literal_cons, List.isPrefixOf_cons_cons]
  simp [Ne.symm h]

/-- Apart from the three names, the first byte decides. -/
theorem valueBy_cons (hn : b ≠ chr 'n') (hf : b ≠ chr 'f') (ht : b ≠ chr 't') :
    valueBy array object (b :: rest) =
      if b = chr '"' then (parseString (b :: rest)).map fun s => (.string s.1, s.2)
      else if NumberStart b then (parseNumber (b :: rest)).map fun n => (.number n.1, n.2)
      else if b = chr '[' then (array (b :: rest)).map fun child => (.array child.1, child.2)
      else if b = chr '\x7b' then (object (b :: rest)).map fun child => (.object child.1, child.2)
      else none := by
  have hnull : (literal "null").isPrefixOf (b :: rest) = false := isPrefixOf_literal hn
  have hfalse : (literal "false").isPrefixOf (b :: rest) = false := isPrefixOf_literal hf
  have htrue : (literal "true").isPrefixOf (b :: rest) = false := isPrefixOf_literal ht
  rw [valueBy, hnull, hfalse, htrue]
  simp [NumberStart]
  rfl

theorem valueBy_of_scalar (h : ScalarText v text) (hrest : v.isNumber = true → Ends rest) :
    valueBy array object (text ++ rest) = some (v, rest) := by
  cases h with
  | null => rfl
  | false => rfl
  | true => rfl
  | @string s text hs =>
    have hread : parseString (text ++ rest) = some (s, rest) := parseString_of_text hs
    obtain ⟨hclosed, hvalue, rfl⟩ := hs
    rw [List.cons_append] at hread ⊢
    rw [valueBy_cons (by decide) (by decide) (by decide), if_pos rfl, hread]
    rfl
  | number hn =>
    have hread := parseNumber_of_text hn (hrest rfl)
    obtain ⟨b, later, rfl, hb⟩ := hn.starts
    have hother : ∀ c : Byte, NumberStart c → c ≠ chr 'n' ∧ c ≠ chr 'f' ∧ c ≠ chr 't' ∧ c ≠ chr '"' := by
      decide
    obtain ⟨hn, hf, ht, hquote⟩ := hother b hb
    rw [List.cons_append] at hread ⊢
    rw [valueBy_cons hn hf ht, if_neg hquote, if_pos hb, hread]
    rfl

/-- What is read is a scalar, an array or an object. -/
theorem text_of_valueBy (h : valueBy array object input = some (v, rest))
    (hrest : v.isNumber = true → Ends rest) :
    (∃ text, input = text ++ rest ∧ ScalarText v text) ∨
      (∃ later child, input = chr '[' :: later ∧ array input = some (child, rest) ∧ v = .array child) ∨
      ∃ later child, input = chr '\x7b' :: later ∧ object input = some (child, rest) ∧ v = .object child := by
  have hname : ∀ {name : String} {w : CJson} {k : ℕ}, (literal name).isPrefixOf input = true →
      k = (literal name).length → ScalarText w (literal name) → some (w, input.drop k) = some (v, rest) →
      ∃ text, input = text ++ rest ∧ ScalarText v text := by
    rintro name w k hfront rfl htext heq
    obtain ⟨rfl, rfl⟩ := Prod.mk.injEq _ _ _ _ ▸ Option.some.inj heq
    obtain ⟨later, rfl⟩ := List.isPrefixOf_iff_prefix.mp hfront
    exact ⟨_, by rw [List.drop_left], htext⟩
  by_cases hnull : (literal "null").isPrefixOf input = true
  · rw [valueBy, if_pos hnull] at h
    exact .inl (hname hnull rfl .null h)
  by_cases hfalse : (literal "false").isPrefixOf input = true
  · rw [valueBy, if_neg hnull, if_pos hfalse] at h
    exact .inl (hname hfalse rfl .false h)
  by_cases htrue : (literal "true").isPrefixOf input = true
  · rw [valueBy, if_neg hnull, if_neg hfalse, if_pos htrue] at h
    exact .inl (hname htrue rfl .true h)
  rw [valueBy, if_neg hnull, if_neg hfalse, if_neg htrue] at h
  split_ifs at h with hquote hnumber hbracket hbrace
  · obtain ⟨⟨s, rest'⟩, hread, heq⟩ := Option.map_eq_some_iff.mp h
    obtain ⟨rfl, rfl⟩ := Prod.mk.injEq _ _ _ _ ▸ heq
    obtain ⟨text, hinput, htext⟩ := text_of_parseString hread
    exact .inl ⟨text, hinput, .string htext⟩
  · obtain ⟨⟨n, rest'⟩, hread, heq⟩ := Option.map_eq_some_iff.mp h
    obtain ⟨rfl, rfl⟩ := Prod.mk.injEq _ _ _ _ ▸ heq
    rcases input with _ | ⟨b, later⟩
    · cases hnumber
    · have hstart : NumberStart b := by simpa [NumberStart] using hnumber
      obtain ⟨text, hinput, htext⟩ := text_of_parseNumber ⟨b, later, rfl, hstart⟩ hread (hrest rfl)
      exact .inl ⟨text, hinput, .number htext⟩
  · obtain ⟨⟨child, rest'⟩, hread, heq⟩ := Option.map_eq_some_iff.mp h
    obtain ⟨rfl, rfl⟩ := Prod.mk.injEq _ _ _ _ ▸ heq
    obtain ⟨later, hlater⟩ := List.head?_eq_some_iff.mp hbracket
    exact .inr (.inl ⟨later, child, hlater, hread, rfl⟩)
  · obtain ⟨⟨child, rest'⟩, hread, heq⟩ := Option.map_eq_some_iff.mp h
    obtain ⟨rfl, rfl⟩ := Prod.mk.injEq _ _ _ _ ▸ heq
    obtain ⟨later, hlater⟩ := List.head?_eq_some_iff.mp hbrace
    exact .inr (.inr ⟨later, child, hlater, hread, rfl⟩)

/-! ### Arrays and objects -/

/-- A bracket that closes an array or an object, or the first byte of the byte order mark: no value begins
with it. -/
def Foreign (close : Byte) : Prop := close = chr ']' ∨ close = chr '\x7d' ∨ close = 0xEF#8

theorem ends_of_stops {close : Byte} (hclose : Foreign close) (h : Stops isBlank (chr ',') close rest) :
    Ends rest := by
  obtain ⟨c, later, rfl, hc⟩ := h
  intro b hb
  obtain rfl : c = b := by simpa using hb
  have hblank : ∀ c : Byte, isBlank c = true → isNumberByte c = false := by decide
  rcases hclose with rfl | rfl | rfl
  all_goals
    rcases hc with hc | rfl | rfl
    · exact hblank c hc
    · decide
    · decide

theorem begins_cons {close : Byte} (hclose : Foreign close) (hb : isBlank b = false) (hne : b ≠ chr ']')
    (hne' : b ≠ chr '\x7d') (hbom : b ≠ 0xEF#8) : Begins isBlank close (b :: rest) := by
  refine ⟨b, rest, rfl, hb, ?_⟩
  rcases hclose with rfl | rfl | rfl
  · exact hne
  · exact hne'
  · exact hbom

theorem begins_of_string {close : Byte} (hclose : Foreign close) (h : StringText s text) :
    Begins isBlank close text := by
  cases h with
  | quoted => exact begins_cons hclose (by decide) (by decide) (by decide) (by decide)

theorem begins_of_scalar {close : Byte} (hclose : Foreign close) (h : ScalarText v text) :
    Begins isBlank close text := by
  cases h with
  | null => exact begins_cons hclose (by decide) (by decide) (by decide) (by decide)
  | false => exact begins_cons hclose (by decide) (by decide) (by decide) (by decide)
  | true => exact begins_cons hclose (by decide) (by decide) (by decide) (by decide)
  | string hs => exact begins_of_string hclose hs
  | number hn =>
    obtain ⟨b, later, rfl, hb⟩ := hn.starts
    have hstart : ∀ c : Byte, NumberStart c →
        isBlank c = false ∧ c ≠ chr ']' ∧ c ≠ chr '\x7d' ∧ c ≠ 0xEF#8 := by decide
    obtain ⟨hblank, hne, hne', hbom⟩ := hstart b hb
    exact begins_cons hclose hblank hne hne' hbom

theorem begins_of_container {close : Byte} (hclose : Foreign close) (h : ContainerText Text v text) :
    Begins isBlank close text := by
  cases h with
  | array => exact begins_cons hclose (by decide) (by decide) (by decide) (by decide)
  | object => exact begins_cons hclose (by decide) (by decide) (by decide) (by decide)

theorem derives_begins {close : Byte} (hclose : Foreign close) (h : Derives room v text) :
    Begins isBlank close text := by
  cases room with
  | zero => exact begins_of_scalar hclose h
  | succ room => exact h.elim (begins_of_scalar hclose) (begins_of_container hclose)

theorem begins_of_member {close : Byte} (hclose : Foreign close) (h : MemberText Text item text) :
    Begins isBlank close text := by
  cases h with
  | mk hname =>
    obtain ⟨c, later, rfl, hc, hne⟩ := begins_of_string hclose hname
    exact ⟨c, _, rfl, hc, hne⟩

/-- The value of a member is read up to what may stand behind it. -/
theorem parseMember_of_text (hbegins : ∀ v text, Text v text → Begins isBlank (chr '\x7d') text)
    (hvalue : ∀ v text, Text v text → ∀ rest, Ends rest → value (text ++ rest) = some (v, rest))
    (h : MemberText Text item text) (hrest : Ends rest) :
    parseMember value (text ++ rest) = some (item, rest) := by
  cases h with
  | @mk name v front ws ws' text hname hws hws' htext =>
    have hcolon : bufferSkipWhitespace (ws ++ chr ':' :: (ws' ++ (text ++ rest))) =
        chr ':' :: (ws' ++ (text ++ rest)) := skipBlank_append hws (by decide)
    have hskip : bufferSkipWhitespace (ws' ++ (text ++ rest)) = text ++ rest :=
      skipBlank_begins hws' (hbegins v text htext)
    rw [parseMember, List.append_assoc, parseString_of_text hname, Option.bind_some]
    simp [hcolon, hskip, hvalue v text htext rest hrest]

theorem text_of_parseMember
    (hvalue : ∀ input v rest, value input = some (v, rest) → Ends rest →
      ∃ text, input = text ++ rest ∧ Text v text)
    (h : parseMember value input = some (item, rest)) (hrest : Ends rest) :
    ∃ text, input = text ++ rest ∧ MemberText Text item text := by
  rw [parseMember] at h
  obtain ⟨⟨name, behind⟩, hname, h⟩ := Option.bind_eq_some_iff.mp h
  dsimp only at h
  split_ifs at h with hcolon
  obtain ⟨⟨v, rest'⟩, hread, heq⟩ := Option.map_eq_some_iff.mp h
  obtain ⟨rfl, rfl⟩ := Prod.mk.injEq _ _ _ _ ▸ heq
  obtain ⟨later, hlater⟩ := List.head?_eq_some_iff.mp hcolon
  rw [hlater, List.tail_cons] at hread
  obtain ⟨front, rfl, hfront⟩ := text_of_parseString hname
  obtain ⟨ws, hws, rfl⟩ := exists_of_skipBlank hlater
  obtain ⟨text, hinput, htext⟩ := hvalue _ v rest' hread hrest
  obtain ⟨ws', hws', rfl⟩ := exists_of_skipBlank hinput
  exact ⟨_, by simp, .mk hfront hws hws' htext⟩

/-- Every text of a value is read, up to what stands behind it. -/
theorem parseValue_of_text (h : Derives room v text) (hrest : v.isNumber = true → Ends rest) :
    parseValue room (text ++ rest) = some (v, rest) := by
  induction room generalizing v text rest with
  | zero => exact valueBy_of_scalar h hrest
  | succ room ih =>
    have hvalue : ∀ v text, Derives room v text → ∀ rest, Ends rest →
        parseValue room (text ++ rest) = some (v, rest) :=
      fun v text htext rest hends => ih htext fun _ => hends
    rcases h with hscalar | hcontainer
    · exact valueBy_of_scalar hscalar hrest
    · cases hcontainer with
      | @array child text hchild =>
        have hread : enclosed isBlank (chr ',') (chr ']') (parseValue room) (text ++ rest) =
            some (child, rest) :=
          enclosed_of_text (by decide) (by decide) (by decide)
            (fun v text => derives_begins (.inl rfl))
            (fun v text htext rest hstops => hvalue v text htext rest (ends_of_stops (.inl rfl) hstops)) hchild
        rw [parseValue, List.cons_append, valueBy_cons (by decide) (by decide) (by decide),
          if_neg (by decide), if_neg (by decide), if_pos rfl, parseArray, List.tail_cons, hread]
        rfl
      | @object child text hchild =>
        have hread : enclosed isBlank (chr ',') (chr '\x7d') (parseMember (parseValue room)) (text ++ rest) =
            some (child, rest) :=
          enclosed_of_text (by decide) (by decide) (by decide)
            (fun item text => begins_of_member (.inr (.inl rfl)))
            (fun item text htext rest hstops => parseMember_of_text (fun v text => derives_begins (.inr (.inl rfl)))
              hvalue htext (ends_of_stops (.inr (.inl rfl)) hstops)) hchild
        rw [parseValue, List.cons_append, valueBy_cons (by decide) (by decide) (by decide),
          if_neg (by decide), if_neg (by decide), if_neg (by decide), if_pos rfl, parseObject,
          List.tail_cons, hread]
        rfl

/-- Nothing else is read. -/
theorem text_of_parseValue (h : parseValue room input = some (v, rest))
    (hrest : v.isNumber = true → Ends rest) : ∃ text, input = text ++ rest ∧ Derives room v text := by
  induction room generalizing v input rest with
  | zero =>
    rcases text_of_valueBy h hrest with hscalar | ⟨_, _, -, hread, -⟩ | ⟨_, _, -, hread, -⟩
    · exact hscalar
    · cases hread
    · cases hread
  | succ room ih =>
    have hvalue : ∀ input v rest, parseValue room input = some (v, rest) → Ends rest →
        ∃ text, input = text ++ rest ∧ Derives room v text :=
      fun input v rest hread hends => ih hread fun _ => hends
    rcases text_of_valueBy h hrest with ⟨text, hinput, hscalar⟩ | ⟨later, child, rfl, hread, rfl⟩ |
      ⟨later, child, rfl, hread, rfl⟩
    · exact ⟨text, hinput, .inl hscalar⟩
    · rw [parseArray, List.tail_cons] at hread
      obtain ⟨text, rfl, hchild⟩ := text_of_enclosed
        (fun input v rest hitem hstops => hvalue input v rest hitem (ends_of_stops (.inl rfl) hstops)) hread
      exact ⟨_, rfl, .inr (.array hchild)⟩
    · rw [parseObject, List.tail_cons] at hread
      obtain ⟨text, rfl, hchild⟩ := text_of_enclosed
        (fun input item rest hitem hstops =>
          text_of_parseMember hvalue hitem (ends_of_stops (.inr (.inl rfl)) hstops)) hread
      exact ⟨_, rfl, .inr (.object hchild)⟩

/-! ### The whole text -/

/-- The byte order mark. -/
def utf8Bom : List Byte := [0xEF#8, 0xBB#8, 0xBF#8]

theorem getLast?_concat_ne (hb : b ≠ 0#8) : (c :: (body ++ [b])).getLast? ≠ some 0#8 := by
  rw [← List.cons_append, List.getLast?_concat]
  simpa using hb

theorem getLast?_scalar (h : ScalarText v text) : text.getLast? ≠ some 0#8 := by
  cases h with
  | null => decide
  | false => decide
  | true => decide
  | string hs =>
    cases hs with
    | quoted => exact getLast?_concat_ne (by decide)
  | number hn =>
    intro hzero
    exact absurd (hn.bytes _ (List.mem_of_getLast? hzero)) (by decide)

theorem getLast?_enclosed {α : Type} {Sub : α → List Byte → Prop} {child : List α} {close : Byte}
    (hclose : close ≠ 0#8) (h : Enclosed isBlank (chr ',') close Sub child text) :
    (c :: text).getLast? ≠ some 0#8 := by
  cases h with
  | empty => exact getLast?_concat_ne hclose
  | items => exact getLast?_concat_ne hclose

/-- No text of a value ends in a zero. -/
theorem getLast?_derives (h : Derives room v text) : text.getLast? ≠ some 0#8 := by
  cases room with
  | zero => exact getLast?_scalar h
  | succ room =>
    rcases h with hscalar | hcontainer
    · exact getLast?_scalar hscalar
    · cases hcontainer with
      | array hchild => exact getLast?_enclosed (by decide) hchild
      | object hchild => exact getLast?_enclosed (by decide) hchild

/-- The zero at the end of the input stands behind the text of a value. -/
theorem exists_of_terminated {front : List Byte} (h : Derives room v text)
    (hinput : body ++ [0#8] = front ++ (text ++ rest)) :
    ∃ behind, rest = behind ++ [0#8] ∧ body = front ++ (text ++ behind) := by
  rcases List.eq_nil_or_concat rest with rfl | ⟨behind, b, rfl⟩
  · have hlast := congrArg List.getLast? hinput
    obtain ⟨c, later, rfl, -⟩ := derives_begins (.inl rfl) h
    rw [List.getLast?_concat, List.append_nil, List.getLast?_append_of_ne_nil _ (by simp)] at hlast
    exact absurd hlast.symm (getLast?_derives h)
  · rw [List.concat_eq_append, ← List.append_assoc, ← List.append_assoc, List.append_singleton_inj] at hinput
    obtain ⟨hbody, rfl⟩ := hinput
    exact ⟨behind, List.concat_eq_append, by rw [hbody, List.append_assoc]⟩

theorem skipUtf8Bom_append {bom ws : List Byte} (hbom : bom = [] ∨ bom = utf8Bom) (hws : Blanks isBlank ws)
    (htext : Derives room v text) :
    skipUtf8Bom (bom ++ (ws ++ (text ++ (rest ++ [0#8])))) = ws ++ (text ++ (rest ++ [0#8])) := by
  obtain ⟨c, later, rfl, hc, hne⟩ := derives_begins (.inr (.inr rfl)) htext
  rcases hbom with rfl | rfl
  · apply if_neg
    rintro ⟨-, htake⟩
    have hfirst := congrArg List.head? htake
    rcases ws with _ | ⟨b, ws⟩
    · exact hne (by simpa using hfirst)
    · have hb : b = 0xEF#8 := by simpa using hfirst
      have hblank := hws b List.mem_cons_self
      rw [hb] at hblank
      exact absurd hblank (by decide)
  · apply if_pos
    refine ⟨?_, rfl⟩
    simp only [utf8Bom, List.length_append, List.length_cons, List.length_nil]
    omega

/-- A value that is not a number is accepted iff its text stands behind the byte order mark, if there is one,
and blanks; it does not matter what stands behind it. -/
theorem cjsonParse_iff (value : CStr) (v : CJson) (hv : v.isNumber = false) :
    cjsonParse value = some v ↔ ∃ bom ws text behind, (bom = [] ∨ bom = utf8Bom) ∧ Blanks isBlank ws ∧
      Derives cjsonNestingLimit v text ∧ value.bytes = bom ++ (ws ++ (text ++ behind)) := by
  have hnot : ∀ rest, v.isNumber = true → Ends rest := fun rest h => by rw [hv] at h; cases h
  constructor
  · intro h
    obtain ⟨⟨v', rest⟩, hread, rfl⟩ := Option.map_eq_some_iff.mp h
    obtain ⟨text, hinput, htext⟩ := text_of_parseValue hread (hnot rest)
    obtain ⟨ws, hws, hbehind⟩ := exists_of_skipBlank hinput
    have hbom : ∃ bom, (bom = [] ∨ bom = utf8Bom) ∧ value.bytes ++ [0#8] = bom ++ (ws ++ (text ++ rest)) := by
      rw [skipUtf8Bom] at hbehind
      split_ifs at hbehind with hmark
      · exact ⟨utf8Bom, .inr rfl, by rw [← hbehind, utf8Bom, ← hmark.2, List.take_append_drop]⟩
      · exact ⟨[], .inl rfl, hbehind⟩
    obtain ⟨bom, hbom, hwhole⟩ := hbom
    rw [← List.append_assoc] at hwhole
    obtain ⟨behind, -, hvalue⟩ := exists_of_terminated htext hwhole
    exact ⟨bom, ws, text, behind, hbom, hws, htext, by rw [hvalue, List.append_assoc]⟩
  · rintro ⟨bom, ws, text, behind, hbom, hws, htext, hvalue⟩
    have hskip : bufferSkipWhitespace (ws ++ (text ++ (behind ++ [0#8]))) = text ++ (behind ++ [0#8]) :=
      skipBlank_begins hws (derives_begins (.inl rfl) htext)
    rw [cjsonParse, hvalue]
    simp only [List.append_assoc]
    rw [skipUtf8Bom_append hbom hws htext, hskip, parseValue_of_text htext (hnot _)]
    rfl

/-- An empty array with blanks in front and inside, and more behind it. -/
theorem cjsonParse_emptyArray :
    (CJson.array []).isNumber = false ∧ cjsonParse (.ofChars " [ ]x".toList) = some (.array []) := by
  have hblank : Blanks isBlank [chr ' '] := fun b hb => List.mem_singleton.mp hb ▸ rfl
  have hchild : Enclosed isBlank (chr ',') (chr ']') (Derives 999) [] ([chr ' '] ++ [chr ']']) := .empty hblank
  exact ⟨rfl, (cjsonParse_iff _ _ rfl).mpr
    ⟨[], [chr ' '], literal "[ ]", [chr 'x'], .inl rfl, hblank, .inr (.array hchild), rfl⟩⟩

end GokeWebcam.Common
