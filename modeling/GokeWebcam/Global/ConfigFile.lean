import GokeWebcam.Global.Config

/-!
# The configuration file

`config_get` and `config_set` of `global/config.c` over the files of `common/config/rwio.c`. The file
is its text, or missing; `parse` and `print` are `cJSON_Parse` and `cJSON_Print`. A file that is
missing or does not parse is read as an object without items.

* `configGet_iff`: reading puts every number within its bounds, ends every string in its member and
  writes nothing else, iff the items under the names of strings are strings shorter than the members.
* `configSet_preserved_iff`: a write that reports a failure leaves the old or the new configuration,
  iff the file was not opened, or written whole, or one of the two is the one of the defaults.
-/

namespace GokeWebcam.Global

open Lib Common

/-! ### Reading -/

/-- Source: `common/config/rwio.c` `load_json` -/
def loadJson (parse : List Char → Option CJson) (file : Option (List Char)) : Option CJson :=
  file.bind parse

/-- Source: `common/config/rwio.c` `read_config_file` -/
def readConfigFile (parse : List Char → Option CJson) (file : Option (List Char)) (m : Memory) :
    Option Memory :=
  cjsonToDataByMap configProfileMap (loadJson parse file) m

/-- `memcpy(to, from, sizeof(config_t))`. -/
def copyConfig (source target : Memory) : Memory :=
  fun i => if i < sizeofConfig then source i else target i

/-- The static `config` and the caller's structure afterwards.
Source: `global/config.c` `config_get` -/
def configGet (parse : List Char → Option CJson) (file : Option (List Char))
    (config rconfig : Memory) : Option (Memory × Memory) :=
  (readConfigFile parse file config).map fun config => (config, copyConfig config rconfig)

/-- What reading the configuration should leave. -/
structure ReadsWell (config config' rconfig' : Memory) : Prop where
  numbers : ∀ e ∈ configProfileMap, e.isString = false →
    e.inRange (readNumber e.dataType rconfig' e.dataAddress.offset) = true
  strings : ∀ e ∈ configProfileMap, e.isString = true →
    ∃ k < e.dataAddress.size, rconfig' (e.dataAddress.offset + k) = 0#8
  frame : ∀ i, (∀ e ∈ configProfileMap, i < e.dataAddress.offset ∨
    e.dataAddress.offset + e.dataAddress.size ≤ i) → config' i = config i

/-- The items under the names of strings are strings that their members hold. -/
def StringItemsFit (map : List ConfigMap) (json : Option CJson) : Prop :=
  ∀ e ∈ map, e.isString = true → ∀ js, json.bind (CJson.getObjectItem e.stringName) = some js →
    ∃ s, js = .string s ∧ s.strlen < e.dataAddress.size

variable {parse : List Char → Option CJson} {print : CJson → List Char}
  {file : Option (List Char)} {map es : List ConfigMap} {e : ConfigMap} {json : Option CJson}
  {js : CJson} {m m' config config' rconfig rconfig' : Memory} {i : ℕ} {s : CStr}

theorem eq_string_of_valuestring (h : js.valuestring = some s) : js = .string s := by
  cases js with
  | string t => rw [Option.some.inj h]
  | null => simp [CJson.valuestring] at h
  | bool value => simp [CJson.valuestring] at h
  | number valueint => simp [CJson.valuestring] at h
  | array child => simp [CJson.valuestring] at h
  | object child => simp [CJson.valuestring] at h

/-- The members of the structure are copied. -/
theorem copyConfig_of_mem (he : e ∈ configProfileMap)
    (hi : i < e.dataAddress.offset + e.dataAddress.size) : copyConfig m m' i = m i := by
  have hfits := (configProfileMap_wellFormed.typed e he).1
  exact if_pos (by omega)

theorem readNumber_copyConfig (he : e ∈ configProfileMap) (hstring : e.isString = false) :
    readNumber e.dataType (copyConfig m m') e.dataAddress.offset =
      readNumber e.dataType m e.dataAddress.offset := by
  have htyped := configProfileMap_wellFormed.typed e he
  unfold ConfigMap.WellTyped at htyped
  rw [hstring] at htyped
  apply readNumber_congr
  intro i _ hi
  exact copyConfig_of_mem he (htyped.2.1 ▸ hi)

theorem loadStr_copyConfig (he : e ∈ configProfileMap) :
    loadStr (copyConfig m m') e.dataAddress.offset e.dataAddress.size =
      loadStr m e.dataAddress.offset e.dataAddress.size :=
  loadStr_congr fun _ _ hi => copyConfig_of_mem he hi

/-- An entry whose item fits writes only its member. -/
theorem decode_of_outside (hmap : WellFormed map) (hfit : StringItemsFit map json) (he : e ∈ map)
    (hm : e.decode json m = some m')
    (hi : i < e.dataAddress.offset ∨ e.dataAddress.offset + e.dataAddress.size ≤ i) :
    m' i = m i := by
  have htyped := hmap.typed e he
  unfold ConfigMap.WellTyped at htyped
  rcases hi with hi | hi
  · exact e.decode_of_lt hm hi
  · by_cases hstring : e.isString = true
    · rw [if_pos hstring] at htyped
      obtain ⟨-, hmax, -, hdefault⟩ := htyped
      obtain ⟨s, rfl, hitem⟩ := ConfigMap.decode_of_string hstring hmax hm
      have hlt : s.strlen < e.dataAddress.size := by
        rcases hitem with ⟨-, rfl⟩ | ⟨js, hjs, hs⟩
        · exact hdefault
        · obtain ⟨t, rfl, ht⟩ := hfit e he hstring js hjs
          rwa [← Option.some.inj hs]
      exact storeStr_of_le (by omega)
    · rw [if_neg hstring] at htyped
      rw [ConfigMap.decode_of_number (by simpa using hstring)] at hm
      rw [← Option.some.inj hm]
      exact writeNumber_of_le (by rw [htyped.2.1]; exact hi)

/-- When all items fit, only members are written. -/
theorem cjsonToDataByMap_of_outside (hmap : WellFormed map) (hfit : StringItemsFit map json)
    (hes : ∀ e ∈ es, e ∈ map) (h : cjsonToDataByMap es json m = some m')
    (hi : ∀ e ∈ map, i < e.dataAddress.offset ∨ e.dataAddress.offset + e.dataAddress.size ≤ i) :
    m' i = m i := by
  induction es generalizing m with
  | nil => rw [← Option.some.inj h]
  | cons e es ih =>
      rw [cjsonToDataByMap_cons] at h
      obtain ⟨m₁, hm, hrest⟩ := Option.bind_eq_some_iff.mp h
      have he := hes e (by simp)
      rw [ih (fun f hf => hes f (by simp [hf])) hrest,
        decode_of_outside hmap hfit he hm (hi e he)]

/-- Where the items fit, a string that was read ends in its member. -/
theorem exists_zero_of_decode (hmap : WellFormed map) (hfit : StringItemsFit map json)
    (h : cjsonToDataByMap map json m = some m') (he : e ∈ map) (hstring : e.isString = true) :
    ∃ k < e.dataAddress.size, m' (e.dataAddress.offset + k) = 0#8 := by
  obtain ⟨m₁, s, hsame, hitem⟩ := string_of_decode hmap h he hstring
  have htyped := hmap.typed e he
  unfold ConfigMap.WellTyped at htyped
  rw [if_pos hstring] at htyped
  have hlt : s.strlen < e.dataAddress.size := by
    rcases hitem with ⟨-, rfl⟩ | ⟨js, hjs, hs⟩
    · exact htyped.2.2.2
    · obtain ⟨t, rfl, ht⟩ := hfit e he hstring js hjs
      rwa [← Option.some.inj hs]
  exact ⟨s.strlen, hlt, by rw [hsame _ (by omega)]; exact storeStr_strlen⟩

/-- When the items fit, reading leaves what it should. -/
theorem readsWell_of_fit (config rconfig : Memory)
    (hfit : StringItemsFit configProfileMap (loadJson parse file)) :
    ∃ config' rconfig', configGet parse file config rconfig = some (config', rconfig') ∧
      ReadsWell config config' rconfig' := by
  have hmap := configProfileMap_wellFormed
  have hreadable : Readable configProfileMap (loadJson parse file) := by
    intro e he hstring js hjs
    obtain ⟨s, rfl, -⟩ := hfit e he hstring js hjs
    exact ⟨s, rfl⟩
  obtain ⟨config', h⟩ := exists_cjsonToDataByMap hreadable config
  have hget : configGet parse file config rconfig = some (config', copyConfig config' rconfig) := by
    unfold configGet readConfigFile
    rw [h]
    rfl
  refine ⟨config', _, hget, ?_, ?_, ?_⟩
  · intro e he hstring
    rw [readNumber_copyConfig he hstring]
    exact inRange_of_decode hmap h he hstring
  · intro e he hstring
    obtain ⟨k, hk, hzero⟩ := exists_zero_of_decode hmap hfit h he hstring
    exact ⟨k, hk, by rwa [copyConfig_of_mem he (by omega)]⟩
  · intro i hi
    exact cjsonToDataByMap_of_outside hmap hfit (fun _ he => he) h hi

/-- Reading that leaves what it should found items that fit. -/
theorem fit_of_readsWell (h : configGet parse file config rconfig = some (config', rconfig'))
    (hwell : ReadsWell config config' rconfig') :
    StringItemsFit configProfileMap (loadJson parse file) := by
  intro e he hstring js hjs
  obtain ⟨c, hread, heq⟩ := Option.map_eq_some_iff.mp h
  cases heq
  obtain ⟨m₁, s, hsame, hitem⟩ := string_of_decode configProfileMap_wellFormed hread he hstring
  have hs : js.valuestring = some s := by
    rcases hitem with ⟨hnone, -⟩ | ⟨js', hjs', hs⟩
    · rw [hnone] at hjs
      cases hjs
    · rw [hjs'] at hjs
      rwa [← Option.some.inj hjs]
  refine ⟨s, eq_string_of_valuestring hs, ?_⟩
  by_contra hle
  obtain ⟨k, hk, hzero⟩ := hwell.strings e he hstring
  rw [copyConfig_of_mem he (by omega), hsame _ (by omega)] at hzero
  exact storeStr_ne_zero (by omega) hzero

/-- Reading puts every number within its bounds, ends every string in its member and writes nothing
outside the members, iff every item under the name of a string is a string shorter than the member. -/
theorem configGet_iff (parse : List Char → Option CJson) (file : Option (List Char))
    (config rconfig : Memory) :
    (∃ config' rconfig', configGet parse file config rconfig = some (config', rconfig') ∧
        ReadsWell config config' rconfig') ↔
      StringItemsFit configProfileMap (loadJson parse file) := by
  constructor
  · rintro ⟨config', rconfig', h, hwell⟩
    exact fit_of_readsWell h hwell
  · exact readsWell_of_fit config rconfig

/-- The entry of the version. -/
def ipcVersionMap : ConfigMap :=
  ⟨"ipc_version".toList, .ipcVersion, .cfgString, applicationVersionString, 0, 32⟩

/-- A document whose version has 32 bytes. -/
def longVersion : CJson :=
  .object [("ipc_version".toList, .string (.ofChars (List.replicate 32 'a')))]

/-- A version of 32 bytes is written behind its member. -/
theorem configGet_longVersion :
    ¬ ∃ config' rconfig',
      configGet (fun _ => some longVersion) (some []) zeroed zeroed = some (config', rconfig') ∧
        ReadsWell zeroed config' rconfig' := by
  rintro ⟨config', rconfig', h, hwell⟩
  obtain ⟨s, hs, hlt⟩ := fit_of_readsWell h hwell ipcVersionMap (by decide) rfl
    (.string (.ofChars (List.replicate 32 'a'))) rfl
  rw [← CJson.string.inj hs] at hlt
  exact refuted (by decide) hlt

/-! ### Writing -/

/-- What happens to a write: whether the file was opened, and how many bytes were written. -/
structure WriteOutcome where
  opened : Bool
  written : ℕ
  deriving DecidableEq, Repr

/-- A file that is opened is empty at first.
Source: `common/config/rwio.c` `write_json_file` -/
def writeJsonFile (o : WriteOutcome) (file : Option (List Char)) (data : List Char) :
    CInt × Option (List Char) :=
  if !o.opened then (-1#32, file)
  else if o.written < data.length then (-1#32, some (data.take o.written))
  else (0#32, some data)

/-- Source: `common/config/rwio.c` `write_config_file` -/
def writeConfigFile (print : CJson → List Char) (o : WriteOutcome) (config : Memory)
    (file : Option (List Char)) : Option (CInt × Option (List Char)) :=
  (dataToJsonByMap configProfileMap config).map fun root =>
    let (ret, file) := writeJsonFile o file (print root)
    if ret ≠ 0#32 then (-1#32, file) else (0#32, file)

/-- The result, the static `config` and the file.
Source: `global/config.c` `config_set` -/
def configSet (print : CJson → List Char) (o : WriteOutcome) (config wconfig : Memory)
    (file : Option (List Char)) : Option (CInt × Memory × Option (List Char)) :=
  let config := copyConfig wconfig config
  (writeConfigFile print o config file).map fun result => (result.1, config, result.2)

/-- The value of an entry: its number, or its string when that ends in the member. -/
def ConfigMap.value (m : Memory) (e : ConfigMap) : CInt ⊕ Option CStr :=
  if e.isString then .inr (loadStr m e.dataAddress.offset e.dataAddress.size)
  else .inl (readNumber e.dataType m e.dataAddress.offset)

/-- The configuration that a file is read as. -/
def decoded (parse : List Char → Option CJson) (file : Option (List Char)) :
    Option (List (CInt ⊕ Option CStr)) :=
  (readConfigFile parse file zeroed).map fun m => configProfileMap.map (ConfigMap.value m)

/-- A write that reports a failure leaves a file that is read as before, or as the whole of the new
configuration. -/
def Preserved (parse : List Char → Option CJson) (print : CJson → List Char) (o : WriteOutcome)
    (config wconfig : Memory) (file : Option (List Char)) : Prop :=
  ∀ root, dataToJsonByMap configProfileMap (copyConfig wconfig config) = some root →
    ∀ ret config' file', configSet print o config wconfig file = some (ret, config', file') →
      ret ≠ 0#32 → decoded parse file' = decoded parse file ∨
        decoded parse file' = decoded parse (some (print root))

variable {o : WriteOutcome} {wconfig : Memory} {root : CJson} {ret : CInt}
  {file' : Option (List Char)}

theorem configSet_eq (print : CJson → List Char) (o : WriteOutcome) (file : Option (List Char))
    (h : dataToJsonByMap configProfileMap (copyConfig wconfig config) = some root) :
    configSet print o config wconfig file =
      some (if !o.opened then (-1#32, copyConfig wconfig config, file)
        else if o.written < (print root).length then
          (-1#32, copyConfig wconfig config, some ((print root).take o.written))
        else (0#32, copyConfig wconfig config, some (print root))) := by
  unfold configSet writeConfigFile writeJsonFile
  dsimp only
  rw [h, Option.map_some]
  by_cases hclosed : (!o.opened) = true
  · simp only [if_pos hclosed]
    rfl
  · by_cases hlt : o.written < (print root).length
    · simp only [if_neg hclosed, if_pos hlt]
      rfl
    · simp only [if_neg hclosed, if_neg hlt]
      rfl

/-- A file that does not parse is read as a missing one. -/
theorem decoded_of_parse_none {text : List Char} (h : parse text = none) :
    decoded parse (some text) = decoded parse none := by
  unfold decoded readConfigFile loadJson
  rw [Option.bind_some, h]
  rfl

/-- Files that give an entry different numbers are read as different configurations. -/
theorem decoded_ne (h : Readable configProfileMap (loadJson parse file))
    (h' : Readable configProfileMap (loadJson parse file')) (he : e ∈ configProfileMap)
    (hstring : e.isString = false)
    (hne : e.decodedNumber ((loadJson parse file).bind (CJson.getObjectItem e.stringName)) ≠
      e.decodedNumber ((loadJson parse file').bind (CJson.getObjectItem e.stringName))) :
    decoded parse file ≠ decoded parse file' := by
  obtain ⟨m, hm⟩ := exists_cjsonToDataByMap h zeroed
  obtain ⟨m', hm'⟩ := exists_cjsonToDataByMap h' zeroed
  unfold decoded readConfigFile
  rw [hm, hm']
  intro heq
  have hvalue := List.map_inj_left.mp (Option.some.inj heq) e he
  unfold ConfigMap.value at hvalue
  rw [hstring] at hvalue
  apply hne
  rw [← readNumber_of_decode configProfileMap_wellFormed hm he hstring,
    ← readNumber_of_decode configProfileMap_wellFormed hm' he hstring]
  exact Sum.inl.inj hvalue

/-- A failure leaves the old or the new configuration iff the file was not opened, or written whole,
or one of the two is what a missing file is read as. Of a printed object nothing but the whole
parses. -/
theorem configSet_preserved_iff (parse : List Char → Option CJson) (print : CJson → List Char)
    (o : WriteOutcome) (config wconfig : Memory) (file : Option (List Char))
    (hcut : ∀ root, dataToJsonByMap configProfileMap (copyConfig wconfig config) = some root →
      ∀ k < (print root).length, parse ((print root).take k) = none) :
    Preserved parse print o config wconfig file ↔ o.opened = false ∨
      ∀ root, dataToJsonByMap configProfileMap (copyConfig wconfig config) = some root →
        (print root).length ≤ o.written ∨ decoded parse none = decoded parse file ∨
          decoded parse none = decoded parse (some (print root)) := by
  constructor
  · intro h
    by_cases hopened : o.opened = true
    · refine .inr fun root hroot => ?_
      by_cases hlt : o.written < (print root).length
      · have hset := configSet_eq print o file hroot
        rw [hopened, if_neg (by simp), if_pos hlt] at hset
        have hread := h root hroot _ _ _ hset (by decide)
        rw [decoded_of_parse_none (hcut root hroot _ hlt)] at hread
        exact .inr hread
      · exact .inl (Nat.le_of_not_lt hlt)
    · exact .inl (by simpa using hopened)
  · intro h root hroot ret config' file' hset hret
    rw [configSet_eq print o file hroot] at hset
    rcases h with hclosed | h
    · rw [hclosed, if_pos (by simp)] at hset
      cases hset
      exact .inl rfl
    · split_ifs at hset with hclosed hlt
      · cases hset
        exact .inl rfl
      · cases hset
        rw [decoded_of_parse_none (hcut root hroot _ hlt)]
        exact (h root hroot).resolve_left (Nat.not_le_of_lt hlt)
      · cases hset
        exact absurd rfl hret

/-- What `cJSON_Print` prints of an object of numbers and of strings without special characters. -/
def printed (child : List (List Char × CJson)) : List Char :=
  let shown (item : List Char × CJson) : List Char := '\t' :: '"' :: item.1 ++ "\":\t".toList ++
    match item.2 with
    | .number n => showInt n.toInt
    | .string s => '"' :: s.bytes.map (fun b => Char.ofNat b.toNat) ++ ['"']
    | _ => []
  "\x7b\n".toList ++ List.intercalate ",\n".toList (child.map shown) ++ "\n\x7d".toList

/-- The items of the structure of zeros. -/
def zeroedChild : List (List Char × CJson) :=
  configProfileMap.map fun e => (e.stringName, itemOf zeroed e)

/-- `cJSON_Print` of these items. -/
def printZeroed (_root : CJson) : List Char := printed zeroedChild

/-- `cJSON_Parse` of their text, and of no other. -/
def parseZeroed (text : List Char) : Option CJson :=
  if text = printed zeroedChild then some (.object zeroedChild) else none

theorem parseZeroed_cut (root : CJson) :
    ∀ k < (printZeroed root).length, parseZeroed ((printZeroed root).take k) = none := by
  intro k hk
  apply if_neg
  intro h
  have hlen := congrArg List.length h
  rw [List.length_take] at hlen
  unfold printZeroed at *
  omega

theorem configSet_preserved_zeroed :
    Preserved parseZeroed printZeroed ⟨true, 0⟩ zeroed zeroed (some (printed zeroedChild)) ↔
      (⟨true, 0⟩ : WriteOutcome).opened = false ∨
        ∀ root, dataToJsonByMap configProfileMap (copyConfig zeroed zeroed) = some root →
          (printZeroed root).length ≤ (⟨true, 0⟩ : WriteOutcome).written ∨
            decoded parseZeroed none = decoded parseZeroed (some (printed zeroedChild)) ∨
            decoded parseZeroed none = decoded parseZeroed (some (printZeroed root)) :=
  configSet_preserved_iff parseZeroed printZeroed ⟨true, 0⟩ zeroed zeroed
    (some (printed zeroedChild)) fun root _ => parseZeroed_cut root

theorem json_zeroed : dataToJsonByMap configProfileMap zeroed = some (.object zeroedChild) :=
  dataToJsonByMap_eq fun _ he => isSome_encode configProfileMap_wellFormed stringsFit_zeroed he

/-- The entry of the quality of the video. -/
def videoQualityMap : ConfigMap :=
  ⟨"video_quality".toList, .videoQuality, .cfgU8, "2".toList, 0, 2⟩

/-- Zeros over zeros on a full disk: the file is empty then, and the quality of the video, which is 2
by default, is not what it was. -/
theorem configSet_zeroed_not_preserved :
    ¬ Preserved parseZeroed printZeroed ⟨true, 0⟩ zeroed zeroed (some (printed zeroedChild)) := by
  have hcopy : copyConfig zeroed zeroed = zeroed := by
    funext i
    exact ite_self _
  have hload : loadJson parseZeroed (some (printed zeroedChild)) = some (.object zeroedChild) := by
    unfold loadJson parseZeroed
    rw [Option.bind_some, if_pos rfl]
  have hne : decoded parseZeroed none ≠ decoded parseZeroed (some (printed zeroedChild)) := by
    refine decoded_ne (e := videoQualityMap) (fun e he hstring js hjs => by cases hjs) ?_
      (by decide) rfl ?_
    · rw [hload, ← json_zeroed]
      exact readable_of_fit configProfileMap_wellFormed stringsFit_zeroed
    · have hitem : CJson.getObjectItem videoQualityMap.stringName (.object zeroedChild) =
          some (itemOf zeroed videoQualityMap) :=
        getObjectItem_of_encode configProfileMap_wellFormed (by decide)
      rw [hload, Option.bind_some, hitem, itemOf, encode_of_number rfl]
      decide
  intro h
  have hroot : dataToJsonByMap configProfileMap (copyConfig zeroed zeroed) =
      some (.object zeroedChild) := by
    rw [hcopy]
    exact json_zeroed
  have hset := configSet_eq printZeroed ⟨true, 0⟩ (some (printed zeroedChild)) hroot
  have hpos : 0 < (printZeroed (.object zeroedChild)).length := by simp [printZeroed, printed]
  rw [if_neg (by simp), if_pos hpos] at hset
  have hread := h _ hroot _ _ _ hset (by decide)
  rw [decoded_of_parse_none (parseZeroed_cut _ 0 hpos)] at hread
  rcases hread with hread | hread
  · exact hne hread
  · exact hne hread

end GokeWebcam.Global
