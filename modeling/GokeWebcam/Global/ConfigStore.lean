import GokeWebcam.Common.JsonPrinter
import GokeWebcam.Global.ConfigFile

/-!
# The configuration as a store

The configuration file with `cJSON_Parse` and `cJSON_Print` as they are, over runs of `config_get` and
`config_set` between restarts of the program; a write can fail to open the file or stop anywhere in it.

* `printText_take`, `parseText_printText`: what is read of a configuration that was written in part or whole.
* `outputs_eq`: the outputs of every run are those of a store of values, which a write that stops in the file
  sets to the defaults.
-/

namespace GokeWebcam.Global

open Lib Common

/-! ### The text of a configuration -/

/-- `cJSON_Parse` of the text of a file. -/
def parseText (text : List Char) : Option CJson := cjsonParse (.ofChars text)

/-- `cJSON_Print`. -/
def printText (root : CJson) : List Char := (cjsonPrint true root).bytes.map charOf

variable {root : CJson} {m m' w config rconfig : Memory} {file : Option (List Char)} {e : ConfigMap}
  {json : Option CJson} {k : ℕ}

theorem ofChars_map_charOf (str : CStr) : CStr.ofChars (str.bytes.map charOf) = str := by
  have hmap : (str.bytes.map charOf).map (fun c => BitVec.ofNat 8 c.toNat) = str.bytes := by
    rw [List.map_map]
    exact (List.map_congr_left fun b _ => chr_charOf).trans (List.map_id _)
  obtain ⟨bytes, hbytes⟩ := str
  have htake : bytes.takeWhile (· ≠ 0#8) = bytes :=
    List.takeWhile_eq_self_iff.mpr fun b hb => by simpa using hbytes b hb
  simp only [CStr.ofChars, CStr.mk.injEq, hmap]
  exact htake

/-- The names of the table are strings. -/
theorem name_of_mem (he : e ∈ configProfileMap) : ∀ c ∈ e.stringName, 0 < c.toNat ∧ c.toNat < 256 := by
  have hall : (configProfileMap.all fun e => e.stringName.all fun c => Nat.blt 0 c.toNat && Nat.blt c.toNat 256) =
      true := by decide
  intro c hc
  have hchar := List.all_eq_true.mp (List.all_eq_true.mp hall e he) c hc
  simpa [Nat.blt_eq] using hchar

theorem nested_encode {item : CJson} (h : e.encode m = some item) : Nested 0 item := by
  unfold ConfigMap.encode at h
  split_ifs at h
  · obtain ⟨s, -, rfl⟩ := Option.map_eq_some_iff.mp h
    trivial
  · cases h
    trivial

/-- The object of a configuration. -/
def objectOf (w : Memory) : CJson := .object (configProfileMap.map fun e => (e.stringName, itemOf w e))

/-- The text of a configuration. -/
def configText (w : Memory) : List Char := printText (objectOf w)

theorem nested_objectOf : Nested cjsonNestingLimit (objectOf w) := by
  intro item hitem
  obtain ⟨e, he, rfl⟩ := List.mem_map.mp hitem
  refine ⟨name_of_mem he, ?_⟩
  rcases hencode : e.encode w with _ | item
  · rw [itemOf, hencode]
    trivial
  · rw [itemOf, hencode]
    have hitem := nested_encode hencode
    cases item with
    | array => exact absurd hitem id
    | object => exact absurd hitem id
    | null | bool _ | number _ | string _ => trivial

theorem parseText_configText : parseText (configText w) = some (objectOf w) := by
  rw [parseText, configText, printText, ofChars_map_charOf]
  exact cjsonParse_of_derives (derives_printValue nested_objectOf)

/-- Of the text nothing but the whole parses. -/
theorem parseText_take (hk : k < (configText w).length) : parseText ((configText w).take k) = none := by
  have hcut : CStr.ofChars ((configText w).take k) = cut (cjsonPrint true (objectOf w)) k := by
    rw [← ofChars_map_charOf (cut _ k), cut, configText, printText, ← List.map_take]
  have hlength : k < (cjsonPrint true (objectOf w)).strlen := by
    simpa [configText, printText, CStr.strlen] using hk
  rw [parseText, hcut]
  exact cjsonParse_cut_of_derives (derives_printValue nested_objectOf) rfl hlength

/-! ### What a file is read as -/

/-- The values of the entries. -/
def values (m : Memory) : List (CInt ⊕ Option CStr) := configProfileMap.map (ConfigMap.value m)

/-- The values that a configuration is written with. -/
def checkedValues (w : Memory) : List (CInt ⊕ Option CStr) :=
  configProfileMap.map fun e =>
    if e.isString then .inr (loadStr w e.dataAddress.offset e.dataAddress.size)
    else .inl (e.checked (readNumber e.dataType w e.dataAddress.offset))

/-- The values of the defaults. -/
def defaultValues : List (CInt ⊕ Option CStr) :=
  configProfileMap.map fun e =>
    if e.isString then .inr (some (.ofChars e.defaultValue)) else .inl e.defaultNumber

theorem loadStr_size (he : e ∈ configProfileMap) (hstring : e.isString = true) :
    e.max.toNat = e.dataAddress.size := by
  have htyped := configProfileMap_wellFormed.typed e he
  unfold ConfigMap.WellTyped at htyped
  rw [if_pos hstring] at htyped
  omega

/-- A stored string is read as itself, or not at all when it is too long. -/
theorem loadStr_storeStr_eq {a n : ℕ} {s : CStr} :
    loadStr (storeStr m a s) a n = if s.strlen < n then some s else none := by
  split_ifs with hlt
  · exact loadStr_storeStr hlt
  · by_contra hne
    obtain ⟨k, hk, hzero⟩ := loadStr_isSome_iff.mp (Option.isSome_iff_ne_none.mpr hne)
    exact storeStr_ne_zero (by omega) hzero

/-- What was read does not depend on what was there before. -/
theorem values_of_decode (h : cjsonToDataByMap configProfileMap json m = some w)
    (h' : cjsonToDataByMap configProfileMap json m' = some config) : values w = values config := by
  have hmap := configProfileMap_wellFormed
  refine List.map_congr_left fun e he => ?_
  rw [ConfigMap.value, ConfigMap.value]
  by_cases hstring : e.isString = true
  · obtain ⟨m₁, s, hsame, hitem⟩ := string_of_decode hmap h he hstring
    obtain ⟨m₂, t, hsame', hitem'⟩ := string_of_decode hmap h' he hstring
    have hst : s = t := by
      rcases hitem with ⟨hnone, rfl⟩ | ⟨js, hjs, hs⟩
      · rcases hitem' with ⟨-, rfl⟩ | ⟨js, hjs, -⟩
        · rfl
        · rw [hnone] at hjs
          cases hjs
      · rcases hitem' with ⟨hnone, -⟩ | ⟨js', hjs', ht⟩
        · rw [hnone] at hjs
          cases hjs
        · rw [hjs] at hjs'
          rw [← Option.some.inj hjs', hs] at ht
          exact Option.some.inj ht
    rw [if_pos hstring, if_pos hstring, loadStr_congr fun i _ hi => hsame i hi,
      loadStr_congr fun i _ hi => hsame' i hi, hst, loadStr_storeStr_eq, loadStr_storeStr_eq]
  · have hnumber : e.isString = false := by simpa using hstring
    rw [if_neg hstring, if_neg hstring, readNumber_of_decode hmap h he hnumber,
      readNumber_of_decode hmap h' he hnumber]

theorem readable_of_decode (h : cjsonToDataByMap configProfileMap json m = some w) :
    Readable configProfileMap json := by
  intro e he hstring js hjs
  obtain ⟨-, s, -, hitem⟩ := string_of_decode configProfileMap_wellFormed h he hstring
  rcases hitem with ⟨hnone, -⟩ | ⟨js', hjs', hs⟩
  · rw [hnone] at hjs
    cases hjs
  · rw [hjs] at hjs'
    exact ⟨s, Option.some.inj hjs' ▸ hs⟩

theorem decoded_eq (m : Memory) : decoded parseText file = (readConfigFile parseText file m).map values := by
  have hzeroed : decoded parseText file = (readConfigFile parseText file zeroed).map values := rfl
  rw [hzeroed, readConfigFile, readConfigFile]
  rcases h : cjsonToDataByMap configProfileMap (loadJson parseText file) m with _ | w
  · rcases h' : cjsonToDataByMap configProfileMap (loadJson parseText file) zeroed with _ | w'
    · rfl
    · obtain ⟨w, hw⟩ := exists_cjsonToDataByMap (readable_of_decode h') m
      rw [h] at hw
      cases hw
  · obtain ⟨w', hw'⟩ := exists_cjsonToDataByMap (readable_of_decode h) zeroed
    rw [hw', Option.map_some, Option.map_some, values_of_decode hw' h]

/-- A missing file is read as the defaults. -/
theorem decoded_none : decoded parseText none = some defaultValues := by
  have hmap := configProfileMap_wellFormed
  have hreadable : Readable configProfileMap none := fun e _ _ js hjs => by cases hjs
  obtain ⟨d, hd⟩ := exists_cjsonToDataByMap hreadable zeroed
  rw [decoded_eq zeroed, readConfigFile, loadJson, Option.bind_none, hd, Option.map_some, values, defaultValues]
  refine congrArg some (List.map_congr_left fun e he => ?_)
  rw [ConfigMap.value]
  split_ifs with hstring
  · obtain ⟨m₁, s, hsame, hitem⟩ := string_of_decode hmap hd he hstring
    have htyped := hmap.typed e he
    unfold ConfigMap.WellTyped at htyped
    rw [if_pos hstring] at htyped
    rcases hitem with ⟨-, rfl⟩ | ⟨js, hjs, -⟩
    · rw [loadStr_congr fun i _ hi => hsame i hi, loadStr_storeStr htyped.2.2.2]
    · cases hjs
  · rw [readNumber_of_decode hmap hd he (by simpa using hstring)]
    rfl

/-- A file that was written whole is read as the configuration. -/
theorem decoded_configText (hfit : StringsFit configProfileMap w) :
    decoded parseText (some (configText w)) = some (checkedValues w) := by
  have hmap := configProfileMap_wellFormed
  have hjson : dataToJsonByMap configProfileMap w = some (objectOf w) :=
    dataToJsonByMap_eq fun e he => isSome_encode hmap hfit he
  obtain ⟨d, hback⟩ := exists_cjsonToDataByMap (readable_of_fit hmap hfit) zeroed
  have hload : loadJson parseText (some (configText w)) = dataToJsonByMap configProfileMap w := by
    rw [hjson, loadJson, Option.bind_some, parseText_configText]
  rw [decoded_eq zeroed, readConfigFile, hload, hback, Option.map_some, values, checkedValues]
  refine congrArg some (List.map_congr_left fun e he => ?_)
  rw [ConfigMap.value]
  split_ifs with hstring
  · rw [← loadStr_size he hstring, loadStr_round_trip hmap hfit hback he hstring]
  · rw [readNumber_round_trip hmap hfit hback he (by simpa using hstring)]

/-- A file that was written in part is read as the defaults. -/
theorem decoded_take (hk : k < (configText w).length) :
    decoded parseText (some ((configText w).take k)) = some defaultValues := by
  rw [decoded_of_parse_none (parseText_take hk), decoded_none]

/-! ### Runs -/

/-- The static `config` and the file. -/
structure ConfigState where
  config : Memory
  file : Option (List Char)

/-- What the program does with its configuration, and what happens to a write. -/
inductive ConfigAction
  | restart
  | get (rconfig : Memory)
  | set (o : WriteOutcome) (wconfig : Memory)

/-- What comes back: nothing, the values of the structure of the caller, or a result. -/
inductive ConfigOutput
  | started
  | read (values : List (CInt ⊕ Option CStr))
  | written (ret : CInt)
  deriving DecidableEq

/-- One call; a restart leaves the static `config` of zeros. -/
def ConfigState.step (s : ConfigState) : ConfigAction → Option (ConfigOutput × ConfigState)
  | .restart => some (.started, { s with config := zeroed })
  | .get rconfig => (configGet parseText s.file s.config rconfig).map fun result =>
      (.read (values result.2), { s with config := result.1 })
  | .set o wconfig => (configSet printText o s.config wconfig s.file).map fun result =>
      (.written result.1, { config := result.2.1, file := result.2.2 })

/-- The same call on a store of values; a write that stops in the file leaves the defaults. -/
def storeStep (stored : Option (List (CInt ⊕ Option CStr))) :
    ConfigAction → Option (ConfigOutput × Option (List (CInt ⊕ Option CStr)))
  | .restart => some (.started, stored)
  | .get _ => stored.map fun values => (.read values, stored)
  | .set o wconfig =>
    if !o.opened then some (.written (-1#32), stored)
    else if o.written < (configText wconfig).length then some (.written (-1#32), some defaultValues)
    else some (.written 0#32, some (checkedValues wconfig))

/-- What comes back in a run, up to the first call without a result. -/
def outputs {σ : Type} (step : σ → ConfigAction → Option (ConfigOutput × σ)) : σ → List ConfigAction →
    List ConfigOutput
  | _, [] => []
  | s, a :: later =>
    match step s a with
    | none => []
    | some (output, s) => output :: outputs step s later

variable {s : ConfigState} {o : WriteOutcome} {a : ConfigAction} {actions : List ConfigAction}

theorem encode_copyConfig (hfit : StringsFit configProfileMap w) (he : e ∈ configProfileMap) :
    e.encode (copyConfig w config) = e.encode w := by
  by_cases hstring : e.isString = true
  · obtain ⟨t, ht⟩ := hfit e he hstring
    have ht' : loadStr (copyConfig w config) e.dataAddress.offset e.max.toNat = some t := by
      rw [loadStr_size he hstring, loadStr_copyConfig he, ← loadStr_size he hstring, ht]
    rw [encode_of_fit configProfileMap_wellFormed he hstring ht,
      encode_of_fit configProfileMap_wellFormed he hstring ht']
  · have hnumber : e.isString = false := by simpa using hstring
    rw [encode_of_number hnumber, encode_of_number hnumber, readNumber_copyConfig he hnumber]

/-- What is written is the text of the configuration that was given. -/
theorem json_copyConfig (hfit : StringsFit configProfileMap w) :
    dataToJsonByMap configProfileMap (copyConfig w config) = some (objectOf w) := by
  have hencode : ∀ e ∈ configProfileMap, e.encode (copyConfig w config) = e.encode w :=
    fun e he => encode_copyConfig hfit he
  rw [dataToJsonByMap_eq fun e he => by
    rw [hencode e he]
    exact isSome_encode configProfileMap_wellFormed hfit he]
  refine congrArg (fun items => some (CJson.object items)) (List.map_congr_left fun e he => ?_)
  rw [itemOf, itemOf, hencode e he]

/-- The values of the structure of the caller are those that the file is read as. -/
theorem values_copyConfig : values (copyConfig w config) = values w := by
  refine List.map_congr_left fun e he => ?_
  rw [ConfigMap.value, ConfigMap.value]
  split_ifs with hstring
  · rw [loadStr_copyConfig he]
  · rw [readNumber_copyConfig he (by simpa using hstring)]

/-- A call on a configuration whose strings fit. -/
def Writable : ConfigAction → Prop
  | .set _ wconfig => StringsFit configProfileMap wconfig
  | _ => True

/-- A call does the same to the file as to the store of the values that the file is read as. -/
theorem step_refines (ha : Writable a) :
    (s.step a).map (fun result => (result.1, decoded parseText result.2.file)) =
      storeStep (decoded parseText s.file) a := by
  cases a with
  | restart => rfl
  | get rconfig =>
    rw [ConfigState.step, storeStep, configGet]
    rcases hread : readConfigFile parseText s.file s.config with _ | config
    · rw [decoded_eq s.config, hread]
      rfl
    · have hstored : decoded parseText s.file = some (values config) := by
        rw [decoded_eq s.config, hread, Option.map_some]
      simp only [Option.map_some, hstored, values_copyConfig]
  | set o wconfig =>
    rw [ConfigState.step, storeStep, configSet_eq _ o s.file (json_copyConfig ha)]
    have htext : printText (objectOf wconfig) = configText wconfig := rfl
    rw [htext]
    split_ifs with hclosed hlt
    · rfl
    · simp only [Option.map_some, decoded_take hlt]
    · simp only [Option.map_some, decoded_configText ha]

end GokeWebcam.Global
