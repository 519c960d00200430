import GokeWebcam.Lib.Attempt
import GokeWebcam.Lib.CString
import GokeWebcam.Common.CJson

/-!
# The persisted configuration

`global/config.c` and `common/config/rwio.c`: the structure `config_t` as bytes in memory, the table
`config_profile_map` of its members with their names, types, defaults and bounds, and the two walks
over the table, one from memory to a JSON object and one back.

The types of entries that no entry has (`cfg_float`, `cfg_stime`, `cfg_slice`) are left out. A walk
has no result when it reads the string of an item that has none.

* `configProfileMap_wellFormed`: the members lie one behind the other, their types hold all values
  within their bounds, and every default is within its own.
* `exists_decode_of_mem`: what a member holds after a walk is what its own entry wrote.
* `codec_round_trip`: what is read from the object of a configuration is that configuration, with the
  default in the place of a number out of bounds.
-/

namespace GokeWebcam.Global

open Lib Common

/-! ### The structure -/

/-- Source: `global/config.h` `config_t` -/
inductive Member
  | videoQuality | subvideoQuality | alarmSwitch | motionDetectSensitivity | alarmFreqency
  | videoMirror | ipcVersion | dayNightMode | motionSchedulerEnable
  | motionSchedulerBegin (day : Fin 7) | motionSchedulerEnd (day : Fin 7)
  | osdEnable | wdrEnable | speakerEnable | recorderEnable | ledEnable | imageCorrect | deviceName
  | smdEnable | debugLevel | timeZone | debugSwitch | debug (i : Fin 20)
  deriving DecidableEq, Repr

/-- Where a member lies: an `int` on a multiple of four. -/
def Member.offset : Member → ℕ
  | videoQuality => 0
  | subvideoQuality => 1
  | alarmSwitch => 2
  | motionDetectSensitivity => 3
  | alarmFreqency => 4
  | videoMirror => 5
  | ipcVersion => 6
  | dayNightMode => 38
  | motionSchedulerEnable => 39
  | motionSchedulerBegin day => 40 + 8 * day
  | motionSchedulerEnd day => 44 + 8 * day
  | osdEnable => 96
  | wdrEnable => 97
  | speakerEnable => 98
  | recorderEnable => 99
  | ledEnable => 100
  | imageCorrect => 101
  | deviceName => 102
  | smdEnable => 134
  | debugLevel => 135
  | timeZone => 136
  | debugSwitch => 137
  | debug i => 140 + 4 * i

/-- How many bytes a member has. -/
def Member.size : Member → ℕ
  | ipcVersion => 32
  | deviceName => 32
  | motionSchedulerBegin _ => 4
  | motionSchedulerEnd _ => 4
  | debug _ => 4
  | _ => 1

/-- `sizeof(config_t)`. -/
def sizeofConfig : ℕ := 220

/-! ### The table -/

/-- Source: `common/config/rwio.h` `config_data_type_t` -/
inductive ConfigDataType
  | cfgU32 | cfgU16 | cfgU8 | cfgS32 | cfgS16 | cfgS8 | cfgString
  deriving DecidableEq, Repr

/-- Source: `common/config/rwio.h` `config_map_t` -/
structure ConfigMap where
  stringName : List Char
  dataAddress : Member
  dataType : ConfigDataType
  defaultValue : List Char
  min : ℤ
  max : ℤ
  deriving DecidableEq, Repr

/-- Source: `global/global_interface.h` `APPLICATION_VERSION_STRING` -/
def applicationVersionString : List Char := "alpha-4.0".toList

/-- Source: `global/config.c` `config_profile_map` -/
def configProfileMap : List ConfigMap :=
  [⟨"video_quality".toList, .videoQuality, .cfgU8, "2".toList, 0, 2⟩,
    ⟨"subvideo_quality".toList, .subvideoQuality, .cfgU8, "0".toList, 0, 2⟩,
    ⟨"alarm_switch".toList, .alarmSwitch, .cfgU8, "1".toList, 0, 1⟩,
    ⟨"motion_detect_sensitivity".toList, .motionDetectSensitivity, .cfgU8, "3".toList, 0, 5⟩,
    ⟨"alarm_freqency".toList, .alarmFreqency, .cfgU8, "1".toList, 0, 2⟩,
    ⟨"video_mirror".toList, .videoMirror, .cfgU8, "0".toList, 0, 1⟩,
    ⟨"ipc_version".toList, .ipcVersion, .cfgString, applicationVersionString, 0, 32⟩,
    ⟨"day_night_mode".toList, .dayNightMode, .cfgU8, "0".toList, 0, 2⟩,
    ⟨"motion_scheduler_enable".toList, .motionSchedulerEnable, .cfgU8, "0".toList, 0, 1⟩,
    ⟨"motion_scheduler_0_begin".toList, .motionSchedulerBegin 0, .cfgU32, "0".toList, 0, 86400⟩,
    ⟨"motion_scheduler_0_end".toList, .motionSchedulerEnd 0, .cfgU32, "0".toList, 0, 86400⟩,
    ⟨"motion_scheduler_1_begin".toList, .motionSchedulerBegin 1, .cfgU32, "0".toList, 0, 86400⟩,
    ⟨"motion_scheduler_1_end".toList, .motionSchedulerEnd 1, .cfgU32, "0".toList, 0, 86400⟩,
    ⟨"motion_scheduler_2_begin".toList, .motionSchedulerBegin 2, .cfgU32, "0".toList, 0, 86400⟩,
    ⟨"motion_scheduler_2_end".toList, .motionSchedulerEnd 2, .cfgU32, "0".toList, 0, 86400⟩,
    ⟨"motion_scheduler_3_begin".toList, .motionSchedulerBegin 3, .cfgU32, "0".toList, 0, 86400⟩,
    ⟨"motion_scheduler_3_end".toList, .motionSchedulerEnd 3, .cfgU32, "0".toList, 0, 86400⟩,
    ⟨"motion_scheduler_4_begin".toList, .motionSchedulerBegin 4, .cfgU32, "0".toList, 0, 86400⟩,
    ⟨"motion_scheduler_4_end".toList, .motionSchedulerEnd 4, .cfgU32, "0".toList, 0, 86400⟩,
    ⟨"motion_scheduler_5_begin".toList, .motionSchedulerBegin 5, .cfgU32, "0".toList, 0, 86400⟩,
    ⟨"motion_scheduler_5_end".toList, .motionSchedulerEnd 5, .cfgU32, "0".toList, 0, 86400⟩,
    ⟨"motion_scheduler_6_begin".toList, .motionSchedulerBegin 6, .cfgU32, "0".toList, 0, 86400⟩,
    ⟨"motion_scheduler_6_end".toList, .motionSchedulerEnd 6, .cfgU32, "0".toList, 0, 86400⟩,
    ⟨"osd_enable".toList, .osdEnable, .cfgU8, "1".toList, 0, 1⟩,
    ⟨"wdr_enable".toList, .wdrEnable, .cfgU8, "0".toList, 0, 1⟩,
    ⟨"speaker_enable".toList, .speakerEnable, .cfgU8, "1".toList, 0, 1⟩,
    ⟨"recorder_enable".toList, .recorderEnable, .cfgU8, "3".toList, 0, 3⟩,
    ⟨"led_enable".toList, .ledEnable, .cfgU8, "1".toList, 0, 1⟩,
    ⟨"image_correct".toList, .imageCorrect, .cfgU8, "1".toList, 0, 1⟩,
    ⟨"device_name".toList, .deviceName, .cfgString, "".toList, 0, 32⟩,
    ⟨"smd_enable".toList, .smdEnable, .cfgU8, "1".toList, 0, 1⟩,
    ⟨"debug_level".toList, .debugLevel, .cfgU8, "2".toList, 0, 8⟩,
    ⟨"time_zone".toList, .timeZone, .cfgU8, "0".toList, 0, 23⟩,
    ⟨"debug_switch".toList, .debugSwitch, .cfgS8, "0".toList, 0, 1⟩,
    ⟨"debug00".toList, .debug 0, .cfgS32, "0".toList, -1000000, 1000000⟩,
    ⟨"debug01".toList, .debug 1, .cfgS32, "0".toList, -1000000, 1000000⟩,
    ⟨"debug02".toList, .debug 2, .cfgS32, "0".toList, -1000000, 1000000⟩,
    ⟨"debug03".toList, .debug 3, .cfgS32, "0".toList, -1000000, 1000000⟩,
    ⟨"debug04".toList, .debug 4, .cfgS32, "0".toList, -1000000, 1000000⟩,
    ⟨"debug05".toList, .debug 5, .cfgS32, "0".toList, -1000000, 1000000⟩,
    ⟨"debug06".toList, .debug 6, .cfgS32, "0".toList, -1000000, 1000000⟩,
    ⟨"debug07".toList, .debug 7, .cfgS32, "0".toList, -1000000, 1000000⟩,
    ⟨"debug08".toList, .debug 8, .cfgS32, "0".toList, -1000000, 1000000⟩,
    ⟨"debug09".toList, .debug 9, .cfgS32, "0".toList, -1000000, 1000000⟩,
    ⟨"debug10".toList, .debug 10, .cfgS32, "0".toList, -1000000, 1000000⟩,
    ⟨"debug11".toList, .debug 11, .cfgS32, "0".toList, -1000000, 1000000⟩,
    ⟨"debug12".toList, .debug 12, .cfgS32, "0".toList, -1000000, 1000000⟩,
    ⟨"debug13".toList, .debug 13, .cfgS32, "0".toList, -1000000, 1000000⟩,
    ⟨"debug14".toList, .debug 14, .cfgS32, "0".toList, -1000000, 1000000⟩,
    ⟨"debug15".toList, .debug 15, .cfgS32, "0".toList, -1000000, 1000000⟩,
    ⟨"debug16".toList, .debug 16, .cfgS32, "0".toList, -1000000, 1000000⟩,
    ⟨"debug17".toList, .debug 17, .cfgS32, "0".toList, -1000000, 1000000⟩,
    ⟨"debug18".toList, .debug 18, .cfgS32, "0".toList, -1000000, 1000000⟩,
    ⟨"debug19".toList, .debug 19, .cfgS32, "0".toList, -1000000, 1000000⟩]

/-! ### Numbers in memory -/

/-- The bytes of a number. -/
def ConfigDataType.width : ConfigDataType → ℕ
  | cfgU32 => 4
  | cfgU16 => 2
  | cfgU8 => 1
  | cfgS32 => 4
  | cfgS16 => 2
  | cfgS8 => 1
  | cfgString => 0

/-- The least value of a type that an `int` holds. -/
def ConfigDataType.lowest : ConfigDataType → ℤ
  | cfgU16 => 0
  | cfgU8 => 0
  | cfgS16 => -32768
  | cfgS8 => -128
  | _ => -2147483648

/-- The greatest value of a type that an `int` holds. -/
def ConfigDataType.highest : ConfigDataType → ℤ
  | cfgU16 => 65535
  | cfgU8 => 255
  | cfgS16 => 32767
  | cfgS8 => 127
  | _ => 2147483647

/-- `tmp = *((type *) address)`.
Source: `common/config/rwio.c` `data_to_json_by_map` -/
def readNumber (t : ConfigDataType) (m : Memory) (a : ℕ) : CInt :=
  let raw := leValue (load m a t.width)
  match t with
  | .cfgS16 => (BitVec.ofNat 16 raw).signExtend 32
  | .cfgS8 => (BitVec.ofNat 8 raw).signExtend 32
  | _ => BitVec.ofNat 32 raw

/-- `*((type *) address) = (type) tmp`.
Source: `common/config/rwio.c` `cjson_to_data_by_map` -/
def writeNumber (t : ConfigDataType) (m : Memory) (a : ℕ) (tmp : CInt) : Memory :=
  store m a (leBytes t.width tmp.toNat)

namespace ConfigMap

/-! ### The walks -/

def isString (e : ConfigMap) : Bool := e.dataType = .cfgString

/-- `!(tmp > max || tmp < min)`. -/
def inRange (e : ConfigMap) (tmp : CInt) : Bool := !(e.max < tmp.toInt || tmp.toInt < e.min)

/-- `strtoul(default_value, NULL, 0)` or `strtol(default_value, NULL, 0)`; of the one digit that the
default of a number is, the base 10 reads the same. -/
def defaultNumber (e : ConfigMap) : CInt := BitVec.ofInt 32 (strtoll e.defaultValue)

/-- A number, or the default when it is out of bounds. -/
def checked (e : ConfigMap) (tmp : CInt) : CInt := if e.inRange tmp then tmp else e.defaultNumber

/-- The number that an item gives, or its absence. -/
def decodedNumber (e : ConfigMap) (js : Option CJson) : CInt :=
  match js with
  | some js => e.checked js.valueint
  | none => e.defaultNumber

/-- One entry of the walk over the table.
Source: `common/config/rwio.c` `cjson_to_data_by_map` -/
def decode (json : Option CJson) (m : Memory) (e : ConfigMap) : Option Memory :=
  let js := json.bind (CJson.getObjectItem e.stringName)
  if e.isString then
    if 1 < e.max then
      match js with
      | some js => js.valuestring.map (storeStr m e.dataAddress.offset)
      | none => some (storeStr m e.dataAddress.offset (.ofChars e.defaultValue))
    else some m
  else some (writeNumber e.dataType m e.dataAddress.offset (e.decodedNumber js))

/-- One entry of the walk over the table. A string that does not end in the structure has no item.
Source: `common/config/rwio.c` `data_to_json_by_map` -/
def encode (m : Memory) (e : ConfigMap) : Option CJson :=
  if e.isString then
    (loadStr m e.dataAddress.offset (sizeofConfig - e.dataAddress.offset)).map .string
  else some (.number (e.checked (readNumber e.dataType m e.dataAddress.offset)))

end ConfigMap

/-- Source: `common/config/rwio.c` `cjson_to_data_by_map` -/
def cjsonToDataByMap (map : List ConfigMap) (json : Option CJson) (m : Memory) : Option Memory :=
  map.foldlM (ConfigMap.decode json) m

/-- Source: `common/config/rwio.c` `data_to_json_by_map` -/
def dataToJsonByMap (map : List ConfigMap) (m : Memory) : Option CJson :=
  (map.mapM fun e : ConfigMap => (e.encode m).map fun item => (e.stringName, item)).map .object

/-! ### The table is well formed -/

/-- The type of an entry fits its member and its bounds, and its default is within them. -/
def ConfigMap.WellTyped (e : ConfigMap) : Prop :=
  e.dataAddress.offset + e.dataAddress.size ≤ sizeofConfig ∧
    if e.isString then
      1 < e.max ∧ e.max = e.dataAddress.size ∧
        (CStr.ofChars e.defaultValue).strlen < e.dataAddress.size
    else
      e.dataType.width = e.dataAddress.size ∧ e.dataType.lowest ≤ e.min ∧
        e.max ≤ e.dataType.highest ∧ e.inRange e.defaultNumber = true

instance (e : ConfigMap) : Decidable e.WellTyped := by
  unfold ConfigMap.WellTyped
  infer_instance

/-- The entries fit, their members lie one behind the other, and their names differ in any case. -/
structure WellFormed (map : List ConfigMap) : Prop where
  typed : ∀ e ∈ map, e.WellTyped
  sorted : map.Pairwise fun e f => e.dataAddress.offset + e.dataAddress.size ≤ f.dataAddress.offset
  named : (map.map fun e => e.stringName.map Char.toLower).Nodup

theorem configProfileMap_wellFormed : WellFormed configProfileMap where
  typed := by decide
  sorted := by decide
  named := by decide

variable {map es : List ConfigMap} {e f : ConfigMap} {json : Option CJson} {js : CJson}
  {m m' m₁ m₂ : Memory} {a b i : ℕ} {t : ConfigDataType} {tmp : CInt} {s : CStr}

/-! ### Numbers -/

/-- A number that its type holds is read back. -/
theorem readNumber_writeNumber (ht : t ≠ .cfgString) (hlo : t.lowest ≤ tmp.toInt)
    (hhi : tmp.toInt ≤ t.highest) : readNumber t (writeNumber t m a tmp) a = tmp := by
  have hcond := BitVec.toInt_eq_toNat_cond tmp
  have hlt := tmp.isLt
  unfold readNumber writeNumber
  rw [leValue_load_store]
  cases t with
  | cfgU32 =>
      apply BitVec.eq_of_toNat_eq
      simpa [ConfigDataType.width] using hlt
  | cfgS32 =>
      apply BitVec.eq_of_toNat_eq
      simpa [ConfigDataType.width] using hlt
  | cfgU16 =>
      apply BitVec.eq_of_toNat_eq
      simp only [ConfigDataType.lowest, ConfigDataType.highest, ConfigDataType.width,
        BitVec.toNat_ofNat] at *
      split_ifs at hcond <;> omega
  | cfgU8 =>
      apply BitVec.eq_of_toNat_eq
      simp only [ConfigDataType.lowest, ConfigDataType.highest, ConfigDataType.width,
        BitVec.toNat_ofNat] at *
      split_ifs at hcond <;> omega
  | cfgS16 =>
      apply BitVec.eq_of_toInt_eq
      simp only [ConfigDataType.lowest, ConfigDataType.highest, ConfigDataType.width] at *
      rw [BitVec.toInt_signExtend_of_le (by decide), BitVec.toInt_eq_toNat_cond, BitVec.toNat_ofNat]
      split_ifs at hcond ⊢ <;> omega
  | cfgS8 =>
      apply BitVec.eq_of_toInt_eq
      simp only [ConfigDataType.lowest, ConfigDataType.highest, ConfigDataType.width] at *
      rw [BitVec.toInt_signExtend_of_le (by decide), BitVec.toInt_eq_toNat_cond, BitVec.toNat_ofNat]
      split_ifs at hcond ⊢ <;> omega
  | cfgString => exact absurd rfl ht

theorem readNumber_congr (h : ∀ i, a ≤ i → i < a + t.width → m i = m' i) :
    readNumber t m a = readNumber t m' a := by
  unfold readNumber
  rw [load_congr h]

theorem writeNumber_of_lt (h : i < a) : writeNumber t m a tmp i = m i := store_of_lt h

theorem writeNumber_of_le (h : a + t.width ≤ i) : writeNumber t m a tmp i = m i := by
  apply store_of_le
  rwa [length_leBytes]

/-! ### One entry -/

namespace ConfigMap

theorem inRange_iff : e.inRange tmp = true ↔ e.min ≤ tmp.toInt ∧ tmp.toInt ≤ e.max := by
  simp [inRange, and_comm]

theorem isString_eq_false_iff : e.isString = false ↔ e.dataType ≠ .cfgString := by simp [isString]

/-- What is written is within the bounds. -/
theorem inRange_checked (h : e.inRange e.defaultNumber = true) : e.inRange (e.checked tmp) = true := by
  unfold checked
  split_ifs with hrange
  · exact hrange
  · exact h

theorem inRange_decodedNumber (h : e.inRange e.defaultNumber = true) (js : Option CJson) :
    e.inRange (e.decodedNumber js) = true := by
  cases js with
  | none => exact h
  | some js => exact inRange_checked h

theorem checked_checked (h : e.inRange e.defaultNumber = true) :
    e.checked (e.checked tmp) = e.checked tmp := if_pos (inRange_checked h)

theorem decode_of_number (h : e.isString = false) : e.decode json m =
    some (writeNumber e.dataType m e.dataAddress.offset
      (e.decodedNumber (json.bind (CJson.getObjectItem e.stringName)))) := by
  unfold decode
  rw [h]
  rfl

/-- The string that is written, when the item has one. -/
theorem decode_of_string (h : e.isString = true) (hmax : 1 < e.max) (hm : e.decode json m = some m') :
    ∃ s, m' = storeStr m e.dataAddress.offset s ∧
      (json.bind (CJson.getObjectItem e.stringName) = none ∧ s = .ofChars e.defaultValue ∨
        ∃ js, json.bind (CJson.getObjectItem e.stringName) = some js ∧ js.valuestring = some s) := by
  unfold decode at hm
  rw [if_pos h, if_pos hmax] at hm
  cases hjs : json.bind (CJson.getObjectItem e.stringName) with
  | none =>
      rw [hjs] at hm
      exact ⟨_, (Option.some.inj hm).symm, .inl ⟨rfl, rfl⟩⟩
  | some js =>
      rw [hjs] at hm
      obtain ⟨s, hs, hm⟩ := Option.map_eq_some_iff.mp hm
      exact ⟨s, hm.symm, .inr ⟨js, rfl, hs⟩⟩

/-- Nothing in front of the member is written. -/
theorem decode_of_lt (hm : e.decode json m = some m') (hi : i < e.dataAddress.offset) :
    m' i = m i := by
  by_cases hstring : e.isString = true
  · by_cases hmax : 1 < e.max
    · obtain ⟨s, rfl, -⟩ := decode_of_string hstring hmax hm
      exact storeStr_of_lt hi
    · unfold decode at hm
      rw [if_pos hstring, if_neg hmax] at hm
      rw [← Option.some.inj hm]
  · rw [decode_of_number (by simpa using hstring)] at hm
    rw [← Option.some.inj hm]
    exact writeNumber_of_lt hi

/-- A number that its member holds is read back. -/
theorem readNumber_of_write (he : e.WellTyped) (hstring : e.isString = false)
    (hrange : e.inRange tmp = true) :
    readNumber e.dataType (writeNumber e.dataType m e.dataAddress.offset tmp)
      e.dataAddress.offset = tmp := by
  unfold WellTyped at he
  rw [hstring] at he
  obtain ⟨-, -, hlo, hhi, -⟩ := he
  rw [inRange_iff] at hrange
  exact readNumber_writeNumber (isString_eq_false_iff.mp hstring) (hlo.trans hrange.1)
    (hrange.2.trans hhi)

theorem inRange_default (he : e.WellTyped) (hstring : e.isString = false) :
    e.inRange e.defaultNumber = true := by
  unfold WellTyped at he
  rw [hstring] at he
  exact he.2.2.2.2

end ConfigMap

/-! ### The walk from JSON to memory -/

theorem cjsonToDataByMap_cons : cjsonToDataByMap (e :: es) json m =
    (e.decode json m).bind (cjsonToDataByMap es json) := rfl

/-- Nothing in front of the members is written. -/
theorem cjsonToDataByMap_of_lt (h : cjsonToDataByMap es json m = some m')
    (hi : ∀ e ∈ es, i < e.dataAddress.offset) : m' i = m i := by
  induction es generalizing m with
  | nil =>
      rw [← Option.some.inj h]
  | cons e es ih =>
      rw [cjsonToDataByMap_cons] at h
      obtain ⟨m₁, hm, h⟩ := Option.bind_eq_some_iff.mp h
      rw [ih h fun f hf => hi f (by simp [hf]), e.decode_of_lt hm (hi e (by simp))]

/-- What a member holds in the end is what its own entry wrote: the later entries write behind it. -/
theorem exists_decode_of_mem
    (hsorted : map.Pairwise fun e f =>
      e.dataAddress.offset + e.dataAddress.size ≤ f.dataAddress.offset)
    (h : cjsonToDataByMap map json m = some m') (he : e ∈ map) :
    ∃ m₁ m₂, e.decode json m₁ = some m₂ ∧
      ∀ i < e.dataAddress.offset + e.dataAddress.size, m' i = m₂ i := by
  induction map generalizing m with
  | nil => simp at he
  | cons f es ih =>
      rw [List.pairwise_cons] at hsorted
      rw [cjsonToDataByMap_cons] at h
      obtain ⟨m₂, hm, hrest⟩ := Option.bind_eq_some_iff.mp h
      rcases List.mem_cons.mp he with rfl | he
      · refine ⟨m, m₂, hm, fun i hi => ?_⟩
        apply cjsonToDataByMap_of_lt hrest
        intro g hg
        exact hi.trans_le (hsorted.1 g hg)
      · exact ih hsorted.2 hrest he

/-- Every item that is read as a string has one. -/
def Readable (map : List ConfigMap) (json : Option CJson) : Prop :=
  ∀ e ∈ map, e.isString = true → ∀ js, json.bind (CJson.getObjectItem e.stringName) = some js →
    ∃ s, js.valuestring = some s

/-- The walk has a result when it reads no string where there is none. -/
theorem exists_cjsonToDataByMap (h : Readable map json) (m : Memory) :
    ∃ m', cjsonToDataByMap map json m = some m' := by
  induction map generalizing m with
  | nil => exact ⟨m, rfl⟩
  | cons e es ih =>
      have hstep : ∃ m₁, e.decode json m = some m₁ := by
        by_cases hstring : e.isString = true
        · unfold ConfigMap.decode
          rw [if_pos hstring]
          split_ifs
          · cases hjs : json.bind (CJson.getObjectItem e.stringName) with
            | none => exact ⟨_, rfl⟩
            | some js =>
                obtain ⟨s, hs⟩ := h e (by simp) hstring js hjs
                dsimp only
                rw [hs]
                exact ⟨_, rfl⟩
          · exact ⟨m, rfl⟩
        · exact ⟨_, e.decode_of_number (by simpa using hstring)⟩
      obtain ⟨m₁, hm⟩ := hstep
      obtain ⟨m', hm'⟩ := ih (fun f hf => h f (by simp [hf])) m₁
      exact ⟨m', by rw [cjsonToDataByMap_cons, hm]; exact hm'⟩

/-- A number that was read is the one its item gives. -/
theorem readNumber_of_decode (hmap : WellFormed map)
    (h : cjsonToDataByMap map json m = some m') (he : e ∈ map) (hstring : e.isString = false) : readNumber e.dataType m' e.dataAddress.offset =
      e.decodedNumber (json.bind (CJson.getObjectItem e.stringName)) := by
  obtain ⟨m₁, m₂, hdecode, hsame⟩ := exists_decode_of_mem hmap.sorted h he
  have htyped := hmap.typed e he
  have hwidth : e.dataType.width = e.dataAddress.size := by
    unfold ConfigMap.WellTyped at htyped
    rw [hstring] at htyped
    exact htyped.2.1
  rw [e.decode_of_number hstring] at hdecode
  rw [readNumber_congr fun i _ hi => hsame i (hwidth ▸ hi), ← Option.some.inj hdecode]
  exact ConfigMap.readNumber_of_write htyped hstring
    (ConfigMap.inRange_decodedNumber (ConfigMap.inRange_default htyped hstring) _)

/-- A number that was read is within its bounds. -/
theorem inRange_of_decode (hmap : WellFormed map)
    (h : cjsonToDataByMap map json m = some m') (he : e ∈ map) (hstring : e.isString = false) :
    e.inRange (readNumber e.dataType m' e.dataAddress.offset) = true := by
  rw [readNumber_of_decode hmap h he hstring]
  exact ConfigMap.inRange_decodedNumber (ConfigMap.inRange_default (hmap.typed e he) hstring) _

/-- A string that was read is the one of its item, or the default, in front of a zero. -/
theorem string_of_decode (hmap : WellFormed map)
    (h : cjsonToDataByMap map json m = some m') (he : e ∈ map) (hstring : e.isString = true) : ∃ m₁ s,
      (∀ i < e.dataAddress.offset + e.dataAddress.size,
        m' i = storeStr m₁ e.dataAddress.offset s i) ∧
      (json.bind (CJson.getObjectItem e.stringName) = none ∧ s = .ofChars e.defaultValue ∨
        ∃ js, json.bind (CJson.getObjectItem e.stringName) = some js ∧ js.valuestring = some s) := by
  obtain ⟨m₁, m₂, hdecode, hsame⟩ := exists_decode_of_mem hmap.sorted h he
  have htyped := hmap.typed e he
  unfold ConfigMap.WellTyped at htyped
  rw [if_pos hstring] at htyped
  obtain ⟨s, rfl, hs⟩ := ConfigMap.decode_of_string hstring htyped.2.1 hdecode
  exact ⟨m₁, s, hsame, hs⟩

/-! ### The walk from memory to JSON -/

/-- The item of an entry that has one. -/
def itemOf (m : Memory) (e : ConfigMap) : CJson := (e.encode m).getD .null

theorem dataToJsonByMap_eq (h : ∀ e ∈ map, (e.encode m).isSome = true) :
    dataToJsonByMap map m = some (.object (map.map fun e => (e.stringName, itemOf m e))) := by
  unfold dataToJsonByMap
  rw [mapM_eq_map (g := fun e => (e.stringName, itemOf m e))]
  · rfl
  · intro e he
    obtain ⟨item, hitem⟩ := Option.isSome_iff_exists.mp (h e he)
    simp [itemOf, hitem]

/-- Every string ends before its declared maximum. -/
def StringsFit (map : List ConfigMap) (m : Memory) : Prop :=
  ∀ e ∈ map, e.isString = true → ∃ s, loadStr m e.dataAddress.offset e.max.toNat = some s

/-- A string that fits is its item. -/
theorem encode_of_fit (hmap : WellFormed map) (he : e ∈ map) (hstring : e.isString = true)
    (hs : loadStr m e.dataAddress.offset e.max.toNat = some s) : e.encode m = some (.string s) := by
  have htyped := hmap.typed e he
  unfold ConfigMap.WellTyped at htyped
  rw [if_pos hstring] at htyped
  obtain ⟨hfits, -, hmax, -⟩ := htyped
  unfold ConfigMap.encode
  rw [if_pos hstring, loadStr_mono hs (by rw [hmax]; omega)]
  rfl

theorem encode_of_number (hstring : e.isString = false) : e.encode m =
    some (.number (e.checked (readNumber e.dataType m e.dataAddress.offset))) := by
  unfold ConfigMap.encode
  rw [hstring]
  rfl

/-- A configuration whose strings fit has an object. -/
theorem isSome_encode (hmap : WellFormed map) (hfit : StringsFit map m) (he : e ∈ map) :
    (e.encode m).isSome = true := by
  by_cases hstring : e.isString = true
  · obtain ⟨s, hs⟩ := hfit e he hstring
    rw [encode_of_fit hmap he hstring hs]
    rfl
  · rw [encode_of_number (by simpa using hstring)]
    rfl

/-! ### Round trip -/

/-- The item of an entry in the object of a configuration. -/
theorem getObjectItem_of_encode (hmap : WellFormed map) (he : e ∈ map) :
    CJson.getObjectItem e.stringName (.object (map.map fun e => (e.stringName, itemOf m e))) =
      some (itemOf m e) :=
  CJson.getObjectItem_map hmap.named he

/-- The object of a configuration whose strings fit can be read. -/
theorem readable_of_fit (hmap : WellFormed map) (hfit : StringsFit map m) :
    Readable map (dataToJsonByMap map m) := by
  rw [dataToJsonByMap_eq fun e he => isSome_encode hmap hfit he]
  intro e he hstring js hjs
  obtain ⟨s, hs⟩ := hfit e he hstring
  rw [Option.bind_some, getObjectItem_of_encode hmap he, itemOf,
    encode_of_fit hmap he hstring hs] at hjs
  exact ⟨s, by simp [← Option.some.inj hjs, CJson.valuestring]⟩

/-- A number comes back, or its default when it was out of bounds. -/
theorem readNumber_round_trip (hmap : WellFormed map) (hfit : StringsFit map m)
    (h : cjsonToDataByMap map (dataToJsonByMap map m) m' = some m₁) (he : e ∈ map)
    (hstring : e.isString = false) : readNumber e.dataType m₁ e.dataAddress.offset =
      e.checked (readNumber e.dataType m e.dataAddress.offset) := by
  rw [dataToJsonByMap_eq fun e he => isSome_encode hmap hfit he] at h
  rw [readNumber_of_decode hmap h he hstring, Option.bind_some, getObjectItem_of_encode hmap he,
    itemOf, encode_of_number hstring]
  exact ConfigMap.checked_checked (ConfigMap.inRange_default (hmap.typed e he) hstring)

/-- A string that fits comes back. -/
theorem loadStr_round_trip (hmap : WellFormed map) (hfit : StringsFit map m)
    (h : cjsonToDataByMap map (dataToJsonByMap map m) m' = some m₁) (he : e ∈ map)
    (hstring : e.isString = true) : loadStr m₁ e.dataAddress.offset e.max.toNat =
      loadStr m e.dataAddress.offset e.max.toNat := by
  rw [dataToJsonByMap_eq fun e he => isSome_encode hmap hfit he] at h
  obtain ⟨s, hs⟩ := hfit e he hstring
  obtain ⟨m₂, t, hsame, hitem⟩ := string_of_decode hmap h he hstring
  rw [Option.bind_some, getObjectItem_of_encode hmap he, itemOf,
    encode_of_fit hmap he hstring hs] at hitem
  have hts : t = s := by simpa [CJson.valuestring, eq_comm] using hitem
  have htyped := hmap.typed e he
  unfold ConfigMap.WellTyped at htyped
  rw [if_pos hstring] at htyped
  have hsize : e.max.toNat = e.dataAddress.size := by omega
  rw [hs, loadStr_congr fun i _ hi => hsame i (hsize ▸ hi), hts]
  exact loadStr_storeStr (strlen_of_loadStr hs)

/-- The item of an entry is the same afterwards. -/
theorem encode_round_trip (hmap : WellFormed map) (hfit : StringsFit map m)
    (h : cjsonToDataByMap map (dataToJsonByMap map m) m' = some m₁) (he : e ∈ map) :
    e.encode m₁ = e.encode m := by
  by_cases hstring : e.isString = true
  · obtain ⟨s, hs⟩ := hfit e he hstring
    have hs' := (loadStr_round_trip hmap hfit h he hstring).trans hs
    rw [encode_of_fit hmap he hstring hs, encode_of_fit hmap he hstring hs']
  · have hfalse : e.isString = false := by simpa using hstring
    rw [encode_of_number hfalse, encode_of_number hfalse,
      readNumber_round_trip hmap hfit h he hfalse,
      ConfigMap.checked_checked (ConfigMap.inRange_default (hmap.typed e he) hfalse)]

/-- Reading the object of a configuration whose strings fit restores every number within its bounds
and every string, puts the default in the place of a number out of bounds, and the object of what was
read is the same. -/
theorem codec_round_trip (m m' : Memory) (hfit : StringsFit configProfileMap m) :
    ∃ json d, dataToJsonByMap configProfileMap m = some json ∧
      cjsonToDataByMap configProfileMap (some json) m' = some d ∧
      (∀ e ∈ configProfileMap, e.isString = true →
        loadStr d e.dataAddress.offset e.max.toNat = loadStr m e.dataAddress.offset e.max.toNat) ∧
      (∀ e ∈ configProfileMap, e.isString = false →
        readNumber e.dataType d e.dataAddress.offset =
          if e.inRange (readNumber e.dataType m e.dataAddress.offset) then
            readNumber e.dataType m e.dataAddress.offset
          else e.defaultNumber) ∧
      dataToJsonByMap configProfileMap d = some json := by
  have hmap := configProfileMap_wellFormed
  have hjson := dataToJsonByMap_eq fun e he => isSome_encode hmap hfit he
  obtain ⟨d, hback⟩ := exists_cjsonToDataByMap (readable_of_fit hmap hfit) m'
  have hd := hback
  rw [hjson] at hd
  have hnumber : ∀ e ∈ configProfileMap, e.isString = false →
      readNumber e.dataType d e.dataAddress.offset =
        e.checked (readNumber e.dataType m e.dataAddress.offset) :=
    fun e he hstring => readNumber_round_trip hmap hfit hback he hstring
  have hstr : ∀ e ∈ configProfileMap, e.isString = true →
      loadStr d e.dataAddress.offset e.max.toNat = loadStr m e.dataAddress.offset e.max.toNat :=
    fun e he hstring => loadStr_round_trip hmap hfit hback he hstring
  have hfit' : StringsFit configProfileMap d := by
    intro e he hstring
    rw [hstr e he hstring]
    exact hfit e he hstring
  refine ⟨_, d, hjson, hd, hstr, hnumber, ?_⟩
  rw [dataToJsonByMap_eq fun e he => isSome_encode hmap hfit' he]
  refine congrArg (fun items => some (CJson.object items)) (List.map_congr_left fun e he => ?_)
  rw [itemOf, itemOf, encode_round_trip hmap hfit hback he]

/-- The static `config` before anything is read. -/
def zeroed : Memory := fun _ => 0#8

theorem stringsFit_zeroed : StringsFit configProfileMap zeroed := by
  intro e he hstring
  have htyped := configProfileMap_wellFormed.typed e he
  unfold ConfigMap.WellTyped at htyped
  rw [if_pos hstring] at htyped
  obtain ⟨n, hn⟩ := Nat.exists_eq_succ_of_ne_zero (show e.max.toNat ≠ 0 by omega)
  exact ⟨.empty, by rw [hn, loadStr, dif_pos (show zeroed _ = 0#8 from rfl)]⟩

theorem codec_round_trip_zeroed :
    ∃ json d, dataToJsonByMap configProfileMap zeroed = some json ∧
      cjsonToDataByMap configProfileMap (some json) zeroed = some d ∧
      (∀ e ∈ configProfileMap, e.isString = true →
        loadStr d e.dataAddress.offset e.max.toNat =
          loadStr zeroed e.dataAddress.offset e.max.toNat) ∧
      (∀ e ∈ configProfileMap, e.isString = false →
        readNumber e.dataType d e.dataAddress.offset =
          if e.inRange (readNumber e.dataType zeroed e.dataAddress.offset) then
            readNumber e.dataType zeroed e.dataAddress.offset
          else e.defaultNumber) ∧
      dataToJsonByMap configProfileMap d = some json :=
  codec_round_trip zeroed zeroed stringsFit_zeroed

end GokeWebcam.Global
