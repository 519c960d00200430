import GokeWebcam.Lib.Transition
import GokeWebcam.Global.ConfigFile

/-!
# Setting properties

The handlers that change `_config_` from a message: `video_set_property`, `audio_set_property`,
`recorder_set_property`, the setters of `server/aliyun/linkkit_client.c` that change it themselves,
and `device_set_timezone`. A byte is compared as an `int` and assigned truncated. A read outside a
table, or a write outside the rows of the scheduler, has no result.

* `InBounds.assign`: a member that is given a value within its bounds leaves all within theirs.
* `decoded_saved`: what is written of a configuration within its bounds is read back.
* `configOk_of_reach`: in a run whose messages fit, everything stays within its bounds, every lookup
  is in its table, and the file is read as what is in memory.
-/

namespace GokeWebcam.Server.Property

open Lib Common Global

/-! ### The state -/

/-- `_config_`, the static `config` of `global/config.c`, and the file. -/
structure State where
  config : Memory
  saved : Memory
  file : Option (List Char)

/-- Source: `server/video/config.c` `sad_thresh` -/
def sadThresh : List ℤ := [65535, 200, 150, 100, 70, 20]

/-- Source: `server/video/config.c` `alarm_interval` -/
def alarmInterval : List ℤ := [10, 3, 1]

/-- `table[i]`. -/
def lookup (table : List ℤ) (i : CInt) : Option ℤ :=
  if 0 ≤ i.toInt then table[i.toInt.toNat]? else none

/-- A member of one byte, as an `int`. -/
def byteOf (config : Memory) (member : Member) : CInt := readNumber .cfgU8 config member.offset

/-- The interval between two alarms.
Source: `server/video/video.c` `video_md_trigger_message` -/
def mdInterval (config : Memory) : Option ℤ :=
  (lookup alarmInterval (byteOf config .alarmFreqency)).map (· * 60)

/-- The threshold that motion detection starts with.
Source: `server/video/video.c` `video_init` -/
def mdThreshold (config : Memory) : Option ℤ :=
  (lookup sadThresh (byteOf config .motionDetectSensitivity)).map (· * 2)

/-! ### The messages -/

/-- The properties whose value is only compared and assigned.
Source: `VIDEO_PROPERTY_*`, `AUDIO_PROPERTY_SPEAKER`, `RECORDER_PROPERTY_SWITCH` and
`server/aliyun/linkkit_client.c` `Ali_SetStatusLightSwitch` -/
inductive ByteProperty
  | quality | subquality | motionSwitch | motionAlarmInterval | nightShot | timeWatermark | wdr
  | imageCorrection | speaker | recorderSwitch | statusLightSwitch
  deriving DecidableEq, Repr

/-- The member that a property is kept in. -/
def ByteProperty.member : ByteProperty → Member
  | quality => .videoQuality
  | subquality => .subvideoQuality
  | motionSwitch => .alarmSwitch
  | motionAlarmInterval => .alarmFreqency
  | nightShot => .dayNightMode
  | timeWatermark => .osdEnable
  | wdr => .wdrEnable
  | imageCorrection => .imageCorrect
  | speaker => .speakerEnable
  | recorderSwitch => .recorderEnable
  | statusLightSwitch => .ledEnable

inductive PropertySet
  | byte (property : ByteProperty) (temp : CInt)
  | motionSensitivity (temp : CInt)
  | imageFlip (temp : CInt)
  | motionPlan (dog chick duck : CInt)
  | ipcVersion (valuestring : CStr)
  | deviceName (valuestring : CStr)
  | deviceTimeZone (zone : CInt)
  deriving DecidableEq, Repr

/-- What the handlers meet: whether the video runs, whether the calls of the board and the command
that sets the time zone succeed, and what happens to a write. -/
structure Surroundings where
  running : Bool
  getChnAttr : Bool
  setChnAttr : Bool
  vpssSetChnAttr : Bool
  system : Bool
  write : WriteOutcome
  deriving DecidableEq, Repr

/-! ### The handlers -/

def assignByte (config : Memory) (member : Member) (temp : CInt) : Memory :=
  writeNumber .cfgU8 config member.offset temp

def assignInt (config : Memory) (member : Member) (temp : CInt) : Memory :=
  writeNumber .cfgU32 config member.offset temp

/-- A byte that differs is assigned and saved. -/
def setByte (config : Memory) (member : Member) (temp : CInt) : Memory × Bool :=
  if byteOf config member ≠ temp then (assignByte config member temp, true) else (config, false)

/-- Source: `server/video/video.c` `video_set_property`, `VIDEO_PROPERTY_MOTION_SENSITIVITY` -/
def setMotionSensitivity (env : Surroundings) (config : Memory) (temp : CInt) :
    Option (Memory × Bool) :=
  if byteOf config .motionDetectSensitivity ≠ temp && env.running && env.getChnAttr then
    (lookup sadThresh temp).map fun _ =>
      if env.setChnAttr then (assignByte config .motionDetectSensitivity temp, true)
      else (config, false)
  else some (config, false)

/-- Source: `server/video/video.c` `video_set_property`, `VIDEO_PROPERTY_IMAGE_FLIP` -/
def setImageFlip (env : Surroundings) (config : Memory) (temp : CInt) : Memory × Bool :=
  if env.running && !env.vpssSetChnAttr then (config, false) else setByte config .videoMirror temp

/-- The plan of one day.
Source: `server/video/video.c` `video_set_property`, `VIDEO_PROPERTY_MOTION_PLAN` -/
def setMotionPlan (config : Memory) (day : Fin 7) (chick duck : CInt) : Memory :=
  assignByte (assignInt (assignInt config (.motionSchedulerBegin day) chick)
    (.motionSchedulerEnd day) duck) .motionSchedulerEnable 1#32

/-- No plan.
Source: `server/video/video.c` `video_set_property`, `VIDEO_PROPERTY_MOTION_PLAN` -/
def clearMotionPlan (config : Memory) : Memory :=
  (List.finRange 7).foldl (fun config day =>
      assignInt (assignInt config (.motionSchedulerBegin day) 0#32) (.motionSchedulerEnd day) 0#32)
    (assignByte config .motionSchedulerEnable 0#32)

/-- Source: `server/aliyun/linkkit_client.c` `Ali_SetDeviceTimeZone`,
`server/device/device.c` `device_set_timezone` -/
def setTimeZone (env : Surroundings) (config : Memory) (zone : CInt) : Memory × Bool :=
  if zone.toInt < 0 || 23 < zone.toInt || !env.system then (config, false)
  else setByte config .timeZone zone

/-- The new `_config_`, and whether `config_set` is called. -/
def applyProperty (env : Surroundings) (config : Memory) : PropertySet → Option (Memory × Bool)
  | .byte property temp => some (setByte config property.member temp)
  | .motionSensitivity temp => setMotionSensitivity env config temp
  | .imageFlip temp => some (setImageFlip env config temp)
  | .motionPlan dog chick duck =>
      if dog = -1#32 then some (clearMotionPlan config, true)
      else if h : 0 ≤ dog.toInt ∧ dog.toInt < 7 then
        some (setMotionPlan config ⟨dog.toInt.toNat, by omega⟩ chick duck, true)
      else none
  | .ipcVersion valuestring => some (storeStr config Member.ipcVersion.offset valuestring, false)
  | .deviceName valuestring => some (storeStr config Member.deviceName.offset valuestring, false)
  | .deviceTimeZone zone => some (setTimeZone env config zone)

/-- A message is handled. -/
def step (print : CJson → List Char) (s : State) (a : PropertySet × Surroundings) : Option State :=
  (applyProperty a.2 s.config a.1).bind fun result =>
    if result.2 then
      (configSet print a.2.write s.saved result.1 s.file).map fun set =>
        ⟨result.1, set.2.1, set.2.2⟩
    else some { s with config := result.1 }

/-- Source: `main.c` `main` -/
def boot (parse : List Char → Option CJson) (file : Option (List Char)) : Option State :=
  (configGet parse file zeroed zeroed).map fun configs => ⟨configs.2, configs.1, file⟩

/-! ### What should hold -/

/-- Every number is within its bounds and every string ends in its member. -/
structure InBounds (m : Memory) : Prop where
  numbers : ∀ e ∈ configProfileMap, e.isString = false →
    e.inRange (readNumber e.dataType m e.dataAddress.offset) = true
  strings : ∀ e ∈ configProfileMap, e.isString = true →
    ∃ k < e.dataAddress.size, m (e.dataAddress.offset + k) = 0#8

/-- Within bounds, the lookups in their tables, and the file read as what is in memory. -/
structure ConfigOk (parse : List Char → Option CJson) (s : State) : Prop where
  inBounds : InBounds s.config
  interval : (mdInterval s.config).isSome = true
  threshold : (mdThreshold s.config).isSome = true
  readBack : decoded parse s.file = some (configProfileMap.map (ConfigMap.value s.config))

/-- A byte that differs is within the bounds of its member once it is truncated. -/
def ByteFits (config : Memory) (member : Member) (temp : CInt) : Prop :=
  byteOf config member ≠ temp → ∀ e ∈ configProfileMap, e.dataAddress = member →
    e.inRange (temp &&& 255#32) = true

/-- The value of a message fits what it is used for; a name is the one that is there. -/
def ValueFits (env : Surroundings) (config : Memory) : PropertySet → Prop
  | .byte property temp => ByteFits config property.member temp
  | .motionSensitivity temp => byteOf config .motionDetectSensitivity ≠ temp →
      env.running = true → env.getChnAttr = true → 0 ≤ temp.toInt ∧ temp.toInt < 6
  | .imageFlip temp => (env.running && !env.vpssSetChnAttr) = false →
      ByteFits config .videoMirror temp
  | .motionPlan dog chick duck => dog = -1#32 ∨
      (0 ≤ dog.toInt ∧ dog.toInt < 7) ∧ (0 ≤ chick.toInt ∧ chick.toInt ≤ 86400) ∧
        0 ≤ duck.toInt ∧ duck.toInt ≤ 86400
  | .ipcVersion valuestring =>
      loadStr config Member.ipcVersion.offset Member.ipcVersion.size = some valuestring
  | .deviceName valuestring =>
      loadStr config Member.deviceName.offset Member.deviceName.size = some valuestring
  | .deviceTimeZone _ => True

/-- The file is opened, and the text of the configuration is written whole and parses back. -/
def Written (parse : List Char → Option CJson) (print : CJson → List Char) (o : WriteOutcome)
    (m : Memory) : Prop :=
  o.opened = true ∧ ∀ root, dataToJsonByMap configProfileMap m = some root →
    (print root).length ≤ o.written ∧ parse (print root) = some root

/-- The value fits, and what is saved is written. -/
def Fits (parse : List Char → Option CJson) (print : CJson → List Char) (s : State)
    (a : PropertySet × Surroundings) : Prop :=
  ValueFits a.2 s.config a.1 ∧ ∀ config, applyProperty a.2 s.config a.1 = some (config, true) →
    Written parse print a.2.write (copyConfig config s.saved)

variable {parse : List Char → Option CJson} {print : CJson → List Char}
  {file : Option (List Char)} {e f : ConfigMap} {m m' config config' : Memory} {i : ℕ} {t : CStr}
  {temp v : CInt} {member : Member} {day : Fin 7} {env : Surroundings} {msg : PropertySet}
  {s s' s₀ : State} {a : PropertySet × Surroundings} {save : Bool}

/-! ### Assignments -/

/-- Two members do not overlap. -/
theorem disjoint_of_ne (he : e ∈ configProfileMap) (hf : f ∈ configProfileMap) (hne : e ≠ f) :
    e.dataAddress.offset + e.dataAddress.size ≤ f.dataAddress.offset ∨
      f.dataAddress.offset + f.dataAddress.size ≤ e.dataAddress.offset := by
  have hsymm : Std.Symm fun e f : ConfigMap =>
      e.dataAddress.offset + e.dataAddress.size ≤ f.dataAddress.offset ∨
        f.dataAddress.offset + f.dataAddress.size ≤ e.dataAddress.offset := ⟨fun e f h => h.symm⟩
  have hsorted := configProfileMap_wellFormed.sorted.imp fun {e f : ConfigMap}
    (h : e.dataAddress.offset + e.dataAddress.size ≤ f.dataAddress.offset) =>
      (Or.inl h : e.dataAddress.offset + e.dataAddress.size ≤ f.dataAddress.offset ∨
        f.dataAddress.offset + f.dataAddress.size ≤ e.dataAddress.offset)
  exact hsorted.forall he hf hne

/-- The width of a number is the size of its member. -/
theorem width_eq (he : e ∈ configProfileMap) (hstring : e.isString = false) :
    e.dataType.width = e.dataAddress.size := by
  have htyped := configProfileMap_wellFormed.typed e he
  unfold ConfigMap.WellTyped at htyped
  rw [hstring] at htyped
  exact htyped.2.1

/-- Members but the one that is written keep their bytes. -/
theorem writeNumber_of_ne (he : e ∈ configProfileMap) (hstring : e.isString = false)
    (hf : f ∈ configProfileMap) (hne : f ≠ e) (hlo : f.dataAddress.offset ≤ i)
    (hhi : i < f.dataAddress.offset + f.dataAddress.size) :
    writeNumber e.dataType m e.dataAddress.offset v i = m i := by
  rcases disjoint_of_ne hf he hne with h | h
  · exact writeNumber_of_lt (by omega)
  · exact writeNumber_of_le (by rw [width_eq he hstring]; omega)

/-- A number within the bounds of its member leaves all members within theirs. -/
theorem InBounds.assign (h : InBounds m) (he : e ∈ configProfileMap) (hstring : e.isString = false)
    (hv : e.inRange v = true) : InBounds (writeNumber e.dataType m e.dataAddress.offset v) where
  numbers := by
    intro f hf hnumber
    by_cases hne : f = e
    · subst hne
      rwa [ConfigMap.readNumber_of_write (configProfileMap_wellFormed.typed f hf) hnumber hv]
    · rw [readNumber_congr fun i hlo hhi => writeNumber_of_ne he hstring hf hne hlo
        (width_eq hf hnumber ▸ hhi)]
      exact h.numbers f hf hnumber
  strings := by
    intro f hf hfstring
    obtain ⟨k, hk, hzero⟩ := h.strings f hf hfstring
    have hne : f ≠ e := by
      rintro rfl
      rw [hstring] at hfstring
      cases hfstring
    exact ⟨k, hk, by rwa [writeNumber_of_ne he hstring hf hne (by omega) (by omega)]⟩

/-- A byte is assigned truncated. -/
theorem assignByte_eq : assignByte m member temp =
    writeNumber .cfgU8 m member.offset (temp &&& 255#32) := by
  have hbyte : BitVec.ofNat 8 temp.toNat = BitVec.ofNat 8 (temp &&& 255#32).toNat := by
    apply BitVec.eq_of_toNat_eq
    rw [BitVec.toNat_ofNat, BitVec.toNat_ofNat, BitVec.toNat_and]
    have hmask : temp.toNat &&& 255 = temp.toNat % 2 ^ 8 := Nat.and_two_pow_sub_one_eq_mod _ 8
    rw [show (255#32).toNat = 255 from rfl, hmask]
    omega
  unfold assignByte writeNumber
  rw [show ConfigDataType.cfgU8.width = 1 from rfl, leBytes, leBytes, leBytes, leBytes, hbyte]

/-- A byte that is within the bounds of its member once it is truncated. -/
theorem InBounds.assignByte (h : InBounds m) (he : e ∈ configProfileMap)
    (htype : e.dataType = .cfgU8) (hv : e.inRange (temp &&& 255#32) = true) :
    InBounds (assignByte m e.dataAddress temp) := by
  rw [assignByte_eq, ← htype]
  exact h.assign he (by simp [ConfigMap.isString, htype]) hv

theorem InBounds.assignInt (h : InBounds m) (he : e ∈ configProfileMap)
    (htype : e.dataType = .cfgU32) (hv : e.inRange temp = true) :
    InBounds (assignInt m e.dataAddress temp) := by
  unfold Property.assignInt
  rw [← htype]
  exact h.assign he (by simp [ConfigMap.isString, htype]) hv

/-! ### Handlers keep the bounds -/

theorem exists_byte_entry (property : ByteProperty) :
    ∃ e ∈ configProfileMap, e.dataAddress = property.member ∧ e.dataType = .cfgU8 := by
  cases property <;> decide

theorem exists_begin_entry : ∀ day : Fin 7, ∃ e ∈ configProfileMap,
    e.dataAddress = .motionSchedulerBegin day ∧ e.dataType = .cfgU32 ∧ e.min = 0 ∧
      e.max = 86400 := by
  decide

theorem exists_end_entry : ∀ day : Fin 7, ∃ e ∈ configProfileMap,
    e.dataAddress = .motionSchedulerEnd day ∧ e.dataType = .cfgU32 ∧ e.min = 0 ∧
      e.max = 86400 := by
  decide

theorem exists_enable_entry : ∃ e ∈ configProfileMap,
    e.dataAddress = .motionSchedulerEnable ∧ e.dataType = .cfgU8 ∧ e.min = 0 ∧ e.max = 1 := by
  decide

theorem InBounds.setByte (h : InBounds config)
    (hentry : ∃ e ∈ configProfileMap, e.dataAddress = member ∧ e.dataType = .cfgU8)
    (hfit : ByteFits config member temp) : InBounds (setByte config member temp).1 := by
  unfold Property.setByte
  split_ifs with hne
  · obtain ⟨e, he, rfl, htype⟩ := hentry
    exact h.assignByte he htype (hfit hne e he rfl)
  · exact h

/-- The two rows of a day. -/
theorem InBounds.setDay (h : InBounds config) (day : Fin 7) {chick duck : CInt}
    (hchick : 0 ≤ chick.toInt ∧ chick.toInt ≤ 86400) (hduck : 0 ≤ duck.toInt ∧ duck.toInt ≤ 86400) :
    InBounds (Property.assignInt (Property.assignInt config (.motionSchedulerBegin day) chick)
      (.motionSchedulerEnd day) duck) := by
  obtain ⟨e, he, heq, htype, hmin, hmax⟩ := exists_begin_entry day
  obtain ⟨f, hf, hfeq, hftype, hfmin, hfmax⟩ := exists_end_entry day
  rw [← heq, ← hfeq]
  apply InBounds.assignInt _ hf hftype (by rwa [ConfigMap.inRange_iff, hfmin, hfmax])
  exact h.assignInt he htype (by rwa [ConfigMap.inRange_iff, hmin, hmax])

/-- The switch of the scheduler is 0 or 1. -/
theorem InBounds.setEnable (h : InBounds config) (hv : temp = 0#32 ∨ temp = 1#32) :
    InBounds (Property.assignByte config .motionSchedulerEnable temp) := by
  obtain ⟨e, he, heq, htype, hmin, hmax⟩ := exists_enable_entry
  rw [← heq]
  apply h.assignByte he htype
  rw [ConfigMap.inRange_iff, hmin, hmax]
  rcases hv with rfl | rfl <;> decide

theorem InBounds.clearMotionPlan (h : InBounds config) :
    InBounds (clearMotionPlan config) := by
  unfold Property.clearMotionPlan
  have hfold : ∀ (days : List (Fin 7)) (m : Memory), InBounds m →
      InBounds (days.foldl (fun config day => Property.assignInt
        (Property.assignInt config (.motionSchedulerBegin day) 0#32)
          (.motionSchedulerEnd day) 0#32) m) := by
    intro days
    induction days with
    | nil => exact fun m hm => hm
    | cons day days ih => exact fun m hm => ih _ (hm.setDay day (by decide) (by decide))
  exact hfold _ _ (h.setEnable (.inl rfl))

/-- The table of thresholds has an entry for every value of the property. -/
theorem isSome_sadThresh (hlo : 0 ≤ v.toInt) (hhi : v.toInt < 6) :
    (lookup sadThresh v).isSome = true := by
  unfold lookup sadThresh
  rw [if_pos hlo, List.getElem?_eq_getElem (by simp; omega)]
  rfl

theorem isSome_alarmInterval (hlo : 0 ≤ v.toInt) (hhi : v.toInt < 3) :
    (lookup alarmInterval v).isSome = true := by
  unfold lookup alarmInterval
  rw [if_pos hlo, List.getElem?_eq_getElem (by simp; omega)]
  rfl

/-- A value that a byte holds is not truncated. -/
theorem and_mask (hlo : 0 ≤ temp.toInt) (hhi : temp.toInt ≤ 255) : temp &&& 255#32 = temp := by
  have hcond := BitVec.toInt_eq_toNat_cond temp
  have hmask : temp.toNat &&& 255 = temp.toNat % 2 ^ 8 := Nat.and_two_pow_sub_one_eq_mod _ 8
  apply BitVec.eq_of_toNat_eq
  rw [BitVec.toNat_and, show (255#32).toNat = 255 from rfl, hmask]
  split_ifs at hcond <;> omega

/-- A value that is checked against the bounds of its member fits. -/
theorem byteFits_of_bounds (hi : ℤ) (hbounds : ∀ e ∈ configProfileMap, e.dataAddress = member →
      e.min = 0 ∧ e.max = hi) (hlo : 0 ≤ temp.toInt) (hle : temp.toInt ≤ hi) (hhi : hi ≤ 255) :
    ByteFits config member temp := by
  intro _ e he heq
  rw [and_mask hlo (hle.trans hhi), ConfigMap.inRange_iff, (hbounds e he heq).1,
    (hbounds e he heq).2]
  exact ⟨hlo, hle⟩

/-- A handler whose value fits keeps the bounds. -/
theorem InBounds.applyProperty (h : InBounds config) (hfit : ValueFits env config msg)
    (happly : applyProperty env config msg = some (config', save)) : InBounds config' := by
  cases msg with
  | byte property temp =>
      have hset := h.setByte (exists_byte_entry property) hfit
      rwa [Option.some.inj happly] at hset
  | motionSensitivity temp =>
      simp only [Property.applyProperty, setMotionSensitivity] at happly
      split_ifs at happly with hcond hsetAttr
      · obtain ⟨-, -, happly⟩ := Option.map_eq_some_iff.mp happly
        simp only [Bool.and_eq_true, decide_eq_true_eq] at hcond
        obtain ⟨hlo, hhi⟩ := hfit hcond.1.1 hcond.1.2 hcond.2
        have hbyte : ByteFits config .motionDetectSensitivity temp :=
          byteFits_of_bounds 5 (by decide) hlo (Int.le_of_lt_add_one hhi) (by decide)
        have hset := h.setByte (by decide) hbyte
        unfold Property.setByte at hset
        rw [if_pos hcond.1.1] at hset
        rwa [← (Prod.mk.inj happly).1]
      · obtain ⟨-, -, happly⟩ := Option.map_eq_some_iff.mp happly
        rwa [← (Prod.mk.inj happly).1]
      · rwa [← (Prod.mk.inj (Option.some.inj happly)).1]
  | imageFlip temp =>
      simp only [Property.applyProperty, setImageFlip] at happly
      split_ifs at happly with hfail
      · cases happly
        exact h
      · have hset := h.setByte (by decide) (hfit (by simpa using hfail))
        rwa [Option.some.inj happly] at hset
  | motionPlan dog chick duck =>
      simp only [Property.applyProperty] at happly
      split_ifs at happly with hclear hday
      · cases happly
        exact h.clearMotionPlan
      · obtain ⟨-, hchick, hduck⟩ := hfit.resolve_left hclear
        cases happly
        exact (h.setDay _ hchick hduck).setEnable (.inr rfl)
  | ipcVersion valuestring =>
      rw [← (Prod.mk.inj (Option.some.inj happly)).1, storeStr_of_loadStr hfit]
      exact h
  | deviceName valuestring =>
      rw [← (Prod.mk.inj (Option.some.inj happly)).1, storeStr_of_loadStr hfit]
      exact h
  | deviceTimeZone zone =>
      simp only [Property.applyProperty, setTimeZone] at happly
      split_ifs at happly with hfail
      · cases happly
        exact h
      · simp only [Bool.or_eq_true, decide_eq_true_eq, not_or] at hfail
        have hset := h.setByte (by decide) (byteFits_of_bounds 23 (by decide)
          (by omega) (Int.not_lt.mp hfail.1.2) (by decide) : ByteFits config .timeZone zone)
        rwa [Option.some.inj happly] at hset

/-- A handler whose value fits looks nothing up outside a table. -/
theorem exists_applyProperty (hfit : ValueFits env config msg) :
    ∃ config' save, applyProperty env config msg = some (config', save) := by
  cases msg with
  | byte property temp => exact ⟨_, _, rfl⟩
  | motionSensitivity temp =>
      simp only [applyProperty, setMotionSensitivity]
      by_cases hcond : (byteOf config .motionDetectSensitivity ≠ temp && env.running &&
        env.getChnAttr) = true
      · rw [if_pos hcond]
        simp only [Bool.and_eq_true, decide_eq_true_eq] at hcond
        obtain ⟨hlo, hhi⟩ := hfit hcond.1.1 hcond.1.2 hcond.2
        obtain ⟨threshold, hlookup⟩ := Option.isSome_iff_exists.mp (isSome_sadThresh hlo hhi)
        rw [hlookup]
        exact ⟨_, _, rfl⟩
      · rw [if_neg hcond]
        exact ⟨_, _, rfl⟩
  | imageFlip temp => exact ⟨_, _, rfl⟩
  | motionPlan dog chick duck =>
      simp only [applyProperty]
      split_ifs with hclear hday
      · exact ⟨_, _, rfl⟩
      · exact ⟨_, _, rfl⟩
      · exact absurd (hfit.resolve_left hclear).1 hday
  | ipcVersion valuestring => exact ⟨_, _, rfl⟩
  | deviceName valuestring => exact ⟨_, _, rfl⟩
  | deviceTimeZone zone => exact ⟨_, _, rfl⟩

theorem setByte_of_not_saved (h : setByte config member temp = (config', false)) :
    config' = config := by
  unfold setByte at h
  split_ifs at h
  · cases (Prod.mk.inj h).2
  · exact (Prod.mk.inj h).1.symm

/-- What is not saved is not changed. -/
theorem applyProperty_of_not_saved (hfit : ValueFits env config msg)
    (happly : applyProperty env config msg = some (config', false)) : config' = config := by
  cases msg with
  | byte property temp => exact setByte_of_not_saved (Option.some.inj happly)
  | motionSensitivity temp =>
      simp only [applyProperty, setMotionSensitivity] at happly
      split_ifs at happly
      · obtain ⟨-, -, happly⟩ := Option.map_eq_some_iff.mp happly
        cases (Prod.mk.inj happly).2
      · obtain ⟨-, -, happly⟩ := Option.map_eq_some_iff.mp happly
        exact (Prod.mk.inj happly).1.symm
      · exact (Prod.mk.inj (Option.some.inj happly)).1.symm
  | imageFlip temp =>
      have heq := Option.some.inj happly
      unfold setImageFlip at heq
      split_ifs at heq
      · exact (Prod.mk.inj heq).1.symm
      · exact setByte_of_not_saved heq
  | motionPlan dog chick duck =>
      simp only [applyProperty] at happly
      split_ifs at happly
      · cases (Prod.mk.inj (Option.some.inj happly)).2
      · cases (Prod.mk.inj (Option.some.inj happly)).2
  | ipcVersion valuestring =>
      rw [← (Prod.mk.inj (Option.some.inj happly)).1]
      exact storeStr_of_loadStr hfit
  | deviceName valuestring =>
      rw [← (Prod.mk.inj (Option.some.inj happly)).1]
      exact storeStr_of_loadStr hfit
  | deviceTimeZone zone =>
      have heq := Option.some.inj happly
      unfold setTimeZone at heq
      split_ifs at heq
      · exact (Prod.mk.inj heq).1.symm
      · exact setByte_of_not_saved heq

/-! ### What is saved is read back -/

/-- Within bounds, the strings fit. -/
theorem InBounds.stringsFit (h : InBounds m) : StringsFit configProfileMap m := by
  intro e he hstring
  have htyped := configProfileMap_wellFormed.typed e he
  unfold ConfigMap.WellTyped at htyped
  rw [if_pos hstring] at htyped
  have hsize : e.max.toNat = e.dataAddress.size := by omega
  rw [hsize]
  exact Option.isSome_iff_exists.mp (loadStr_isSome_iff.mpr (h.strings e he hstring))

/-- A file with the object of a configuration within its bounds is read as that configuration. -/
theorem decoded_saved (h : InBounds m)
    (hload : loadJson parse file = dataToJsonByMap configProfileMap m) :
    decoded parse file = some (configProfileMap.map (ConfigMap.value m)) := by
  have hmap := configProfileMap_wellFormed
  obtain ⟨d, hd⟩ := exists_cjsonToDataByMap (readable_of_fit hmap h.stringsFit) zeroed
  unfold decoded readConfigFile
  rw [hload, hd]
  refine congrArg some (List.map_congr_left fun e he => ?_)
  have htyped := hmap.typed e he
  unfold ConfigMap.WellTyped at htyped
  unfold ConfigMap.value
  by_cases hstring : e.isString = true
  · rw [if_pos hstring] at htyped
    have hsize : e.dataAddress.size = e.max.toNat := by omega
    rw [if_pos hstring, if_pos hstring, hsize, loadStr_round_trip hmap h.stringsFit hd he hstring]
  · have hfalse : e.isString = false := by simpa using hstring
    rw [if_neg hstring, if_neg hstring, readNumber_round_trip hmap h.stringsFit hd he hfalse,
      ConfigMap.checked, if_pos (h.numbers e he hfalse)]

theorem InBounds.copyConfig (h : InBounds m) : InBounds (copyConfig m m') where
  numbers := by
    intro e he hstring
    rw [readNumber_copyConfig he hstring]
    exact h.numbers e he hstring
  strings := by
    intro e he hstring
    obtain ⟨k, hk, hzero⟩ := h.strings e he hstring
    exact ⟨k, hk, by rwa [copyConfig_of_mem he (by omega)]⟩

/-- The members have the values they are copied from. -/
theorem values_copyConfig : configProfileMap.map (ConfigMap.value (copyConfig m m')) =
    configProfileMap.map (ConfigMap.value m) := by
  refine List.map_congr_left fun e he => ?_
  unfold ConfigMap.value
  split_ifs with hstring
  · rw [loadStr_copyConfig he]
  · rw [readNumber_copyConfig he (by simpa using hstring)]

/-! ### Runs -/

/-- The lookups of a configuration within its bounds are in their tables. -/
theorem InBounds.lookups (h : InBounds m) :
    (mdInterval m).isSome = true ∧ (mdThreshold m).isSome = true := by
  have hfreqency : ∃ e ∈ configProfileMap, e.dataAddress = .alarmFreqency ∧ e.dataType = .cfgU8 ∧
      e.min = 0 ∧ e.max = 2 := by decide
  have hsensitivity : ∃ e ∈ configProfileMap, e.dataAddress = .motionDetectSensitivity ∧
      e.dataType = .cfgU8 ∧ e.min = 0 ∧ e.max = 5 := by decide
  obtain ⟨e, he, heq, htype, hmin, hmax⟩ := hfreqency
  obtain ⟨f, hf, hfeq, hftype, hfmin, hfmax⟩ := hsensitivity
  have hfreq := h.numbers e he (by simp [ConfigMap.isString, htype])
  have hsens := h.numbers f hf (by simp [ConfigMap.isString, hftype])
  rw [ConfigMap.inRange_iff, hmin, hmax, heq, htype] at hfreq
  rw [ConfigMap.inRange_iff, hfmin, hfmax, hfeq, hftype] at hsens
  unfold mdInterval mdThreshold
  rw [Option.isSome_map, Option.isSome_map]
  exact ⟨isSome_alarmInterval hfreq.1 (by unfold byteOf; omega),
    isSome_sadThresh hsens.1 (by unfold byteOf; omega)⟩

theorem ConfigOk.of_inBounds (h : InBounds s.config)
    (hread : decoded parse s.file = some (configProfileMap.map (ConfigMap.value s.config))) :
    ConfigOk parse s :=
  ⟨h, h.lookups.1, h.lookups.2, hread⟩

/-- Writing a configuration within its bounds. -/
theorem exists_configSet {o : WriteOutcome} (file : Option (List Char)) (h : InBounds config)
    (hwritten : Written parse print o (copyConfig config m)) :
    ∃ file', configSet print o m config file = some (0#32, copyConfig config m, file') ∧
      decoded parse file' = some (configProfileMap.map (ConfigMap.value config)) := by
  have hcopy : InBounds (copyConfig config m) := h.copyConfig
  have hroot := dataToJsonByMap_eq fun e he =>
    isSome_encode configProfileMap_wellFormed hcopy.stringsFit he
  obtain ⟨hopened, hwritten⟩ := hwritten
  obtain ⟨hlen, hparse⟩ := hwritten _ hroot
  refine ⟨_, by rw [configSet_eq _ _ _ hroot, hopened, if_neg (by simp), if_neg (Nat.not_lt.mpr hlen)], ?_⟩
  rw [← values_copyConfig]
  apply decoded_saved hcopy
  rw [hroot]
  exact hparse

/-- A message that fits is handled, and everything stays as it should. -/
theorem exists_step (h : ConfigOk parse s) (hfit : Fits parse print s a) :
    ∃ s', step print s a = some s' ∧ ConfigOk parse s' := by
  obtain ⟨hvalue, hsave⟩ := hfit
  obtain ⟨config', save, happly⟩ := exists_applyProperty hvalue
  have hconfig' : InBounds config' := h.inBounds.applyProperty hvalue happly
  unfold step
  rw [happly, Option.bind_some]
  cases save with
  | true =>
      obtain ⟨file', hset, hread⟩ := exists_configSet s.file hconfig' (hsave _ happly)
      rw [if_pos rfl, hset]
      exact ⟨⟨config', copyConfig config' s.saved, file'⟩, rfl, ConfigOk.of_inBounds hconfig' hread⟩
  | false =>
      rw [if_neg (by simp)]
      refine ⟨_, rfl, ConfigOk.of_inBounds hconfig' ?_⟩
      rw [applyProperty_of_not_saved hvalue happly]
      exact h.readBack

/-- After the start from a file whose strings fit, everything is as it should be. -/
theorem exists_boot (hfit : StringItemsFit configProfileMap (loadJson parse file)) :
    ∃ s₀, boot parse file = some s₀ ∧ ConfigOk parse s₀ := by
  obtain ⟨saved, config, hget, hwell⟩ := readsWell_of_fit zeroed zeroed hfit
  have hin : InBounds config := ⟨hwell.numbers, hwell.strings⟩
  have hdecoded : decoded parse file = some (configProfileMap.map (ConfigMap.value config)) := by
    obtain ⟨d, hread, heq⟩ := Option.map_eq_some_iff.mp hget
    cases heq
    unfold decoded
    rw [hread, values_copyConfig]
    rfl
  exact ⟨⟨config, saved, file⟩, by rw [boot, hget]; rfl, ConfigOk.of_inBounds hin hdecoded⟩

/-- In every run from the start whose messages fit, the configuration is within its bounds, its
lookups are in their tables, the file is read as what is in memory, and every message that fits is
handled without a lookup outside a table. -/
theorem configOk_of_reach (parse : List Char → Option CJson) (print : CJson → List Char)
    (file : Option (List Char)) (s₀ s : State) (hboot : boot parse file = some s₀)
    (hfile : StringItemsFit configProfileMap (loadJson parse file))
    (hreach : Reach (step print) (Fits parse print) s₀ s) :
    ConfigOk parse s ∧ ∀ a, Fits parse print s a → (step print s a).isSome = true := by
  have hok : ConfigOk parse s := by
    obtain ⟨s₁, hboot₁, hstart⟩ := exists_boot hfile
    rw [hboot] at hboot₁
    cases hboot₁
    refine hreach.inv hstart fun s a s' hs hfit hstep => ?_
    obtain ⟨s₂, hstep₂, hs₂⟩ := exists_step hs hfit
    rw [hstep] at hstep₂
    cases hstep₂
    exact hs₂
  refine ⟨hok, fun a hfit => ?_⟩
  obtain ⟨s', hstep, -⟩ := exists_step hok hfit
  rw [hstep]
  rfl

/-- `cJSON_Parse` of the text of one object, and of no other. -/
def parseOnly (child : List (List Char × CJson)) (text : List Char) : Option CJson :=
  if text = printed child then some (.object child) else none

/-- Everything succeeds. -/
def quiet (written : ℕ) : Surroundings := ⟨true, true, true, true, true, ⟨true, written⟩⟩

/-- The file is missing at the start. -/
theorem stringItemsFit_missing (parse : List Char → Option CJson) :
    StringItemsFit configProfileMap (loadJson parse none) := by
  intro e he hstring js hjs
  cases hjs

/-- After the start without a file the quality of the video is set to 1. -/
theorem configOk_quality : ∃ parse print s₀ s env, boot parse none = some s₀ ∧
    step print s₀ (.byte .quality 1#32, env) = some s ∧
      ConfigOk parse s ∧ ∀ a, Fits parse print s a → (step print s a).isSome = true := by
  obtain ⟨s₀, hboot, -⟩ := exists_boot (stringItemsFit_missing fun _ => none)
  let config := assignByte s₀.config .videoQuality 1#32
  let child := configProfileMap.map fun e => (e.stringName, itemOf (copyConfig config s₀.saved) e)
  obtain ⟨s₁, hboot₁, hok⟩ := exists_boot (stringItemsFit_missing (parseOnly child))
  have hs : s₁ = s₀ := Option.some.inj (hboot₁.symm.trans hboot)
  subst hs
  have hvalue : ValueFits (quiet (printed child).length) s₁.config (.byte .quality 1#32) :=
    byteFits_of_bounds 2 (by decide) (by decide) (by decide) (by decide)
  have hfits : Fits (parseOnly child) (fun _ => printed child) s₁
      (.byte .quality 1#32, quiet (printed child).length) := by
    refine ⟨hvalue, fun config' happly => ⟨rfl, fun root hroot => ⟨le_rfl, ?_⟩⟩⟩
    have hset := Option.some.inj happly
    unfold setByte at hset
    split_ifs at hset
    · have hconfig : config = config' := (Prod.mk.inj hset).1
      rw [← hconfig] at hroot
      have hin : InBounds config' := InBounds.applyProperty hok.inBounds hvalue happly
      rw [← hconfig] at hin
      rw [dataToJsonByMap_eq fun e he =>
        isSome_encode configProfileMap_wellFormed hin.copyConfig.stringsFit he] at hroot
      rw [← Option.some.inj hroot]
      exact if_pos rfl
    · cases (Prod.mk.inj hset).2
  obtain ⟨s, hstep, -⟩ := exists_step hok hfits
  exact ⟨parseOnly child, fun _ => printed child, s₁, s, _, hboot₁, hstep,
    configOk_of_reach (parseOnly child) (fun _ => printed child) none s₁ s hboot₁
      (stringItemsFit_missing _) (.snoc .start hfits hstep)⟩

/-- A name of 32 bytes runs over its member. -/
theorem configOk_not_of_deviceName : ∃ s₀ s, boot (fun _ => none) none = some s₀ ∧
    Reach (step fun _ => []) AllRuns s₀ s ∧ ¬ ConfigOk (fun _ => none) s := by
  obtain ⟨s₀, hboot, -⟩ := exists_boot (stringItemsFit_missing fun _ => none)
  let name := CStr.ofChars (List.replicate 32 'a')
  let s : State := { s₀ with config := storeStr s₀.config Member.deviceName.offset name }
  have hstep : step (fun _ => []) s₀ (.deviceName name, quiet 0) = some s := rfl
  refine ⟨s₀, s, hboot, .snoc .start trivial hstep, fun h => ?_⟩
  have hentry : ∃ e ∈ configProfileMap, e.dataAddress = .deviceName ∧ e.isString = true := by
    decide
  obtain ⟨e, he, heq, hstring⟩ := hentry
  obtain ⟨k, hk, hzero⟩ := h.inBounds.strings e he hstring
  rw [heq] at hk hzero
  have hlen : name.strlen = 32 := by decide
  exact storeStr_ne_zero (by rw [hlen]; exact hk) hzero

end GokeWebcam.Server.Property
