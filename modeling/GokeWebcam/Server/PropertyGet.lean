import GokeWebcam.Device.Sd
import GokeWebcam.Global.ConfigStore
import GokeWebcam.Server.PropertyReport

/-!
# Getting properties

The getters of the cloud's properties, and what the cloud is told by them, by the servers and by the report
of all properties, as the JSON text that is posted.

* `aliGetItem`, `aliGetNumber`, `aliGetString`: the getters that answer with a number when their name is in
  the request, those that do when it is there with a number, and those of a text; `aliGetStreamVideoQuality`
  and the others under their names.
* `kept`: the properties that are kept in `_config_`.
* `truthful_of_getHandler`: an answer has the value that is kept.
* `aliyunReportSdInfo_eq`: the text that is put together by hand is the text of an object.

A read that runs over a member has no result.
-/

namespace GokeWebcam.Server.Property

open Lib Common Global Manager Aliyun

/-! ### Reports as text -/

def ReportValue.item : ReportValue → CJson
  | .int value => .number value
  | .string value => .string value

def Report.name (report : Report) : List Char := report.propName.map charOf

/-- What is posted.
Source: `server/aliyun/linkkit_client.c` `linkkit_sync_property_int`, `linkkit_sync_property_string` -/
def Report.text (report : Report) : CStr := cjsonPrint true (.object [(report.name, report.value.item)])

/-- Source: `server/aliyun/linkkit_client.c` `linkkit_sync_property_int` -/
def linkkitSyncPropertyInt (devid : CInt) (propName : List Char) (value : CInt) : Report :=
  ⟨devid, (CStr.ofChars propName).bytes, .int value⟩

/-- Source: `server/aliyun/linkkit_client.c` `linkkit_sync_property_string` -/
def linkkitSyncPropertyString (devid : CInt) (propName : List Char) (value : CStr) : Report :=
  ⟨devid, (CStr.ofChars propName).bytes, .string value⟩

/-! ### What is read besides `_config_` -/

/-- The sizes that `statfs` gives. -/
structure StatFS where
  blocks : ℕ
  bfree : ℕ
  bsize : ℕ
  deriving DecidableEq, Repr

/-- What a getter meets: the quality of the wireless network, zero when the file of the network cannot be
read, and the card. -/
structure Readings where
  wifiQuality : CInt
  sd : Device.Sd.SdState
  statFS : Option StatFS
  deriving DecidableEq, Repr

/-- Source: `server/device/gk_sd.h` `SD_ALIYUN_STATUS` -/
def statusValue : Device.Sd.SdAliyunStatus → CInt
  | .unplug => 0#32
  | .normal => 1#32
  | .unformat => 2#32
  | .formating => 3#32

/-- A size in KiB, in a product of 64 bits that is assigned to one of 32.
Source: `server/device/gk_sd.c` `sd_get_info` -/
def kib (blocks bsize : ℕ) : CInt := BitVec.ofNat 32 (blocks * bsize % 2 ^ 64 / 1024)

/-- `totalBytes` and `freeBytes`.
Source: `server/device/gk_sd.c` `sd_get_info` -/
def sdGetInfo (sd : Device.Sd.SdState) (statFS : Option StatFS) : Option (CInt × CInt) :=
  if sd.sdCardStatus ≠ .mount then none
  else statFS.map fun fs => (kib fs.blocks fs.bsize, kib fs.bfree fs.bsize)

def Readings.status (r : Readings) : CInt := statusValue (Device.Sd.sdGetStatus r.sd)

/-- Zero when the card does not answer. -/
def Readings.total (r : Readings) : CInt := ((sdGetInfo r.sd r.statFS).map fun i => i.1 / 1024#32).getD 0#32

def Readings.remain (r : Readings) : CInt := ((sdGetInfo r.sd r.statFS).map fun i => i.2 / 1024#32).getD 0#32

/-- Put together by hand, without `cJSON`.
Source: `server/aliyun/linkkit_client.c` `aliyun_report_sd_info` -/
def aliyunReportSdInfo (r : Readings) : List Byte :=
  let shown (value : CInt) : List Byte := (showInt value.toInt).map chr
  if Device.Sd.sdGetStatus r.sd = .normal then
    match sdGetInfo r.sd r.statFS with
    | some (totalBytes, freeBytes) =>
      literal "\x7b\"StorageStatus\":1,\"StorageTotalCapacity\":" ++ shown (totalBytes / 1024#32) ++
        literal ",\"StorageRemainCapacity\":" ++ shown (freeBytes / 1024#32) ++ literal "\x7d"
    | none => literal "\x7b\"StorageStatus\":0\x7d"
  else literal "\x7b\"StorageStatus\":" ++ shown r.status ++ literal "\x7d"

/-! ### The getters -/

/-- What a getter reports, for the item of the request under its name. -/
abbrev Getter := Readings → Memory → CInt → Option CJson → List Char → Option (List Report)

/-- A getter of a number that is answered when the name is there. -/
def aliGetItem (value : Readings → Memory → CInt) : Getter := fun r config devid item pCmd =>
  match item with
  | some _ => some [linkkitSyncPropertyInt devid pCmd (value r config)]
  | none => some []

/-- A getter of a number that is answered when the name is there with a number. -/
def aliGetNumber (value : Readings → Memory → CInt) : Getter := fun r config devid item pCmd =>
  match item with
  | some (.number _) => some [linkkitSyncPropertyInt devid pCmd (value r config)]
  | _ => some []

/-- A getter of a text. -/
def aliGetString (member : Member) : Getter := fun _ config devid item pCmd =>
  match item with
  | some _ => (loadStr config member.offset member.size).map fun value =>
      [linkkitSyncPropertyString devid pCmd value]
  | none => some []

/-- A getter that is not answered. -/
def aliGetNothing : Getter := fun _ _ _ _ _ => some []

/-- The value of a member. -/
def ofMember (member : Member) : Readings → Memory → CInt := fun _ config => byteOf config member

/-- Source: `server/aliyun/linkkit_client.c` `Ali_GetStreamVideoQuality` -/
def aliGetStreamVideoQuality : Getter := aliGetItem (ofMember .videoQuality)

/-- Source: `server/aliyun/linkkit_client.c` `Ali_GetSubStreamVideoQuality` -/
def aliGetSubStreamVideoQuality : Getter := aliGetItem (ofMember .subvideoQuality)

/-- Source: `server/aliyun/linkkit_client.c` `Ali_GetAlarmSwitch` -/
def aliGetAlarmSwitch : Getter := aliGetItem (ofMember .alarmSwitch)

/-- Source: `server/aliyun/linkkit_client.c` `Ali_GetMotionDetectSensitivity` -/
def aliGetMotionDetectSensitivity : Getter := aliGetItem (ofMember .motionDetectSensitivity)

/-- Source: `server/aliyun/linkkit_client.c` `Ali_GetAlarmFrequencyLevel` -/
def aliGetAlarmFrequencyLevel : Getter := aliGetItem (ofMember .alarmFreqency)

/-- Source: `server/aliyun/linkkit_client.c` `Ali_GetImageFlipState` -/
def aliGetImageFlipState : Getter := aliGetItem (ofMember .videoMirror)

/-- Source: `server/aliyun/linkkit_client.c` `Ali_GetIpcVersion` -/
def aliGetIpcVersion : Getter := aliGetString .ipcVersion

/-- Source: `server/aliyun/linkkit_client.c` `Ali_GetDebugCmd` -/
def aliGetDebugCmd : Getter := aliGetNothing

/-- Source: `server/aliyun/linkkit_client.c` `Ali_GetDayNightMode` -/
def aliGetDayNightMode : Getter := aliGetItem (ofMember .dayNightMode)

/-- Source: `server/aliyun/linkkit_client.c` `Ali_GetAlarmNotifyPlan` -/
def aliGetAlarmNotifyPlan : Getter := aliGetNothing

/-- Source: `server/aliyun/linkkit_client.c` `Ali_GetTimeDisplay` -/
def aliGetTimeDisplay : Getter := aliGetItem (ofMember .osdEnable)

/-- Source: `server/aliyun/linkkit_client.c` `Ali_GetWdrSupport` -/
def aliGetWdrSupport : Getter := aliGetItem (ofMember .wdrEnable)

/-- Source: `server/aliyun/linkkit_client.c` `Ali_GetWiFiRSSI` -/
def aliGetWiFiRSSI : Getter := aliGetNumber fun r _ => r.wifiQuality

/-- Source: `server/aliyun/linkkit_client.c` `Ali_GetSpeakerSwitch` -/
def aliGetSpeakerSwitch : Getter := aliGetItem (ofMember .speakerEnable)

/-- Source: `server/aliyun/linkkit_client.c` `Ali_GetStorageStatus` -/
def aliGetStorageStatus : Getter := aliGetNumber fun r _ => r.status

/-- Source: `server/aliyun/linkkit_client.c` `Ali_GetStorageTotalCapacity` -/
def aliGetStorageTotalCapacity : Getter := aliGetNumber fun r _ => r.total

/-- Source: `server/aliyun/linkkit_client.c` `Ali_GetStorageRemainCapacity` -/
def aliGetStorageRemainCapacity : Getter := aliGetNumber fun r _ => r.remain

/-- Source: `server/aliyun/linkkit_client.c` `Ali_GetStatusLightSwitch` -/
def aliGetStatusLightSwitch : Getter := aliGetNumber (ofMember .ledEnable)

/-- Source: `server/aliyun/linkkit_client.c` `Ali_GetStorageRecordMode` -/
def aliGetStorageRecordMode : Getter := aliGetNumber (ofMember .recorderEnable)

/-- Source: `server/aliyun/linkkit_client.c` `Ali_GetImageCorrect` -/
def aliGetImageCorrect : Getter := aliGetNumber (ofMember .imageCorrect)

/-- Source: `server/aliyun/linkkit_client.c` `Ali_GetDeviceName` -/
def aliGetDeviceName : Getter := aliGetString .deviceName

/-- Source: `server/aliyun/linkkit_client.c` `Ali_GetDeviceTimeZone` -/
def aliGetDeviceTimeZone : Getter := aliGetNumber (ofMember .timeZone)

/-- The column of the getters.
Source: `server/aliyun/linkkit_client.c` `gAliCmdMap` -/
def pGetCb : List (List Char × Getter) :=
  [("StreamVideoQuality".toList, aliGetStreamVideoQuality),
    ("SubStreamVideoQuality".toList, aliGetSubStreamVideoQuality),
    ("AlarmSwitch".toList, aliGetAlarmSwitch),
    ("MotionDetectSensitivity".toList, aliGetMotionDetectSensitivity),
    ("AlarmFrequencyLevel".toList, aliGetAlarmFrequencyLevel),
    ("ImageFlipState".toList, aliGetImageFlipState),
    ("IpcVersion".toList, aliGetIpcVersion),
    ("DebugCmd".toList, aliGetDebugCmd),
    ("DayNightMode".toList, aliGetDayNightMode),
    ("AlarmNotifyPlan".toList, aliGetAlarmNotifyPlan),
    ("TimeDisplay".toList, aliGetTimeDisplay),
    ("WdrSupport".toList, aliGetWdrSupport),
    ("WiFiRSSI".toList, aliGetWiFiRSSI),
    ("SpeakerSwitch".toList, aliGetSpeakerSwitch),
    ("StorageStatus".toList, aliGetStorageStatus),
    ("StorageTotalCapacity".toList, aliGetStorageTotalCapacity),
    ("StorageRemainCapacity".toList, aliGetStorageRemainCapacity),
    ("StatusLightSwitch".toList, aliGetStatusLightSwitch),
    ("StorageRecordMode".toList, aliGetStorageRecordMode),
    ("ImageCorrect".toList, aliGetImageCorrect),
    ("DeviceName".toList, aliGetDeviceName),
    ("DeviceTimeZone".toList, aliGetDeviceTimeZone)]

/-- Source: `server/aliyun/linkkit_client.c` `user_property_get_handler` -/
def userPropertyGetHandler (r : Readings) (config : Memory) (devid : CInt) (request : List Char) :
    Option (List Report) :=
  match pGetCb.find? fun cmd => occurs request cmd.1 with
  | none => some []
  | some cmd => cmd.2 r config devid ((parseText request).bind (CJson.getObjectItem cmd.1)) cmd.1

/-- The object of all properties.
Source: `server/aliyun/linkkit_client.c` `Ali_ReportProperty` -/
def aliReportProperty (r : Readings) (config : Memory) : Option (List (List Char × CJson)) :=
  (loadStr config Member.ipcVersion.offset Member.ipcVersion.size).bind fun ipcVersion =>
    (loadStr config Member.deviceName.offset Member.deviceName.size).map fun deviceName =>
      [("StreamVideoQuality".toList, .number (byteOf config .videoQuality)),
        ("SubStreamVideoQuality".toList, .number (byteOf config .subvideoQuality)),
        ("AlarmSwitch".toList, .number (byteOf config .alarmSwitch)),
        ("MotionDetectSensitivity".toList, .number (byteOf config .motionDetectSensitivity)),
        ("AlarmFrequencyLevel".toList, .number (byteOf config .alarmFreqency)),
        ("ImageFlipState".toList, .number (byteOf config .videoMirror)),
        ("IpcVersion".toList, .string ipcVersion),
        ("DayNightMode".toList, .number (byteOf config .dayNightMode)),
        ("TimeDisplay".toList, .number (byteOf config .osdEnable)),
        ("WdrSupport".toList, .number (byteOf config .wdrEnable)),
        ("WiFiRSSI".toList, .number r.wifiQuality),
        ("SpeakerSwitch".toList, .number (byteOf config .speakerEnable)),
        ("StorageStatus".toList, .number r.status),
        ("StorageTotalCapacity".toList, .number r.total),
        ("StorageRemainCapacity".toList, .number r.remain),
        ("StatusLightSwitch".toList, .number (byteOf config .ledEnable)),
        ("StorageRecordMode".toList, .number (byteOf config .recorderEnable)),
        ("ImageCorrect".toList, .number (byteOf config .imageCorrect)),
        ("DeviceName".toList, .string deviceName),
        ("DeviceTimeZone".toList, .number (byteOf config .timeZone))]

/-! ### What is kept in `_config_` -/

/-- A property that is kept in a member: a number of one byte, or a text. -/
structure Kept where
  name : List Char
  member : Member
  isString : Bool
  deriving DecidableEq, Repr

/-- In the order of the report of all properties. -/
def kept : List Kept :=
  [⟨"StreamVideoQuality".toList, .videoQuality, false⟩,
    ⟨"SubStreamVideoQuality".toList, .subvideoQuality, false⟩,
    ⟨"AlarmSwitch".toList, .alarmSwitch, false⟩,
    ⟨"MotionDetectSensitivity".toList, .motionDetectSensitivity, false⟩,
    ⟨"AlarmFrequencyLevel".toList, .alarmFreqency, false⟩,
    ⟨"ImageFlipState".toList, .videoMirror, false⟩,
    ⟨"IpcVersion".toList, .ipcVersion, true⟩,
    ⟨"DayNightMode".toList, .dayNightMode, false⟩,
    ⟨"TimeDisplay".toList, .osdEnable, false⟩,
    ⟨"WdrSupport".toList, .wdrEnable, false⟩,
    ⟨"SpeakerSwitch".toList, .speakerEnable, false⟩,
    ⟨"StatusLightSwitch".toList, .ledEnable, false⟩,
    ⟨"StorageRecordMode".toList, .recorderEnable, false⟩,
    ⟨"ImageCorrect".toList, .imageCorrect, false⟩,
    ⟨"DeviceName".toList, .deviceName, true⟩,
    ⟨"DeviceTimeZone".toList, .timeZone, false⟩]

/-- A text that runs over its member is none. -/
def Kept.item (config : Memory) (k : Kept) : Option CJson :=
  if k.isString then (loadStr config k.member.offset k.member.size).map .string
  else some (.number (byteOf config k.member))

/-- The names of the table. -/
def names : List (List Char) := gAliCmdMap.map (·.strCmd)

/-- A report under a name of the table, with the value that is kept. -/
structure Truthful (config : Memory) (report : Report) : Prop where
  named : report.name ∈ names
  kept : ∀ k ∈ kept, k.name = report.name → k.item config = some report.value.item

variable {r : Readings} {config : Memory} {devid value : CInt} {pCmd request : List Char} {reports : List Report}
  {report : Report} {get : Getter} {member : Member} {k : Kept} {item : Option CJson}
  {child : List (List Char × CJson)}

theorem char_of_mem_names (h : pCmd ∈ names) : ∀ c ∈ pCmd, 0 < c.toNat ∧ c.toNat < 256 := by
  have hall : (names.all fun name => name.all fun c => Nat.blt 0 c.toNat && Nat.blt c.toNat 256) = true := by
    decide
  intro c hc
  have hchar := List.all_eq_true.mp (List.all_eq_true.mp hall pCmd h) c hc
  simpa [Nat.blt_eq] using hchar

/-- Names whose values are not kept. -/
def others : List (List Char) :=
  ["WiFiRSSI".toList, "StorageStatus".toList, "StorageTotalCapacity".toList, "StorageRemainCapacity".toList]

theorem other_of_mem : ∀ name ∈ others, name ∈ names ∧ ∀ k ∈ kept, k.name ≠ name := by decide

theorem name_of_mem_kept : ∀ {k : Kept}, k ∈ kept → k.name ∈ names := by
  have hall : ∀ k ∈ kept, k.name ∈ names := by decide
  exact fun {k} hk => hall k hk

/-- No two are kept under one name. -/
theorem eq_of_name {l : Kept} (hk : k ∈ kept) (hl : l ∈ kept) (h : k.name = l.name) : k = l := by
  have hnodup : (kept.map (·.name)).Nodup := by decide
  exact List.inj_on_of_nodup_map hnodup hk hl h

/-- The name of the table is read back. -/
theorem name_of_propName (hname : pCmd ∈ names) (h : report.propName = (CStr.ofChars pCmd).bytes) :
    report.name = pCmd := by
  rw [Report.name, h]
  exact map_charOf_nameStr (char_of_mem_names hname)

/-- A report of what is kept. -/
theorem truthful_of_item (hname : pCmd ∈ names) (h : report.propName = (CStr.ofChars pCmd).bytes)
    (hitem : ∀ k ∈ kept, k.name = pCmd → k.item config = some report.value.item) : Truthful config report where
  named := by rwa [name_of_propName hname h]
  kept := by rwa [name_of_propName hname h]

/-! ### Answers -/

/-- What is answered under a name is what is kept. -/
def Answers (get : Getter) (pCmd : List Char) : Prop :=
  ∀ r config devid item reports, get r config devid item pCmd = some reports →
    ∀ report ∈ reports, Truthful config report

/-- A number that is kept under a name, or none that is. -/
def KeptAs (value : Readings → Memory → CInt) (pCmd : List Char) : Prop :=
  ∀ r config, ∀ k ∈ kept, k.name = pCmd → k.item config = some (.number (value r config))

theorem keptAs_ofMember (h : ⟨pCmd, member, false⟩ ∈ kept) : KeptAs (ofMember member) pCmd := by
  intro r config k hk hname
  rw [eq_of_name hk h hname]
  rfl

/-- Under another name nothing is kept. -/
theorem keptAs_other {value : Readings → Memory → CInt} (h : ∀ k ∈ kept, k.name ≠ pCmd) :
    KeptAs value pCmd :=
  fun _ _ k hk hname => absurd hname (h k hk)

theorem answers_item {value : Readings → Memory → CInt} (hname : pCmd ∈ names) (h : KeptAs value pCmd) :
    Answers (aliGetItem value) pCmd := by
  intro r config devid item reports hget report hreport
  unfold aliGetItem at hget
  split at hget
  · cases hget
    rw [List.mem_singleton.mp hreport]
    exact truthful_of_item hname rfl fun k hk hname => h r config k hk hname
  · cases hget
    exact absurd hreport List.not_mem_nil

theorem answers_number {value : Readings → Memory → CInt} (hname : pCmd ∈ names) (h : KeptAs value pCmd) :
    Answers (aliGetNumber value) pCmd := by
  intro r config devid item reports hget report hreport
  unfold aliGetNumber at hget
  split at hget
  · cases hget
    rw [List.mem_singleton.mp hreport]
    exact truthful_of_item hname rfl fun k hk hname => h r config k hk hname
  · cases hget
    exact absurd hreport List.not_mem_nil

theorem answers_string (h : ⟨pCmd, member, true⟩ ∈ kept) : Answers (aliGetString member) pCmd := by
  intro r config devid item reports hget report hreport
  unfold aliGetString at hget
  split at hget
  · obtain ⟨value, hvalue, rfl⟩ := Option.map_eq_some_iff.mp hget
    rw [List.mem_singleton.mp hreport]
    refine truthful_of_item (name_of_mem_kept h) rfl fun k hk hname => ?_
    rw [eq_of_name hk h hname, Kept.item, if_pos rfl, hvalue]
    rfl
  · cases hget
    exact absurd hreport List.not_mem_nil

theorem answers_nothing : Answers aliGetNothing pCmd := by
  intro r config devid item reports hget report hreport
  cases hget
  exact absurd hreport List.not_mem_nil

/-- All getters answer with what is kept under their names. -/
theorem answers_of_mem : ∀ cmd ∈ pGetCb, Answers cmd.2 cmd.1 := by
  have hitem : ∀ {pCmd member}, ⟨pCmd, member, false⟩ ∈ kept → Answers (aliGetItem (ofMember member)) pCmd :=
    fun h => answers_item (name_of_mem_kept h) (keptAs_ofMember h)
  have hnumber : ∀ {pCmd member}, ⟨pCmd, member, false⟩ ∈ kept → Answers (aliGetNumber (ofMember member)) pCmd :=
    fun h => answers_number (name_of_mem_kept h) (keptAs_ofMember h)
  have hother : ∀ {pCmd value}, pCmd ∈ others → Answers (aliGetNumber value) pCmd := fun h =>
    answers_number (other_of_mem _ h).1 (keptAs_other (other_of_mem _ h).2)
  simp only [pGetCb, List.forall_mem_cons]
  refine ⟨hitem ?_, hitem ?_, hitem ?_, hitem ?_, hitem ?_, hitem ?_, answers_string ?_, answers_nothing, hitem ?_,
    answers_nothing, hitem ?_, hitem ?_, hother ?_, hitem ?_, hother ?_, hother ?_, hother ?_, hnumber ?_,
    hnumber ?_, hnumber ?_, answers_string ?_, hnumber ?_, List.forall_mem_nil _⟩ <;>
  simp only [kept, others, List.mem_cons, true_or, or_true]

/-- An answer has the value that is kept. -/
theorem truthful_of_getHandler (h : userPropertyGetHandler r config devid request = some reports) :
    ∀ report ∈ reports, Truthful config report := by
  unfold userPropertyGetHandler at h
  split at h
  · cases h
    exact List.forall_mem_nil _
  · rename_i cmd hcmd
    exact answers_of_mem cmd (List.mem_of_find?_eq_some hcmd) _ _ _ _ _ h

/-! ### The card -/

/-- What the text of the card says. -/
def sdInfoChild (r : Readings) : List (List Char × CJson) :=
  if Device.Sd.sdGetStatus r.sd = .normal then
    match sdGetInfo r.sd r.statFS with
    | some (totalBytes, freeBytes) =>
      [("StorageStatus".toList, .number 1#32), ("StorageTotalCapacity".toList, .number (totalBytes / 1024#32)),
        ("StorageRemainCapacity".toList, .number (freeBytes / 1024#32))]
    | none => [("StorageStatus".toList, .number 0#32)]
  else [("StorageStatus".toList, .number r.status)]

/-- The text that is put together by hand is that of an object. -/
theorem aliyunReportSdInfo_eq : aliyunReportSdInfo r = (cjsonPrint false (.object (sdInfoChild r))).bytes := by
  have hstatus : (printString (nameStr "StorageStatus".toList)).bytes = literal "\"StorageStatus\"" := by
    decide
  have htotal : (printString (nameStr "StorageTotalCapacity".toList)).bytes =
      literal "\"StorageTotalCapacity\"" := by decide
  have hremain : (printString (nameStr "StorageRemainCapacity".toList)).bytes =
      literal "\"StorageRemainCapacity\"" := by decide
  have hprint : ∀ child, (cjsonPrint false (.object child)).bytes =
      chr '\x7b' :: (printMembers false 1 child ++ [chr '\x7d']) := fun _ => rfl
  have hmembers : ∀ name value later, printMembers false 1 ((name, .number value) :: later) =
      (printString (nameStr name)).bytes ++ (chr ':' :: ((showInt value.toInt).map chr ++
        ((if later.isEmpty then [] else [chr ',']) ++ printMembers false 1 later))) := fun _ _ _ => rfl
  have hnil : printMembers false 1 [] = [] := rfl
  have hone : (showInt (1#32).toInt).map chr = [chr '1'] := by decide
  have hzero : (showInt (0#32).toInt).map chr = [chr '0'] := by decide
  have hopen : literal "\x7b\"StorageStatus\":" = chr '\x7b' :: (literal "\"StorageStatus\"" ++ [chr ':']) := by
    decide
  have hfirst : literal "\x7b\"StorageStatus\":1,\"StorageTotalCapacity\":" = chr '\x7b' ::
      (literal "\"StorageStatus\"" ++ (chr ':' :: chr '1' :: chr ',' ::
        (literal "\"StorageTotalCapacity\"" ++ [chr ':']))) := by decide
  have hsecond : literal ",\"StorageRemainCapacity\":" =
      chr ',' :: (literal "\"StorageRemainCapacity\"" ++ [chr ':']) := by decide
  have hfailed : literal "\x7b\"StorageStatus\":0\x7d" = chr '\x7b' ::
      (literal "\"StorageStatus\"" ++ [chr ':', chr '0', chr '\x7d']) := by decide
  have hclose : literal "\x7d" = [chr '\x7d'] := by decide
  unfold aliyunReportSdInfo sdInfoChild
  split_ifs with hnormal
  · rcases sdGetInfo r.sd r.statFS with _ | ⟨totalBytes, freeBytes⟩
    · simp only [hprint, hmembers, hnil, hstatus, hzero, hfailed, List.isEmpty_nil, if_true, List.append_assoc,
        List.cons_append, List.nil_append]
    · simp only [hprint, hmembers, hnil, hstatus, htotal, hremain, hone, hfirst, hsecond, hclose,
        List.isEmpty_nil, List.isEmpty_cons, if_true, if_false, Bool.false_eq_true, List.append_assoc,
        List.cons_append, List.nil_append]
  · simp only [hprint, hmembers, hnil, hstatus, hopen, hclose, List.isEmpty_nil, if_true, List.append_assoc,
      List.cons_append, List.nil_append]

end GokeWebcam.Server.Property
