import GokeWebcam.Server.AliyunCommand
import GokeWebcam.Server.Audio
import GokeWebcam.Server.MotionPlan
import GokeWebcam.Server.Recorder
import GokeWebcam.Server.VideoChannel

/-!
# Reports of properties

A setter of the cloud's properties sends a message to the server that the property belongs to; this
server sets it and reports its value to the cloud, for the device in `arg_in.wolf` of the message.
Other setters set the property and report it themselves.

* `aliSetNumber`: the setters that send a number; `aliSetStreamVideoQuality` and the others under their
  names.
* `setAndReport`: a property in the servers' handlers; `videoSetProperty` and the others.
* `Addressed`: all reports of a request go to its device.
* `addressed_iff`: they do iff the setter does not put a number for another device than 0 into a message
  with the device in `arg_pass.wolf`.
* `alarmSwitch_misaddressed`: a report to the device 0.

A read through a null pointer has no result.
-/

namespace GokeWebcam.Server.Property

open Lib Common Global Manager Aliyun

/-! ### Reports -/

inductive ReportValue
  | int (value : CInt)
  | string (value : CStr)
  deriving DecidableEq, Repr

/-- What the cloud is told: a property of a device.
Source: `server/aliyun/linkkit_client.c` `linkkit_sync_property_int`, `linkkit_sync_property_string` -/
structure Report where
  devid : CInt
  propName : List Byte
  value : ReportValue
  deriving DecidableEq, Repr

/-- Source: `server/video/video_interface.h` -/
def videoPropertyImageFlip : CInt := 0x0004#32
def videoPropertyMotionSwitch : CInt := 0x0010#32
def videoPropertyMotionAlarmInterval : CInt := 0x0011#32
def videoPropertyMotionSensitivity : CInt := 0x0012#32
def videoPropertySubquality : CInt := 0x0021#32
def videoPropertyWdr : CInt := 0x0022#32
def videoPropertyImageCorrection : CInt := 0x0023#32

/-! ### The setters -/

/-- Where in a message the device is. -/
inductive DevidSlot
  | argIn
  | argPass
  deriving DecidableEq, Repr

/-- Source: `server/aliyun/linkkit_client.c` `Ali_Set*`, `msg` -/
def numberMessage (slot : DevidSlot) (id cat devid valueint : CInt) (pCmd : List Char) : Message :=
  let extra := (CStr.ofChars pCmd).bytes ++ [0#8]
  { message := id
    argIn := { cat := cat, wolf := if slot = .argIn then devid else 0#32 }
    argPass := { cat := cat, wolf := if slot = .argPass then devid else 0#32 }
    arg := some (intBytes valueint)
    argSize := 4#32
    extra := some extra
    extraSize := BitVec.ofNat 32 extra.length }

/-- The messages that a setter sends, for a device, the item of the request and its name. -/
abbrev NumberSetter := CInt → Option CJson → List Char → List (ServerType × Message)

/-- A setter that sends a number. -/
def aliSetNumber (slot : DevidSlot) (server : ServerType) (id cat : CInt) : NumberSetter :=
  fun devid item pCmd =>
    match item with
    | some (.number valueint) => [(server, numberMessage slot id cat devid valueint pCmd)]
    | _ => []

/-- Source: `server/aliyun/linkkit_client.c` `Ali_SetStreamVideoQuality` -/
def aliSetStreamVideoQuality : NumberSetter :=
  aliSetNumber .argIn .video msgVideoPropertySetDirect Video.videoPropertyQuality

/-- Source: `server/aliyun/linkkit_client.c` `Ali_SetSubStreamVideoQuality` -/
def aliSetSubStreamVideoQuality : NumberSetter :=
  aliSetNumber .argIn .video msgVideoPropertySetDirect videoPropertySubquality

/-- Source: `server/aliyun/linkkit_client.c` `Ali_SetAlarmSwitch` -/
def aliSetAlarmSwitch : NumberSetter :=
  aliSetNumber .argPass .video msgVideoPropertySetDirect videoPropertyMotionSwitch

/-- Source: `server/aliyun/linkkit_client.c` `Ali_SetMotionDetectSensitivity` -/
def aliSetMotionDetectSensitivity : NumberSetter :=
  aliSetNumber .argPass .video msgVideoPropertySetDirect videoPropertyMotionSensitivity

/-- Source: `server/aliyun/linkkit_client.c` `Ali_SetAlarmFrequencyLevel` -/
def aliSetAlarmFrequencyLevel : NumberSetter :=
  aliSetNumber .argPass .video msgVideoPropertySetDirect videoPropertyMotionAlarmInterval

/-- Source: `server/aliyun/linkkit_client.c` `Ali_SetImageFlipState` -/
def aliSetImageFlipState : NumberSetter :=
  aliSetNumber .argPass .video msgVideoPropertySetDirect videoPropertyImageFlip

/-- Source: `server/aliyun/linkkit_client.c` `Ali_SetDayNightMode` -/
def aliSetDayNightMode : NumberSetter :=
  aliSetNumber .argPass .video msgVideoPropertySetDirect Video.videoPropertyNightShot

/-- Source: `server/aliyun/linkkit_client.c` `Ali_SetTimeDisplay` -/
def aliSetTimeDisplay : NumberSetter :=
  aliSetNumber .argPass .video msgVideoPropertySetDirect Video.videoPropertyTimeWatermark

/-- Source: `server/aliyun/linkkit_client.c` `Ali_SetWdrSupport` -/
def aliSetWdrSupport : NumberSetter :=
  aliSetNumber .argPass .video msgVideoPropertySetDirect videoPropertyWdr

/-- Source: `server/aliyun/linkkit_client.c` `Ali_SetSpeakerSwitch` -/
def aliSetSpeakerSwitch : NumberSetter :=
  aliSetNumber .argPass .audio Audio.msgAudioPropertySet Audio.audioPropertySpeaker

/-- Source: `server/aliyun/linkkit_client.c` `Ali_SetStorageRecordMode` -/
def aliSetStorageRecordMode : NumberSetter :=
  aliSetNumber .argPass .recorder msgRecorderPropertySet Recorder.recorderPropertySwitch

/-- Source: `server/aliyun/linkkit_client.c` `Ali_SetImageCorrect` -/
def aliSetImageCorrect : NumberSetter :=
  aliSetNumber .argPass .video msgVideoPropertySetDirect videoPropertyImageCorrection

/-- What a setter has done: the new `_config_` and whether `config_set` was called, the messages it has
sent, and what it has reported itself. -/
structure SetterResult where
  config : Memory × Bool
  messages : List (ServerType × Message) := []
  reports : List Report := []

/-- A setter that copies a text and reports it.
Source: `server/aliyun/linkkit_client.c` `Ali_SetIpcVersion`, `Ali_SetDeviceName` -/
def aliSetString (property : CStr → PropertySet) (env : Surroundings) (config : Memory) (devid : CInt)
    (item : Option CJson) (pCmd : List Char) : Option SetterResult :=
  match item with
  | some (.string valuestring) => (applyProperty env config (property valuestring)).map fun result =>
      { config := result, reports := [⟨devid, (CStr.ofChars pCmd).bytes, .string valuestring⟩] }
  | _ => some { config := (config, false) }

/-- Source: `server/aliyun/linkkit_client.c` `Ali_SetStatusLightSwitch` -/
def aliSetStatusLightSwitch (env : Surroundings) (config : Memory) (devid : CInt)
    (item : Option CJson) (pCmd : List Char) : Option SetterResult :=
  match item with
  | some (.number value) =>
      (applyProperty env config (.byte .statusLightSwitch value)).map fun result =>
        { config := result, reports := [⟨devid, (CStr.ofChars pCmd).bytes, .int value⟩] }
  | _ => some { config := (config, false) }

/-- The zone that is there afterwards is reported. `ret` is not set when it is there already; what is
reported is then the same in both cases.
Source: `server/aliyun/linkkit_client.c` `Ali_SetDeviceTimeZone` -/
def aliSetDeviceTimeZone (env : Surroundings) (config : Memory) (devid : CInt)
    (item : Option CJson) (pCmd : List Char) : Option SetterResult :=
  match item with
  | some (.number zone) =>
      (applyProperty env config (.deviceTimeZone zone)).map fun result =>
        { config := result
          reports := [⟨devid, (CStr.ofChars pCmd).bytes, .int (byteOf result.1 .timeZone)⟩] }
  | _ => some { config := (config, false) }

/-- A call of a setter; `temp` is what its variable `msg` holds when nothing has set it.
Source: `server/aliyun/linkkit_client.c` `Ali_Set*` -/
def callSetter (parse : List Char → Option CJson) (env : Surroundings) (temp : Message)
    (config : Memory) (call : SetterCall) : Option SetterResult :=
  let item := call.item parse
  let sent (setter : NumberSetter) : Option SetterResult :=
    some { config := (config, false), messages := setter call.devid item call.pCmd }
  match call.setter with
  | .streamVideoQuality => sent aliSetStreamVideoQuality
  | .subStreamVideoQuality => sent aliSetSubStreamVideoQuality
  | .alarmSwitch => sent aliSetAlarmSwitch
  | .motionDetectSensitivity => sent aliSetMotionDetectSensitivity
  | .alarmFrequencyLevel => sent aliSetAlarmFrequencyLevel
  | .imageFlipState => sent aliSetImageFlipState
  | .ipcVersion => aliSetString .ipcVersion env config call.devid item call.pCmd
  | .debugCmd => some { config := (config, false) }
  | .dayNightMode => sent aliSetDayNightMode
  | .alarmNotifyPlan => (aliSetAlarmNotifyPlan parse temp call.devid call.pData).map fun msgs =>
      { config := (config, false), messages := msgs.map fun msg => (.video, msg) }
  | .timeDisplay => sent aliSetTimeDisplay
  | .wdrSupport => sent aliSetWdrSupport
  | .speakerSwitch => sent aliSetSpeakerSwitch
  | .statusLightSwitch => aliSetStatusLightSwitch env config call.devid item call.pCmd
  | .storageRecordMode => sent aliSetStorageRecordMode
  | .imageCorrect => sent aliSetImageCorrect
  | .deviceName => aliSetString .deviceName env config call.devid item call.pCmd
  | .deviceTimeZone => aliSetDeviceTimeZone env config call.devid item call.pCmd

/-! ### The handlers -/

/-- What a handler has done: the new `_config_`, whether `config_set` was called, and the reports. -/
abbrev HandlerResult := (Memory × Bool) × List Report

/-- The value of the message is set, and what the member holds then is reported.
Source: `server/*/*.c` `*_set_property` -/
def setAndReport (property : CInt → PropertySet) (member : Member) (env : Surroundings)
    (config : Memory) (msg : Message) : Option HandlerResult :=
  msg.arg.bind fun arg => msg.extra.bind fun extra =>
    (applyProperty env config (property (readInt arg))).map fun result =>
      (result, [⟨msg.argIn.wolf, extra.takeWhile (· ≠ 0#8), .int (byteOf result.1 member)⟩])

/-- A property of one byte. -/
def setByteAndReport (property : ByteProperty) : Surroundings → Memory → Message → Option HandlerResult :=
  setAndReport (.byte property) property.member

/-- Source: `server/video/video.c` `video_set_property` -/
def videoSetProperty (env : Surroundings) (config : Memory) (msg : Message) : Option HandlerResult :=
  if msg.argIn.cat = Video.videoPropertyQuality then setByteAndReport .quality env config msg
  else if msg.argIn.cat = videoPropertySubquality then setByteAndReport .subquality env config msg
  else if msg.argIn.cat = videoPropertyMotionSwitch then setByteAndReport .motionSwitch env config msg
  else if msg.argIn.cat = videoPropertyMotionSensitivity then
    setAndReport .motionSensitivity .motionDetectSensitivity env config msg
  else if msg.argIn.cat = videoPropertyMotionAlarmInterval then
    setByteAndReport .motionAlarmInterval env config msg
  else if msg.argIn.cat = videoPropertyImageFlip then
    setAndReport .imageFlip .videoMirror env config msg
  else if msg.argIn.cat = Video.videoPropertyNightShot then setByteAndReport .nightShot env config msg
  else if msg.argIn.cat = videoPropertyMotionPlan then
    (applyProperty env config (.motionPlan msg.argIn.dog msg.argIn.chick msg.argIn.duck)).map fun result =>
      (result, [])
  else if msg.argIn.cat = Video.videoPropertyTimeWatermark then
    setByteAndReport .timeWatermark env config msg
  else if msg.argIn.cat = videoPropertyWdr then setByteAndReport .wdr env config msg
  else if msg.argIn.cat = videoPropertyImageCorrection then
    setByteAndReport .imageCorrection env config msg
  else some ((config, false), [])

/-- Source: `server/audio/audio.c` `audio_set_property` -/
def audioSetProperty (env : Surroundings) (config : Memory) (msg : Message) : Option HandlerResult :=
  if msg.argIn.cat = Audio.audioPropertySpeaker then setByteAndReport .speaker env config msg
  else some ((config, false), [])

/-- Source: `server/recorder/recorder.c` `recorder_set_property` -/
def recorderSetProperty (env : Surroundings) (config : Memory) (msg : Message) : Option HandlerResult :=
  if msg.argIn.cat = Recorder.recorderPropertySwitch then setByteAndReport .recorderSwitch env config msg
  else some ((config, false), [])

/-- A server handles the message of a setter.
Source: `server/video/video.c`, `server/audio/audio.c`, `server/recorder/recorder.c`
`server_message_proc` -/
def handleSet (env : Surroundings) (config : Memory) (server : ServerType) (msg : Message) :
    Option HandlerResult :=
  if server = .video ∧ msg.message = msgVideoPropertySetDirect then videoSetProperty env config msg
  else if server = .audio ∧ msg.message = Audio.msgAudioPropertySet then audioSetProperty env config msg
  else if server = .recorder ∧ msg.message = msgRecorderPropertySet then
    recorderSetProperty env config msg
  else some ((config, false), [])

/-! ### Where the reports go -/

/-- All reports of a request go to its device: those of the setter, and those of the servers that it has
sent messages to, whatever the configuration is when they handle them. The queue gives a message its
sequence number. -/
def Addressed (parse : List Char → Option CJson) (call : SetterCall) : Prop :=
  ∀ env temp config result, callSetter parse env temp config call = some result →
    (∀ report ∈ result.reports, report.devid = call.devid) ∧
      ∀ m ∈ result.messages, ∀ env config sequence handled,
        handleSet env config m.1 { m.2 with sequence := sequence } = some handled →
        ∀ report ∈ handled.2, report.devid = call.devid

/-- The setters that put the device into `arg_pass.wolf` of a message that is answered with a report. -/
def sentInArgPass : List Setter :=
  [.alarmSwitch, .motionDetectSensitivity, .alarmFrequencyLevel, .imageFlipState, .dayNightMode,
    .timeDisplay, .wdrSupport, .speakerSwitch, .storageRecordMode, .imageCorrect]

variable {parse : List Char → Option CJson} {call : SetterCall} {env : Surroundings} {config : Memory}
  {msg temp : Message} {server : ServerType} {handled : HandlerResult} {result : SetterResult}
  {slot : DevidSlot} {id cat devid v : CInt} {pCmd pData : List Char} {property : CInt → PropertySet}
  {member : Member} {report : Report}

/-! ### Handlers -/

/-- The reports of a handler are for the device in `arg_in.wolf`. -/
def ForWolf (msg : Message) (result : Option HandlerResult) : Prop :=
  ∀ handled, result = some handled → ∀ report ∈ handled.2, report.devid = msg.argIn.wolf

theorem forWolf_setAndReport : ForWolf msg (setAndReport property member env config msg) := by
  intro handled h report hreport
  obtain ⟨arg, -, h⟩ := Option.bind_eq_some_iff.mp h
  obtain ⟨extra, -, h⟩ := Option.bind_eq_some_iff.mp h
  obtain ⟨result, -, rfl⟩ := Option.map_eq_some_iff.mp h
  rw [List.mem_singleton.mp hreport]

theorem forWolf_byte (property : ByteProperty) :
    ForWolf msg (setByteAndReport property env config msg) := forWolf_setAndReport

/-- A handler that reports nothing. -/
theorem forWolf_silent (result : Option (Memory × Bool)) :
    ForWolf msg (result.map fun result => (result, [])) := by
  intro handled h report hreport
  obtain ⟨result, -, rfl⟩ := Option.map_eq_some_iff.mp h
  exact absurd hreport List.not_mem_nil

theorem forWolf_none : ForWolf msg (some ((config, false), [])) :=
  forWolf_silent (some (config, false))

theorem forWolf_ite {c : Prop} [Decidable c] {x y : Option HandlerResult} (hx : ForWolf msg x)
    (hy : ForWolf msg y) : ForWolf msg (if c then x else y) := by
  split_ifs
  · exact hx
  · exact hy

theorem forWolf_videoSetProperty : ForWolf msg (videoSetProperty env config msg) := by
  refine forWolf_ite (forWolf_byte _) (forWolf_ite (forWolf_byte _) (forWolf_ite (forWolf_byte _) ?_))
  refine forWolf_ite forWolf_setAndReport (forWolf_ite (forWolf_byte _) ?_)
  refine forWolf_ite forWolf_setAndReport (forWolf_ite (forWolf_byte _) ?_)
  refine forWolf_ite (forWolf_silent _) (forWolf_ite (forWolf_byte _) ?_)
  exact forWolf_ite (forWolf_byte _) (forWolf_ite (forWolf_byte _) forWolf_none)

/-- The servers report for the device in `arg_in.wolf`. -/
theorem forWolf_handleSet : ForWolf msg (handleSet env config server msg) := by
  apply forWolf_ite forWolf_videoSetProperty
  apply forWolf_ite (forWolf_ite (forWolf_byte _) forWolf_none)
  exact forWolf_ite (forWolf_ite (forWolf_byte _) forWolf_none) forWolf_none

/-- A plan is not reported. -/
theorem handleSet_plan (hcat : msg.argIn.cat = videoPropertyMotionPlan)
    (h : handleSet env config .video msg = some handled) : handled.2 = [] := by
  rw [handleSet] at h
  split_ifs at h with hdirect haudio hrecorder
  · rw [videoSetProperty, hcat, if_neg (by decide), if_neg (by decide), if_neg (by decide),
      if_neg (by decide), if_neg (by decide), if_neg (by decide), if_neg (by decide), if_pos rfl] at h
    obtain ⟨result, -, rfl⟩ := Option.map_eq_some_iff.mp h
    rfl
  · cases haudio.1
  · cases hrecorder.1
  · cases h
    rfl

/-! ### Setters -/

/-- A setter that only sends a number, in a message with the device where the servers look for it, or
for the device 0. -/
theorem addressed_of_sent
    (hcall : ∀ env temp config, callSetter parse env temp config call = some {
      config := (config, false)
      messages := aliSetNumber slot server id cat call.devid (call.item parse) call.pCmd })
    (h : slot = .argPass → (∃ v, call.item parse = some (.number v)) → call.devid = 0#32) :
    Addressed parse call := by
  intro env temp config result hresult
  rw [hcall] at hresult
  cases hresult
  refine ⟨fun report hreport => absurd hreport List.not_mem_nil, ?_⟩
  intro m hm env config sequence handled hhandled report hreport
  have hm : m ∈ aliSetNumber slot server id cat call.devid (call.item parse) call.pCmd := hm
  unfold aliSetNumber at hm
  split at hm
  case h_1 v hitem =>
    rw [List.mem_singleton.mp hm] at hhandled
    have hwolf : report.devid = if slot = .argIn then call.devid else 0#32 :=
      forWolf_handleSet handled hhandled report hreport
    rw [hwolf]
    cases slot with
    | argIn => rfl
    | argPass => exact (h rfl ⟨v, hitem⟩).symm
  case h_2 => exact absurd hm List.not_mem_nil

/-- With the device in `arg_pass.wolf` the report of a number goes to the device 0. -/
theorem addressed_iff_of_argPass
    (hcall : ∀ env temp config, callSetter parse env temp config call = some {
      config := (config, false)
      messages := aliSetNumber .argPass server id cat call.devid (call.item parse) call.pCmd })
    (hanswered : ∀ v, ∃ env config handled, handleSet env config server
      (numberMessage .argPass id cat call.devid v call.pCmd) = some handled ∧ handled.2 ≠ []) :
    Addressed parse call ↔ ((∃ v, call.item parse = some (.number v)) → call.devid = 0#32) := by
  constructor
  · rintro haddressed ⟨v, hitem⟩
    obtain ⟨env, config, handled, hhandled, hne⟩ := hanswered v
    obtain ⟨report, hreport⟩ := List.exists_mem_of_ne_nil _ hne
    have hsent : (server, numberMessage .argPass id cat call.devid v call.pCmd) ∈
        aliSetNumber .argPass server id cat call.devid (call.item parse) call.pCmd := by
      rw [hitem]
      exact List.mem_singleton_self _
    have hwolf : report.devid = 0#32 := forWolf_handleSet handled hhandled report hreport
    rw [← hwolf]
    exact ((haddressed env msgInit config _ (hcall _ _ _)).2 _ hsent env config 0#32 handled hhandled
      report hreport).symm
  · exact fun h => addressed_of_sent hcall fun _ => h

/-- The surroundings while the video does not run. -/
def idle : Surroundings := { quiet 0 with running := false }

/-- A number is answered with a report when its property can be set. -/
theorem exists_answer (happly : ∀ v, (applyProperty idle zeroed (property v)).isSome = true)
    (hset : ∀ v, handleSet idle zeroed server (numberMessage .argPass id cat devid v pCmd) =
      setAndReport property member idle zeroed (numberMessage .argPass id cat devid v pCmd)) (v : CInt) :
    ∃ env config handled, handleSet env config server
      (numberMessage .argPass id cat devid v pCmd) = some handled ∧ handled.2 ≠ [] := by
  obtain ⟨result, hresult⟩ := Option.isSome_iff_exists.mp (happly (readInt (intBytes v)))
  have hreport : setAndReport property member idle zeroed (numberMessage .argPass id cat devid v pCmd) =
      (applyProperty idle zeroed (property (readInt (intBytes v)))).map fun result =>
        (result, [⟨0#32, ((CStr.ofChars pCmd).bytes ++ [0#8]).takeWhile (· ≠ 0#8),
          .int (byteOf result.1 member)⟩]) := rfl
  rw [hresult, Option.map_some] at hreport
  exact ⟨idle, zeroed, _, (hset v).trans hreport, List.cons_ne_nil _ _⟩

/-- The messages of a plan are for the property of a plan. -/
theorem cat_of_planMessages {items : List CJson} {msgs : List Message}
    (h : planMessages devid items = some msgs) :
    ∀ msg ∈ msgs, msg.argIn.cat = videoPropertyMotionPlan := by
  induction items generalizing msgs with
  | nil =>
    cases h
    exact fun msg hmsg => absurd hmsg List.not_mem_nil
  | cons item items ih =>
    obtain ⟨entry, -, h⟩ := Option.bind_eq_some_iff.mp h
    obtain ⟨rest, hrest, rfl⟩ := Option.map_eq_some_iff.mp h
    intro msg hmsg
    rcases List.mem_cons.mp hmsg with rfl | hmsg
    · rfl
    · exact ih hrest msg hmsg

theorem cat_of_alarmNotifyPlan {msgs : List Message}
    (h : aliSetAlarmNotifyPlan parse temp devid pData = some msgs) :
    ∀ msg ∈ msgs, msg.argIn.cat = videoPropertyMotionPlan := by
  rw [aliSetAlarmNotifyPlan] at h
  split at h
  · cases h
    exact fun msg hmsg => absurd hmsg List.not_mem_nil
  · split at h
    · exact cat_of_planMessages h
    · cases h
      intro msg hmsg
      rw [List.mem_singleton.mp hmsg]

/-- Plans are not reported. -/
theorem addressed_plan (hsetter : call.setter = .alarmNotifyPlan) : Addressed parse call := by
  intro env temp config result hresult
  rw [callSetter, hsetter] at hresult
  obtain ⟨msgs, hmsgs, rfl⟩ := Option.map_eq_some_iff.mp hresult
  refine ⟨fun report hreport => absurd hreport List.not_mem_nil, ?_⟩
  intro m hm env config sequence handled hhandled report hreport
  obtain ⟨msg, hmsg, rfl⟩ := List.mem_map.mp hm
  have hcat : msg.argIn.cat = videoPropertyMotionPlan := cat_of_alarmNotifyPlan hmsgs msg hmsg
  rw [handleSet_plan hcat hhandled] at hreport
  exact absurd hreport List.not_mem_nil

/-- Nothing is sent, and what is reported is reported for the device. -/
def SelfReported (devid : CInt) (result : Option SetterResult) : Prop :=
  ∀ r, result = some r → r.messages = [] ∧ ∀ report ∈ r.reports, report.devid = devid

theorem selfReported_none : SelfReported devid (some { config := (config, false) }) := by
  rintro r ⟨⟩
  exact ⟨rfl, fun report hreport => absurd hreport List.not_mem_nil⟩

theorem selfReported_one (applied : Option (Memory × Bool)) (name : List Byte)
    (value : Memory × Bool → ReportValue) : SelfReported devid (applied.map fun result =>
      { config := result, reports := [⟨devid, name, value result⟩] }) := by
  intro r hr
  obtain ⟨result, -, rfl⟩ := Option.map_eq_some_iff.mp hr
  refine ⟨rfl, fun report hreport => ?_⟩
  rw [List.mem_singleton.mp hreport]

theorem selfReported_string (property : CStr → PropertySet) (item : Option CJson) :
    SelfReported devid (aliSetString property env config devid item pCmd) := by
  unfold aliSetString
  split
  · exact selfReported_one _ _ _
  · exact selfReported_none

theorem selfReported_statusLight (item : Option CJson) :
    SelfReported devid (aliSetStatusLightSwitch env config devid item pCmd) := by
  unfold aliSetStatusLightSwitch
  split
  · exact selfReported_one _ _ _
  · exact selfReported_none

theorem selfReported_timeZone (item : Option CJson) :
    SelfReported devid (aliSetDeviceTimeZone env config devid item pCmd) := by
  unfold aliSetDeviceTimeZone
  split
  · exact selfReported_one _ _ fun result => .int (byteOf result.1 .timeZone)
  · exact selfReported_none

theorem addressed_of_selfReported
    (h : ∀ env temp config, SelfReported call.devid (callSetter parse env temp config call)) :
    Addressed parse call := by
  intro env temp config result hresult
  obtain ⟨hmessages, hreports⟩ := h env temp config result hresult
  refine ⟨hreports, fun m hm => ?_⟩
  rw [hmessages] at hm
  exact absurd hm List.not_mem_nil

/-- The other setters put the device where the servers look for it, report it themselves, or have
nothing reported. -/
theorem addressed_of_not_mem {setter : Setter} (h : setter ∉ sentInArgPass) :
    Addressed parse ⟨setter, devid, pData, pCmd⟩ := by
  cases setter
  case streamVideoQuality => exact addressed_of_sent (fun _ _ _ => rfl) (by rintro ⟨⟩)
  case subStreamVideoQuality => exact addressed_of_sent (fun _ _ _ => rfl) (by rintro ⟨⟩)
  case ipcVersion => exact addressed_of_selfReported fun _ _ _ => selfReported_string _ _
  case debugCmd => exact addressed_of_selfReported fun _ _ _ => selfReported_none
  case alarmNotifyPlan => exact addressed_plan rfl
  case statusLightSwitch => exact addressed_of_selfReported fun _ _ _ => selfReported_statusLight _
  case deviceName => exact addressed_of_selfReported fun _ _ _ => selfReported_string _ _
  case deviceTimeZone => exact addressed_of_selfReported fun _ _ _ => selfReported_timeZone _
  all_goals exact absurd (by decide) h

/-- The servers do not find the device that these setters send. -/
theorem addressed_iff_of_mem {setter : Setter} (h : setter ∈ sentInArgPass) :
    Addressed parse ⟨setter, devid, pData, pCmd⟩ ↔
      ((∃ v, SetterCall.item parse ⟨setter, devid, pData, pCmd⟩ = some (.number v)) →
        devid = 0#32) := by
  have hbyte : ∀ property v, (applyProperty idle zeroed (.byte property v)).isSome = true :=
    fun _ _ => rfl
  have hsensitivity : ∀ v, (applyProperty idle zeroed (.motionSensitivity v)).isSome = true := by
    intro v
    simp [applyProperty, setMotionSensitivity, idle]
  have hflip : ∀ v, (applyProperty idle zeroed (.imageFlip v)).isSome = true := fun _ => rfl
  simp only [sentInArgPass, List.mem_cons, List.not_mem_nil, or_false] at h
  rcases h with rfl | rfl | rfl | rfl | rfl | rfl | rfl | rfl | rfl | rfl
  · exact addressed_iff_of_argPass (fun _ _ _ => rfl) (exists_answer (hbyte .motionSwitch) fun _ => rfl)
  · exact addressed_iff_of_argPass (fun _ _ _ => rfl) (exists_answer hsensitivity fun _ => rfl)
  · exact addressed_iff_of_argPass (fun _ _ _ => rfl)
      (exists_answer (hbyte .motionAlarmInterval) fun _ => rfl)
  · exact addressed_iff_of_argPass (fun _ _ _ => rfl) (exists_answer hflip fun _ => rfl)
  · exact addressed_iff_of_argPass (fun _ _ _ => rfl) (exists_answer (hbyte .nightShot) fun _ => rfl)
  · exact addressed_iff_of_argPass (fun _ _ _ => rfl) (exists_answer (hbyte .timeWatermark) fun _ => rfl)
  · exact addressed_iff_of_argPass (fun _ _ _ => rfl) (exists_answer (hbyte .wdr) fun _ => rfl)
  · exact addressed_iff_of_argPass (fun _ _ _ => rfl) (exists_answer (hbyte .speaker) fun _ => rfl)
  · exact addressed_iff_of_argPass (fun _ _ _ => rfl) (exists_answer (hbyte .recorderSwitch) fun _ => rfl)
  · exact addressed_iff_of_argPass (fun _ _ _ => rfl) (exists_answer (hbyte .imageCorrection) fun _ => rfl)

/-- All reports of a request go to its device iff its setter does not put a number for another device
than 0 into a message with the device in `arg_pass.wolf`. -/
theorem addressed_iff (parse : List Char → Option CJson) (call : SetterCall) :
    Addressed parse call ↔ (call.setter ∈ sentInArgPass →
      (∃ v, call.item parse = some (.number v)) → call.devid = 0#32) := by
  by_cases h : call.setter ∈ sentInArgPass
  · exact (addressed_iff_of_mem h).trans ⟨fun hzero _ => hzero, fun hzero => hzero h⟩
  · exact iff_of_true (addressed_of_not_mem h) fun hmem => absurd hmem h

/-! ### A request for the device 1 -/

/-- The alarm of the device 1 is switched on. -/
def alarmOn : SetterCall :=
  ⟨.alarmSwitch, 1#32, "\x7b\"AlarmSwitch\":1\x7d".toList, "AlarmSwitch".toList⟩

/-- The report of the alarm switch of the device 1 goes to the device 0. -/
theorem alarmSwitch_misaddressed : ∃ parse, ¬ Addressed parse alarmOn := by
  let parse : List Char → Option CJson := fun _ =>
    some (.object [("AlarmSwitch".toList, .number 1#32)])
  have hitem : alarmOn.item parse = some (.number 1#32) := rfl
  have hmem : Setter.alarmSwitch ∈ sentInArgPass := by decide
  exact ⟨parse, fun haddressed =>
    absurd ((addressed_iff_of_mem hmem).mp haddressed ⟨1#32, hitem⟩) (by decide)⟩

end GokeWebcam.Server.Property
