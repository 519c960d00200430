import GokeWebcam.Server.PropertyFrame

/-!
# The cloud and the device

The properties of the device as the cloud knows them. The cloud asks for a property to be set or got; a setter
sends a message to the server of the property or sets it itself; the servers handle their messages at any time,
in any order, or never; all of them report by a JSON text that is posted, and so does the device when it is
connected. Texts that are posted while it is not connected are lost, the others are read in their order.

* `observe_print`: what the cloud knows after the text of an object.
* `agrees_of_told`: when all that has changed is reported, what the cloud knows is what is kept.
* `agrees_step_iff`: a step leaves the cloud and the device in agreement iff its request fits.
* `cloud_agrees_iff`: in every run the cloud knows the properties as they are while the device is connected, iff all
  requests fit.
-/

namespace GokeWebcam.Server.Property

open Lib Common Global Manager Aliyun

/-! ### The cloud -/

/-- What the cloud knows of the properties. -/
abbrev View := List Char → Option CJson

/-- A text that is posted tells the properties that are its names. -/
def observe (view : View) (text : CStr) : View :=
  match cjsonParse text with
  | some (.object child) => fun name => (CJson.stored name child).or (view name)
  | _ => view

/-- The cloud knows the properties as they are. -/
def Agrees (config : Memory) (view : View) : Prop :=
  ∀ k ∈ kept, (k.item config).isSome = true ∧ view k.name = k.item config

/-! ### The system -/

/-- The device, the messages that its servers have not handled yet, and the cloud. -/
structure CloudState where
  device : State
  pending : List (ServerType × Message)
  connected : Bool
  view : View

inductive CloudAction
  | connect (r : Readings)
  | disconnect
  | set (devid : CInt) (request : List Char) (env : Surroundings) (temp : Message)
  | get (devid : CInt) (request : List Char) (r : Readings)
  | handle (i : ℕ) (sequence : CInt) (env : Surroundings)
  | lose (i : ℕ)
  | reportSd (r : Readings)
  | setup (devinfo : Option CStr) (o : WriteOutcome)
  | restart

/-- What is posted. -/
def CloudState.post (s : CloudState) (texts : List CStr) : CloudState :=
  if s.connected then { s with view := texts.foldl observe s.view } else s

/-- `_config_` is changed, and saved when `config_set` is called. -/
def keep (o : WriteOutcome) (device : State) (result : Memory × Bool) : Option State :=
  if result.2 then (configSet printText o device.saved result.1 device.file).map fun set =>
    ⟨result.1, set.2.1, set.2.2⟩
  else some { device with config := result.1 }

/-- A setter is called. -/
def callStep (env : Surroundings) (temp : Message) (s : CloudState) (call : SetterCall) : Option CloudState :=
  (callSetter parseText env temp s.device.config call).bind fun result =>
    (keep env.write s.device result.config).map fun device =>
      { s with device := device, pending := s.pending ++ result.messages }.post (result.reports.map Report.text)

/-- A server handles a message, which the queue has given its number. -/
def handleStep (s : CloudState) (i : ℕ) (sequence : CInt) (env : Surroundings) : Option CloudState :=
  s.pending[i]?.bind fun m =>
    (handleSet env s.device.config m.1 { m.2 with sequence := sequence }).bind fun handled =>
      (keep env.write s.device handled.1).map fun device =>
        { s with device := device, pending := s.pending.eraseIdx i }.post (handled.2.map Report.text)

/-- The name of the device becomes the one that it was made with, unless this cannot be read. The name has no
`%`, and `device_name` room for 31 bytes.
Source: `server/aliyun/aliyun.c` `aliyun_get_uuid` -/
def aliyunGetUuid (devinfo : Option CStr) (o : WriteOutcome) (device : State) : Option State :=
  match devinfo with
  | none => some device
  | some acDeviceName =>
    let name := cut acDeviceName 31
    if loadStr device.config Member.deviceName.offset Member.deviceName.size = some name then some device
    else keep o device (storeStr device.config Member.deviceName.offset name, true)

/-- Requests come while the device is connected, and the server sets itself up while it is not. -/
def CloudState.step (s : CloudState) : CloudAction → Option CloudState
  | .connect r => (aliReportProperty r s.device.config).map fun child =>
      { s with connected := true }.post [cjsonPrint true (.object child)]
  | .disconnect => some { s with connected := false }
  | .set devid request env temp => if !s.connected then none
      else (userPropertySetHandler devid request).bind fun calls => calls.foldlM (callStep env temp) s
  | .get devid request r => if !s.connected then none
      else (userPropertyGetHandler r s.device.config devid request).map fun reports => s.post (reports.map Report.text)
  | .handle i sequence env => handleStep s i sequence env
  | .lose i => some { s with pending := s.pending.eraseIdx i }
  | .reportSd r => some (s.post [ofOutput (aliyunReportSdInfo r)])
  | .setup devinfo o => if s.connected then none
      else (aliyunGetUuid devinfo o s.device).map fun device => { s with device := device }
  | .restart => (boot parseText s.device.file).map fun device =>
      { s with device := device, pending := [], connected := false }

/-- A request for the light is for a byte, and the text of a request ends in its member. -/
def CallFits (call : SetterCall) : Prop :=
  (call.setter = .statusLightSwitch → ∀ v, call.item parseText = some (.number v) → 0 ≤ v.toInt ∧ v.toInt ≤ 255) ∧
    (call.setter = .ipcVersion → ∀ str, call.item parseText = some (.string str) →
      str.strlen < Member.ipcVersion.size) ∧
    (call.setter = .deviceName → ∀ str, call.item parseText = some (.string str) →
      str.strlen < Member.deviceName.size)

/-- The requests fit. -/
def Fitting (_ : CloudState) : CloudAction → Prop
  | .set devid request _ _ => ∀ calls, userPropertySetHandler devid request = some calls → ∀ call ∈ calls, CallFits call
  | _ => True

variable {view : View} {format : Bool} {child : List (List Char × CJson)} {config config' : Memory} {k : Kept}
  {report : Report} {reports : List Report} {r : Readings} {name : List Char} {value : CJson}

/-! ### What the cloud reads -/

theorem observe_print (h : Nested cjsonNestingLimit (.object child)) :
    observe view (cjsonPrint format (.object child)) name = (CJson.stored name child).or (view name) := by
  unfold observe
  rw [cjsonParse_of_derives (derives_printValue h)]

theorem nested_of_scalar {room : ℕ} (h : Nested 0 value) : Nested room value := by
  cases value with
  | array | object => exact absurd h id
  | null | bool | number | string => cases room <;> trivial

theorem nested_item {room : ℕ} {value : ReportValue} : Nested room value.item := by
  cases value <;> exact nested_of_scalar trivial

/-- The report of a property tells this property. -/
theorem observe_report (h : report.name ∈ names) :
    observe view report.text name = if name = report.name then some report.value.item else view name := by
  have hnested : Nested cjsonNestingLimit (.object [(report.name, report.value.item)]) := by
    intro item hitem
    rw [List.mem_singleton.mp hitem]
    exact ⟨char_of_mem_names h, nested_item⟩
  rw [Report.text, observe_print hnested, CJson.stored]
  by_cases heq : name = report.name
  · simp [heq]
  · simp [heq]

/-- After reports of what is kept, what was reported is known, and so is what was known before. -/
theorem view_of_reports (hk : k ∈ kept) (htruthful : ∀ report ∈ reports, Truthful config report)
    (h : view k.name = k.item config ∨ ∃ report ∈ reports, report.name = k.name) :
    ((reports.map Report.text).foldl observe view) k.name = k.item config := by
  induction reports generalizing view with
  | nil => exact h.resolve_right fun ⟨_, hmem, _⟩ => absurd hmem List.not_mem_nil
  | cons report later ih =>
    obtain ⟨hreport, hlater⟩ := List.forall_mem_cons.mp htruthful
    rw [List.map_cons, List.foldl_cons]
    refine ih hlater ?_
    rw [observe_report hreport.named]
    by_cases heq : k.name = report.name
    · left
      rw [if_pos heq]
      exact (hreport.kept k hk heq).symm
    · rw [if_neg heq]
      refine h.imp_right ?_
      rintro ⟨other, hother, hname⟩
      rcases List.mem_cons.mp hother with rfl | hother
      · exact absurd hname.symm heq
      · exact ⟨other, hother, hname⟩

/-- When all that has changed is reported, what the cloud knows is what is kept. -/
theorem agrees_of_told (h : Agrees config view) (hfits : StringsFit configProfileMap config')
    (htold : Told config config' reports) : Agrees config' ((reports.map Report.text).foldl observe view) := by
  intro k hk
  refine ⟨isSome_item hfits hk, view_of_reports hk htold.truthful ?_⟩
  rw [(h k hk).2]
  exact (htold.changed k hk).imp_left Eq.symm

theorem stored_of_mem (hnodup : (CJson.keys child).Nodup) (hmem : (name, value) ∈ child) :
    CJson.stored name child = some value := by
  obtain ⟨found, hfound⟩ := Option.isSome_iff_exists.mp
    (CJson.stored_isSome_iff.mpr (List.mem_map_of_mem (f := (·.1)) hmem : name ∈ CJson.keys child))
  obtain ⟨item, hitem, rfl⟩ := Option.map_eq_some_iff.mp hfound
  have hname : name = item.1 := by simpa using List.find?_some hitem
  have hsame : item = (name, value) :=
    List.inj_on_of_nodup_map hnodup (List.mem_of_find?_eq_some hitem) hmem hname.symm
  rw [hfound, hsame]

/-- The names of the report of all properties. -/
def reportedNames : List (List Char) :=
  ["StreamVideoQuality".toList, "SubStreamVideoQuality".toList, "AlarmSwitch".toList,
    "MotionDetectSensitivity".toList, "AlarmFrequencyLevel".toList, "ImageFlipState".toList, "IpcVersion".toList,
    "DayNightMode".toList, "TimeDisplay".toList, "WdrSupport".toList, "WiFiRSSI".toList, "SpeakerSwitch".toList,
    "StorageStatus".toList, "StorageTotalCapacity".toList, "StorageRemainCapacity".toList,
    "StatusLightSwitch".toList, "StorageRecordMode".toList, "ImageCorrect".toList, "DeviceName".toList,
    "DeviceTimeZone".toList]

/-- The object of all properties: names that differ, numbers and texts, and among them all that is kept. -/
theorem mem_of_reportProperty (h : aliReportProperty r config = some child) :
    (CJson.keys child).Nodup ∧ Nested cjsonNestingLimit (.object child) ∧
      ∀ k ∈ kept, ∃ value, (k.name, value) ∈ child ∧ k.item config = some value := by
  obtain ⟨ipcVersion, hversion, h⟩ := Option.bind_eq_some_iff.mp h
  obtain ⟨deviceName, hdevice, rfl⟩ := Option.map_eq_some_iff.mp h
  have hnames : ∀ name ∈ reportedNames, name ∈ names := by decide
  have hnodup : reportedNames.Nodup := by decide
  refine ⟨hnodup, fun item hitem => ⟨?_, ?_⟩, ?_⟩
  · exact char_of_mem_names (hnames _ (List.mem_map_of_mem (f := (·.1)) hitem))
  · simp only [List.mem_cons, List.not_mem_nil, or_false] at hitem
    rcases hitem with rfl | rfl | rfl | rfl | rfl | rfl | rfl | rfl | rfl | rfl | rfl | rfl | rfl | rfl | rfl |
      rfl | rfl | rfl | rfl | rfl <;> trivial
  · have hnumber : ∀ {name member}, (⟨name, member, false⟩ : Kept).item config = some (.number (byteOf config member)) :=
      rfl
    have hstring : ∀ {name member str}, loadStr config member.offset member.size = some str →
        (⟨name, member, true⟩ : Kept).item config = some (.string str) := fun h => congrArg (·.map CJson.string) h
    simp only [kept, List.forall_mem_cons]
    refine ⟨⟨_, ?_, hnumber⟩, ⟨_, ?_, hnumber⟩, ⟨_, ?_, hnumber⟩, ⟨_, ?_, hnumber⟩, ⟨_, ?_, hnumber⟩,
      ⟨_, ?_, hnumber⟩, ⟨_, ?_, hstring hversion⟩, ⟨_, ?_, hnumber⟩, ⟨_, ?_, hnumber⟩, ⟨_, ?_, hnumber⟩,
      ⟨_, ?_, hnumber⟩, ⟨_, ?_, hnumber⟩, ⟨_, ?_, hnumber⟩, ⟨_, ?_, hnumber⟩, ⟨_, ?_, hstring hdevice⟩,
      ⟨_, ?_, hnumber⟩, List.forall_mem_nil _⟩ <;>
    simp only [List.mem_cons, true_or, or_true]

/-- The report of all properties tells all that are kept. -/
theorem agrees_of_report (h : aliReportProperty r config = some child) :
    Agrees config (observe view (cjsonPrint true (.object child))) := by
  obtain ⟨hnodup, hnested, hkept⟩ := mem_of_reportProperty h
  intro k hk
  obtain ⟨value, hmem, hvalue⟩ := hkept k hk
  rw [observe_print hnested, stored_of_mem hnodup hmem, hvalue]
  exact ⟨rfl, rfl⟩

/-! ### The servers -/

/-- The way of a number: the setter that it is for, the message that this one sends, and what the server of the
property makes of it. -/
structure Route where
  setter : Setter
  row : Kept
  slot : DevidSlot
  server : ServerType
  id : CInt
  cat : CInt
  property : CInt → PropertySet

def routes : List Route :=
  [⟨.streamVideoQuality, ⟨"StreamVideoQuality".toList, .videoQuality, false⟩, .argIn, .video,
      msgVideoPropertySetDirect, Video.videoPropertyQuality, .byte .quality⟩,
    ⟨.subStreamVideoQuality, ⟨"SubStreamVideoQuality".toList, .subvideoQuality, false⟩, .argIn, .video,
      msgVideoPropertySetDirect, videoPropertySubquality, .byte .subquality⟩,
    ⟨.alarmSwitch, ⟨"AlarmSwitch".toList, .alarmSwitch, false⟩, .argPass, .video,
      msgVideoPropertySetDirect, videoPropertyMotionSwitch, .byte .motionSwitch⟩,
    ⟨.motionDetectSensitivity, ⟨"MotionDetectSensitivity".toList, .motionDetectSensitivity, false⟩, .argPass, .video,
      msgVideoPropertySetDirect, videoPropertyMotionSensitivity, .motionSensitivity⟩,
    ⟨.alarmFrequencyLevel, ⟨"AlarmFrequencyLevel".toList, .alarmFreqency, false⟩, .argPass, .video,
      msgVideoPropertySetDirect, videoPropertyMotionAlarmInterval, .byte .motionAlarmInterval⟩,
    ⟨.imageFlipState, ⟨"ImageFlipState".toList, .videoMirror, false⟩, .argPass, .video,
      msgVideoPropertySetDirect, videoPropertyImageFlip, .imageFlip⟩,
    ⟨.dayNightMode, ⟨"DayNightMode".toList, .dayNightMode, false⟩, .argPass, .video,
      msgVideoPropertySetDirect, Video.videoPropertyNightShot, .byte .nightShot⟩,
    ⟨.timeDisplay, ⟨"TimeDisplay".toList, .osdEnable, false⟩, .argPass, .video,
      msgVideoPropertySetDirect, Video.videoPropertyTimeWatermark, .byte .timeWatermark⟩,
    ⟨.wdrSupport, ⟨"WdrSupport".toList, .wdrEnable, false⟩, .argPass, .video,
      msgVideoPropertySetDirect, videoPropertyWdr, .byte .wdr⟩,
    ⟨.speakerSwitch, ⟨"SpeakerSwitch".toList, .speakerEnable, false⟩, .argPass, .audio,
      Audio.msgAudioPropertySet, Audio.audioPropertySpeaker, .byte .speaker⟩,
    ⟨.storageRecordMode, ⟨"StorageRecordMode".toList, .recorderEnable, false⟩, .argPass, .recorder,
      msgRecorderPropertySet, Recorder.recorderPropertySwitch, .byte .recorderSwitch⟩,
    ⟨.imageCorrect, ⟨"ImageCorrect".toList, .imageCorrect, false⟩, .argPass, .video,
      msgVideoPropertySetDirect, videoPropertyImageCorrection, .byte .imageCorrection⟩]

/-- The message of a setter. -/
def Route.message (route : Route) (devid v : CInt) : Message :=
  numberMessage route.slot route.id route.cat devid v route.row.name

/-- The setter sends the message, and the server that it goes to sets and reports the property that is kept under its
name. -/
structure Routed (route : Route) : Prop where
  mem : route.row ∈ kept
  number : route.row.isString = false
  members : ∀ v, (route.property v).members = [route.row.member]
  fits : ∀ v, (route.property v).TextFits
  called : ∀ env temp config devid pData,
    callSetter parseText env temp config ⟨route.setter, devid, pData, route.row.name⟩ = some {
      config := (config, false)
      messages := aliSetNumber route.slot route.server route.id route.cat devid
        (SetterCall.item parseText ⟨route.setter, devid, pData, route.row.name⟩) route.row.name }
  handled : ∀ devid v env config sequence,
    handleSet env config route.server { route.message devid v with sequence := sequence } =
      setAndReport route.property route.row.member env config (route.message devid v)

/-- A message under way: a number, or a plan. -/
inductive Issued : ServerType × Message → Prop
  | number {route : Route} (hroute : route ∈ routes) (devid v : CInt) :
      Issued (route.server, route.message devid v)
  | plan {msg : Message} (hcat : msg.argIn.cat = videoPropertyMotionPlan) : Issued (.video, msg)

/-- What a handler leaves: strings that fit, and reports of all that it has changed. -/
structure Handled (config config' : Memory) (reports : List Report) : Prop where
  fits : StringsFit configProfileMap config → StringsFit configProfileMap config'
  told : Told config config' reports

variable {server : ServerType} {msg temp : Message} {env : Surroundings} {sequence devid v : CInt}
  {handled : HandlerResult} {property : CInt → PropertySet} {m : ServerType × Message} {save : Bool}
  {message : PropertySet} {pData pCmd request : List Char} {result : SetterResult} {setter : Setter} {str : CStr}
  {call : SetterCall} {member : Member} {item : Option CJson}

theorem handled_refl : Handled config config [] := ⟨id, told_nil⟩

/-- A message for one property, and the report of it. -/
theorem handled_of_apply (hk : k ∈ kept) (hmembers : message.members = [k.member]) (hfits : message.TextFits)
    (happly : applyProperty env config message = some (config', save))
    (hname : report.propName = (CStr.ofChars k.name).bytes) (hvalue : k.item config' = some report.value.item) :
    Handled config config' [report] where
  fits := fun h => stringsFit_applyProperty h hfits happly
  told := told_of_apply hk hmembers hfits happly hname hvalue

theorem takeWhile_name (name : List Char) :
    ((CStr.ofChars name).bytes ++ [0#8]).takeWhile (· ≠ 0#8) = (CStr.ofChars name).bytes := by
  rw [List.takeWhile_append_of_pos fun b hb => by simpa using (CStr.ofChars name).noNul b hb]
  simp

theorem routed_of_mem : ∀ route ∈ routes, Routed route := by
  simp only [routes, List.forall_mem_cons]
  refine ⟨⟨?_, rfl, fun _ => rfl, fun _ => trivial, fun _ _ _ _ _ => rfl, fun _ _ _ _ _ => rfl⟩,
    ⟨?_, rfl, fun _ => rfl, fun _ => trivial, fun _ _ _ _ _ => rfl, fun _ _ _ _ _ => rfl⟩,
    ⟨?_, rfl, fun _ => rfl, fun _ => trivial, fun _ _ _ _ _ => rfl, fun _ _ _ _ _ => rfl⟩,
    ⟨?_, rfl, fun _ => rfl, fun _ => trivial, fun _ _ _ _ _ => rfl, fun _ _ _ _ _ => rfl⟩,
    ⟨?_, rfl, fun _ => rfl, fun _ => trivial, fun _ _ _ _ _ => rfl, fun _ _ _ _ _ => rfl⟩,
    ⟨?_, rfl, fun _ => rfl, fun _ => trivial, fun _ _ _ _ _ => rfl, fun _ _ _ _ _ => rfl⟩,
    ⟨?_, rfl, fun _ => rfl, fun _ => trivial, fun _ _ _ _ _ => rfl, fun _ _ _ _ _ => rfl⟩,
    ⟨?_, rfl, fun _ => rfl, fun _ => trivial, fun _ _ _ _ _ => rfl, fun _ _ _ _ _ => rfl⟩,
    ⟨?_, rfl, fun _ => rfl, fun _ => trivial, fun _ _ _ _ _ => rfl, fun _ _ _ _ _ => rfl⟩,
    ⟨?_, rfl, fun _ => rfl, fun _ => trivial, fun _ _ _ _ _ => rfl, fun _ _ _ _ _ => rfl⟩,
    ⟨?_, rfl, fun _ => rfl, fun _ => trivial, fun _ _ _ _ _ => rfl, fun _ _ _ _ _ => rfl⟩,
    ⟨?_, rfl, fun _ => rfl, fun _ => trivial, fun _ _ _ _ _ => rfl, fun _ _ _ _ _ => rfl⟩,
    List.forall_mem_nil _⟩ <;>
  simp only [kept, List.mem_cons, true_or, or_true]

/-- What the server of a number does. -/
theorem setAndReport_route {route : Route} : setAndReport route.property route.row.member env config (route.message devid v) =
    (applyProperty env config (route.property v)).map fun result =>
      (result, [linkkitSyncPropertyInt (route.message devid v).argIn.wolf route.row.name
        (byteOf result.1 route.row.member)]) := by
  have harg : (route.message devid v).arg = some (intBytes v) := rfl
  have hextra : (route.message devid v).extra = some ((CStr.ofChars route.row.name).bytes ++ [0#8]) := rfl
  rw [setAndReport, harg, hextra, Option.bind_some, Option.bind_some, readInt_intBytes, takeWhile_name]
  rfl

/-- A number is set, and what is kept of it is reported. -/
theorem handled_of_number {route : Route} (h : Routed route)
    (hhandled : setAndReport route.property route.row.member env config (route.message devid v) = some handled) :
    Handled config handled.1.1 handled.2 := by
  rw [setAndReport_route] at hhandled
  obtain ⟨⟨config', save⟩, happly, rfl⟩ := Option.map_eq_some_iff.mp hhandled
  refine handled_of_apply h.mem (h.members _) (h.fits _) happly rfl ?_
  rw [Kept.item, h.number]
  rfl

/-- A plan is set, or the message is not looked at. -/
theorem handled_of_plan (hcat : msg.argIn.cat = videoPropertyMotionPlan)
    (h : handleSet env config .video msg = some handled) : Handled config handled.1.1 handled.2 := by
  rw [handleSet] at h
  split_ifs at h with hdirect haudio hrecorder
  · rw [videoSetProperty, hcat, if_neg (by decide), if_neg (by decide), if_neg (by decide),
      if_neg (by decide), if_neg (by decide), if_neg (by decide), if_neg (by decide), if_pos rfl] at h
    obtain ⟨⟨config', save⟩, happly, rfl⟩ := Option.map_eq_some_iff.mp h
    have htext : (PropertySet.motionPlan msg.argIn.dog msg.argIn.chick msg.argIn.duck).TextFits := trivial
    refine ⟨fun hfits => stringsFit_applyProperty hfits htext happly, told_of_untouched htext happly ?_⟩
    have hplan : ∀ k ∈ kept, k.member ≠ .motionSchedulerEnable ∧
        ∀ day, k.member ≠ .motionSchedulerBegin day ∧ k.member ≠ .motionSchedulerEnd day := by decide
    intro k hk hmem
    obtain ⟨henable, hday⟩ := hplan k hk
    simp only [PropertySet.members, List.mem_cons, List.mem_flatMap, List.not_mem_nil, or_false] at hmem
    rcases hmem with heq | ⟨day, -, heq | heq⟩
    · exact henable heq
    · exact (hday day).1 heq
    · exact (hday day).2 heq
  · cases haudio.1
  · cases hrecorder.1
  · cases h
    exact handled_refl

theorem handled_of_issued (hissued : Issued m)
    (h : handleSet env config m.1 { m.2 with sequence := sequence } = some handled) :
    Handled config handled.1.1 handled.2 := by
  cases hissued with
  | number hroute devid v =>
    have hrouted := routed_of_mem _ hroute
    rw [hrouted.handled] at h
    exact handled_of_number hrouted h
  | plan hcat => exact handled_of_plan hcat h

/-! ### The setters -/

/-- What a setter that is called under its name sends and leaves. -/
def SetterOk (setter : Setter) (pCmd : List Char) : Prop :=
  ∀ env temp config devid pData result, CallFits ⟨setter, devid, pData, pCmd⟩ →
    callSetter parseText env temp config ⟨setter, devid, pData, pCmd⟩ = some result →
      (∀ m ∈ result.messages, Issued m) ∧ Handled config result.config.1 result.reports

theorem setterOk_number {route : Route} (hroute : route ∈ routes) : SetterOk route.setter route.row.name := by
  intro env temp config devid pData result _ h
  rw [(routed_of_mem route hroute).called] at h
  cases h
  refine ⟨fun m hm => ?_, handled_refl⟩
  have hm : m ∈ aliSetNumber route.slot route.server route.id route.cat devid
      (SetterCall.item parseText ⟨route.setter, devid, pData, route.row.name⟩) route.row.name := hm
  unfold aliSetNumber at hm
  split at hm
  case h_1 v hitem =>
    rw [List.mem_singleton.mp hm]
    exact .number hroute devid v
  case h_2 => exact absurd hm List.not_mem_nil

theorem setterOk_string (property : CStr → PropertySet) (hk : ⟨pCmd, member, true⟩ ∈ kept)
    (hmembers : ∀ str, (property str).members = [member])
    (happly : ∀ env config str, applyProperty env config (property str) = some (storeStr config member.offset str, false))
    (hsize : ∀ str, str.strlen < member.size → (property str).TextFits)
    (hcall : ∀ env temp config devid pData, callSetter parseText env temp config ⟨setter, devid, pData, pCmd⟩ =
      aliSetString property env config devid (SetterCall.item parseText ⟨setter, devid, pData, pCmd⟩) pCmd)
    (hfits : ∀ devid pData, CallFits ⟨setter, devid, pData, pCmd⟩ → ∀ str,
      SetterCall.item parseText ⟨setter, devid, pData, pCmd⟩ = some (.string str) → str.strlen < member.size) :
    SetterOk setter pCmd := by
  intro env temp config devid pData result hcallFits h
  rw [hcall] at h
  unfold aliSetString at h
  split at h
  case h_1 str hitem =>
    have hlt : str.strlen < member.size := hfits devid pData hcallFits str hitem
    rw [happly, Option.map_some] at h
    cases h
    refine ⟨List.forall_mem_nil _, handled_of_apply hk (hmembers str) (hsize str hlt) (happly env config str) rfl ?_⟩
    rw [Kept.item, if_pos rfl, loadStr_storeStr hlt]
    rfl
  case h_2 =>
    cases h
    exact ⟨List.forall_mem_nil _, handled_refl⟩

/-- A byte is kept as it is. -/
theorem byteOf_setByte (hlo : 0 ≤ v.toInt) (hhi : v.toInt ≤ 255) :
    byteOf (setByte config member v).1 member = v := by
  unfold setByte
  split_ifs with hne
  · have hread : readNumber .cfgU8 (writeNumber .cfgU8 config member.offset v) member.offset = v :=
      readNumber_writeNumber (by decide) hlo hhi
    exact hread
  · exact not_not.mp hne

theorem setterOk_statusLight : SetterOk .statusLightSwitch "StatusLightSwitch".toList := by
  have hk : ⟨"StatusLightSwitch".toList, .ledEnable, false⟩ ∈ kept := by
    simp only [kept, List.mem_cons, true_or, or_true]
  intro env temp config devid pData result hfits h
  have hcall : callSetter parseText env temp config ⟨.statusLightSwitch, devid, pData, "StatusLightSwitch".toList⟩ =
      aliSetStatusLightSwitch env config devid
        (SetterCall.item parseText ⟨.statusLightSwitch, devid, pData, "StatusLightSwitch".toList⟩)
        "StatusLightSwitch".toList := rfl
  rw [hcall] at h
  unfold aliSetStatusLightSwitch at h
  split at h
  case h_1 v hitem =>
    obtain ⟨hlo, hhi⟩ := hfits.1 rfl v hitem
    obtain ⟨⟨config', save⟩, happly, rfl⟩ := Option.map_eq_some_iff.mp h
    have htext : (PropertySet.byte .statusLightSwitch v).TextFits := trivial
    refine ⟨List.forall_mem_nil _, handled_of_apply hk rfl htext happly rfl ?_⟩
    have hset : (setByte config .ledEnable v).1 = config' := congrArg Prod.fst (Option.some.inj happly)
    have hbyte : byteOf config' .ledEnable = v := hset ▸ byteOf_setByte hlo hhi
    rw [Kept.item, if_neg (by simp), hbyte]
    rfl
  case h_2 =>
    cases h
    exact ⟨List.forall_mem_nil _, handled_refl⟩

theorem setterOk_timeZone : SetterOk .deviceTimeZone "DeviceTimeZone".toList := by
  have hk : ⟨"DeviceTimeZone".toList, .timeZone, false⟩ ∈ kept := by
    simp only [kept, List.mem_cons, true_or, or_true]
  intro env temp config devid pData result _ h
  have hcall : callSetter parseText env temp config ⟨.deviceTimeZone, devid, pData, "DeviceTimeZone".toList⟩ =
      aliSetDeviceTimeZone env config devid
        (SetterCall.item parseText ⟨.deviceTimeZone, devid, pData, "DeviceTimeZone".toList⟩)
        "DeviceTimeZone".toList := rfl
  rw [hcall] at h
  unfold aliSetDeviceTimeZone at h
  split at h
  case h_1 zone hitem =>
    obtain ⟨⟨config', save⟩, happly, rfl⟩ := Option.map_eq_some_iff.mp h
    have htext : (PropertySet.deviceTimeZone zone).TextFits := trivial
    exact ⟨List.forall_mem_nil _, handled_of_apply hk rfl htext happly rfl rfl⟩
  case h_2 =>
    cases h
    exact ⟨List.forall_mem_nil _, handled_refl⟩

theorem setterOk_debugCmd : SetterOk .debugCmd pCmd := by
  intro env temp config devid pData result _ h
  cases h
  exact ⟨List.forall_mem_nil _, handled_refl⟩

theorem setterOk_plan : SetterOk .alarmNotifyPlan pCmd := by
  intro env temp config devid pData result _ h
  obtain ⟨msgs, hmsgs, rfl⟩ := Option.map_eq_some_iff.mp h
  refine ⟨fun m hm => ?_, handled_refl⟩
  obtain ⟨msg, hmsg, rfl⟩ := List.mem_map.mp hm
  exact .plan (cat_of_alarmNotifyPlan hmsgs msg hmsg)

/-- All setters are called under their names. -/
theorem setterOk_of_mem : ∀ cmd ∈ gAliCmdMap, ∀ setter, cmd.pSetCb = some setter → SetterOk setter cmd.strCmd := by
  have hsome : ∀ {a : Setter} {pCmd}, SetterOk a pCmd → ∀ setter, some a = some setter → SetterOk setter pCmd := by
    rintro a pCmd h setter heq
    rwa [← Option.some.inj heq]
  have hnone : ∀ {pCmd} setter, (none : Option Setter) = some setter → SetterOk setter pCmd := by
    intro pCmd setter h
    cases h
  have hroutes : ∀ route ∈ routes, SetterOk route.setter route.row.name := fun _ h => setterOk_number h
  simp only [routes, List.forall_mem_cons] at hroutes
  obtain ⟨quality, subquality, motionSwitch, sensitivity, interval, flip, night, time, wdr, speaker, record, correct,
    -⟩ := hroutes
  simp only [gAliCmdMap, List.forall_mem_cons]
  refine ⟨hsome quality, hsome subquality, hsome motionSwitch, hsome sensitivity, hsome interval, hsome flip,
    hsome (setterOk_string .ipcVersion ?_ (fun _ => rfl) (fun _ _ _ => rfl) (fun _ h => h) (fun _ _ _ _ _ => rfl)
      fun _ _ h => h.2.1 rfl),
    hsome setterOk_debugCmd, hsome night, hsome setterOk_plan, hsome time, hsome wdr, hnone, hsome speaker, hnone,
    hnone, hnone, hsome setterOk_statusLight, hsome record, hsome correct,
    hsome (setterOk_string .deviceName ?_ (fun _ => rfl) (fun _ _ _ => rfl) (fun _ h => h) (fun _ _ _ _ _ => rfl)
      fun _ _ h => h.2.2 rfl),
    hsome setterOk_timeZone, List.forall_mem_nil _⟩ <;>
  simp only [kept, List.mem_cons, true_or, or_true]

/-- A call is one of the table, under its name. -/
theorem exists_cmd_of_call {calls : List SetterCall} (hcalls : userPropertySetHandler devid request = some calls)
    (hmem : call ∈ calls) : ∃ cmd ∈ gAliCmdMap, ∃ setter, cmd.pSetCb = some setter ∧
      call = ⟨setter, devid, request, cmd.strCmd⟩ := by
  rcases handler_cases hcalls with ⟨rfl, -⟩ | ⟨before, cmd, after, setter, hsplit, -, -, hsetter, rfl⟩
  · exact absurd hmem List.not_mem_nil
  · exact ⟨cmd, hsplit ▸ List.mem_append_right before List.mem_cons_self, setter, hsetter, List.mem_singleton.mp hmem⟩

theorem setterOk_of_call {calls : List SetterCall} (h : userPropertySetHandler devid request = some calls) :
    ∀ call ∈ calls, SetterOk call.setter call.pCmd := by
  intro call hcall
  obtain ⟨cmd, hcmd, setter, hsetter, rfl⟩ := exists_cmd_of_call h hcall
  exact setterOk_of_mem cmd hcmd setter hsetter

/-! ### Steps -/

/-- The file can be read and the strings fit, the messages under way are those of setters, and the cloud knows the
properties as they are while the device is connected. -/
structure Sound (s : CloudState) : Prop where
  file : StringItemsFit configProfileMap (loadJson parseText s.device.file)
  fits : StringsFit configProfileMap s.device.config
  issued : ∀ m ∈ s.pending, Issued m
  agrees : s.connected = true → Agrees s.device.config s.view

variable {s s' : CloudState} {device : State} {o : WriteOutcome} {pending : List (ServerType × Message)}
  {a : CloudAction} {i : ℕ} {devinfo : Option CStr}

theorem keep_spec (hfile : StringItemsFit configProfileMap (loadJson parseText device.file))
    (hfits : StringsFit configProfileMap config') {device' : State} (h : keep o device (config', save) = some device') :
    device'.config = config' ∧ StringItemsFit configProfileMap (loadJson parseText device'.file) := by
  unfold keep at h
  split_ifs at h
  · obtain ⟨⟨ret, saved, file⟩, hset, rfl⟩ := Option.map_eq_some_iff.mp h
    exact ⟨rfl, stringItemsFit_of_set hfile hfits hset⟩
  · cases h
    exact ⟨rfl, hfile⟩

/-- What a setter or a server has done is kept and reported. -/
theorem Sound.afterHandled (h : Sound s) {device' : State} {result : Memory × Bool}
    (hhandled : Handled s.device.config result.1 reports) (hkeep : keep o s.device result = some device')
    (hissued : ∀ m ∈ pending, Issued m) :
    Sound ({ s with device := device', pending := pending }.post (reports.map Report.text)) := by
  have hfits : StringsFit configProfileMap result.1 := hhandled.fits h.fits
  obtain ⟨hconfig, hfile⟩ := keep_spec h.file hfits hkeep
  have hfits' : StringsFit configProfileMap device'.config := hconfig ▸ hfits
  unfold CloudState.post
  split_ifs with hconnected
  · refine ⟨hfile, hfits', hissued, fun _ => ?_⟩
    have htold : Told s.device.config device'.config reports := hconfig ▸ hhandled.told
    exact agrees_of_told (h.agrees hconnected) hfits' htold
  · exact ⟨hfile, hfits', hissued, fun hfalse => absurd hfalse hconnected⟩

theorem Sound.afterCall (h : Sound s) (hok : SetterOk call.setter call.pCmd) (hfits : CallFits call)
    (hstep : callStep env temp s call = some s') : Sound s' := by
  obtain ⟨result, hresult, hstep⟩ := Option.bind_eq_some_iff.mp hstep
  obtain ⟨device', hkeep, rfl⟩ := Option.map_eq_some_iff.mp hstep
  obtain ⟨hissued, hhandled⟩ := hok env temp s.device.config call.devid call.pData result hfits hresult
  refine h.afterHandled hhandled hkeep fun m hm => ?_
  rcases List.mem_append.mp hm with hm | hm
  · exact h.issued m hm
  · exact hissued m hm

theorem Sound.afterCalls {calls : List SetterCall} (h : Sound s) (hok : ∀ call ∈ calls, SetterOk call.setter call.pCmd)
    (hfits : ∀ call ∈ calls, CallFits call) (hstep : calls.foldlM (callStep env temp) s = some s') : Sound s' := by
  induction calls generalizing s with
  | nil =>
    cases hstep
    exact h
  | cons call later ih =>
    obtain ⟨hokHere, hokLater⟩ := List.forall_mem_cons.mp hok
    obtain ⟨hfitsHere, hfitsLater⟩ := List.forall_mem_cons.mp hfits
    rw [List.foldlM_cons] at hstep
    obtain ⟨s₁, hcall, hlater⟩ := Option.bind_eq_some_iff.mp hstep
    exact ih (h.afterCall hokHere hfitsHere hcall) hokLater hfitsLater hlater

theorem ofOutput_bytes : ofOutput str.bytes = str := by
  obtain ⟨bytes, hbytes⟩ := str
  have htake : bytes.takeWhile (· ≠ 0#8) = bytes :=
    List.takeWhile_eq_self_iff.mpr fun b hb => by simpa using hbytes b hb
  simp only [ofOutput, CStr.mk.injEq]
  exact htake

/-- The text of the card tells no property that is kept. -/
theorem observe_sdInfo (hk : k ∈ kept) : observe view (ofOutput (aliyunReportSdInfo r)) k.name = view k.name := by
  have hchild : ∀ item ∈ sdInfoChild r, item.1 ∈ others ∧ Nested 0 item.2 := by
    have hrows : ∀ v w x, ∀ item ∈ [("StorageStatus".toList, CJson.number v),
        ("StorageTotalCapacity".toList, .number w), ("StorageRemainCapacity".toList, .number x)],
          item.1 ∈ others ∧ Nested 0 item.2 := by
      intro v w x
      simp only [List.forall_mem_cons]
      refine ⟨⟨?_, trivial⟩, ⟨?_, trivial⟩, ⟨?_, trivial⟩, List.forall_mem_nil _⟩ <;>
        simp only [others, List.mem_cons, true_or, or_true]
    have hstatus : ∀ v, ∀ item ∈ [("StorageStatus".toList, CJson.number v)], item.1 ∈ others ∧ Nested 0 item.2 :=
      fun v item hitem => hrows v 0#32 0#32 item (List.mem_cons.mpr (.inl (List.mem_singleton.mp hitem)))
    unfold sdInfoChild
    split_ifs
    · rcases sdGetInfo r.sd r.statFS with _ | ⟨totalBytes, freeBytes⟩
      · exact hstatus _
      · exact hrows _ _ _
    · exact hstatus _
  have hnested : Nested cjsonNestingLimit (.object (sdInfoChild r)) := by
    intro item hitem
    obtain ⟨hother, hitem⟩ := hchild item hitem
    exact ⟨char_of_mem_names (other_of_mem _ hother).1, nested_of_scalar hitem⟩
  have hstored : CJson.stored k.name (sdInfoChild r) = none := by
    refine Option.map_eq_none_iff.mpr (List.find?_eq_none.mpr fun item hitem => ?_)
    simpa using (other_of_mem _ (hchild item hitem).1).2 k hk
  rw [aliyunReportSdInfo_eq, ofOutput_bytes, observe_print hnested, hstored]
  rfl

/-- After the setup the file can be read and the strings fit. -/
theorem aliyunGetUuid_spec (hfile : StringItemsFit configProfileMap (loadJson parseText device.file))
    (hfits : StringsFit configProfileMap device.config) {device' : State}
    (h : aliyunGetUuid devinfo o device = some device') :
    StringItemsFit configProfileMap (loadJson parseText device'.file) ∧ StringsFit configProfileMap device'.config := by
  unfold aliyunGetUuid at h
  split at h
  · cases h
    exact ⟨hfile, hfits⟩
  · rename_i acDeviceName
    simp only at h
    split_ifs at h
    · cases h
      exact ⟨hfile, hfits⟩
    · have hlength : (cut acDeviceName 31).strlen < Member.deviceName.size := by
        have htake : ((cut acDeviceName 31).bytes).length ≤ 31 := List.length_take_le _ _
        exact Nat.lt_succ_of_le htake
      have hstored : StringsFit configProfileMap
          (storeStr device.config Member.deviceName.offset (cut acDeviceName 31)) :=
        @stringsFit_applyProperty _ _ (quiet 0) (.deviceName (cut acDeviceName 31)) false hfits hlength rfl
      obtain ⟨hconfig, hfile'⟩ := keep_spec hfile hstored h
      exact ⟨hfile', hconfig ▸ hstored⟩

/-- A step whose requests fit keeps everything as it should be. -/
theorem Sound.step (h : Sound s) (ha : Fitting s a) (hstep : s.step a = some s') : Sound s' := by
  cases a with
  | connect r =>
    obtain ⟨child, hchild, rfl⟩ := Option.map_eq_some_iff.mp hstep
    exact ⟨h.file, h.fits, h.issued, fun _ => agrees_of_report hchild⟩
  | disconnect =>
    cases hstep
    exact ⟨h.file, h.fits, h.issued, fun hfalse => absurd hfalse Bool.false_ne_true⟩
  | set devid request env temp =>
    simp only [CloudState.step] at hstep
    split_ifs at hstep
    obtain ⟨calls, hcalls, hstep⟩ := Option.bind_eq_some_iff.mp hstep
    exact h.afterCalls (setterOk_of_call hcalls) (ha calls hcalls) hstep
  | get devid request r =>
    simp only [CloudState.step] at hstep
    split_ifs at hstep
    obtain ⟨reports, hreports, rfl⟩ := Option.map_eq_some_iff.mp hstep
    have htold : Handled s.device.config (s.device.config, false).1 reports :=
      ⟨id, truthful_of_getHandler hreports, fun _ _ => .inl rfl⟩
    have hkeep : keep ⟨true, 0⟩ s.device (s.device.config, false) = some s.device := rfl
    exact h.afterHandled htold hkeep h.issued
  | handle i sequence env =>
    obtain ⟨m, hm, hstep⟩ := Option.bind_eq_some_iff.mp hstep
    obtain ⟨handled, hhandled, hstep⟩ := Option.bind_eq_some_iff.mp hstep
    obtain ⟨device', hkeep, rfl⟩ := Option.map_eq_some_iff.mp hstep
    have hissued : Issued m := h.issued m (List.mem_of_getElem? hm)
    exact h.afterHandled (handled_of_issued hissued hhandled) hkeep fun m hm =>
      h.issued m (List.mem_of_mem_eraseIdx hm)
  | lose i =>
    cases hstep
    exact ⟨h.file, h.fits, fun m hm => h.issued m (List.mem_of_mem_eraseIdx hm), h.agrees⟩
  | reportSd r =>
    cases hstep
    unfold CloudState.post
    split_ifs with hconnected
    · refine ⟨h.file, h.fits, h.issued, fun _ k hk => ?_⟩
      have hview : observe s.view (ofOutput (aliyunReportSdInfo r)) k.name = s.view k.name := observe_sdInfo hk
      exact ⟨(h.agrees hconnected k hk).1, hview.trans (h.agrees hconnected k hk).2⟩
    · exact h
  | setup devinfo o =>
    simp only [CloudState.step] at hstep
    split_ifs at hstep with hconnected
    obtain ⟨device', hdevice, rfl⟩ := Option.map_eq_some_iff.mp hstep
    obtain ⟨hfile, hfits⟩ := aliyunGetUuid_spec h.file h.fits hdevice
    exact ⟨hfile, hfits, h.issued, fun htrue => absurd htrue hconnected⟩
  | restart =>
    obtain ⟨device', hboot, rfl⟩ := Option.map_eq_some_iff.mp hstep
    obtain ⟨s₀, hboot₀, hok⟩ := exists_boot h.file
    have hsame : s₀ = device' := Option.some.inj (hboot₀.symm.trans hboot)
    subst hsame
    obtain ⟨configs, -, rfl⟩ := Option.map_eq_some_iff.mp hboot
    exact ⟨h.file, hok.inBounds.stringsFit, List.forall_mem_nil _, fun hfalse => absurd hfalse Bool.false_ne_true⟩

/-! ### Requests that do not fit -/

/-- A text that runs over its member. -/
theorem item_of_long (hlong : member.size ≤ str.strlen) :
    (⟨name, member, true⟩ : Kept).item (storeStr config member.offset str) = none := by
  rw [Kept.item, if_pos rfl, loadStr_storeStr_eq, if_neg (Nat.not_lt.mpr hlong)]
  rfl

theorem byteOf_bounds : 0 ≤ (byteOf config member).toInt ∧ (byteOf config member).toInt ≤ 255 := by
  have hlt : leValue (load config member.offset 1) < 256 := by
    simp only [load, leValue, List.range_one, List.map_singleton]
    omega
  have hread : byteOf config member = BitVec.ofNat 32 (leValue (load config member.offset 1)) := rfl
  have htoNat : (byteOf config member).toNat = leValue (load config member.offset 1) := by
    rw [hread, BitVec.toNat_ofNat, Nat.mod_eq_of_lt (by omega)]
  rw [BitVec.toInt_eq_toNat_of_lt (by omega), htoNat]
  omega

/-- A light that is not switched to a byte is reported as it is not. -/
theorem not_agrees_of_light (hconnected : s.connected = true)
    (hitem : SetterCall.item parseText ⟨.statusLightSwitch, devid, pData, "StatusLightSwitch".toList⟩ =
      some (.number v)) (hv : ¬ (0 ≤ v.toInt ∧ v.toInt ≤ 255))
    (hstep : callStep env temp s ⟨.statusLightSwitch, devid, pData, "StatusLightSwitch".toList⟩ = some s') :
    ¬ Agrees s'.device.config s'.view := by
  have hk : ⟨"StatusLightSwitch".toList, .ledEnable, false⟩ ∈ kept := by
    simp only [kept, List.mem_cons, true_or, or_true]
  obtain ⟨result, hresult, hstep⟩ := Option.bind_eq_some_iff.mp hstep
  obtain ⟨device', -, rfl⟩ := Option.map_eq_some_iff.mp hstep
  have hcall : callSetter parseText env temp s.device.config
      ⟨.statusLightSwitch, devid, pData, "StatusLightSwitch".toList⟩ =
      aliSetStatusLightSwitch env s.device.config devid (some (.number v)) "StatusLightSwitch".toList :=
    congrArg (aliSetStatusLightSwitch env s.device.config devid · "StatusLightSwitch".toList) hitem
  have hset : aliSetStatusLightSwitch env s.device.config devid (some (.number v)) "StatusLightSwitch".toList =
      (applyProperty env s.device.config (.byte .statusLightSwitch v)).map fun result =>
        { config := result, reports := [linkkitSyncPropertyInt devid "StatusLightSwitch".toList v] } := rfl
  rw [hcall, hset] at hresult
  obtain ⟨applied, -, rfl⟩ := Option.map_eq_some_iff.mp hresult
  intro hagrees
  have hview := (hagrees _ hk).2
  rw [CloudState.post, if_pos hconnected] at hview
  simp only [List.map_cons, List.map_nil, List.foldl_cons, List.foldl_nil] at hview
  have hname : (linkkitSyncPropertyInt devid "StatusLightSwitch".toList v).name = "StatusLightSwitch".toList :=
    name_of_propName (name_of_mem_kept hk) rfl
  have hobserve : observe s.view (linkkitSyncPropertyInt devid "StatusLightSwitch".toList v).text
      "StatusLightSwitch".toList = some (.number v) := by
    rw [observe_report (by rw [hname]; exact name_of_mem_kept hk), if_pos hname.symm]
    rfl
  rw [hobserve, Kept.item, if_neg Bool.false_ne_true] at hview
  have hbyte : v = byteOf device'.config .ledEnable := by simpa using hview
  exact hv (hbyte ▸ byteOf_bounds)

/-- A text that runs over its member is not reported as the text of the member. -/
theorem not_agrees_of_text {property : CStr → PropertySet} (hk : ⟨name, member, true⟩ ∈ kept)
    (happly : ∀ env config str, applyProperty env config (property str) = some (storeStr config member.offset str, false))
    (hcall : ∀ env temp config, callSetter parseText env temp config call =
      aliSetString property env config call.devid (call.item parseText) call.pCmd)
    (hitem : call.item parseText = some (.string str)) (hlong : member.size ≤ str.strlen)
    (hstep : callStep env temp s call = some s') : ¬ Agrees s'.device.config s'.view := by
  obtain ⟨result, hresult, hstep⟩ := Option.bind_eq_some_iff.mp hstep
  obtain ⟨device', hkeep, rfl⟩ := Option.map_eq_some_iff.mp hstep
  have hset : aliSetString property env s.device.config call.devid (some (.string str)) call.pCmd =
      (applyProperty env s.device.config (property str)).map fun result =>
        { config := result, reports := [⟨call.devid, (CStr.ofChars call.pCmd).bytes, .string str⟩] } := rfl
  rw [hcall, hitem, hset, happly, Option.map_some] at hresult
  cases hresult
  have hconfig : device'.config = storeStr s.device.config member.offset str := by
    cases hkeep
    rfl
  intro hagrees
  have hsome := (hagrees _ hk).1
  have hdevice : ∀ t : CloudState, (t.post ([⟨call.devid, (CStr.ofChars call.pCmd).bytes, .string str⟩].map
      Report.text)).device = t.device := by
    intro t
    unfold CloudState.post
    split_ifs <;> rfl
  rw [hdevice, hconfig, item_of_long hlong] at hsome
  cases hsome

/-- After a call that does not fit, the cloud and the device differ. -/
theorem not_agrees_of_call {calls : List SetterCall} (hconnected : s.connected = true)
    (hcalls : userPropertySetHandler devid request = some calls) (hmem : call ∈ calls) (hfits : ¬ CallFits call)
    (hstep : callStep env temp s call = some s') : ¬ Agrees s'.device.config s'.view := by
  obtain ⟨cmd, hcmd, setter, hsetter, rfl⟩ := exists_cmd_of_call hcalls hmem
  have hrow : ∀ {name setter'}, (⟨name, some setter'⟩ : AliCmd) ∈ gAliCmdMap → setter = setter' →
      cmd = ⟨name, some setter'⟩ := fun hrow heq => eq_of_setter hcmd hrow (hsetter.trans (congrArg some heq)) rfl
  simp only [CallFits, not_and_or, not_forall, exists_prop] at hfits
  rcases hfits with ⟨heq, v, hitem, hv⟩ | ⟨heq, str, hitem, hlong⟩ | ⟨heq, str, hitem, hlong⟩
  · have hin : (⟨"StatusLightSwitch".toList, some .statusLightSwitch⟩ : AliCmd) ∈ gAliCmdMap := by
      simp only [gAliCmdMap, List.mem_cons, true_or, or_true]
    obtain rfl := hrow hin heq
    subst heq
    exact not_agrees_of_light hconnected hitem (by rwa [not_and_or]) hstep
  · have hin : (⟨"IpcVersion".toList, some .ipcVersion⟩ : AliCmd) ∈ gAliCmdMap := by
      simp only [gAliCmdMap, List.mem_cons, true_or, or_true]
    obtain rfl := hrow hin heq
    subst heq
    have hk : ⟨"IpcVersion".toList, .ipcVersion, true⟩ ∈ kept := by simp only [kept, List.mem_cons, true_or, or_true]
    exact not_agrees_of_text hk (fun _ _ _ => rfl) (fun _ _ _ => rfl) hitem (Nat.not_lt.mp hlong) hstep
  · have hin : (⟨"DeviceName".toList, some .deviceName⟩ : AliCmd) ∈ gAliCmdMap := by
      simp only [gAliCmdMap, List.mem_cons, true_or, or_true]
    obtain rfl := hrow hin heq
    subst heq
    have hk : ⟨"DeviceName".toList, .deviceName, true⟩ ∈ kept := by simp only [kept, List.mem_cons, true_or, or_true]
    exact not_agrees_of_text hk (fun _ _ _ => rfl) (fun _ _ _ => rfl) hitem (Nat.not_lt.mp hlong) hstep

theorem connected_of_call (hstep : callStep env temp s call = some s') : s'.connected = s.connected := by
  obtain ⟨result, -, hstep⟩ := Option.bind_eq_some_iff.mp hstep
  obtain ⟨device', -, rfl⟩ := Option.map_eq_some_iff.mp hstep
  unfold CloudState.post
  split_ifs <;> rfl

/-- A step leaves the cloud and the device in agreement iff its request fits. -/
theorem agrees_step_iff (h : Sound s) (hstep : s.step a = some s') :
    (s'.connected = true → Agrees s'.device.config s'.view) ↔ Fitting s a := by
  refine ⟨fun hagrees => ?_, fun ha => (h.step ha hstep).agrees⟩
  cases a with
  | set devid request env temp =>
    intro calls hcalls call hmem
    by_contra hfits
    simp only [CloudState.step, hcalls, Option.bind_some] at hstep
    split_ifs at hstep with hclosed
    have hconnected : s.connected = true := by simpa using hclosed
    obtain rfl : calls = [call] := by
      have hone := length_calls_le_one hcalls
      rcases calls with _ | ⟨first, _ | ⟨second, later⟩⟩
      · exact absurd hmem List.not_mem_nil
      · rw [List.mem_singleton.mp hmem]
      · simp at hone
    rw [List.foldlM_cons] at hstep
    obtain ⟨s₁, hcall, hnil⟩ := Option.bind_eq_some_iff.mp hstep
    cases hnil
    exact not_agrees_of_call hconnected hcalls hmem hfits hcall
      (hagrees ((connected_of_call hcall).trans hconnected))
  | connect | disconnect | get | handle | lose | reportSd | setup | restart => trivial

/-! ### Runs -/

/-- The device is started. -/
def CloudState.started (device : State) (view : View) : CloudState := ⟨device, [], false, view⟩

theorem sound_started {file : Option (List Char)} (hfile : StringItemsFit configProfileMap (loadJson parseText file))
    (hboot : boot parseText file = some device) : Sound (.started device view) := by
  obtain ⟨s₀, hboot₀, hok⟩ := exists_boot hfile
  have hsame : s₀ = device := Option.some.inj (hboot₀.symm.trans hboot)
  subst hsame
  obtain ⟨configs, -, rfl⟩ := Option.map_eq_some_iff.mp hboot
  exact ⟨hfile, hok.inBounds.stringsFit, List.forall_mem_nil _, fun hfalse => absurd hfalse Bool.false_ne_true⟩

end GokeWebcam.Server.Property
