import GokeWebcam.Lib.CString
import GokeWebcam.Common.CJson

/-!
# Properties set by the cloud

`user_property_set_handler` of `server/aliyun/linkkit_client.c` is called with the text of a request,
a JSON object whose keys are properties. It calls the setter of the first name of `gAliCmdMap` that
stands anywhere in the text, and returns; the setter parses the text and looks its own name up.

`parse` is `cJSON_Parse`. A call through a null function pointer has no result.

* `dispatched_iff`: every key with a setter is set, and nothing else, iff there is one such key, its
  name is the first of the table to stand in the text, and no key differs from it only in case.
* `subStream_shadowed`: the setter of `SubStreamVideoQuality` is never called.
-/

namespace GokeWebcam.Server.Aliyun

open Lib Common

/-! ### The table -/

/-- The functions `Ali_Set*`.
Source: `server/aliyun/linkkit_client.c` -/
inductive Setter
  | streamVideoQuality | subStreamVideoQuality | alarmSwitch | motionDetectSensitivity
  | alarmFrequencyLevel | imageFlipState | ipcVersion | debugCmd | dayNightMode | alarmNotifyPlan
  | timeDisplay | wdrSupport | speakerSwitch | statusLightSwitch | storageRecordMode | imageCorrect
  | deviceName | deviceTimeZone
  deriving DecidableEq, Repr

/-- Source: `server/aliyun/linkkit_client.h` `stAliCmd` -/
structure AliCmd where
  strCmd : List Char
  pSetCb : Option Setter
  deriving DecidableEq, Repr

/-- Source: `server/aliyun/linkkit_client.c` `gAliCmdMap` -/
def gAliCmdMap : List AliCmd :=
  [⟨"StreamVideoQuality".toList, some .streamVideoQuality⟩,
    ⟨"SubStreamVideoQuality".toList, some .subStreamVideoQuality⟩,
    ⟨"AlarmSwitch".toList, some .alarmSwitch⟩,
    ⟨"MotionDetectSensitivity".toList, some .motionDetectSensitivity⟩,
    ⟨"AlarmFrequencyLevel".toList, some .alarmFrequencyLevel⟩,
    ⟨"ImageFlipState".toList, some .imageFlipState⟩,
    ⟨"IpcVersion".toList, some .ipcVersion⟩,
    ⟨"DebugCmd".toList, some .debugCmd⟩,
    ⟨"DayNightMode".toList, some .dayNightMode⟩,
    ⟨"AlarmNotifyPlan".toList, some .alarmNotifyPlan⟩,
    ⟨"TimeDisplay".toList, some .timeDisplay⟩,
    ⟨"WdrSupport".toList, some .wdrSupport⟩,
    ⟨"WiFiRSSI".toList, none⟩,
    ⟨"SpeakerSwitch".toList, some .speakerSwitch⟩,
    ⟨"StorageStatus".toList, none⟩,
    ⟨"StorageTotalCapacity".toList, none⟩,
    ⟨"StorageRemainCapacity".toList, none⟩,
    ⟨"StatusLightSwitch".toList, some .statusLightSwitch⟩,
    ⟨"StorageRecordMode".toList, some .storageRecordMode⟩,
    ⟨"ImageCorrect".toList, some .imageCorrect⟩,
    ⟨"DeviceName".toList, some .deviceName⟩,
    ⟨"DeviceTimeZone".toList, some .deviceTimeZone⟩]

/-! ### The handler -/

/-- A call `pSetCb(devid, pData, pCmd)`. -/
structure SetterCall where
  setter : Setter
  devid : CInt
  pData : List Char
  pCmd : List Char
  deriving DecidableEq, Repr

/-- Source: `server/aliyun/linkkit_client.c` `user_property_set_handler` -/
def userPropertySetHandler (devid : CInt) (request : List Char) : Option (List SetterCall) :=
  match gAliCmdMap.find? fun cmd => occurs request cmd.strCmd with
  | none => some []
  | some cmd => cmd.pSetCb.map fun setter => [⟨setter, devid, request, cmd.strCmd⟩]

/-- The item a setter works on.
Source: `server/aliyun/linkkit_client.c` `Ali_Set*`, `item` -/
def SetterCall.item (parse : List Char → Option CJson) (call : SetterCall) : Option CJson :=
  (parse call.pData).bind (CJson.getObjectItem call.pCmd)

/-- Every key that is a name with a setter is set once, to its value, and no other name is. -/
structure Dispatched (parse : List Char → Option CJson) (child : List (List Char × CJson))
    (calls : List SetterCall) : Prop where
  called : ∀ cmd ∈ gAliCmdMap, ∀ setter, cmd.pSetCb = some setter →
    ∀ value, CJson.stored cmd.strCmd child = some value →
      (calls.filter fun call => call.setter = setter).map (·.item parse) = [some value]
  named : ∀ call ∈ calls, call.pCmd ∈ CJson.keys child

/-- A key of the request that is a name with a setter. -/
def Settable (child : List (List Char × CJson)) (cmd : AliCmd) : Prop :=
  cmd.pSetCb.isSome = true ∧ cmd.strCmd ∈ CJson.keys child

/-- No name of the table stands in the text and no key has a setter; or there is one such key, its
name is the first of the table to stand in the text, and no key before it differs only in case. -/
def Unambiguous (request : List Char) (child : List (List Char × CJson)) : Prop :=
  ((∀ cmd ∈ gAliCmdMap, occurs request cmd.strCmd = false) ∧
      ∀ cmd ∈ gAliCmdMap, ¬ Settable child cmd) ∨
    ∃ before cmd after, gAliCmdMap = before ++ cmd :: after ∧
      (∀ c ∈ before, occurs request c.strCmd = false) ∧ occurs request cmd.strCmd = true ∧
      Settable child cmd ∧ (∀ c ∈ gAliCmdMap, Settable child c → c = cmd) ∧
      CJson.getObjectItem cmd.strCmd (.object child) = CJson.stored cmd.strCmd child

variable {parse : List Char → Option CJson} {devid : CInt} {request : List Char}
  {child : List (List Char × CJson)} {calls : List SetterCall} {cmd c : AliCmd} {setter : Setter}

/-! ### What is called -/

/-- No setter stands twice in the table. -/
theorem eq_of_setter (hc : c ∈ gAliCmdMap) (hcmd : cmd ∈ gAliCmdMap) (h : c.pSetCb = some setter)
    (h' : cmd.pSetCb = some setter) : c = cmd := by
  have hdiffer : ∀ c ∈ gAliCmdMap, ∀ d ∈ gAliCmdMap, c.pSetCb.isSome = true →
      c.pSetCb = d.pSetCb → c = d := by decide
  exact hdiffer c hc cmd hcmd (by rw [h]; rfl) (h.trans h'.symm)

/-- Nothing is called, or the setter of the first name that stands in the text. -/
theorem handler_cases (h : userPropertySetHandler devid request = some calls) :
    (calls = [] ∧ ∀ cmd ∈ gAliCmdMap, occurs request cmd.strCmd = false) ∨
      ∃ before cmd after setter, gAliCmdMap = before ++ cmd :: after ∧
        (∀ c ∈ before, occurs request c.strCmd = false) ∧ occurs request cmd.strCmd = true ∧
        cmd.pSetCb = some setter ∧ calls = [⟨setter, devid, request, cmd.strCmd⟩] := by
  rw [userPropertySetHandler] at h
  split at h
  case h_1 hnone =>
    cases h
    exact .inl ⟨rfl, fun cmd hcmd => Bool.eq_false_iff.mpr (List.find?_eq_none.mp hnone cmd hcmd)⟩
  case h_2 cmd hfound =>
    obtain ⟨hoccurs, before, after, hsplit, hbefore⟩ := List.find?_eq_some_iff_append.mp hfound
    obtain ⟨setter, hsetter, rfl⟩ := Option.map_eq_some_iff.mp h
    refine .inr ⟨before, cmd, after, setter, hsplit, fun c hc => ?_, hoccurs, hsetter, rfl⟩
    simpa using hbefore c hc

/-- The setter of the first name that stands in the text is called. -/
theorem handler_of_first {before after : List AliCmd} (hsplit : gAliCmdMap = before ++ cmd :: after)
    (hbefore : ∀ c ∈ before, occurs request c.strCmd = false)
    (hoccurs : occurs request cmd.strCmd = true) (hsetter : cmd.pSetCb = some setter) :
    userPropertySetHandler devid request = some [⟨setter, devid, request, cmd.strCmd⟩] := by
  have hfound : gAliCmdMap.find? (fun cmd => occurs request cmd.strCmd) = some cmd := by
    refine List.find?_eq_some_iff_append.mpr ⟨hoccurs, before, after, hsplit, fun c hc => ?_⟩
    rw [hbefore c hc]
    rfl
  rw [userPropertySetHandler, hfound]
  dsimp only
  rw [hsetter]
  rfl

/-- At most one setter is called. -/
theorem length_calls_le_one (h : userPropertySetHandler devid request = some calls) :
    calls.length ≤ 1 := by
  rcases handler_cases h with ⟨rfl, -⟩ | ⟨-, -, -, -, -, -, -, -, rfl⟩
  · exact Nat.zero_le 1
  · exact le_rfl

/-- A text in which `SubStreamVideoQuality` stands is one for `StreamVideoQuality`. -/
theorem subStream_shadowed (h : userPropertySetHandler devid request = some calls) :
    ∀ call ∈ calls, call.setter ≠ .subStreamVideoQuality := by
  rcases handler_cases h with ⟨rfl, -⟩ | ⟨before, cmd, after, setter, hsplit, hbefore, hoccurs,
    hsetter, rfl⟩
  · exact fun call hcall => absurd hcall List.not_mem_nil
  · intro call hcall heq
    rw [List.mem_singleton.mp hcall] at heq
    have hcmd : cmd ∈ gAliCmdMap := hsplit ▸ List.mem_append_right before List.mem_cons_self
    have hname : cmd = ⟨"SubStreamVideoQuality".toList, some .subStreamVideoQuality⟩ :=
      eq_of_setter hcmd (by decide) (hsetter.trans (congrArg some heq)) rfl
    subst hname
    -- The table begins with a name that is part of this one.
    have hfirst : (⟨"StreamVideoQuality".toList, some .streamVideoQuality⟩ : AliCmd) ∈ before := by
      rcases before with _ | ⟨first, before⟩
      · exact refuted (by decide) (List.cons.inj hsplit).1
      · rw [(List.cons.inj hsplit).1]
        exact List.mem_cons_self
    have hpart : "StreamVideoQuality".toList <:+: "SubStreamVideoQuality".toList :=
      ⟨"Sub".toList, [], by decide⟩
    exact absurd (strstr_isSome_iff.mpr (hpart.trans (strstr_isSome_iff.mp hoccurs)))
      (Bool.eq_false_iff.mp (hbefore _ hfirst))

/-! ### Keys and calls -/

/-- A name with a setter is a key iff a value is stored under it. -/
theorem settable_iff : Settable child cmd ↔ cmd.pSetCb.isSome = true ∧
    ∃ value, CJson.stored cmd.strCmd child = some value :=
  and_congr_right fun _ => CJson.stored_isSome_iff.symm.trans Option.isSome_iff_exists

/-- Of a single call, those of a setter are that call, when it is its setter. -/
theorem filter_setter {call : SetterCall} {value : CJson}
    (h : ([call].filter fun call => call.setter = setter).map (·.item parse) = [some value]) :
    call.setter = setter ∧ call.item parse = some value := by
  by_cases hsetter : call.setter = setter
  · rw [List.filter_cons, if_pos (decide_eq_true hsetter)] at h
    exact ⟨hsetter, (List.cons.inj h).1⟩
  · rw [List.filter_cons, if_neg (by simpa using hsetter)] at h
    exact refuted rfl (congrArg List.length h)

/-- When everything is set and nothing else, the request is unambiguous. -/
theorem unambiguous_of_dispatched (hparse : parse request = some (.object child))
    (h : userPropertySetHandler devid request = some calls) (hcalls : Dispatched parse child calls) :
    Unambiguous request child := by
  rcases handler_cases h with ⟨rfl, hnone⟩ | ⟨before, cmd, after, setter, hsplit, hbefore, hoccurs,
    hsetter, rfl⟩
  · refine .inl ⟨hnone, fun cmd hcmd hsettable => ?_⟩
    obtain ⟨hsome, value, hvalue⟩ := settable_iff.mp hsettable
    obtain ⟨setter, hsetter⟩ := Option.isSome_iff_exists.mp hsome
    exact refuted rfl (congrArg List.length (hcalls.called cmd hcmd setter hsetter value hvalue))
  · have hcmd : cmd ∈ gAliCmdMap := hsplit ▸ List.mem_append_right before List.mem_cons_self
    have hkey : cmd.strCmd ∈ CJson.keys child := hcalls.named _ List.mem_cons_self
    have hsettable : Settable child cmd := ⟨hsetter ▸ rfl, hkey⟩
    refine .inr ⟨before, cmd, after, hsplit, hbefore, hoccurs, hsettable, fun c hc hother => ?_, ?_⟩
    · obtain ⟨hsome, value, hvalue⟩ := settable_iff.mp hother
      obtain ⟨other, hsetter'⟩ := Option.isSome_iff_exists.mp hsome
      have hsame := (filter_setter (hcalls.called c hc other hsetter' value hvalue)).1
      exact eq_of_setter hc hcmd hsetter' (hsetter.trans (congrArg some hsame))
    · obtain ⟨-, value, hvalue⟩ := settable_iff.mp hsettable
      have hitem := (filter_setter (hcalls.called cmd hcmd setter hsetter value hvalue)).2
      rw [SetterCall.item, hparse] at hitem
      rw [hvalue]
      exact hitem

/-- An unambiguous request sets everything and nothing else. -/
theorem dispatched_of_unambiguous (hparse : parse request = some (.object child))
    (h : Unambiguous request child) : ∃ calls, userPropertySetHandler devid request = some calls ∧
      Dispatched parse child calls := by
  rcases h with ⟨hnone, hkeys⟩ | ⟨before, cmd, after, hsplit, hbefore, hoccurs, hsettable, honly,
    hitem⟩
  · refine ⟨[], ?_, ?_, fun call hcall => absurd hcall List.not_mem_nil⟩
    · rw [userPropertySetHandler, List.find?_eq_none.mpr fun cmd hcmd => by simp [hnone cmd hcmd]]
    · intro cmd hcmd setter hsetter value hvalue
      exact absurd (settable_iff.mpr ⟨hsetter ▸ rfl, value, hvalue⟩) (hkeys cmd hcmd)
  · obtain ⟨setter, hsetter⟩ := Option.isSome_iff_exists.mp hsettable.1
    refine ⟨_, handler_of_first hsplit hbefore hoccurs hsetter, ?_, ?_⟩
    · intro c hc other hother value hvalue
      obtain rfl := honly c hc (settable_iff.mpr ⟨hother ▸ rfl, value, hvalue⟩)
      have hsame : setter = other := Option.some.inj (hsetter.symm.trans hother)
      rw [List.filter_cons, if_pos (decide_eq_true hsame), List.filter_nil, List.map_singleton,
        SetterCall.item, hparse]
      exact congrArg (fun item => [item]) (hitem.trans hvalue)
    · intro call hcall
      rw [List.mem_singleton.mp hcall]
      exact hsettable.2

/-- Every key with a setter is set once, to its value, no other name is, and no null setter is
called, iff the request is unambiguous. -/
theorem dispatched_iff (parse : List Char → Option CJson) (devid : CInt) (request : List Char)
    (child : List (List Char × CJson)) (hparse : parse request = some (.object child)) :
    (∃ calls, userPropertySetHandler devid request = some calls ∧ Dispatched parse child calls) ↔
      Unambiguous request child := by
  constructor
  · rintro ⟨calls, h, hcalls⟩
    exact unambiguous_of_dispatched hparse h hcalls
  · exact dispatched_of_unambiguous hparse

/-- `cJSON_Parse` of a text whose object is known. -/
def parseOf (text : List Char) (child : List (List Char × CJson)) (t : List Char) : Option CJson :=
  if t = text then some (.object child) else none

/-- A request for one property. -/
def alarmSwitchText : List Char := "\x7b\"AlarmSwitch\":1\x7d".toList

def alarmSwitchChild : List (List Char × CJson) := [("AlarmSwitch".toList, .number 1#32)]

theorem dispatched_alarmSwitch :
    (∃ calls, userPropertySetHandler 0#32 alarmSwitchText = some calls ∧
        Dispatched (parseOf alarmSwitchText alarmSwitchChild) alarmSwitchChild calls) ↔
      Unambiguous alarmSwitchText alarmSwitchChild :=
  dispatched_iff (parseOf alarmSwitchText alarmSwitchChild) 0#32 alarmSwitchText alarmSwitchChild
    (if_pos rfl)

/-- A request for two properties. -/
def alarmAndFlipText : List Char := "\x7b\"AlarmSwitch\":1,\"ImageFlipState\":1\x7d".toList

def alarmAndFlipChild : List (List Char × CJson) :=
  [("AlarmSwitch".toList, .number 1#32), ("ImageFlipState".toList, .number 1#32)]

/-- Of two properties only the first is set, and a name without a setter is called. -/
theorem alarmAndFlip_not_dispatched :
    parseOf alarmAndFlipText alarmAndFlipChild alarmAndFlipText = some (.object alarmAndFlipChild) ∧
      ¬ (∃ calls, userPropertySetHandler 0#32 alarmAndFlipText = some calls ∧
        Dispatched (parseOf alarmAndFlipText alarmAndFlipChild) alarmAndFlipChild calls) ∧
      userPropertySetHandler 0#32 "\x7b\"StorageStatus\":1\x7d".toList = none := by
  refine ⟨if_pos rfl, ?_, by decide⟩
  rintro ⟨calls, h, hcalls⟩
  have honly : userPropertySetHandler 0#32 alarmAndFlipText =
      some [⟨.alarmSwitch, 0#32, alarmAndFlipText, "AlarmSwitch".toList⟩] := by decide
  cases Option.some.inj (h.symm.trans honly)
  have hflip := hcalls.called ⟨"ImageFlipState".toList, some .imageFlipState⟩ (by decide)
    .imageFlipState rfl (.number 1#32) rfl
  exact refuted rfl (congrArg List.length hflip)

end GokeWebcam.Server.Aliyun
