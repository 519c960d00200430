import GokeWebcam.Lib.CString
import GokeWebcam.Common.CJson

/-!
# Services called by the cloud

`user_service_request_handler` of `server/aliyun/linkkit_client.c` is called with the name of a
service, as a place in memory and a length, and the text of a request. It compares the memory with
the names LinkVisual handles, up to the length of each, and then with four names of its own, up to the
length it was given.

`parse` is `cJSON_Parse`, `lvMessageAdapter` the result of the call into LinkVisual.

* `Taken`: what the second comparison takes for a name, exactly.
* `handler_of_linkVisual`, `handler_of_not_linkVisual`: the call that is made, by the first
  comparison that succeeds.
* `callByName_iff`: the call is the one the exact name asks for iff the bytes are one of the names or
  nothing is taken for one.
* `format_prefix`: a beginning of a name is enough to format the card.
-/

namespace GokeWebcam.Server.Aliyun

open Lib Common

/-! ### The names -/

/-- Source: `server/aliyun/linkkit_client.c` `link_visual_service` -/
def linkVisualService : List (List Char) :=
  ["TriggerPicCapture".toList, "StartVoiceIntercom".toList, "StopVoiceIntercom".toList,
    "StartVod".toList, "StartVodByTime".toList, "StopVod".toList, "QueryRecordTimeList".toList,
    "QueryRecordList".toList, "StartP2PStreaming".toList, "StartPushStreaming".toList,
    "StopPushStreaming".toList, "QueryMonthRecord".toList]

/-- Source: `server/aliyun/linkkit_client.c` `user_service_request_handler` -/
def ptzActionControl : List Char := "PTZActionControl".toList

/-- Source: `server/aliyun/linkkit_client.h` `FORMATSTORAGEMEDIUM` -/
def formatStorageMedium : List Char := "FormatStorageMedium".toList

/-- Source: `server/aliyun/linkkit_client.h` `EJECTSTORAGECARD` -/
def ejectStorageCard : List Char := "EjectStorageCard".toList

/-- Source: `server/aliyun/linkkit_client.h` `REBOOT` -/
def reboot : List Char := "Reboot".toList

/-- The names the handler serves itself. -/
def ownServices : List (List Char) := [ptzActionControl, formatStorageMedium, ejectStorageCard, reboot]

/-! ### The handler -/

/-- What the handler calls. The name LinkVisual is given is delimited by its length. -/
inductive ServiceCall
  | lvMessageAdapter (devid : CInt) (msgId serviceName request : List Char)
  | motorControl (actionType step : CInt)
  | sdFormat
  | sdUnmount
  | deviceReboot
  deriving DecidableEq, Repr

variable (parse : List Char → Option CJson)

/-- The arguments of a request to turn the camera.
Source: `server/aliyun/linkkit_client.c` `user_service_request_handler`, `ActionType` and `Step` -/
def ptzArguments (request : List Char) : Option (CInt × CInt) :=
  (parse request).bind fun root =>
    (CJson.getObjectItem "ActionType".toList root).bind fun actionType =>
      (CJson.getObjectItem "Step".toList root).map fun step =>
        (actionType.valueint, step.valueint)

/-- The length up to which the handler compares with its own names.
Source: `server/aliyun/linkkit_client.c` `user_service_request_handler` -/
def compared (serviceidLen : CInt) : ℕ :=
  if BitVec.slt 0#32 serviceidLen then serviceidLen.toNat else 0

/-- The call that is made, if one is, and the value returned, where LinkVisual has no part in it.
Source: `server/aliyun/linkkit_client.c` `user_service_request_handler`, the `else` branch -/
def ownServiceRequest (serviceid : ℕ → Char) (serviceidLen : CInt) (request : List Char) :
    Option ServiceCall × CInt :=
  if strncmp serviceid (terminated ptzActionControl) (compared serviceidLen) then
    match ptzArguments parse request with
    | none => (none, -1#32)
    | some (actionType, step) => (some (.motorControl actionType step), 0#32)
  else if strncmp serviceid (terminated formatStorageMedium) (compared serviceidLen) then
    (some .sdFormat, 0#32)
  else if strncmp serviceid (terminated ejectStorageCard) (compared serviceidLen) then
    (some .sdUnmount, 0#32)
  else if strncmp serviceid (terminated reboot) (compared serviceidLen) then
    (some .deviceReboot, 0#32)
  else (none, 0#32)

/-- The call that is made, if one is, and the value returned.
Source: `server/aliyun/linkkit_client.c` `user_service_request_handler` -/
def userServiceRequestHandler (lvMessageAdapter : ServiceCall → CInt) (devid : CInt)
    (id : List Char) (serviceid : ℕ → Char) (serviceidLen : CInt) (request : List Char) :
    Option ServiceCall × CInt :=
  let linkVisualProcess :=
    linkVisualService.any fun name => strncmp serviceid (terminated name) name.length
  if linkVisualProcess then
    let call := ServiceCall.lvMessageAdapter devid id
      (firstBytes serviceid (compared serviceidLen)) request
    (some call, if BitVec.slt (lvMessageAdapter call) 0#32 then -1#32 else 0#32)
  else ownServiceRequest parse serviceid serviceidLen request

/-! ### By the exact name -/

/-- The call a name asks for: the request is forwarded under a name of LinkVisual's, and under one of
the handler's own its action is taken, which for the camera needs the arguments.
Source: none: what the handler is for -/
def callByName (devid : CInt) (id bytes request : List Char) : Option ServiceCall :=
  if linkVisualService.any fun name => name = bytes then
    some (.lvMessageAdapter devid id bytes request)
  else if bytes = ptzActionControl then
    (ptzArguments parse request).map fun arguments => .motorControl arguments.1 arguments.2
  else if bytes = formatStorageMedium then some .sdFormat
  else if bytes = ejectStorageCard then some .sdUnmount
  else if bytes = reboot then some .deviceReboot
  else none

/-- The bytes are a beginning of the name, or begin with the name and a zero. -/
def Taken (name bytes : List Char) : Prop := bytes <+: name ∨ name ++ ['\x00'] <+: bytes

instance {name bytes : List Char} : Decidable (Taken name bytes) :=
  inferInstanceAs (Decidable (_ ∨ _))

/-- Nothing is taken for a name: LinkVisual's names do not stand in memory, and the bytes are taken
for none of the handler's own, but for that of the camera if the arguments are missing. -/
structure Unheeded (serviceid : ℕ → Char) (bytes request : List Char) : Prop where
  linkVisual : ∀ name ∈ linkVisualService, firstBytes serviceid name.length ≠ name
  ptz : Taken ptzActionControl bytes → ptzArguments parse request = none
  own : ¬ Taken ptzActionControl bytes → ¬ Taken formatStorageMedium bytes ∧
    ¬ Taken ejectStorageCard bytes ∧ ¬ Taken reboot bytes

variable {parse} {name bytes request : List Char} {serviceid : ℕ → Char} {n : ℕ}

/-! ### What the comparisons take -/

theorem zero_notMem (h : name ∈ linkVisualService ++ ownServices) : '\x00' ∉ name := by
  have hall : ∀ name ∈ linkVisualService ++ ownServices, '\x00' ∉ name := by decide
  exact hall name h

theorem strncmp_own_iff (h : name ∈ ownServices) :
    strncmp serviceid (terminated name) n = true ↔ Taken name (firstBytes serviceid n) :=
  strncmp_terminated_iff (zero_notMem (List.mem_append_right _ h))

theorem linkVisual_iff :
    (linkVisualService.any fun name => strncmp serviceid (terminated name) name.length) = true ↔
      ∃ name ∈ linkVisualService, firstBytes serviceid name.length = name := by
  rw [List.any_eq_true]
  constructor
  · rintro ⟨name, hmem, hcmp⟩
    exact ⟨name, hmem, (strncmp_length_iff (zero_notMem (List.mem_append_left _ hmem))).mp hcmp⟩
  · rintro ⟨name, hmem, heq⟩
    exact ⟨name, hmem, (strncmp_length_iff (zero_notMem (List.mem_append_left _ hmem))).mpr heq⟩

/-- The call by what the bytes are taken for. -/
def callTaken (parse : List Char → Option CJson) (bytes request : List Char) : Option ServiceCall :=
  if Taken ptzActionControl bytes then
    (ptzArguments parse request).map fun arguments => .motorControl arguments.1 arguments.2
  else if Taken formatStorageMedium bytes then some .sdFormat
  else if Taken ejectStorageCard bytes then some .sdUnmount
  else if Taken reboot bytes then some .deviceReboot
  else none

variable {lvMessageAdapter : ServiceCall → CInt} {devid serviceidLen : CInt} {id : List Char}

theorem ownServiceRequest_eq :
    (ownServiceRequest parse serviceid serviceidLen request).1 =
      callTaken parse (firstBytes serviceid (compared serviceidLen)) request := by
  have hptz := @strncmp_own_iff ptzActionControl serviceid (compared serviceidLen)
    List.mem_cons_self
  have hformat := @strncmp_own_iff formatStorageMedium serviceid (compared serviceidLen)
    (by decide)
  have heject := @strncmp_own_iff ejectStorageCard serviceid (compared serviceidLen)
    (by decide)
  have hreboot := @strncmp_own_iff reboot serviceid (compared serviceidLen) (by decide)
  rw [ownServiceRequest, callTaken]
  simp only [hptz, hformat, heject, hreboot]
  by_cases h₁ : Taken ptzActionControl (firstBytes serviceid (compared serviceidLen))
  · rw [if_pos h₁, if_pos h₁]
    rcases ptzArguments parse request with _ | ⟨actionType, step⟩ <;> rfl
  · rw [if_neg h₁, if_neg h₁]
    by_cases h₂ : Taken formatStorageMedium (firstBytes serviceid (compared serviceidLen))
    · rw [if_pos h₂, if_pos h₂]
    · rw [if_neg h₂, if_neg h₂]
      by_cases h₃ : Taken ejectStorageCard (firstBytes serviceid (compared serviceidLen))
      · rw [if_pos h₃, if_pos h₃]
      · rw [if_neg h₃, if_neg h₃]
        by_cases h₄ : Taken reboot (firstBytes serviceid (compared serviceidLen))
        · rw [if_pos h₄, if_pos h₄]
        · rw [if_neg h₄, if_neg h₄]

/-- The call that is made: LinkVisual's if one of its names stands in memory, else by the bytes. -/
theorem handler_of_linkVisual
    (h : ∃ name ∈ linkVisualService, firstBytes serviceid name.length = name) :
    (userServiceRequestHandler parse lvMessageAdapter devid id serviceid serviceidLen request).1 =
      some (.lvMessageAdapter devid id (firstBytes serviceid (compared serviceidLen)) request) := by
  rw [userServiceRequestHandler]
  simp only [linkVisual_iff.mpr h, if_true]

theorem handler_of_not_linkVisual
    (h : ¬ ∃ name ∈ linkVisualService, firstBytes serviceid name.length = name) :
    (userServiceRequestHandler parse lvMessageAdapter devid id serviceid serviceidLen request).1 =
      callTaken parse (firstBytes serviceid (compared serviceidLen)) request := by
  rw [userServiceRequestHandler]
  simp only [Bool.eq_false_iff.mpr (mt linkVisual_iff.mp h), Bool.false_eq_true, if_false]
  exact ownServiceRequest_eq

/-! ### Names -/

/-- No name of LinkVisual's begins with the same letter as one of the handler's own. -/
theorem not_linkVisual_of_own (hown : firstBytes serviceid n ∈ ownServices)
    (hname : name ∈ linkVisualService) : firstBytes serviceid name.length ≠ name := by
  have hall : ∀ a ∈ linkVisualService, ∀ b ∈ ownServices, a.head? ≠ b.head? ∧ a ≠ [] ∧ b ≠ [] := by
    decide
  obtain ⟨hhead, hne, hne'⟩ := hall name hname _ hown
  intro heq
  apply hhead
  have hpos : 0 < name.length := List.length_pos_iff.mpr hne
  have hpos' : 0 < n := by
    rw [← @length_firstBytes n serviceid]
    exact List.length_pos_iff.mpr hne'
  obtain ⟨k, hk⟩ := Nat.exists_eq_succ_of_ne_zero hpos.ne'
  obtain ⟨l, rfl⟩ := Nat.exists_eq_succ_of_ne_zero hpos'.ne'
  rw [← heq, hk, Nat.succ_eq_add_one, Nat.succ_eq_add_one, firstBytes_succ, firstBytes_succ]
  rfl

/-- Bytes that are one of the handler's own names are taken for that name and no other. -/
theorem callTaken_of_own (h : bytes ∈ ownServices) :
    callTaken parse bytes request = callByName parse devid id bytes request := by
  rw [ownServices] at h
  simp only [List.mem_cons, List.not_mem_nil, or_false] at h
  rcases h with rfl | rfl | rfl | rfl
  · rw [callTaken, if_pos (by decide), callByName, if_neg (by decide),
      if_pos (by decide)]
  · rw [callTaken, if_neg (by decide), if_pos (by decide), callByName,
      if_neg (by decide), if_neg (by decide), if_pos (by decide)]
  · rw [callTaken, if_neg (by decide), if_neg (by decide),
      if_pos (by decide), callByName, if_neg (by decide),
      if_neg (by decide), if_neg (by decide), if_pos (by decide)]
  · rw [callTaken, if_neg (by decide), if_neg (by decide),
      if_neg (by decide), if_pos (by decide), callByName,
      if_neg (by decide), if_neg (by decide), if_neg (by decide),
      if_neg (by decide), if_pos (by decide)]

theorem any_linkVisual_iff :
    (linkVisualService.any fun name => name = bytes) = true ↔ bytes ∈ linkVisualService := by
  simp

theorem callByName_of_linkVisual (h : bytes ∈ linkVisualService) :
    callByName parse devid id bytes request =
      some (.lvMessageAdapter devid id bytes request) := if_pos (any_linkVisual_iff.mpr h)

/-- A name nobody knows asks for nothing. -/
theorem callByName_of_unknown (hlink : bytes ∉ linkVisualService) (hown : bytes ∉ ownServices) :
    callByName parse devid id bytes request = none := by
  have hne : ∀ name ∈ ownServices, bytes ≠ name := fun name hname heq => hown (heq ▸ hname)
  rw [callByName, if_neg (mt any_linkVisual_iff.mp hlink), if_neg (hne _ (by decide)),
    if_neg (hne _ (by decide)), if_neg (hne _ (by decide)),
    if_neg (hne _ (by decide))]

theorem callTaken_eq_none_iff : callTaken parse bytes request = none ↔
    (Taken ptzActionControl bytes → ptzArguments parse request = none) ∧
      (¬ Taken ptzActionControl bytes → ¬ Taken formatStorageMedium bytes ∧
        ¬ Taken ejectStorageCard bytes ∧ ¬ Taken reboot bytes) := by
  rw [callTaken]
  by_cases h₁ : Taken ptzActionControl bytes
  · simp [h₁]
  · by_cases h₂ : Taken formatStorageMedium bytes
    · simp [h₁, h₂]
    · by_cases h₃ : Taken ejectStorageCard bytes
      · simp [h₁, h₂, h₃]
      · by_cases h₄ : Taken reboot bytes
        · simp [h₁, h₂, h₃, h₄]
        · simp [h₁, h₂, h₃, h₄]

/-- The handler calls what the first `serviceidLen` bytes ask for, by their exact name, iff they are a
name or nothing is taken for one. -/
theorem callByName_iff (parse : List Char → Option CJson) (lvMessageAdapter : ServiceCall → CInt)
    (devid : CInt) (id : List Char) (serviceid : ℕ → Char) (serviceidLen : CInt)
    (request : List Char) :
    let bytes := firstBytes serviceid (compared serviceidLen)
    (userServiceRequestHandler parse lvMessageAdapter devid id serviceid serviceidLen request).1 =
        callByName parse devid id bytes request ↔
      bytes ∈ linkVisualService ++ ownServices ∨ Unheeded parse serviceid bytes request := by
  intro bytes
  by_cases hlink : bytes ∈ linkVisualService
  · have hstands : ∃ name ∈ linkVisualService, firstBytes serviceid name.length = name :=
      ⟨bytes, hlink, by rw [length_firstBytes]⟩
    rw [handler_of_linkVisual hstands, callByName_of_linkVisual hlink]
    exact iff_of_true rfl (.inl (List.mem_append_left _ hlink))
  · by_cases hown : bytes ∈ ownServices
    · have hnot : ¬ ∃ name ∈ linkVisualService, firstBytes serviceid name.length = name := by
        rintro ⟨name, hname, heq⟩
        exact not_linkVisual_of_own hown hname heq
      rw [handler_of_not_linkVisual hnot]
      exact iff_of_true (callTaken_of_own hown) (.inl (List.mem_append_right _ hown))
    · rw [callByName_of_unknown hlink hown]
      constructor
      · intro hnone
        have hnot : ¬ ∃ name ∈ linkVisualService, firstBytes serviceid name.length = name := by
          intro hstands
          rw [handler_of_linkVisual hstands] at hnone
          cases hnone
        rw [handler_of_not_linkVisual hnot] at hnone
        obtain ⟨hptz, hrest⟩ := callTaken_eq_none_iff.mp hnone
        exact .inr ⟨fun name hname heq => hnot ⟨name, hname, heq⟩, hptz, hrest⟩
      · rintro (hknown | hunheeded)
        · rcases List.mem_append.mp hknown with h | h
          · exact absurd h hlink
          · exact absurd h hown
        · have hnot : ¬ ∃ name ∈ linkVisualService, firstBytes serviceid name.length = name := by
            rintro ⟨name, hname, heq⟩
            exact hunheeded.linkVisual name hname heq
          rw [handler_of_not_linkVisual hnot]
          exact callTaken_eq_none_iff.mpr ⟨hunheeded.ptz, hunheeded.own⟩

/-- The three bytes `For`, with the terminating zero behind them, format the card. -/
theorem format_prefix :
    (userServiceRequestHandler (fun _ => none) (fun _ => 0#32) 0#32 []
        (terminated "For".toList) 3#32 []).1 = some .sdFormat ∧
      (userServiceRequestHandler (fun _ => none) (fun _ => 0#32) 0#32 []
        (terminated "For".toList) 3#32 []).1 ≠
      callByName (fun _ => none) 0#32 [] (firstBytes (terminated "For".toList) (compared 3#32))
        [] := by
  refine ⟨?_, ?_⟩ <;> decide

end GokeWebcam.Server.Aliyun
