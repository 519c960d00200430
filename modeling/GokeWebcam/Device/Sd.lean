import GokeWebcam.Lib.Transition
import GokeWebcam.Global.Interface

/-!
# The SD card

`server/device/gk_sd.c`: the states of the card, the requests of the cloud to format and to eject it,
the answers of the recorder and the player, the hot-plug events, and `sd_proc`, which its thread
calls again and again. What `sd_proc` meets outside (the kernel's view of the card, the commands
`mount`, `umount` and `mkfs`) is an input of each call. The check of the free space every twenty
seconds is left out; it changes none of the variables here.

A card that has been pulled out is watched: `Watch` keeps what became of it next to the state.

* `hotplugOk_of_reach`: when no card is pulled out in the state `E_SDCARD_STATUS_MOUNT` and none is
  put back in while an ejection is under way, a card that is out is not reported as normal, and one
  that is back in is mounted again, or tried to be.
* `hotplug_pulled_out`: a card that is pulled out while it is mounted is reported as normal.
-/

namespace GokeWebcam.Device.Sd

open Lib Common Global

/-! ### States -/

/-- Source: `server/device/gk_sd.h` `E_SDCARD_STATUS` -/
inductive SdCardStatus
  | null | plugin | format | formating | formatSuccess | mount | unmount | unmounting
  | unmountSuccess | mountFail
  deriving DecidableEq, Repr

/-- Source: `server/device/gk_sd.h` `SD_ALIYUN_STATUS` -/
inductive SdAliyunStatus
  | unplug | normal | unformat | formating
  deriving DecidableEq, Repr

/-- Source: `server/device/gk_sd.h` `sd_action_t` -/
inductive SdActionType
  | format | unmount
  deriving DecidableEq, Repr

/-- The static variables; `lastStatus` is missing for -1.
Source: `server/device/gk_sd.c` -/
structure SdState where
  sdCardStatus : SdCardStatus := .null
  sdCardLastStatus : Option SdCardStatus := none
  fileInit : CInt := -1#32
  formatStatus : CInt := 0#32
  initWait : Bool := false
  sdAddress : List Char := []
  deriving DecidableEq, Repr

/-- What a call of `sd_proc` meets: the address that the messages of the kernel name, the addresses
at which a card answers, whether the path is in `/proc/mounts`, whether the commands succeed, whether
there is a device node, and whether the list of files can be read. -/
structure Outside where
  dmesg : List Char
  present : List (List Char)
  isMount : Bool
  mount : Bool
  umount : Bool
  node : Bool
  format : Bool
  readFileList : Bool
  deriving DecidableEq, Repr

/-- Source: `server/device/gk_sd.c` `sd_get_status` -/
def sdGetStatus (s : SdState) : SdAliyunStatus :=
  match s.sdCardStatus with
  | .null => .unplug
  | .plugin => .unplug
  | .unmount => .unplug
  | .unmounting => .unplug
  | .unmountSuccess => .unplug
  | .format => .formating
  | .formating => .formating
  | .formatSuccess => .formating
  | .mount => .normal
  | .mountFail => .unplug

/-- Source: `server/device/gk_sd.c` `sd_get_file_status` -/
def sdGetFileStatus (s : SdState) : CInt := s.fileInit

/-! ### Requests, answers and hot-plug events -/

/-- The new state, and whether `MSG_DEVICE_SD_FORMAT_START` goes to the recorder and the player.
Source: `server/device/gk_sd.c` `sd_format` -/
def sdFormat (s : SdState) : SdState × Bool :=
  if s.sdCardStatus = .null then (s, false) else ({ s with sdCardStatus := .format }, true)

/-- The new state, and whether `MSG_DEVICE_SD_FORMAT_START` goes to the recorder and the player.
Source: `server/device/gk_sd.c` `sd_unmount` -/
def sdUnmount (s : SdState) : SdState × Bool :=
  if s.sdCardStatus ≠ .mount then (s, false) else ({ s with sdCardStatus := .unmount }, true)

/-- Source: `server/device/gk_sd.c` `sd_set_response` -/
def sdSetResponse (s : SdState) (action : SdActionType) (server : ServerType) : SdState :=
  if (s.sdCardStatus = .format || s.sdCardStatus = .unmount) && action = .format then
    { s with formatStatus := miscSetBit s.formatStatus server.toNat }
  else s

/-- An inserted card has an address, a removed one has none.
Source: `server/device/gk_sd.c` `update_hotplug_event` -/
def updateHotplugEvent (s : SdState) (addr : Option (List Char)) : SdState :=
  match addr with
  | some addr => { s with initWait := false, sdAddress := addr }
  | none => { s with initWait := true, sdAddress := [] }

/-! ### The poll -/

/-- The address that is looked at.
Source: `server/device/gk_sd.c` `sd_is_plugin` -/
def plugAddress (s : SdState) (w : Outside) : List Char :=
  if s.sdAddress = [] then w.dmesg else s.sdAddress

/-- Whether a card is there.
Source: `server/device/gk_sd.c` `sd_is_plugin` -/
def sdIsPlugin (s : SdState) (w : Outside) : Bool := plugAddress s w ∈ w.present

/-- Source: `server/device/gk_sd.c` `sd_proc`, `E_SDCARD_STATUS_NULL` -/
def procNull (s : SdState) (w : Outside) : SdState :=
  if s.initWait then s
  else if sdIsPlugin s w then { s with sdAddress := plugAddress s w, sdCardStatus := .plugin }
  else { s with sdAddress := plugAddress s w, initWait := true }

/-- Whether `sd_mount` is called.
Source: `server/device/gk_sd.c` `sd_proc`, `E_SDCARD_STATUS_PLUGIN`, `E_SDCARD_STATUS_FORMAT_SUCCESS` -/
def triesMount (s : SdState) (w : Outside) : Bool :=
  (s.sdCardStatus = .plugin || s.sdCardStatus = .formatSuccess) && !w.isMount

/-- Source: `server/device/gk_sd.c` `sd_proc`, `E_SDCARD_STATUS_PLUGIN`,
`E_SDCARD_STATUS_FORMAT_SUCCESS` -/
def procMount (s : SdState) (w : Outside) : SdState :=
  if w.isMount || w.mount then { s with sdCardStatus := .mount } else s

/-- Both servers have answered.
Source: `server/device/gk_sd.c` `sd_proc`, `E_SDCARD_STATUS_FORMAT`, `E_SDCARD_STATUS_UNMOUNT` -/
def answered (s : SdState) : Bool :=
  miscGetBit s.formatStatus ServerType.recorder.toNat ≠ 0#32 &&
    miscGetBit s.formatStatus ServerType.player.toNat ≠ 0#32

/-- Source: `server/device/gk_sd.c` `sd_proc`, `E_SDCARD_STATUS_FORMATING` -/
def procFormating (s : SdState) (w : Outside) : SdState :=
  let s := { s with formatStatus := 0#32 }
  if w.isMount && !w.umount then s
  else if w.node then
    if w.format then { s with sdCardStatus := .formatSuccess } else s
  else { s with sdCardStatus := .null }

/-- Source: `server/device/gk_sd.c` `sd_proc`, `E_SDCARD_STATUS_UNMOUNTING` -/
def procUnmounting (s : SdState) (w : Outside) : SdState :=
  let s := { s with formatStatus := 0#32 }
  if w.isMount && !w.umount then s else { s with sdCardStatus := .unmountSuccess }

/-- Source: `server/device/gk_sd.c` `sd_proc`, the `switch` -/
def procStatus (s : SdState) (w : Outside) : SdState :=
  match s.sdCardStatus with
  | .null => procNull s w
  | .plugin => procMount s w
  | .format => if answered s then { s with sdCardStatus := .formating } else s
  | .formating => procFormating s w
  | .formatSuccess => procMount s w
  | .mount => s
  | .unmount => if answered s then { s with sdCardStatus := .unmounting } else s
  | .unmounting => procUnmounting s w
  | .unmountSuccess => { s with sdCardStatus := .null, initWait := true }
  | .mountFail => s

/-- Source: `server/device/gk_sd.c` `sd_proc` -/
def sdProc (s : SdState) (w : Outside) : SdState :=
  let s := procStatus s w
  if s.sdCardLastStatus ≠ some s.sdCardStatus then
    let s := { s with sdCardLastStatus := some s.sdCardStatus }
    if s.sdCardStatus = .mount then
      { s with fileInit := if w.readFileList then 1#32 else 0#32 }
    else s
  else s

/-! ### A card that is pulled out -/

/-- What became of the card since it was last pulled out: it is mounted again, or never was pulled
out; it is out; it is in again. -/
inductive Card
  | mounted | out | back
  deriving DecidableEq, Repr

/-- The state, the card, whether `sd_proc` was called since the card was pulled out, and how many
calls since it was put back in neither tried to mount it nor waited for a format or an ejection. -/
structure Watch where
  sd : SdState := {}
  card : Card := .mounted
  polled : Bool := false
  idle : ℕ := 0
  deriving DecidableEq, Repr

/-- What happens to the card. -/
inductive SdEvent
  | hotplugAdd (addr : List Char)
  | hotplugRemove
  | proc (w : Outside)
  | format
  | unmount
  | response (action : SdActionType) (server : ServerType)
  deriving DecidableEq, Repr

/-- A format or an ejection is under way. -/
def busy (s : SdState) : Bool :=
  s.sdCardStatus = .format || s.sdCardStatus = .formating || s.sdCardStatus = .unmount ||
    s.sdCardStatus = .unmounting

/-- A call of `sd_proc`. -/
def Watch.proc (s : Watch) (w : Outside) : Watch where
  sd := sdProc s.sd w
  card := if s.card = .back ∧ s.sd.sdCardStatus ≠ .mount ∧ (sdProc s.sd w).sdCardStatus = .mount then
      .mounted
    else s.card
  polled := true
  idle := if triesMount s.sd w then 0 else if busy s.sd then s.idle else s.idle + 1

/-- One event. -/
def step (s : Watch) : SdEvent → Option Watch
  | .hotplugAdd addr => some
      { s with
        sd := updateHotplugEvent s.sd (some addr)
        card := if s.card = .out then .back else s.card
        idle := 0 }
  | .hotplugRemove => some
      { s with sd := updateHotplugEvent s.sd none, card := .out, polled := false, idle := 0 }
  | .proc w => some (s.proc w)
  | .format => some
      { s with sd := (sdFormat s.sd).1, idle := if (sdFormat s.sd).2 then 0 else s.idle }
  | .unmount => some { s with sd := (sdUnmount s.sd).1 }
  | .response action server => some { s with sd := sdSetResponse s.sd action server }

/-- A card that is out, and was polled since, is not reported as normal, nor one that is in again but
not mounted; and of the calls after it is in again every other one tries to mount it. -/
structure HotplugOk (s : Watch) : Prop where
  gone : s.card ≠ .mounted → s.polled = true → sdGetStatus s.sd ≠ .normal
  tried : s.card = .back → s.idle < 2

/-- No card is pulled out while it is mounted, none is put back in while an ejection is under way; a
card that is out cannot be mounted, and one that is in again is found and not still mounted. -/
def Careful (s : Watch) : SdEvent → Prop
  | .hotplugRemove => s.sd.sdCardStatus ≠ .mount
  | .hotplugAdd _ => s.card = .out → s.sd.sdCardStatus ≠ .unmount ∧
      s.sd.sdCardStatus ≠ .unmounting ∧ s.sd.sdCardStatus ≠ .unmountSuccess
  | .proc w => (s.card = .out → w.isMount = false ∧ w.mount = false) ∧
      (s.card = .back → w.isMount = false ∧ sdIsPlugin s.sd w = true)
  | _ => True

instance (s : Watch) : (a : SdEvent) → Decidable (Careful s a)
  | .hotplugRemove => inferInstanceAs (Decidable (s.sd.sdCardStatus ≠ .mount))
  | .hotplugAdd _ => inferInstanceAs (Decidable (s.card = .out → s.sd.sdCardStatus ≠ .unmount ∧
      s.sd.sdCardStatus ≠ .unmounting ∧ s.sd.sdCardStatus ≠ .unmountSuccess))
  | .proc w => inferInstanceAs (Decidable ((s.card = .out → w.isMount = false ∧ w.mount = false) ∧
      (s.card = .back → w.isMount = false ∧ sdIsPlugin s.sd w = true)))
  | .format => isTrue trivial
  | .unmount => isTrue trivial
  | .response _ _ => isTrue trivial

variable {s s' : Watch} {sd : SdState} {w : Outside} {a : SdEvent}

/-! ### What a call of `sd_proc` does -/

@[simp] theorem sdCardStatus_sdProc :
    (sdProc sd w).sdCardStatus = (procStatus sd w).sdCardStatus := by
  unfold sdProc
  dsimp only
  split_ifs <;> rfl

@[simp] theorem initWait_sdProc : (sdProc sd w).initWait = (procStatus sd w).initWait := by
  unfold sdProc
  dsimp only
  split_ifs <;> rfl

/-- The states that `sd_proc` goes to from others. -/
def transitions : List (SdCardStatus × SdCardStatus) :=
  [(.null, .plugin), (.plugin, .mount), (.format, .formating), (.formating, .formatSuccess),
    (.formating, .null), (.formatSuccess, .mount), (.unmount, .unmounting),
    (.unmounting, .unmountSuccess), (.unmountSuccess, .null)]

theorem procStatus_cases : (procStatus sd w).sdCardStatus = sd.sdCardStatus ∨
    (sd.sdCardStatus, (procStatus sd w).sdCardStatus) ∈ transitions := by
  cases hstatus : sd.sdCardStatus with
  | mount => simp [procStatus, hstatus, transitions]
  | mountFail => simp [procStatus, hstatus, transitions]
  | unmountSuccess => simp [procStatus, hstatus, transitions]
  | null =>
      simp only [procStatus, hstatus, procNull]
      split_ifs
      all_goals simp [hstatus, transitions]
  | plugin =>
      simp only [procStatus, hstatus, procMount]
      split_ifs
      all_goals simp [hstatus, transitions]
  | formatSuccess =>
      simp only [procStatus, hstatus, procMount]
      split_ifs
      all_goals simp [hstatus, transitions]
  | format =>
      simp only [procStatus, hstatus]
      split_ifs
      all_goals simp [hstatus, transitions]
  | unmount =>
      simp only [procStatus, hstatus]
      split_ifs
      all_goals simp [hstatus, transitions]
  | unmounting =>
      simp only [procStatus, hstatus, procUnmounting]
      split_ifs
      all_goals simp [transitions]
  | formating =>
      simp only [procStatus, hstatus, procFormating]
      split_ifs
      all_goals simp [transitions]

/-- A card that is not in `/proc/mounts` and cannot be mounted is not mounted by `sd_proc`. -/
theorem procStatus_ne_mount (hstatus : sd.sdCardStatus ≠ .mount) (hisMount : w.isMount = false)
    (hmount : w.mount = false) : (procStatus sd w).sdCardStatus ≠ .mount := by
  intro h
  rcases procStatus_cases with hsame | htrans
  · exact hstatus (hsame.symm.trans h)
  · rw [h] at htrans
    have hfrom : sd.sdCardStatus = .plugin ∨ sd.sdCardStatus = .formatSuccess := by
      cases hstatus : sd.sdCardStatus
      all_goals simp_all [transitions]
    rcases hfrom with hfrom | hfrom
    · simp [procStatus, hfrom, procMount, hisMount, hmount] at h
    · simp [procStatus, hfrom, procMount, hisMount, hmount] at h

/-- No state leads to `E_SDCARD_STATUS_MOUNT_FAIL`. -/
theorem procStatus_ne_mountFail (hstatus : sd.sdCardStatus ≠ .mountFail) :
    (procStatus sd w).sdCardStatus ≠ .mountFail := by
  intro h
  rcases procStatus_cases with hsame | htrans
  · exact hstatus (hsame.symm.trans h)
  · rw [h] at htrans
    cases hstatus : sd.sdCardStatus
    all_goals simp [transitions, hstatus] at htrans

/-! ### The invariant -/

/-- How long a card that is in again waits in a state. -/
def Waits (s : Watch) : Prop :=
  s.sd.initWait = false ∧
    match s.sd.sdCardStatus with
    | .null => s.idle = 0
    | .plugin => s.idle < 2
    | .format => s.idle = 0
    | .formating => s.idle = 0
    | .formatSuccess => s.idle = 0
    | _ => False

/-- A card that is out is not mounted, and one that is in again is on the way to be. -/
structure HotplugInv (s : Watch) : Prop where
  valid : s.sd.sdCardStatus ≠ .mountFail
  out : s.card = .out → s.sd.sdCardStatus ≠ .mount
  back : s.card = .back → Waits s

/-- While a card that is in again waits it is not mounted. -/
theorem Waits.ne_mount (h : Waits s) : s.sd.sdCardStatus ≠ .mount := by
  intro hmount
  have hfalse := h.2
  rw [hmount] at hfalse
  exact hfalse

theorem Waits.idle_lt (h : Waits s) : s.idle < 2 := by
  have hstate := h.2
  split at hstate
  all_goals first
    | omega
    | exact hstate.elim

/-- A call of `sd_proc` for a card that is in again: it waits on, or is mounted. -/
theorem waits_proc (h : Waits s) (hisMount : w.isMount = false)
    (hplugin : sdIsPlugin s.sd w = true) (hmount : (procStatus s.sd w).sdCardStatus ≠ .mount) :
    Waits (s.proc w) := by
  obtain ⟨hwait, hstate⟩ := h
  unfold Waits Watch.proc
  dsimp only
  rw [initWait_sdProc, sdCardStatus_sdProc]
  cases hstatus : s.sd.sdCardStatus with
  | null =>
      rw [hstatus] at hstate
      simp [procStatus, hstatus, procNull, hwait, hplugin, triesMount, busy, hstate]
  | plugin =>
      have hstay : w.mount = false := by
        by_contra hdone
        exact hmount (by simp [procStatus, hstatus, procMount, hdone])
      simp [procStatus, hstatus, procMount, hstay, hwait, triesMount, hisMount]
  | formatSuccess =>
      have hstay : w.mount = false := by
        by_contra hdone
        exact hmount (by simp [procStatus, hstatus, procMount, hdone])
      simp [procStatus, hstatus, procMount, hstay, hwait, triesMount, hisMount]
  | format =>
      rw [hstatus] at hstate
      simp only [procStatus, hstatus]
      by_cases hanswered : answered s.sd = true
      · simp [hanswered, hwait, triesMount, busy, hstatus, hstate]
      · simp [hanswered, hwait, triesMount, busy, hstatus, hstate]
  | formating =>
      rw [hstatus] at hstate
      simp only [procStatus, hstatus, procFormating, hisMount, Bool.false_and]
      cases hnode : w.node
      · simp [hwait, triesMount, busy, hstatus, hstate]
      · cases hformat : w.format
        · simp [hwait, triesMount, busy, hstatus, hstate]
        · simp [hwait, triesMount, busy, hstatus, hstate]
  | mount => rw [hstatus] at hstate; exact hstate.elim
  | unmount => rw [hstatus] at hstate; exact hstate.elim
  | unmounting => rw [hstatus] at hstate; exact hstate.elim
  | unmountSuccess => rw [hstatus] at hstate; exact hstate.elim
  | mountFail => rw [hstatus] at hstate; exact hstate.elim

/-- A card that is put back in waits where it finds the state. -/
theorem waits_of_status (hwait : s.sd.initWait = false) (hidle : s.idle = 0)
    (hvalid : s.sd.sdCardStatus ≠ .mountFail) (hmount : s.sd.sdCardStatus ≠ .mount)
    (hunmount : s.sd.sdCardStatus ≠ .unmount) (hunmounting : s.sd.sdCardStatus ≠ .unmounting)
    (hsuccess : s.sd.sdCardStatus ≠ .unmountSuccess) : Waits s := by
  refine ⟨hwait, ?_⟩
  cases hstatus : s.sd.sdCardStatus
  all_goals simp_all

/-- Every careful event keeps the invariant. -/
theorem hotplugInv_step (h : HotplugInv s) (hcareful : Careful s a) (hstep : step s a = some s') :
    HotplugInv s' := by
  cases a with
  | hotplugAdd addr =>
      cases hstep
      refine ⟨h.valid, fun hout => ?_, fun hback => ?_⟩
      · dsimp only at hout
        split_ifs at hout with hwas
        exact absurd hout hwas
      · dsimp only at hback
        split_ifs at hback with hwas
        · obtain ⟨hunmount, hunmounting, hsuccess⟩ := hcareful hwas
          exact waits_of_status rfl rfl h.valid (h.out hwas) hunmount hunmounting hsuccess
        · obtain ⟨-, hstate⟩ := h.back hback
          refine ⟨rfl, ?_⟩
          simp only [updateHotplugEvent]
          split at hstate
          all_goals simp_all
  | hotplugRemove =>
      cases hstep
      exact ⟨h.valid, fun _ => hcareful, by simp⟩
  | proc w =>
      cases hstep
      refine ⟨?_, fun hout => ?_, fun hback => ?_⟩
      · simp only [Watch.proc, sdCardStatus_sdProc]
        exact procStatus_ne_mountFail h.valid
      · simp only [Watch.proc] at hout ⊢
        split_ifs at hout with hmounted
        obtain ⟨hisMount, hmount⟩ := hcareful.1 hout
        rw [sdCardStatus_sdProc]
        exact procStatus_ne_mount (h.out hout) hisMount hmount
      · simp only [Watch.proc] at hback
        split_ifs at hback with hmounted
        obtain ⟨hisMount, hplugin⟩ := hcareful.2 hback
        apply waits_proc (h.back hback) hisMount hplugin
        intro hmount
        exact hmounted ⟨hback, (h.back hback).ne_mount, by rwa [sdCardStatus_sdProc]⟩
  | format =>
      unfold step sdFormat at hstep
      by_cases hnull : s.sd.sdCardStatus = .null
      · simp only [if_pos hnull] at hstep
        cases hstep
        exact ⟨h.valid, h.out, h.back⟩
      · simp only [if_neg hnull] at hstep
        cases hstep
        exact ⟨by simp, fun _ => by simp, fun hback => ⟨(h.back hback).1, by simp⟩⟩
  | unmount =>
      cases hstep
      unfold sdUnmount
      split_ifs with hmount
      · exact h
      · rw [ne_eq, not_not] at hmount
        refine ⟨by simp, fun _ => by simp, fun hback => ?_⟩
        exact absurd hmount (h.back hback).ne_mount
  | response action server =>
      cases hstep
      unfold sdSetResponse
      split_ifs
      · exact ⟨h.valid, h.out, h.back⟩
      · exact h

/-- In every run from the start whose events are careful, a card that is out and was polled since is
not reported as normal, one that is in again is not before it is mounted, and every other call of
`sd_proc` for it tries to mount it. -/
theorem hotplugOk_of_reach (s : Watch) (h : Reach step Careful {} s) : HotplugOk s := by
  have hinv : HotplugInv s := by
    refine h.inv ?_ fun s a s' hs hcareful hstep => hotplugInv_step hs hcareful hstep
    exact ⟨by decide, by decide, by rintro ⟨⟩⟩
  refine ⟨fun hcard _ => ?_, fun hback => (hinv.back hback).idle_lt⟩
  have hmount : s.sd.sdCardStatus ≠ .mount := by
    cases hcase : s.card with
    | mounted => exact absurd hcase hcard
    | out => exact hinv.out hcase
    | back => exact (hinv.back hcase).ne_mount
  unfold sdGetStatus
  cases hstatus : s.sd.sdCardStatus
  all_goals simp_all

/-- A card at an address, and everything succeeds. -/
def cardThere : Outside := ⟨[], ["e624".toList], false, true, true, true, true, true⟩

/-- A card is pulled out and put back in, and found. -/
theorem hotplugOk_put_in : ∃ s, Reach step Careful {} s ∧ s.card = .back ∧
    s.sd.sdCardStatus = .plugin ∧ HotplugOk s := by
  have hrun : (exec step (fun s a => decide (Careful s a)) {}
      [.hotplugRemove, .hotplugAdd "e624".toList, .proc cardThere]).any
      (fun s => decide (s.card = .back ∧ s.sd.sdCardStatus = .plugin)) = true := by
    decide
  obtain ⟨s, hreach, hcard, hstatus⟩ := Reach.exists_of_exec (fun _ _ => of_decide_eq_true) hrun
  exact ⟨s, hreach, hcard, hstatus, hotplugOk_of_reach s hreach⟩

/-- A card is found and mounted, and pulled out: after a call of `sd_proc` it is reported as normal;
put back in, it is not mounted again. -/
theorem hotplug_pulled_out :
    (∃ s, Reach step AllRuns {} s ∧ s.card = .out ∧ s.polled = true ∧
      sdGetStatus s.sd = .normal ∧ ¬ HotplugOk s) ∧
    ∃ s, Reach step AllRuns {} s ∧ s.card = .back ∧ 2 ≤ s.idle ∧ ¬ HotplugOk s := by
  constructor
  · have hrun : (exec step (fun _ _ => true) {} [.hotplugAdd "e624".toList, .proc cardThere,
        .proc cardThere, .hotplugRemove, .proc cardThere]).any (fun s => decide (s.card = .out ∧
          s.polled = true ∧ sdGetStatus s.sd = .normal)) = true := by
      decide
    obtain ⟨s, hreach, hcard, hpolled, hstatus⟩ := Reach.exists_of_exec
      (fun _ _ _ => (trivial : AllRuns _ _)) hrun
    refine ⟨s, hreach, hcard, hpolled, hstatus, fun h => ?_⟩
    exact h.gone (by rw [hcard]; decide) hpolled hstatus
  · have hrun : (exec step (fun _ _ => true) {} [.hotplugAdd "e624".toList, .proc cardThere,
        .proc cardThere, .hotplugRemove, .hotplugAdd "e624".toList, .proc cardThere,
        .proc cardThere]).any (fun s => decide (s.card = .back ∧ 2 ≤ s.idle)) = true := by
      decide
    obtain ⟨s, hreach, hcard, hidle⟩ := Reach.exists_of_exec
      (fun _ _ _ => (trivial : AllRuns _ _)) hrun
    exact ⟨s, hreach, hcard, hidle, fun h => absurd (h.tried hcard) (Nat.not_lt.mpr hidle)⟩

end GokeWebcam.Device.Sd
