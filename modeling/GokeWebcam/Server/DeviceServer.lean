import GokeWebcam.Server.Frame

/-!
# The device server

`server/device/device.c`: the states of its state machine, its messages, the threads for the card, the
motor and the hotplug events, and the poll of the reset button. The hardware and the card are left out.

* `server`: what is its own of the loop all servers run.
* `states_cases`: its states send at most the request for the timer; `STATUS_RESTART` clears `info`.
-/

namespace GokeWebcam.Server.DeviceServer

open Common Global Manager

/-- `iCounts`, in how many calls in a row the button was pressed.
Source: `server/device/device.c` `device_check_reset` -/
structure Statics where
  iCounts : ℕ := 0
  deriving DecidableEq, Repr

abbrev State := ServerState Statics

/-- Source: `server/device/device.h` `device_init_condition_e` -/
def deviceInitConditionNum : ℕ := 0

/-- Source: `server/device/device.h` `DEVICE_EXIT_CONDITION` -/
def deviceExitCondition : CInt := 0#32

/-- Source: `server/audio/audio_interface.h` `audio_resource_type_e` -/
def audioResourceReset : CInt := 5#32

variable (input : ServerInput) (msg : Message) (s : State)

/-! ### The state machine -/

/-- Source: `server/device/device.c` `server_init` -/
def serverInit : State :=
  if miscFullBit s.info.initStatus deviceInitConditionNum then s.setStatus .wait else s

/-- The request to poll the reset button.
Source: `server/device/device.c` `server_setup` -/
def resetTimer : Message where
  message := msgManagerTimerAdd
  sender := ServerType.device.toInt
  argIn := { cat := 500#32, dog := 0#32, duck := 0#32, handler := some .deviceCheckReset }

/-- The state stays if a thread cannot be created.
Source: `server/device/device.c` `server_setup` -/
def serverSetup : State :=
  if input.createOk then (s.send ServerType.manager.toInt resetTimer).setStatus .idle else s

/-- Source: `server/device/device.c` `state_machine`, `server_start`, `server_stop`, `server_restart` -/
def states : State :=
  match s.info.status with
  | .init => serverInit s
  | .setup => serverSetup input s
  | .start => s.setStatus .run
  | .restart => { s with info := {} }
  | _ => s

/-- Source: `server/device/device.c` `task_proc` -/
def taskProc : State :=
  match s.info.status with
  | .none => s.setStatus .init
  | .wait => s.setStatus .setup
  | .idle => s.setStatus .start
  | _ => s

/-! ### The messages -/

/-- `input.found` is whether the card can be used.
Source: `server/device/device.c` `server_message_proc`, `MSG_DEVICE_GET_PARA` -/
def getPara : State :=
  s.send msg.receiver { serverMsg .device (ackOf msg.message) with
    argIn := {
      cat := msg.argIn.cat
      dog := if msg.argIn.cat = deviceParamSdInfo ∧ input.found then 1#32 else 0#32 } }

/-- Source: `server/device/device.c` `server_message_proc` -/
def handle : State := if msg.message = msgDeviceGetPara then getPara input msg s else s

/-- Source: `server/device/device.c` `device_check_reset`, `MSG_AUDIO_PLAY_SOUND` -/
def resetSound : Message := { message := msgAudioPlaySound, argIn := { cat := audioResourceReset } }

/-- Source: `server/device/device.c` `server_thread_termination` -/
def deviceSigint : Message := { message := msgDeviceSigint }

/-- `input.found` is whether the level of the button can be read, `input.ok` whether it is released.
Source: `server/device/device.c` `device_check_reset` -/
def deviceCheckReset : State :=
  if !input.found then s
  else if input.ok then { s with own := { iCounts := 0 } }
  else
    let s : State := { s with own := { iCounts := s.own.iCounts + 1 } }
    if 5 ≤ s.own.iCounts then
      (s.send ServerType.audio.toInt resetSound).send ServerType.manager.toInt deviceSigint
    else s

/-- The only timer that calls back into it is the one of `server_setup`.
Source: `server/device/device.c` -/
def server : ServerCode Statics where
  server := .device
  exitCondition := deviceExitCondition
  hasMessageBlock := false
  states := fun input s => some (states input s)
  taskProc := fun _ s => some (taskProc s)
  handle := fun input msg s => some (handle input msg s)
  handler := fun input f s => if f = .deviceCheckReset then some (deviceCheckReset input s) else none
  thread := fun input s => some (serverThread .device input s)
  drained := fun _ s => s
  serverRelease1 := fun _ s => s
  serverRelease2 := id
  serverStart := id

/-! ### What the functions leave alone -/

variable {input msg s}

/-- `STATUS_RESTART` clears `info`; the other states leave the queue and the exit protocol alone. -/
theorem states_cases : TaskFrame Ordinary s (states input s) ∨ states input s = { s with info := {} } := by
  rw [states]
  split
  · rw [serverInit]
    exact .inl (TaskFrame.ite (TaskFrame.refl.setStatus rfl) .refl)
  · rw [serverSetup]
    exact .inl (TaskFrame.ite ((TaskFrame.refl.send (by decide)).setStatus rfl) .refl)
  · exact .inl (TaskFrame.refl.setStatus rfl)
  · exact .inr rfl
  · exact .inl .refl

theorem taskFrame_taskProc : TaskFrame Ordinary s (taskProc s) := by
  rw [taskProc]
  split
  · exact TaskFrame.refl.setStatus rfl
  · exact TaskFrame.refl.setStatus rfl
  · exact TaskFrame.refl.setStatus rfl
  · exact .refl

theorem taskFrame_handle : TaskFrame Ordinary s (handle input msg s) := by
  rw [handle]
  split_ifs with hid
  · refine TaskFrame.refl.send (ordinary_of_id (n := ackOf msgDeviceGetPara) ?_ (by decide))
    rw [← hid]
    rfl
  · exact .refl

theorem taskFrame_deviceCheckReset : TaskFrame Ordinary s (deviceCheckReset input s) := by
  rw [deviceCheckReset]
  refine TaskFrame.ite .refl (TaskFrame.ite TaskFrame.refl.own ?_)
  refine TaskFrame.ite ?_ TaskFrame.refl.own
  exact (TaskFrame.refl.own.send (by decide)).send (by decide)

end GokeWebcam.Server.DeviceServer
