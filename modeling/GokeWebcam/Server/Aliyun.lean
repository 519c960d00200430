import GokeWebcam.Server.Frame

/-!
# The aliyun server

`server/aliyun/aliyun.c`: the states of its state machine and its messages. The cloud client, the
wireless network and the codes scanned by the camera are left out; what they decide is an input, and
the messages that the client's callbacks send to other servers arrive there as messages of unknown
origin. The server has no other threads of its own.
-/

namespace GokeWebcam.Server.Aliyun

open Common Global

/-- The static variables of `aliyun.c` that are modelled, with `retry` of `server_start`. -/
structure Statics where
  needBind : Bool := false
  aliyunTimeSyncLabel : CInt := 0#32
  retry : ℕ := 0
  deriving DecidableEq, Repr

/-- The state of the aliyun server. -/
abbrev State := ServerState Statics

/-- Source: `server/aliyun/aliyun.h` `ALIYUN_INIT_CONDITION_NUM` -/
def aliyunInitConditionNum : ℕ := 0

/-- Source: `server/aliyun/aliyun.h` `ALIYUN_EXIT_CONDITION` -/
def aliyunExitCondition : CInt := 0#32

variable (input : ServerInput) (msg : Message) (s : State)

/-- A message the server sends to itself. -/
def sendSelf (id : CInt) (argIn : MessageArg) : State :=
  s.send ServerType.aliyun.toInt { serverMsg .aliyun id with argIn := argIn }

/-! ### The state machine -/

/-- Source: `server/aliyun/aliyun.c` `wifi_init` -/
def wifiInit : State :=
  if !input.found then { s with own := { s.own with needBind := true } }
  else if input.configOk then sendSelf s msgAliyunConnect { chick := 1#32 }
  else s

/-- Source: `server/aliyun/aliyun.c` `aliyun_restart` -/
def aliyunRestart : State :=
  { s.setStatus .setup with own := { s.own with needBind := false } }

/-- Source: `server/aliyun/aliyun.c` `aliyun_yield` -/
def aliyunYield : State := sendSelf s msgAliyunYield {}

/-- Source: `server/aliyun/aliyun.c` `server_init` -/
def serverInit : State :=
  if miscFullBit s.info.initStatus aliyunInitConditionNum then s.setStatus .wait else s

/-- Source: `server/aliyun/aliyun.c` `server_setup` -/
def serverSetup : State :=
  if input.ok then (wifiInit input s).setStatus .idle else s.setStatus .wait

/-- Source: `server/aliyun/aliyun.c` `server_start` -/
def serverStart : State :=
  if input.ok then aliyunYield (s.setStatus .run)
  else if 4 < s.own.retry + 1 then aliyunRestart { s with own := { s.own with retry := 0 } }
  else sendSelf { s with own := { s.own with retry := s.own.retry + 1 } } msgManagerDummy {}

/-- `server_restart` is declared but not defined, and no function sets `STATUS_RESTART`.
Source: `server/aliyun/aliyun.c` `state_machine` -/
def states : Option State :=
  match s.info.status with
  | .init => some (serverInit s)
  | .setup => some (serverSetup input s)
  | .start => some (serverStart input s)
  | .restart => none
  | _ => some s

/-- Source: `server/aliyun/aliyun.c` `task_proc` -/
def taskProc : State :=
  match s.info.status with
  | .none => s.setStatus .init
  | .wait => s.setStatus .setup
  | _ => s

/-! ### The messages -/

/-- Source: `server/aliyun/aliyun.c` `get_qrcode_callback` -/
def getQrcodeCallback : State :=
  if msg.arg.isSome ∧ input.configOk then sendSelf s msgAliyunConnect { chick := 1#32 } else s

/-- Source: `server/aliyun/aliyun.c` `server_message_proc`, `MSG_ALIYUN_GET_TIME_SYNC` -/
def getTimeSyncAck : Message :=
  { serverMsg .aliyun (ackOf msgAliyunGetTimeSync) with
    argIn := { cat := s.own.aliyunTimeSyncLabel } }

/-- Source: `server/aliyun/aliyun.c` `server_message_proc` -/
def handle : Option State :=
  if msg.message = msgAliyunConnect then
    some (if s.info.status = .idle then s.setStatus .start else s)
  else if msg.message = msgAliyunQrcodeResult then some (getQrcodeCallback input msg s)
  else if msg.message = msgAliyunRestart then some (aliyunRestart s)
  else if msg.message = msgAliyunYield then some (aliyunYield s)
  else if msg.message = msgAliyunTimeSynchronized then
    some { s with own := { s.own with aliyunTimeSyncLabel := 1#32 } }
  else if msg.message = msgAliyunGetTimeSync then some (s.send msg.sender (getTimeSyncAck s))
  else some s

/-! ### The server -/

/-- The server registers no timer. Functions of other servers do not touch its variables.
Source: `server/aliyun/aliyun.c` -/
def server : ServerCode Statics where
  server := .aliyun
  exitCondition := aliyunExitCondition
  hasMessageBlock := true
  states := states
  taskProc := fun _ s => some (taskProc s)
  handle := fun input msg s => handle input msg s
  handler := fun _ _ s => some s
  thread := fun _ _ => none
  drained := fun _ s => s
  serverRelease1 := fun _ s => s
  serverRelease2 := id
  serverStart := fun s => { s with info := {} }

/-! ### What the functions leave alone -/

variable {input msg s} {s' : State}

theorem taskFrame_aliyunRestart : TaskFrame Ordinary s (aliyunRestart s) :=
  (TaskFrame.refl.setStatus rfl).own

theorem taskFrame_sendSelf {id : CInt} {argIn : MessageArg}
    (hid : id ≠ msgManagerExit ∧ id ≠ msgManagerExitAck) :
    TaskFrame Ordinary s (sendSelf s id argIn) := TaskFrame.refl.send (ordinary_of_id rfl hid)

theorem taskFrame_aliyunYield : TaskFrame Ordinary s (aliyunYield s) :=
  taskFrame_sendSelf (by decide)

theorem taskFrame_serverSetup : TaskFrame Ordinary s (serverSetup input s) := by
  have hwifi : TaskFrame Ordinary s (wifiInit input s) :=
    .ite TaskFrame.refl.own (.ite (taskFrame_sendSelf (by decide)) .refl)
  exact .ite (hwifi.setStatus rfl) (TaskFrame.refl.setStatus rfl)

theorem taskFrame_serverStart : TaskFrame Ordinary s (serverStart input s) :=
  .ite ((TaskFrame.refl.setStatus rfl).trans taskFrame_aliyunYield)
    (.ite (TaskFrame.refl.own.trans taskFrame_aliyunRestart)
      (TaskFrame.refl.own.trans (taskFrame_sendSelf (by decide))))

theorem taskFrame_states (h : states input s = some s') : TaskFrame Ordinary s s' := by
  rw [states] at h
  split at h <;> cases h
  · exact .ite (TaskFrame.refl.setStatus rfl) .refl
  · exact taskFrame_serverSetup
  · exact taskFrame_serverStart
  · exact .refl

theorem taskFrame_taskProc : TaskFrame Ordinary s (taskProc s) := by
  rw [taskProc]
  split
  · exact TaskFrame.refl.setStatus rfl
  · exact TaskFrame.refl.setStatus rfl
  · exact .refl

theorem taskFrame_handle (h : handle input msg s = some s') : TaskFrame Ordinary s s' := by
  rw [handle] at h
  split_ifs at h <;> cases h
  · exact TaskFrame.refl.setStatus rfl
  · exact .refl
  · exact .ite (taskFrame_sendSelf (by decide)) .refl
  · exact taskFrame_aliyunRestart
  · exact taskFrame_aliyunYield
  · exact TaskFrame.refl.own
  · exact TaskFrame.refl.send (ordinary_of_id (n := ackOf msgAliyunGetTimeSync) rfl (by decide))
  · exact .refl

theorem keeper_server : Keeper Ordinary server where
  states h := by
    have hframe := taskFrame_states h
    rw [hframe.pc]
    exact ⟨hframe.toFrame, .inl rfl⟩
  taskProc h := by
    cases h
    exact taskFrame_taskProc.toFrame
  handle h := (taskFrame_handle h).toFrame
  handler h := by
    cases h
    exact TaskFrame.refl.toFrame
  thread h := by cases h
  release1 := TaskFrame.refl.toFrame
  release2 := TaskFrame.refl.toFrame
  drained := ⟨rfl, rfl, id, fun _ => rfl⟩
  serverStart := .inr rfl

end GokeWebcam.Server.Aliyun
