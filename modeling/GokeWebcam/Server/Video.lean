import GokeWebcam.Server.Frame

/-!
# The video server

`server/video/video.c`: the states of its state machine, its task with the three client requests,
and its messages. The stream channels, the encoder threads' work and the hardware layer are left
out; `running_info.md_init` and the enabled streams of the profile are kept, because messages and
the start depend on them.
-/

namespace GokeWebcam.Server.Video

open Common Global

/-- The static variables of `video.c` and `task_proc` that are modelled: the streams enabled in the
profile, as bits of their encoder threads; whether the motion detection stream is enabled;
`running_info.md_init`; `para_set`. -/
structure Statics where
  streams : CInt := 7#32
  md : Bool := true
  mdInit : Bool := false
  paraSet : Bool := false
  deriving DecidableEq, Repr

/-- The state of the video server. -/
abbrev State := ServerState Statics

/-- The bits of `thread_start`.
Source: `server/video/config.h` `video_thread_id_t` -/
def videoThreadIsp : ℕ := 3
def videoThreadIspExtra : ℕ := 4
def videoThreadOsd : ℕ := 5
def videoThreadMd : ℕ := 6

/-- Source: `server/video/video.h` `video_init_condition_e` -/
def videoInitConditionGoke : ℕ := 0
def videoInitConditionNum : ℕ := 1

/-- Source: `server/goke/goke_interface.h` `goke_status_t` -/
def gokePropertyStatus : CInt := 0#32

/-- Source: `server/video/video_interface.h` -/
def videoPropertyNightShot : CInt := 0x0002#32
def videoPropertyTimeWatermark : CInt := 0x0003#32

/-- The properties whose new value is read from the payload.
Source: `server/video/video.c` `video_set_property` -/
def videoIntProperties : List CInt :=
  [0x0002#32, 0x0003#32, 0x0004#32, 0x0010#32, 0x0011#32, 0x0012#32, 0x0020#32, 0x0021#32,
    0x0022#32, 0x0023#32]

/-- Source: `server/video/video.h` `VIDEO_EXIT_CONDITION` -/
def videoExitCondition : CInt :=
  (1#32 <<< ServerType.recorder.toNat) ||| (1#32 <<< ServerType.aliyun.toNat)

variable (input : ServerInput) (s : State)

/-! ### The hardware -/

/-- Source: `server/video/video.c` `video_test_full_thread` -/
def videoTestFullThread : Bool :=
  let started (i : ℕ) : Bool := miscGetBit s.info.threadStart i ≠ 0#32
  started videoThreadIsp && started videoThreadIspExtra && started videoThreadOsd &&
    (!s.own.md || started videoThreadMd) &&
    (List.range 3).all fun i => started i || miscGetBit s.own.streams i == 0#32

/-- The timer request for the motion detection schedule.
Source: `server/video/video.c` `video_init`, `video_uninit` -/
def mdTimer (id : CInt) : Message where
  message := id
  sender := ServerType.video.toInt
  argIn := { cat := if id = msgManagerTimerAdd then 1000#32 else 0#32
             handler := some .videoMdCheckScheduler }

/-- Source: `server/video/video.c` `video_init` -/
def videoInit : State :=
  let s : State := { s with own := { s.own with mdInit := false } }
  if input.ok ∧ s.own.md then
    let s := s.send ServerType.manager.toInt (mdTimer msgManagerTimerAdd)
    { s with own := { s.own with mdInit := true } }
  else s

/-- Source: `server/video/video.c` `video_stop` -/
def videoStop : State :=
  { s with info := { s.info with threadExit := s.info.threadExit ||| input.threads } }

/-- Source: `server/video/video.c` `video_uninit` -/
def videoUninit : State :=
  if s.own.mdInit then
    let s := s.send ServerType.manager.toInt (mdTimer msgManagerTimerRemove)
    { s with own := { s.own with mdInit := false } }
  else s

/-! ### The state machine -/

/-- Source: `server/video/video.c` `server_init` -/
def serverInit : State :=
  let s :=
    if miscGetBit s.info.initStatus videoInitConditionGoke = 0#32 then
      s.send ServerType.goke.toInt { serverMsg .video msgGokePropertyGet with
        argIn := { cat := gokePropertyStatus } }
    else s
  if miscFullBit s.info.initStatus videoInitConditionNum then s.setStatus .wait else s

/-- Source: `server/video/video.c` `server_setup` -/
def serverSetup : State :=
  (videoInit input s).setStatus (if input.ok then .idle else .error)

/-- Source: `server/video/video.c` `server_start` -/
def serverStart : State :=
  if input.ok then if videoTestFullThread s then s.setStatus .run else s
  else s.setStatus .error

/-- `video_stop` has no `return`, so its result is any value.
Source: `server/video/video.c` `server_stop` -/
def serverStop : State :=
  let s := videoStop input s
  if input.ok then if s.info.threadStart = 0#32 then s.setStatus .idle else s
  else s.setStatus .error

/-- Source: `server/video/video.c` `server_restart` -/
def serverRestart : State :=
  let s := videoStop input s
  if input.ok then
    if s.info.threadStart = 0#32 then
      let s := videoUninit s
      if input.uninitOk then s.setStatus .idle else s
    else s.setStatus .error
  else s.setStatus .error

/-- Source: `server/video/video.c` `state_machine` -/
def states : Option State :=
  match s.info.status with
  | .init => some (serverInit s)
  | .setup => some (serverSetup input s)
  | .start => some (serverStart input s)
  | .stop => some (serverStop input s)
  | .restart => some (serverRestart input s)
  | _ => some s

/-! ### The task -/

/-- Source: `server/video/video.c` `task_proc`, `TASK_TYPE_NONE` -/
def taskNone : State :=
  match s.info.status with
  | .none => s.setStatus .init
  | .wait => s.setStatus .setup
  | .idle => s.setStatus .start
  | _ => s

/-- Source: `server/video/video.c` `task_proc`, `TASK_TYPE_START` -/
def taskStart : State :=
  match s.info.status with
  | .none => s.setStatus .init
  | .wait => s.setStatus .setup
  | .idle => s.setStatus .start
  | .run => finishTask (taskAck .video s.info.task 0#32) s
  | status =>
    if ServerStatus.error.toNat ≤ status.toNat then
      finishTask (taskAck .video s.info.task (-1#32)) s
    else s

/-- Source: `server/video/video.c` `task_proc`, `TASK_TYPE_STOP` -/
def taskStop : State :=
  if ServerStatus.error.toNat ≤ s.info.status.toNat then
    finishTask (taskAck .video s.info.task (-1#32)) s
  else finishTask (taskAck .video s.info.task 0#32) s

def setParaSet (paraSet : Bool) : State := { s with own := { s.own with paraSet := paraSet } }

/-- The end of a restart task, `temp` being the value sent back.
Source: `server/video/video.c` `task_proc`, `TASK_TYPE_RESTART`, `if (finished)` -/
def finishRestart (temp : CInt) : State :=
  setParaSet (finishTask { taskAck .video s.info.task 0#32 with
    arg := some (intBytes temp), argSize := 4#32 } s) false

/-- Source: `server/video/video.c` `task_proc`, `TASK_TYPE_RESTART` -/
def taskRestart : Option State :=
  let task := s.info.task
  let watermark : Bool := task.msg.argIn.cat = videoPropertyTimeWatermark
  match s.info.status with
  | .wait =>
    (if watermark then task.msg.arg.map readInt else some input.temp).map fun temp =>
      let s := setParaSet s true
      if task.startStatus = .wait then finishRestart s temp else s.setStatus .setup
  | .idle =>
    if s.own.paraSet then
      if task.startStatus = .idle then some (finishRestart s input.temp)
      else some (s.setStatus .start)
    else some (s.setStatus .restart)
  | .run =>
    if s.own.paraSet then some (finishRestart s input.temp)
    else if watermark then task.msg.arg.map fun block => finishRestart s (readInt block)
    else some (s.setStatus .restart)
  | _ => some (finishRestart s input.temp)

/-- Source: `server/video/video.c` `task_proc` -/
def taskProc : Option State :=
  match s.info.task.type with
  | .none => some (taskNone s)
  | .start => some (taskStart s)
  | .stop => some (taskStop s)
  | .restart => taskRestart input s
  | .recorderAdd => some s

/-! ### The messages -/

/-- The request to release the filter's motor.
Source: `server/video/video.c` `video_set_property`, `VIDEO_PROPERTY_NIGHT_SHOT` -/
def ircutTimer : Message where
  message := msgManagerTimerAdd
  sender := ServerType.video.toInt
  argIn := { cat := 200#32, dog := 0#32, duck := 1#32, handler := some .ircutOptRelease }

/-- Source: `server/video/video.c` `video_set_property` -/
def videoSetProperty (msg : Message) : Option State :=
  if msg.argIn.cat ∈ videoIntProperties ∧ msg.arg = none then none
  else if msg.argIn.cat = videoPropertyNightShot ∧ input.changed then
    some (s.send ServerType.manager.toInt ircutTimer)
  else some s

/-- Source: `server/video/video.c` `server_message_proc`, `MSG_PLAYER_REQUEST_SYNC` -/
def requestSyncAck (msg : Message) : Message :=
  { serverMsg .video (ackOf msgPlayerRequestSync) with
    argIn := { cat := msg.argIn.cat, dog := msg.argIn.dog } }

/-- Whether a message reports that the goke server runs.
Source: `server/video/video.c` `server_message_proc`, `MSG_GOKE_PROPERTY_NOTIFY` -/
def gokeRuns (msg : Message) : Bool :=
  msg.argIn.cat = gokePropertyStatus ∧ msg.argIn.dog = BitVec.ofNat 32 ServerStatus.run.toNat

/-- Source: `server/video/video.c` `server_message_proc` -/
def handle (msg : Message) : Option State :=
  if msg.message = msgVideoStart then some (beginTask .start msg s)
  else if msg.message = msgVideoStop then some (beginTask .stop msg s)
  else if msg.message = msgVideoPropertySetDirect then videoSetProperty input s msg
  else if msg.message = msgVideoPropertySetExt then
    let s := beginTask .restart msg s
    some (s.setTask { s.info.task with startStatus := s.info.status })
  else if msg.message = msgGokePropertyNotify ∨ msg.message = ackOf msgGokePropertyGet then
    if gokeRuns msg then some (s.setInitBit videoInitConditionGoke) else some s
  else if msg.message = msgPlayerRequestSync then
    some (s.send ServerType.player.toInt (requestSyncAck msg))
  else some s

/-! ### The server -/

/-- Source: `server/video/video.c` `server_release_1` -/
def serverRelease1 : State := videoUninit (videoStop input s)

/-- The configuration is cleared.
Source: `server/video/video.c` `server_release_2` -/
def serverRelease2 : State := { s with own := { s.own with streams := 0#32, md := false } }

/-- The functions called back by timers touch none of the variables kept here.
Source: `server/video/video.c` -/
def server : ServerCode Statics where
  server := .video
  exitCondition := videoExitCondition
  hasMessageBlock := true
  states := states
  taskProc := taskProc
  handle := fun input msg s => handle input s msg
  handler := fun _ _ s => some s
  thread := fun input s => some (serverThread .video input s)
  drained := fun _ s => s
  serverRelease1 := serverRelease1
  serverRelease2 := serverRelease2
  serverStart := id

/-! ### What the functions leave alone -/

/-- A request that is served as a task. -/
def isRequest (msg : Message) : Bool :=
  msg.message = msgVideoStart ∨ msg.message = msgVideoStop ∨ msg.message = msgVideoPropertySetExt

/-- An answer to such a request. -/
def isRequestAck (msg : Message) : Bool :=
  msg.message = ackOf msgVideoStart ∨ msg.message = ackOf msgVideoStop ∨
    msg.message = ackOf msgVideoPropertySetExt

/-- Neither a message of the exit protocol nor an answer to a request. -/
def Plain (msg : Message) : Prop := Ordinary msg ∧ isRequestAck msg = false

instance {msg : Message} : Decidable (Plain msg) := inferInstanceAs (Decidable (_ ∧ _))

variable {input s} {s' : State} {msg : Message}

theorem taskFrame_videoInit : TaskFrame Plain s (videoInit input s) := by
  rw [videoInit]
  split_ifs
  · exact (TaskFrame.refl.own.send (by decide)).own
  · exact TaskFrame.refl.own

theorem taskFrame_videoUninit : TaskFrame Plain s (videoUninit s) := by
  rw [videoUninit]
  split_ifs
  · exact (TaskFrame.refl.send (by decide)).own
  · exact .refl

theorem taskFrame_videoStop : TaskFrame Plain s (videoStop input s) := TaskFrame.refl.threadExit

theorem taskFrame_serverRelease1 : TaskFrame Plain s (serverRelease1 input s) :=
  taskFrame_videoStop.trans taskFrame_videoUninit

theorem taskFrame_serverInit : TaskFrame Plain s (serverInit s) := by
  rw [serverInit]
  split_ifs
  · exact (TaskFrame.refl.send (by decide)).setStatus rfl
  · exact TaskFrame.refl.send (by decide)
  · exact TaskFrame.refl.setStatus rfl
  · exact .refl

/-- No state below `STATUS_ERROR` touches the task. -/
theorem taskFrame_states (h : states input s = some s') : TaskFrame Plain s s' := by
  rw [states] at h
  split at h <;> cases h
  · exact taskFrame_serverInit
  · refine taskFrame_videoInit.setStatus ?_
    cases input.ok <;> rfl
  · rw [serverStart]
    split_ifs
    · exact TaskFrame.refl.setStatus rfl
    · exact .refl
    · exact TaskFrame.refl.setStatus rfl
  · rw [serverStop]
    split_ifs
    · exact taskFrame_videoStop.setStatus rfl
    · exact taskFrame_videoStop
    · exact taskFrame_videoStop.setStatus rfl
  · rw [serverRestart]
    split_ifs
    · exact (taskFrame_videoStop.trans taskFrame_videoUninit).setStatus rfl
    · exact taskFrame_videoStop.trans taskFrame_videoUninit
    · exact taskFrame_videoStop.setStatus rfl
    · exact taskFrame_videoStop.setStatus rfl
  · exact .refl

theorem plain_of_eq {m : Message} (hid : msg.message = m.message) (hm : Plain m) : Plain msg := by
  simp only [Plain, Ordinary, isRequestAck, hid] at hm ⊢
  exact hm

theorem taskKeeper_server : TaskKeeper Plain server where
  states := taskFrame_states
  release1 := taskFrame_serverRelease1
  release2 := TaskFrame.refl.own

/-- Messages other than the requests do not touch the task. -/
theorem taskFrame_handle (hmsg : isRequest msg = false) (h : handle input s msg = some s') :
    TaskFrame Plain s s' := by
  simp only [isRequest, decide_eq_false_iff_not, not_or] at hmsg
  obtain ⟨hstart, hstop, hset⟩ := hmsg
  rw [handle, if_neg hstart, if_neg hstop, if_neg hset] at h
  split_ifs at h
  · rw [videoSetProperty] at h
    split_ifs at h
    · cases h
      exact TaskFrame.refl.send (by decide)
    · cases h
      exact .refl
  · cases h
    exact TaskFrame.refl.setInitBit
  · cases h
    exact .refl
  · cases h
    exact TaskFrame.refl.send (plain_of_eq (m := requestSyncAck msgInit) rfl (by decide))
  · cases h
    exact .refl

/-- The task of `s` is answered with `ack`. -/
structure Finished (ack : Message) (s s' : State) : Prop where
  message : s'.message = s.message
  pc : s'.pc = s.pc
  info : s'.info = (finishTask ack s).info
  out : s'.out = s.out ++ [(s.info.task.msg.receiver, ack)]
  id : ack.message = ackOf s.info.task.msg.message
  argPass : ack.argPass = s.info.task.msg.argPass

theorem finished_finishTask {result : CInt} :
    ∃ ack, Finished ack s (finishTask (taskAck .video s.info.task result) s) :=
  ⟨_, rfl, rfl, rfl, rfl, rfl, rfl⟩

theorem finished_finishRestart {paraSet : Bool} {temp : CInt} :
    ∃ ack, Finished ack s (finishRestart (setParaSet s paraSet) temp) :=
  ⟨_, rfl, rfl, rfl, rfl, rfl, rfl⟩

/-- A restart ends, or sets the next status. -/
theorem taskRestart_cases (h : taskRestart input s = some s') :
    (∃ paraSet temp, s' = finishRestart (setParaSet s paraSet) temp) ∨
      ∃ paraSet status, s' = (setParaSet s paraSet).setStatus status ∧ status.isExit = false ∧
        s.info.status.toNat < ServerStatus.error.toNat := by
  rw [taskRestart] at h
  split at h
  case h_1 hstatus =>
    rw [Option.map_eq_some_iff] at h
    obtain ⟨temp, -, rfl⟩ := h
    dsimp only
    split_ifs
    · exact .inl ⟨true, temp, rfl⟩
    · exact .inr ⟨true, _, rfl, rfl, by rw [hstatus]; decide⟩
  case h_2 hstatus =>
    split_ifs at h <;> cases h
    · exact .inl ⟨s.own.paraSet, _, rfl⟩
    · exact .inr ⟨s.own.paraSet, _, rfl, rfl, by rw [hstatus]; decide⟩
    · exact .inr ⟨s.own.paraSet, _, rfl, rfl, by rw [hstatus]; decide⟩
  case h_3 hstatus =>
    split_ifs at h
    · cases h
      exact .inl ⟨s.own.paraSet, _, rfl⟩
    · rw [Option.map_eq_some_iff] at h
      obtain ⟨block, -, rfl⟩ := h
      exact .inl ⟨s.own.paraSet, _, rfl⟩
    · cases h
      exact .inr ⟨s.own.paraSet, _, rfl, rfl, by rw [hstatus]; decide⟩
  case h_4 =>
    cases h
    exact .inl ⟨s.own.paraSet, _, rfl⟩

theorem taskFrame_taskNone : TaskFrame Plain s (taskNone s) := by
  rw [taskNone]
  split
  · exact TaskFrame.refl.setStatus rfl
  · exact TaskFrame.refl.setStatus rfl
  · exact TaskFrame.refl.setStatus rfl
  · exact .refl

/-- A start task waits for `STATUS_RUN`. -/
theorem taskStart_cases :
    (TaskFrame Plain s (taskStart s) ∧ s.info.status.toNat < ServerStatus.error.toNat) ∨
      ∃ ack, Finished ack s (taskStart s) := by
  rw [taskStart]
  split
  case h_4 => exact .inr finished_finishTask
  case h_5 =>
    split_ifs with herror
    · exact .inr finished_finishTask
    · exact .inl ⟨.refl, by omega⟩
  all_goals
    rename_i hstatus
    exact .inl ⟨TaskFrame.refl.setStatus rfl, by rw [hstatus]; decide⟩

/-- A task ends with its answer, or it goes on; from `STATUS_ERROR` on it ends. -/
theorem taskProc_cases (h : taskProc input s = some s') :
    (TaskFrame Plain s s' ∧ (s.info.task.type = .none ∨ s.info.task.type = .recorderAdd ∨
        s.info.status.toNat < ServerStatus.error.toNat)) ∨
      (s.info.task.type ≠ .none ∧ ∃ ack, Finished ack s s') := by
  rw [taskProc] at h
  split at h
  case h_1 htype =>
    cases h
    exact .inl ⟨taskFrame_taskNone, .inl htype⟩
  case h_2 htype =>
    cases h
    obtain ⟨hframe, hlt⟩ | hfinish := taskStart_cases (s := s)
    · exact .inl ⟨hframe, .inr (.inr hlt)⟩
    · exact .inr ⟨by rw [htype]; decide, hfinish⟩
  case h_3 htype =>
    cases h
    refine .inr ⟨by rw [htype]; decide, ?_⟩
    rw [taskStop]
    split_ifs
    · exact finished_finishTask
    · exact finished_finishTask
  case h_4 htype =>
    obtain ⟨paraSet, temp, rfl⟩ | ⟨paraSet, status, rfl, hexit, hlt⟩ := taskRestart_cases h
    · exact .inr ⟨by rw [htype]; decide, finished_finishRestart⟩
    · exact .inl ⟨TaskFrame.refl.own.setStatus hexit, .inr (.inr hlt)⟩
  case h_5 htype =>
    cases h
    exact .inl ⟨.refl, .inr (.inl htype)⟩

end GokeWebcam.Server.Video
