import GokeWebcam.Server.Frame

/-!
# The recorder server

`server/recorder/recorder.c`: the states of its state machine, its messages, the three job slots and
the recording threads. The frames, the files and the clock are left out; what they decide is an
input.

A thread is started with a pointer to a job, which it copies when it runs first. `recorderFunc` is
one step of it: the first lock, one round of its loop, its release.
-/

namespace GokeWebcam.Server.Recorder

open Common Global

/-- The states of a recording thread.
Source: `server/recorder/recorder_interface.h` `RECORDER_THREAD_NONE` -/
inductive ThreadStatus
  | none | inited | started | run | pause | error
  deriving DecidableEq, Repr

/-- What to record; the times and the fields no modelled function reads are left out.
Source: `server/recorder/recorder_interface.h` `recorder_init_t` -/
structure RecorderInit where
  type : CInt := 0#32
  repeated : CInt := 0#32
  audio : CInt := 0#32
  quality : CInt := 0#32
  deriving DecidableEq, Repr

/-- The record in a payload block. -/
def recorderInit (block : List (BitVec 8)) : RecorderInit where
  type := readInt block
  repeated := readInt (block.drop 12)
  audio := readInt (block.drop 20)
  quality := readInt (block.drop 24)

/-- Source: `server/recorder/recorder_interface.h` `recorder_job_t` -/
structure Job where
  status : ThreadStatus := .none
  tid : CInt := 0#32
  init : RecorderInit := {}
  deriving DecidableEq, Repr

/-- Where a recording thread is. -/
inductive ThreadPc
  | begin | loop | release
  deriving DecidableEq, Repr

/-- The local variable `ctrl` of `recorder_func`; `job` is the slot its argument points to. -/
structure RecorderThread where
  job : ℕ
  pc : ThreadPc := .begin
  tid : ℕ := 0
  init : RecorderInit := {}
  status : ThreadStatus := .none
  exit : Bool := false
  deriving DecidableEq, Repr

/-- Source: `server/recorder/recorder_interface.h` `MAX_RECORDER_JOB` -/
def maxRecorderJob : ℕ := 3

/-- Source: `server/recorder/recorder_interface.h` `aliyun_recorder_mode_t` -/
def aliyunRecorderModeNone : BitVec 8 := 0#8
def aliyunRecorderModeAlarm : BitVec 8 := 1#8
def aliyunRecorderModePlan : BitVec 8 := 2#8
def aliyunRecorderModeAll : BitVec 8 := 3#8

/-- Source: `library_goke/aliyun/linkvisual/link_visual_enum.h` -/
def lvStorageRecordPlan : CInt := 0#32
def lvStorageRecordAlarm : CInt := 1#32

/-- The stored `_config_.recorder_enable`, the static variable `jobs` of `recorder.c`, and the
threads that have been created. -/
structure Statics where
  recorderEnable : BitVec 8 := aliyunRecorderModeAll
  jobs : List Job := List.replicate maxRecorderJob {}
  threads : List RecorderThread := []
  deriving DecidableEq, Repr

/-- The state of the recorder server. -/
abbrev State := ServerState Statics

/-- Source: `server/recorder/recorder_interface.h` -/
def recorderPropertySwitch : CInt := 0x005#32

/-- Source: `server/recorder/recorder.h` `RECORDER_EXIT_CONDITION` -/
def recorderExitCondition : CInt := 0#32

variable (input : ServerInput) (msg : Message) (s : State)

/-! ### The jobs -/

def jobAt (i : ℕ) : Job := s.own.jobs.getD i {}

def setJob (i : ℕ) (job : Job) : State := { s with own := { s.own with jobs := s.own.jobs.set i job } }

/-- Source: `server/recorder/recorder.c` `count_job_number` -/
def countJobNumber : ℕ := s.own.jobs.countP fun job => job.status ≠ .none

/-- Whether the stored mode forbids a recording of this type.
Source: `server/recorder/recorder.c` `recorder_add_job` -/
def forbidden (type : CInt) : Bool :=
  let enable := s.own.recorderEnable
  (type = lvStorageRecordPlan ∧ (enable = aliyunRecorderModeNone ∨ enable = aliyunRecorderModeAlarm)) ∨
    (type = lvStorageRecordAlarm ∧ (enable = aliyunRecorderModeNone ∨ enable = aliyunRecorderModePlan))

/-- The first free slot gets the job and its thread.
Source: `server/recorder/recorder.c` `recorder_add_job`, the `for` loop -/
def startJob (init : RecorderInit) : State :=
  match s.own.jobs.findIdx? fun job => job.status = .none with
  | none => s
  | some i =>
    if !input.createOk then setJob s i { tid := -1#32, init := init }
    else
      let s := setJob s i { tid := BitVec.ofNat 32 i, status := .started, init := init }
      { s with
        info := { s.info with threadExit := miscClearBit s.info.threadExit i }
        own := { s.own with threads := s.own.threads ++ [{ job := i }] } }

/-- Source: `server/recorder/recorder.c` `recorder_add_job` -/
def recorderAddJob (init : Option RecorderInit) : Option State :=
  let ack : Message := serverMsg .recorder (ackOf msg.message)
  let refuse := s.send msg.receiver { ack with result := -1#32 }
  if s.own.recorderEnable = aliyunRecorderModeNone ∨ countJobNumber s = maxRecorderJob then
    some refuse
  else init.map fun init =>
    if forbidden s init.type then refuse else (startJob input s init).send msg.receiver ack

/-- The planned recording.
Source: `server/recorder/recorder.c` `recorder_start_init_recorder_job` -/
def recorderStartInitRecorderJob : Option State :=
  let init : RecorderInit :=
    { type := lvStorageRecordPlan, repeated := 1#32, audio := 1#32, quality := 1#32 }
  if s.info.status2 then some s
  else recorderAddJob input (serverMsg .recorder msgRecorderAdd) s (some init)

/-! ### The recording threads -/

def setThread (i : ℕ) (t : RecorderThread) : State :=
  { s with own := { s.own with threads := s.own.threads.set i t } }

/-- A request to the video or the audio server.
Source: `server/recorder/recorder.c` `recorder_thread_start_stream`,
`recorder_thread_stop_stream` -/
def streamRequest (t : RecorderThread) (id : CInt) (argIn argPass : MessageArg) : Message :=
  { serverMsg .recorder id with
    argIn := { argIn with wolf := BitVec.ofNat 32 t.tid, cat := t.init.quality }, argPass := argPass }

/-- Source: `server/recorder/recorder.c` `recorder_thread_start_stream` -/
def recorderThreadStartStream (t : RecorderThread) : State :=
  let argPass : MessageArg := { wolf := BitVec.ofNat 32 t.tid }
  let s := s.send ServerType.video.toInt (streamRequest t msgVideoStart {} argPass)
  if t.init.audio ≠ 0#32 then
    s.send ServerType.audio.toInt (streamRequest t msgAudioStart {} argPass)
  else s

/-- Source: `server/recorder/recorder.c` `recorder_thread_stop_stream` -/
def recorderThreadStopStream (t : RecorderThread) (realStop : CInt) : State :=
  let s := s.send ServerType.video.toInt (streamRequest t msgVideoStop { duck := realStop } {})
  if t.init.audio ≠ 0#32 then
    s.send ServerType.audio.toInt (streamRequest t msgAudioStop { duck := realStop } {})
  else s

/-- Source: `server/recorder/recorder.c` `recorder_func`, before the loop -/
def threadStart (i : ℕ) (t : RecorderThread) : State :=
  let job := jobAt s t.job
  let tid := job.tid.toNat
  setThread (s.threadBegin tid) i
    { t with pc := .loop, tid := tid, init := job.init, status := .started }

/-- Source: `server/recorder/recorder.c` `recorder_func`, the loop -/
def threadLoop (i : ℕ) (t : RecorderThread) : State :=
  if s.info.exit ∨ t.exit ∨ miscGetBit s.info.threadExit t.tid ≠ 0#32 then
    setThread s i { t with pc := .release }
  else
    match t.status with
    | .started =>
      if !input.found then s
      else if input.ok then
        setThread (recorderThreadStartStream s t) i { t with status := .run }
      else setThread s i { t with status := .error }
    | .run => if input.finished then setThread s i { t with status := .pause } else s
    | .pause =>
      if t.init.repeated = 0#32 then setThread s i { t with exit := true }
      else
        let s := recorderThreadStopStream s t (if input.changed then 1#32 else 0#32)
        setThread s i { t with status := .started }
    | .error => setThread s i { t with exit := true }
    | _ => s

/-- Source: `server/recorder/recorder.c` `recorder_func`, after the loop -/
def threadRelease (i : ℕ) (t : RecorderThread) : State :=
  let s := recorderThreadStopStream s t 1#32
  let s := setJob (s.threadEnd t.tid) t.tid {}
  let s : State := { s with
    info := { s.info with threadExit := miscClearBit s.info.threadExit t.tid }
    own := { s.own with threads := s.own.threads.eraseIdx i } }
  s.send ServerType.recorder.toInt (serverMsg .recorder msgManagerDummy)

/-- One step of the thread `input.tid` of those that exist.
Source: `server/recorder/recorder.c` `recorder_func` -/
def recorderFunc : Option State :=
  (s.own.threads[input.tid]?).map fun t =>
    match t.pc with
    | .begin => threadStart s input.tid t
    | .loop => threadLoop input s input.tid t
    | .release => threadRelease s input.tid t

/-! ### The state machine -/

/-- Source: `server/recorder/recorder.c` `server_init` -/
def serverInit : State := cardAndClockInit .recorder s

/-- All threads are told to end, and the main thread waits for them.
Source: `server/recorder/recorder.c` `server_stop`, `server_restart`, `server_reinit`, before the
`while` -/
def serverDrain (status : ServerStatus) : State :=
  let threads := (List.range maxRecorderJob).foldl miscSetBit s.info.threadExit
  let s : State := { s with info := { s.info with threadExit := threads } }
  { s.send ServerType.recorder.toInt (serverMsg .recorder msgManagerDummy) with pc := .drain status }

/-- Source: `server/recorder/recorder.c` `server_stop`, `server_restart`, `server_reinit`, after the
`while` -/
def drained (status : ServerStatus) : State :=
  let next (status : ServerStatus) : State :=
    { s with info := { s.info with status2 := false, status := status } }
  match status with
  | .stop => next .idle
  | .restart => next .wait
  | _ => { s with info := {} }

/-- Source: `server/recorder/recorder.c` `state_machine` -/
def states : Option State :=
  match s.info.status with
  | .init => some (serverInit s)
  | .setup => some (s.setStatus .idle)
  | .start => some (s.setStatus .run)
  | .run =>
    let enable := s.own.recorderEnable
    if !s.info.status2 ∧ (enable = aliyunRecorderModePlan ∨ enable = aliyunRecorderModeAll) then
      (recorderStartInitRecorderJob input s).map fun s =>
        { s with info := { s.info with status2 := true } }
    else some s
  | .stop => some (serverDrain s .stop)
  | .restart => some (serverDrain s .restart)
  | .reinit => some (serverDrain s .reinit)
  | _ => some s

/-- Source: `server/recorder/recorder.c` `task_proc` -/
def taskProc : State :=
  match s.info.status with
  | .none => s.setStatus .init
  | .wait => if s.own.recorderEnable ≠ 0#8 then s.setStatus .setup else s
  | .idle => s.setStatus .start
  | _ => s

/-! ### The messages -/

/-- Source: `server/recorder/recorder.c` `recorder_set_property` -/
def recorderSetProperty : Option State :=
  if msg.argIn.cat = recorderPropertySwitch then
    msg.arg.map fun block =>
      let temp := readInt block
      if s.own.recorderEnable.setWidth 32 ≠ temp then
        let s := s.setStatus (if temp = 0#32 then .stop else .start)
        { s with own := { s.own with recorderEnable := temp.setWidth 8 } }
      else s
  else some s

/-- Source: `server/recorder/recorder.c` `server_message_proc` -/
def handle : Option State :=
  if msg.message = msgRecorderAdd then
    if s.info.status = .run then recorderAddJob input msg s (msg.arg.map recorderInit) else some s
  else if msg.message = msgDeviceSdFormatStart then some ((s.setTaskMsg msg).setStatus .reinit)
  else if msg.message = msgRecorderPropertySet then recorderSetProperty msg s
  else (cardAndClockMessage msg s).or (some s)

/-! ### The server -/

/-- Only the first job is cleared.
Source: `server/recorder/recorder.c` `server_release_2` -/
def serverRelease2 : State := setJob s 0 {}

/-- The recorder registers no timer. Functions of other servers do not touch its variables.
Source: `server/recorder/recorder.c` -/
def server : ServerCode Statics where
  server := .recorder
  exitCondition := recorderExitCondition
  hasMessageBlock := false
  states := states
  taskProc := fun _ s => some (taskProc s)
  handle := fun input msg s => handle input msg s
  handler := fun _ _ s => some s
  thread := recorderFunc
  drained := fun status s => drained s status
  serverRelease1 := fun _ s => s
  serverRelease2 := serverRelease2
  serverStart := id

/-! ### What the functions leave alone -/

variable {input msg s} {s' : State} {t : RecorderThread}

theorem taskFrame_startJob {init : RecorderInit} : TaskFrame Ordinary s (startJob input s init) := by
  rw [startJob]
  split
  · exact .refl
  split
  · exact TaskFrame.refl.own
  · exact TaskFrame.refl.own.threadExit.own

/-- The answer has the id of the request. -/
theorem taskFrame_recorderAddJob {init : Option RecorderInit}
    (hmsg : msg.message = msgRecorderAdd) (h : recorderAddJob input msg s init = some s') :
    TaskFrame Ordinary s s' := by
  have hack : ∀ result,
      Ordinary { serverMsg .recorder (ackOf msg.message) with result := result } := fun _ =>
    ordinary_of_id (n := ackOf msgRecorderAdd) (by rw [hmsg]; rfl) (by decide)
  rw [recorderAddJob] at h
  split at h
  · cases h
    exact TaskFrame.refl.send (hack _)
  · rw [Option.map_eq_some_iff] at h
    obtain ⟨init, -, rfl⟩ := h
    exact (TaskFrame.refl.send (hack _)).ite (taskFrame_startJob.send (hack _))

theorem ordinary_streamRequest {id : CInt} {argIn argPass : MessageArg}
    (hid : id ≠ msgManagerExit ∧ id ≠ msgManagerExitAck) :
    Ordinary (streamRequest t id argIn argPass) := ordinary_of_id rfl hid

theorem taskFrame_recorderThreadStartStream :
    TaskFrame Ordinary s (recorderThreadStartStream s t) := by
  rw [recorderThreadStartStream]
  have hstart : ∀ {argPass}, TaskFrame Ordinary s
      (s.send ServerType.video.toInt (streamRequest t msgVideoStart {} argPass)) :=
    TaskFrame.refl.send (ordinary_streamRequest (by decide))
  exact (hstart.send (ordinary_streamRequest (by decide))).ite hstart

theorem taskFrame_recorderThreadStopStream {realStop : CInt} :
    TaskFrame Ordinary s (recorderThreadStopStream s t realStop) := by
  rw [recorderThreadStopStream]
  have hstop : TaskFrame Ordinary s (s.send ServerType.video.toInt
      (streamRequest t msgVideoStop { duck := realStop } {})) :=
    TaskFrame.refl.send (ordinary_streamRequest (by decide))
  exact (hstop.send (ordinary_streamRequest (by decide))).ite hstop

theorem taskFrame_recorderFunc (h : recorderFunc input s = some s') : TaskFrame Ordinary s s' := by
  rw [recorderFunc, Option.map_eq_some_iff] at h
  obtain ⟨t, -, rfl⟩ := h
  rcases t.pc with _ | _ | _
  · exact TaskFrame.refl.threadBegin.own
  · dsimp only
    rw [threadLoop]
    split
    · exact TaskFrame.refl.own
    split
    · refine .ite .refl (.ite ?_ TaskFrame.refl.own)
      exact taskFrame_recorderThreadStartStream.own
    · exact .ite TaskFrame.refl.own .refl
    · exact .ite TaskFrame.refl.own taskFrame_recorderThreadStopStream.own
    · exact TaskFrame.refl.own
    · exact .refl
  · exact taskFrame_recorderThreadStopStream.threadEnd.own.threadExit.own.send (by decide)

theorem info_recorderThreadStartStream : (recorderThreadStartStream s t).info = s.info := by
  rw [recorderThreadStartStream]
  split_ifs <;> rfl

theorem info_recorderThreadStopStream {realStop : CInt} :
    (recorderThreadStopStream s t realStop).info = s.info := by
  rw [recorderThreadStopStream]
  split_ifs <;> rfl

/-- The threads leave the status alone. -/
theorem status_recorderFunc (h : recorderFunc input s = some s') :
    s'.info.status = s.info.status := by
  rw [recorderFunc, Option.map_eq_some_iff] at h
  obtain ⟨t, -, rfl⟩ := h
  rcases t.pc with _ | _ | _
  · rfl
  · dsimp only
    rw [threadLoop]
    split
    · rfl
    split
    · split_ifs
      · rfl
      · exact congrArg (·.status) info_recorderThreadStartStream
      · rfl
    · split_ifs <;> rfl
    · split
      · rfl
      · exact congrArg (·.status) info_recorderThreadStopStream
    · rfl
    · rfl
  · exact congrArg (·.status) info_recorderThreadStopStream

theorem taskFrame_recorderSetProperty (h : recorderSetProperty msg s = some s') :
    TaskFrame Ordinary s s' := by
  rw [recorderSetProperty] at h
  split at h
  · rw [Option.map_eq_some_iff] at h
    obtain ⟨block, -, rfl⟩ := h
    refine .ite (TaskFrame.setStatus ?_ .refl).own .refl
    split_ifs <;> rfl
  · cases h
    exact .refl

/-- Messages other than the start of a format leave the task alone. -/
theorem taskFrame_handle (hformat : msg.message ≠ msgDeviceSdFormatStart)
    (h : handle input msg s = some s') : TaskFrame Ordinary s s' := by
  rw [handle, if_neg hformat] at h
  split_ifs at h with hadd hrun hset
  · exact taskFrame_recorderAddJob hadd h
  · cases h
    exact .refl
  · exact taskFrame_recorderSetProperty h
  · rcases hcard : cardAndClockMessage msg s with _ | s₁
    · rw [hcard] at h
      cases h
      exact .refl
    · rw [hcard] at h
      cases h
      exact taskFrame_cardAndClockMessage hcard

theorem frame_handle (h : handle input msg s = some s') : Frame Ordinary s s' := by
  by_cases hformat : msg.message = msgDeviceSdFormatStart
  · have hadd : msg.message ≠ msgRecorderAdd := by
      rw [hformat]
      decide
    rw [handle, if_neg hadd, if_pos hformat] at h
    cases h
    exact (TaskFrame.refl.toFrame.setTaskMsg).trans (TaskFrame.refl.setStatus rfl).toFrame
  · exact (taskFrame_handle hformat h).toFrame

theorem taskFrame_taskProc : TaskFrame Ordinary s (taskProc s) := by
  rw [taskProc]
  split
  · exact TaskFrame.refl.setStatus rfl
  · exact .ite (TaskFrame.refl.setStatus rfl) .refl
  · exact TaskFrame.refl.setStatus rfl
  · exact .refl

theorem frame_serverDrain {status : ServerStatus} :
    Frame Ordinary { s with pc := .drain status } (serverDrain s status) :=
  (TaskFrame.refl.threadExit.send (by decide)).toFrame

theorem frame_states (h : states input s = some s') :
    Frame Ordinary { s with pc := s'.pc } s' ∧ (s'.pc = s.pc ∨ ∃ status, s'.pc = .drain status) := by
  have of_frame : TaskFrame Ordinary s s' → Frame Ordinary { s with pc := s'.pc } s' ∧
      (s'.pc = s.pc ∨ ∃ status, s'.pc = .drain status) := by
    intro hframe
    rw [hframe.pc]
    exact ⟨hframe.toFrame, .inl rfl⟩
  rw [states] at h
  split at h
  · cases h
    exact of_frame taskFrame_cardAndClockInit
  · cases h
    exact of_frame (TaskFrame.refl.setStatus rfl)
  · cases h
    exact of_frame (TaskFrame.refl.setStatus rfl)
  · dsimp only at h
    split_ifs at h
    · rw [Option.map_eq_some_iff] at h
      obtain ⟨s₁, hs₁, rfl⟩ := h
      refine of_frame (TaskFrame.status2 ?_)
      rw [recorderStartInitRecorderJob] at hs₁
      split_ifs at hs₁
      · cases hs₁
        exact .refl
      · exact taskFrame_recorderAddJob rfl hs₁
    · cases h
      exact of_frame .refl
  · cases h
    exact ⟨frame_serverDrain, .inr ⟨_, rfl⟩⟩
  · cases h
    exact ⟨frame_serverDrain, .inr ⟨_, rfl⟩⟩
  · cases h
    exact ⟨frame_serverDrain, .inr ⟨_, rfl⟩⟩
  · cases h
    exact of_frame .refl

theorem keeper_server : Keeper Ordinary server where
  states := frame_states
  taskProc h := by
    cases h
    exact taskFrame_taskProc.toFrame
  handle := frame_handle
  handler h := by
    cases h
    exact TaskFrame.refl.toFrame
  thread h := (taskFrame_recorderFunc h).toFrame
  release1 := TaskFrame.refl.toFrame
  release2 := TaskFrame.refl.own.toFrame
  drained := by
    intro status s
    dsimp only [server, drained]
    split
    · exact ⟨rfl, rfl, id, by rintro ⟨⟩⟩
    · exact ⟨rfl, rfl, id, by rintro ⟨⟩⟩
    · exact ⟨rfl, rfl, by rintro ⟨⟩, by rintro ⟨⟩⟩
  serverStart := .inl rfl

end GokeWebcam.Server.Recorder
