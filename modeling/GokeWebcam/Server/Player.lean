import GokeWebcam.Server.Frame

/-!
# The player server

`server/player/player.c`: the states of its state machine, its messages, the four job slots and the
playback threads. The recordings themselves, their search and the playback of a frame are left out;
what they report is an input.

A thread is started with a pointer into a job slot, out of which it reads its number when it runs
first. `playerFunc` is one step of it: up to the end of the first lock, one head of its loop, one
body, its release.
-/

namespace GokeWebcam.Server.Player

open Common Global

/-- The states of a playback thread.
Source: `server/player/player.h` `PLAYER_THREAD_NONE` -/
inductive ThreadStatus
  | none | inited | sync | idle | run | stop | pause | finish | error
  deriving DecidableEq, Repr

/-- What to play; the names and times of the recording are left out.
Source: `server/player/player_interface.h` `player_init_t` -/
structure PlayerInit where
  offset : BitVec 8 := 0#8
  speed : BitVec 8 := 0#8
  audio : BitVec 8 := 0#8
  channel : CInt := 0#32
  tid : CInt := 0#32
  type : CInt := 0#32
  keyonly : Bool := false
  deriving DecidableEq, Repr

/-- The record in a payload block. -/
def playerInit (block : List (BitVec 8)) : PlayerInit where
  offset := block.getD 3 0#8
  speed := block.getD 4 0#8
  audio := block.getD 6 0#8
  channel := readInt (block.drop 24)
  tid := readInt (block.drop 28)
  type := readInt (block.drop 32)
  keyonly := block.getD 36 0#8 ≠ 0#8

/-- Source: `server/player/player.h` `player_job_t` -/
structure Job where
  status : ThreadStatus := .none
  run : Bool := false
  speed : BitVec 8 := 0#8
  restart : Bool := false
  exit : CInt := 0#32
  pause : Bool := false
  audio : BitVec 8 := 0#8
  init : PlayerInit := {}
  type : CInt := 0#32
  liveSync : CInt := 0#32
  deriving DecidableEq, Repr

/-- Where a playback thread is: before its first lock, at the head of its loop, before the `switch`,
after the loop. -/
inductive ThreadPc
  | begin | head | body | release
  deriving DecidableEq, Repr

/-- The local variables of `player_func`; `job` is the slot its argument points into. -/
structure PlayerThread where
  job : ℕ
  pc : ThreadPc := .begin
  tid : ℕ := 0
  init : PlayerInit := {}
  status : ThreadStatus := .none
  play : Bool := false
  speed : BitVec 8 := 0#8
  pause : Bool := false
  deriving DecidableEq, Repr

/-- Source: `server/aliyun/aliyun_interface.h` `ALIYUN_VISUAL_MAX_CHANNEL` -/
def aliyunVisualMaxChannel : ℕ := 4

/-- The static variable `jobs` of `player.c`, and the threads that have been created. -/
structure Statics where
  jobs : List Job := List.replicate aliyunVisualMaxChannel {}
  threads : List PlayerThread := []
  deriving DecidableEq, Repr

/-- The state of the player server. -/
abbrev State := ServerState Statics

/-- Source: `server/player/player.h` `PLAYER_SYNC_VIDEO` -/
def playerSyncVideo : ℕ := 0
def playerSyncAudio : ℕ := 1
def playerSyncButt : ℕ := 2

/-- Source: `server/player/player.h` `PLAYER_EXIT_CONDITION` -/
def playerExitCondition : CInt := 1#32 <<< ServerType.aliyun.toNat

/-- The number of `PLAYER_THREAD_INITED` is that of `STATUS_INIT`. -/
def playerThreadInited : ServerStatus := .init

variable (input : ServerInput) (msg : Message) (s : State)

/-! ### The jobs -/

def jobAt (i : ℕ) : Job := s.own.jobs.getD i {}

def setJob (i : ℕ) (job : Job) : State := { s with own := { s.own with jobs := s.own.jobs.set i job } }

/-- Source: `server/player/player.c` `find_job_channel` -/
def findJobChannel (channel : CInt) : Option ℕ :=
  s.own.jobs.findIdx? fun job => job.status ≠ .none ∧ job.init.channel = channel

/-- A new recording for a job that has a thread.
Source: `server/player/player.c` `player_add_job`, `if (same)` -/
def updateJob (id : ℕ) (init : PlayerInit) : State :=
  setJob s id { jobAt s id with
    init := { init with tid := BitVec.ofNat 32 id }
    status := .inited, audio := init.audio, run := true, speed := init.speed
    restart := true, exit := 0#32, type := init.type }

/-- A job in a free slot, with its thread.
Source: `server/player/player.c` `player_add_job`, `if (same)`, `else` -/
def createJob (id : ℕ) (init : PlayerInit) : State :=
  let init := { init with tid := BitVec.ofNat 32 id }
  if input.createOk then
    let s := setJob s id { init := init, status := .inited, audio := init.audio, run := true,
                           speed := init.speed, type := init.type }
    { s with own := { s.own with threads := s.own.threads ++ [{ job := id }] } }
  else setJob s id { init := init }

/-- The job of the channel gets the new recording, or else a free slot.
Source: `server/player/player.c` `player_add_job` -/
def playerAddJob : State :=
  if s.info.status ≠ .run then s
  else
    match msg.arg.map playerInit with
    | none => s
    | some init =>
      if !input.found then s
      else
        match findJobChannel s init.channel with
        | some id => updateJob s id init
        | none =>
          match s.own.jobs.findIdx? fun job => job.status = .none with
          | some id => createJob input s id init
          | none => s

/-- A change of the job that plays on the message's channel.
Source: `server/player/player.c` `player_start_job` and the functions after it -/
def onJob (f : Job → Job) : State :=
  match findJobChannel s msg.argIn.wolf with
  | none => s
  | some id => setJob s id (f (jobAt s id))

/-- Source: `server/player/player.c` `player_start_job` -/
def playerStartJob : State := onJob msg s fun job => { job with run := true }

/-- Source: `server/player/player.c` `player_stop_job` -/
def playerStopJob : State := onJob msg s fun job => { job with exit := 1#32 }

/-- Source: `server/player/player.c` `player_pause_job` -/
def playerPauseJob : State := onJob msg s fun job => { job with pause := true }

/-- Source: `server/player/player.c` `player_unpause_job` -/
def playerUnpauseJob : State := onJob msg s fun job => { job with pause := false }

/-- Source: `server/player/player.c` `player_start_audio` -/
def playerStartAudio : State :=
  onJob msg s fun job => if job.status = .none then job else { job with audio := 1#8 }

/-- Source: `server/player/player.c` `player_stop_audio` -/
def playerStopAudio : State :=
  onJob msg s fun job => if job.status = .none then job else { job with audio := 0#8 }

/-- Source: `server/player/player.c` `player_seek_job` -/
def playerSeekJob : State :=
  onJob msg s fun job => { job with
    status := .inited, run := true, restart := true, exit := 0#32
    init := { job.init with offset := msg.argIn.cat.setWidth 8 } }

/-- Source: `server/player/player.c` `player_set_param_job` -/
def playerSetParamJob : State :=
  onJob msg s fun job => { job with
    status := .inited, run := true, restart := true, exit := 0#32
    init := { job.init with
      speed := msg.argIn.chick.setWidth 8, offset := msg.argIn.cat.setWidth 8
      keyonly := msg.argIn.dog ≠ 0#32 } }

/-! ### The playback threads -/

def setThread (i : ℕ) (t : PlayerThread) : State :=
  { s with own := { s.own with threads := s.own.threads.set i t } }

/-- Source: `server/player/player.c` `player_func`, `PLAYER_THREAD_INITED` -/
def requestSync (t : PlayerThread) : Message :=
  { serverMsg .player msgPlayerRequestSync with
    argIn := { cat := t.init.channel, dog := BitVec.ofNat 32 t.tid } }

/-- The first lock of a thread.
Source: `server/player/player.c` `player_func`, before the loop -/
def threadStart (i : ℕ) (t : PlayerThread) : State :=
  let init := (jobAt s t.job).init
  let tid := init.tid.toNat
  setThread (s.threadBegin tid) i
    { t with pc := .head, tid := tid, init := init, status := .inited }

/-- Source: `server/player/player.c` `player_func`, the loop up to the `switch` -/
def threadHead (i : ℕ) (t : PlayerThread) : State :=
  let job := jobAt s t.tid
  if s.info.exit ∨ job.exit ≠ 0#32 then setThread s i { t with pc := .release }
  else if miscGetBit s.info.threadExit t.tid ≠ 0#32 then setThread s i { t with pc := .release }
  else
    let t := { t with pc := .body, play := job.run, speed := job.speed, pause := job.pause }
    if job.restart then
      setThread (setJob s t.tid { job with restart := false }) i
        { t with init := job.init, status := .inited }
    else setThread s i t

/-- The end of a playback is noted in the job, and in `info.status`.
Source: `server/player/player.c` `player_func`, `PLAYER_THREAD_FINISH`, `PLAYER_THREAD_ERROR` -/
def threadDone (t : PlayerThread) : State :=
  setJob (s.setStatus playerThreadInited) t.tid { jobAt s t.tid with exit := 1#32 }

/-- Source: `server/player/player.c` `player_func`, the `switch` -/
def threadBody (i : ℕ) (t : PlayerThread) : State :=
  let next (s : State) (status : ThreadStatus) : State :=
    setThread s i { t with pc := .head, status := status }
  match t.status with
  | .inited =>
    if input.found then
      next ((s.send ServerType.video.toInt (requestSync t)).send ServerType.audio.toInt
        (requestSync t)) .sync
    else next s .error
  | .sync =>
    if miscFullBit (jobAt s t.tid).liveSync playerSyncButt then
      next (setJob s t.tid { jobAt s t.tid with liveSync := 0#32 }) .idle
    else next s .sync
  | .idle => next s (if t.play then .run else .idle)
  | .run => next s (if t.pause then .pause else if input.finished then .finish else .run)
  | .pause => next s (if t.pause then .pause else .run)
  | .finish => next (threadDone s t) .finish
  | .error => next (threadDone s t) .error
  | status => next s status

/-- Source: `server/player/player.c` `player_func`, after the loop -/
def threadRelease (i : ℕ) (t : PlayerThread) : State :=
  let s := setJob (s.threadEnd t.tid) t.tid {}
  let s : State := { s with own := { s.own with threads := s.own.threads.eraseIdx i } }
  s.send ServerType.player.toInt (serverMsg .player msgManagerDummy)

/-- One step of the thread `input.tid` of those that exist.
Source: `server/player/player.c` `player_func` -/
def playerFunc : Option State :=
  (s.own.threads[input.tid]?).map fun t =>
    match t.pc with
    | .begin => threadStart s input.tid t
    | .head => threadHead s input.tid t
    | .body => threadBody input s input.tid t
    | .release => threadRelease s input.tid t

/-! ### The state machine -/

/-- Source: `server/player/player.c` `server_init` -/
def serverInit : State := cardAndClockInit .player s

/-- All threads are told to end, and the main thread waits for them.
Source: `server/player/player.c` `server_restart`, `server_reinit`, before the `while` -/
def serverDrain (status : ServerStatus) : State :=
  let jobs := s.own.jobs.mapIdx fun i job => { job with exit := miscSetBit job.exit i }
  let s : State := { s with own := { s.own with jobs := jobs } }
  { s.send ServerType.player.toInt (serverMsg .player msgManagerDummy) with pc := .drain status }

/-- Source: `server/player/player.c` `server_restart`, `server_reinit`, after the `while` -/
def drained (status : ServerStatus) : State :=
  if status = .restart then s.setStatus .wait else { s with info := {} }

/-- Source: `server/player/player.c` `state_machine` -/
def states : Option State :=
  match s.info.status with
  | .init => some (serverInit s)
  | .setup => some (s.setStatus .idle)
  | .start => some (s.setStatus .run)
  | .restart => some (serverDrain s .restart)
  | .reinit => some (serverDrain s .reinit)
  | _ => some s

/-- Source: `server/player/player.c` `task_proc` -/
def taskProc : State :=
  match s.info.status with
  | .none => s.setStatus .init
  | .wait => s.setStatus .setup
  | .idle => s.setStatus .start
  | _ => s

/-! ### The messages -/

/-- Source: `server/player/player.c` `server_message_proc`, `MSG_PLAYER_RELAY` -/
def relayAck : Message :=
  { serverMsg .player (ackOf msg.message) with argPass := msg.argPass, argIn := msg.argIn }

/-- A server has synchronised with the playback on a job. The index is not checked in the source; an
index outside the array has no successor.
Source: `server/player/player.c` `server_message_proc`, `MSG_PLAYER_REQUEST_SYNC_ACK` -/
def noteSync (bit : ℕ) : Option State :=
  let id := msg.argIn.dog.toNat
  if msg.result ≠ 0#32 then some s
  else if id < aliyunVisualMaxChannel then
    some (setJob s id { jobAt s id with liveSync := miscSetBit (jobAt s id).liveSync bit })
  else none

/-- Source: `server/player/player.c` `server_message_proc`, `MSG_PLAYER_REQUEST_SYNC_ACK` -/
def requestSyncAck : Option State :=
  if msg.sender = ServerType.video.toInt then noteSync msg s playerSyncVideo
  else if msg.sender = ServerType.audio.toInt then noteSync msg s playerSyncAudio
  else some s

/-- The messages for the job of a channel.
Source: `server/player/player.c` `server_message_proc` -/
def handleJob : Option State :=
  if msg.message = msgPlayerStart then some (playerStartJob msg s)
  else if msg.message = msgPlayerStop then some (playerStopJob msg s)
  else if msg.message = msgPlayerPause then some (playerPauseJob msg s)
  else if msg.message = msgPlayerUnpause then some (playerUnpauseJob msg s)
  else if msg.message = msgPlayerAudioStart then some (playerStartAudio msg s)
  else if msg.message = msgPlayerAudioStop then some (playerStopAudio msg s)
  else if msg.message = msgPlayerSeek then some (playerSeekJob msg s)
  else if msg.message = msgPlayerSetParam then some (playerSetParamJob msg s)
  else none

/-- Source: `server/player/player.c` `server_message_proc` -/
def handle : Option State :=
  if msg.message = msgPlayerRequest then some (playerAddJob input msg (s.setTaskMsg msg))
  else if msg.message = msgDeviceSdFormatStart then some ((s.setTaskMsg msg).setStatus .reinit)
  else if msg.message = msgPlayerRelay then some (s.send msg.receiver (relayAck msg))
  else if msg.message = ackOf msgPlayerRequestSync then requestSyncAck msg s
  else ((cardAndClockMessage msg s).or (handleJob msg s)).or (some s)

/-! ### The server -/

/-- Source: `server/player/player.c` `server_release_2` -/
def serverRelease2 : State :=
  { s with own := { s.own with jobs := List.replicate aliyunVisualMaxChannel {} } }

/-- The player registers no timer. Functions of other servers do not touch its variables.
Source: `server/player/player.c` -/
def server : ServerCode Statics where
  server := .player
  exitCondition := playerExitCondition
  hasMessageBlock := false
  states := fun _ s => states s
  taskProc := fun _ s => some (taskProc s)
  handle := fun input msg s => handle input msg s
  handler := fun _ _ s => some s
  thread := playerFunc
  drained := fun status s => drained s status
  serverRelease1 := fun _ s => s
  serverRelease2 := serverRelease2
  serverStart := id

/-! ### What the functions leave alone -/

variable {input msg s} {s' : State} {i : ℕ} {t : PlayerThread}

/-- A request changes the jobs only. -/
theorem taskFrame_playerAddJob : TaskFrame Ordinary s (playerAddJob input msg s) := by
  rw [playerAddJob]
  split
  · exact .refl
  split
  · exact .refl
  split
  · exact .refl
  split
  · exact TaskFrame.refl.own
  split
  · rw [createJob]
    split
    · exact TaskFrame.refl.own.own
    · exact TaskFrame.refl.own
  · exact .refl

theorem taskFrame_onJob {f : Job → Job} : TaskFrame Ordinary s (onJob msg s f) := by
  rw [onJob]
  split
  · exact .refl
  · exact TaskFrame.refl.own

theorem taskFrame_handleJob (h : handleJob msg s = some s') : TaskFrame Ordinary s s' := by
  rw [handleJob] at h
  split_ifs at h <;> cases h <;> exact taskFrame_onJob

theorem taskFrame_requestSyncAck (h : requestSyncAck msg s = some s') :
    TaskFrame Ordinary s s' := by
  have hnote : ∀ {bit}, noteSync msg s bit = some s' → TaskFrame Ordinary s s' := by
    intro bit h
    rw [noteSync] at h
    split_ifs at h
    · cases h
      exact .refl
    · cases h
      exact TaskFrame.refl.own
  rw [requestSyncAck] at h
  split_ifs at h
  · exact hnote h
  · exact hnote h
  · cases h
    exact .refl

/-- Messages other than a request and the start of a format leave the task alone. -/
theorem taskFrame_handle (hrequest : msg.message ≠ msgPlayerRequest)
    (hformat : msg.message ≠ msgDeviceSdFormatStart) (h : handle input msg s = some s') :
    TaskFrame Ordinary s s' := by
  rw [handle, if_neg hrequest, if_neg hformat] at h
  split_ifs at h with hrelay
  · cases h
    exact TaskFrame.refl.send (ordinary_of_id (n := ackOf msgPlayerRelay)
      (by rw [relayAck, hrelay]; rfl) (by decide))
  · exact taskFrame_requestSyncAck h
  · rcases hcard : cardAndClockMessage msg s with _ | s₁
    · rcases hjob : handleJob msg s with _ | s₁
      · rw [hcard, hjob] at h
        cases h
        exact .refl
      · rw [hcard, hjob] at h
        cases h
        exact taskFrame_handleJob hjob
    · rw [hcard] at h
      cases h
      exact taskFrame_cardAndClockMessage hcard

/-- They leave the status alone as well. -/
theorem status_handle (hrequest : msg.message ≠ msgPlayerRequest)
    (hformat : msg.message ≠ msgDeviceSdFormatStart) (h : handle input msg s = some s') :
    s'.info.status = s.info.status := by
  have hnote : ∀ {bit}, noteSync msg s bit = some s' → s'.info.status = s.info.status := by
    intro bit h
    rw [noteSync] at h
    split_ifs at h <;> cases h <;> rfl
  have hjob : ∀ {f}, (onJob msg s f).info.status = s.info.status := by
    intro f
    rw [onJob]
    split <;> rfl
  rw [handle, if_neg hrequest, if_neg hformat] at h
  split_ifs at h
  · cases h
    rfl
  · rw [requestSyncAck] at h
    split_ifs at h
    · exact hnote h
    · exact hnote h
    · cases h
      rfl
  · rcases hcard : cardAndClockMessage msg s with _ | s₁
    · rcases hhandle : handleJob msg s with _ | s₁
      · rw [hcard, hhandle] at h
        cases h
        rfl
      · rw [hcard, hhandle] at h
        cases h
        rw [handleJob] at hhandle
        split_ifs at hhandle <;> cases hhandle <;> exact hjob
    · rw [hcard] at h
      cases h
      exact status_cardAndClockMessage hcard

theorem frame_handle (h : handle input msg s = some s') : Frame Ordinary s s' := by
  by_cases hrequest : msg.message = msgPlayerRequest
  · rw [handle, if_pos hrequest] at h
    cases h
    exact (TaskFrame.refl.toFrame.setTaskMsg).trans taskFrame_playerAddJob.toFrame
  by_cases hformat : msg.message = msgDeviceSdFormatStart
  · rw [handle, if_neg hrequest, if_pos hformat] at h
    cases h
    exact (TaskFrame.refl.toFrame.setTaskMsg).trans (TaskFrame.refl.setStatus rfl).toFrame
  · exact (taskFrame_handle hrequest hformat h).toFrame

theorem ordinary_requestSync : Ordinary (requestSync t) :=
  ordinary_of_id (n := msgPlayerRequestSync) rfl (by decide)

theorem taskFrame_playerFunc (h : playerFunc input s = some s') : TaskFrame Ordinary s s' := by
  rw [playerFunc, Option.map_eq_some_iff] at h
  obtain ⟨t, -, rfl⟩ := h
  rcases t.pc with _ | _ | _ | _
  · exact TaskFrame.refl.threadBegin.own
  · dsimp only
    rw [threadHead]
    dsimp only
    split_ifs
    · exact TaskFrame.refl.own
    · exact TaskFrame.refl.own
    · exact TaskFrame.refl.own.own
    · exact TaskFrame.refl.own
  · dsimp only
    rw [threadBody]
    split
    · split_ifs
      · exact ((TaskFrame.refl.send ordinary_requestSync).send ordinary_requestSync).own
      · exact TaskFrame.refl.own
    · split_ifs
      · exact TaskFrame.refl.own.own
      · exact TaskFrame.refl.own
    · exact TaskFrame.refl.own
    · exact TaskFrame.refl.own
    · exact TaskFrame.refl.own
    · exact (TaskFrame.refl.setStatus rfl).own.own
    · exact (TaskFrame.refl.setStatus rfl).own.own
    · exact TaskFrame.refl.own
  · exact TaskFrame.refl.threadEnd.own.own.send (by decide)

theorem taskFrame_taskProc : TaskFrame Ordinary s (taskProc s) := by
  rw [taskProc]
  split
  · exact TaskFrame.refl.setStatus rfl
  · exact TaskFrame.refl.setStatus rfl
  · exact TaskFrame.refl.setStatus rfl
  · exact .refl

theorem frame_serverDrain {status : ServerStatus} :
    Frame Ordinary { s with pc := .drain status } (serverDrain s status) :=
  (TaskFrame.refl.own.send (by decide)).toFrame

theorem frame_states (h : states s = some s') :
    Frame Ordinary { s with pc := s'.pc } s' ∧ (s'.pc = s.pc ∨ ∃ status, s'.pc = .drain status) := by
  rw [states] at h
  split at h <;> cases h
  · have hinit : TaskFrame Ordinary s (serverInit s) := taskFrame_cardAndClockInit
    rw [hinit.pc]
    exact ⟨hinit.toFrame, .inl rfl⟩
  · exact ⟨(TaskFrame.refl.setStatus rfl).toFrame, .inl rfl⟩
  · exact ⟨(TaskFrame.refl.setStatus rfl).toFrame, .inl rfl⟩
  · exact ⟨frame_serverDrain, .inr ⟨_, rfl⟩⟩
  · exact ⟨frame_serverDrain, .inr ⟨_, rfl⟩⟩
  · exact ⟨TaskFrame.refl.toFrame, .inl rfl⟩

theorem keeper_server : Keeper Ordinary server where
  states := frame_states
  taskProc h := by
    cases h
    exact taskFrame_taskProc.toFrame
  handle := frame_handle
  handler h := by
    cases h
    exact TaskFrame.refl.toFrame
  thread h := (taskFrame_playerFunc h).toFrame
  release1 := TaskFrame.refl.toFrame
  release2 := TaskFrame.refl.own.toFrame
  drained := by
    intro status s
    dsimp only [server, drained]
    split_ifs
    · exact ⟨rfl, rfl, id, by rintro ⟨⟩⟩
    · exact ⟨rfl, rfl, by rintro ⟨⟩, by rintro ⟨⟩⟩
  serverStart := .inl rfl

end GokeWebcam.Server.Player
