import GokeWebcam.Lib.Transition
import GokeWebcam.Server.Player

/-!
# Who writes the player server's status

`info.status` belongs to the main thread. A playback thread keeps its state in a local variable, but
at the end of a playback, and after an error, it writes `info.status = PLAYER_THREAD_INITED`.

* `status_playerFunc`: what a step of a playback thread does to the status.
* `statusOwned_iff`: a run keeps the status from the playback threads iff none of them reaches such
  a write while the status differs from `STATUS_INIT`, whose number the constant has.
* `playback_takes_status`: a failed playback takes the server out of `STATUS_RUN`, and out of its
  exit sequence.
-/

namespace GokeWebcam.Server.Player

open Lib Common Global Manager

variable {config : ManagerConfig} {input : ServerInput} {s s' : State} {t : PlayerThread} {i : ℕ}

/-! ### What a thread does to the status -/

@[simp] theorem info_setJob {job : Job} : (setJob s i job).info = s.info := rfl

@[simp] theorem info_setThread : (setThread s i t).info = s.info := rfl

theorem status_threadStart : (threadStart s i t).info.status = s.info.status := rfl

theorem status_threadHead : (threadHead s i t).info.status = s.info.status := by
  rw [threadHead]
  dsimp only
  split_ifs <;> rfl

/-- The thread writes the end of a playback. -/
def isDone (t : PlayerThread) : Bool := t.status = .finish ∨ t.status = .error

theorem status_threadBody : (threadBody input s i t).info.status =
    if isDone t then playerThreadInited else s.info.status := by
  rw [threadBody, isDone]
  split
  case h_6 hstatus => simp [hstatus, threadDone, ServerState.setStatus]
  case h_7 hstatus => simp [hstatus, threadDone, ServerState.setStatus]
  case h_8 hfinish herror =>
    rw [if_neg]
    · rfl
    · exact fun h => (of_decide_eq_true h).elim hfinish herror
  all_goals
    rename_i hstatus
    rw [hstatus]
    split_ifs <;> first | rfl | contradiction

theorem status_threadRelease : (threadRelease s i t).info.status = s.info.status := rfl

/-- In its next step the thread `input.tid` writes the end of a playback. -/
def playbackEnds (input : ServerInput) (s : State) : Bool :=
  (s.own.threads[input.tid]?).any fun t => t.pc = .body && isDone t

/-- A playback thread leaves the status alone except when a playback ends. -/
theorem status_playerFunc (h : playerFunc input s = some s') : s'.info.status =
    if playbackEnds input s then playerThreadInited else s.info.status := by
  rw [playerFunc, Option.map_eq_some_iff] at h
  obtain ⟨t, ht, rfl⟩ := h
  rw [playbackEnds, ht, Option.any_some]
  rcases hpc : t.pc with _ | _ | _ | _
  · exact status_threadStart
  · exact status_threadHead
  · rw [status_threadBody]
    simp
  · exact status_threadRelease

/-! ### Runs -/

/-- A step of a playback thread leaves the status alone. -/
def StatusOwned (s : State) (a : ServerAction) (s' : State) : Prop :=
  ∀ input, a = .thread input → s'.info.status = s.info.status

/-- No playback ends in the step, unless the status is `STATUS_INIT`. -/
def NoPlaybackEnds (s : State) (a : ServerAction) : Prop :=
  ∀ input, a = .thread input → playbackEnds input s = true → s.info.status = playerThreadInited

theorem statusOwned_step {a : ServerAction} (h : server.step config s a = some s') :
    StatusOwned s a s' ↔ NoPlaybackEnds s a := by
  constructor
  · rintro howned input rfl hends
    rw [← howned input rfl, status_playerFunc h, if_pos hends]
  · rintro hno input rfl
    rw [status_playerFunc h]
    split_ifs with hends
    · exact (hno input rfl hends).symm
    · rfl

/-- In every run, from every state, the playback threads leave the status alone iff no playback ends
in a state other than `STATUS_INIT`. -/
theorem statusOwned_iff (config : ManagerConfig) (s : State) (as : List ServerAction) :
    AllSteps (server.step config) StatusOwned s as ↔
      AllSteps (server.step config) (fun s a _ => NoPlaybackEnds s a) s as := by
  refine allSteps_iff (I := fun _ => True) (fun _ _ _ _ _ => trivial) ?_ trivial as
  intro s a s' _ h
  exact statusOwned_step h

/-! ### A failed playback -/

/-- A pass of the main loop. -/
def pass : List ServerAction := [.main {}, .main {}, .main {}]

/-- A message of another server. -/
def fromServer (server : ServerType) (id : CInt) (argIn : MessageArg) : ServerAction :=
  .arrive { message := id, sender := server.toInt, argIn := argIn }

/-- The server starts, is told that the card and the clock are ready, and reaches `STATUS_RUN`. -/
def reachRun : List ServerAction :=
  [.start, .main {},
    fromServer .device (ackOf msgDeviceGetPara) { cat := deviceParamSdInfo, dog := 1#32 },
    fromServer .aliyun msgAliyunTimeSynchronized {}] ++ pass ++ pass ++ pass ++ pass

/-- A playback is requested, whose recording is not found by its thread. -/
def failedPlayback : List ServerAction :=
  [.arrive { message := msgPlayerRequest, arg := some (List.replicate 40 0#8) }] ++ pass ++
    [.thread {}, .thread {}, .thread { found := false }, .thread {}]

/-- A playback that fails takes the server from `STATUS_RUN` to `STATUS_INIT`; and after an exit
request, whose handling has begun, it takes the server from `EXIT_SERVER` to `STATUS_INIT`. -/
theorem playback_takes_status :
    (∃ s s', Reach (server.step managerConfig) AllRuns { own := {} } s ∧
      server.step managerConfig s (.thread {}) = some s' ∧
      (s.info.status = .run ∧ s'.info.status = .init)) ∧
    ∃ s s', Reach (server.step managerConfig) AllRuns { own := {} } s ∧
      server.step managerConfig s (.thread {}) = some s' ∧
      (s.info.status = .exitServer ∧ s'.info.status = .init) := by
  constructor
  · have hrun : (exec (server.step managerConfig) (fun _ _ => true) { own := {} }
        (reachRun ++ failedPlayback)).any
        (fun s => (server.step managerConfig s (.thread {})).any fun s' => decide
          (s.info.status = .run ∧ s'.info.status = .init)) = true := by
      decide
    exact Reach.exists_step_of_exec (fun _ _ _ => trivial) hrun
  · have hrun : (exec (server.step managerConfig) (fun _ _ => true) { own := {} }
        (reachRun ++ failedPlayback ++ [fromServer .manager msgManagerExit {}] ++ pass ++
          [.main {}])).any
        (fun s => (server.step managerConfig s (.thread {})).any fun s' => decide
          (s.info.status = .exitServer ∧ s'.info.status = .init)) = true := by
      decide
    exact Reach.exists_step_of_exec (fun _ _ _ => trivial) hrun

end GokeWebcam.Server.Player
