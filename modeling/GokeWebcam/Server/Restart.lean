import GokeWebcam.Server.AudioChannel
import GokeWebcam.Server.AudioHardware
import GokeWebcam.Server.Process
import GokeWebcam.Server.VideoChannel
import GokeWebcam.Server.VideoHardware

/-!
# A server that is started again

The video and the audio server with their tables and their hardware, over all their lives. What a
server that is started again finds:

* `Video.FreshStart`, `Audio.FreshStart`: an empty table, cleared flags, and a set-up that succeeds whenever the
  first one does.
* `Video.cleared_of_reach`: once the video server has ended, every stream of its profile is off, as
  `server_release_2` clears the configuration and nothing restores it.
* `Audio.released_of_reach`: the audio server leaves nothing behind in a run of careful steps
  (`Audio.Careful`).
* `restart_fresh`: so a video server that is started again is never fresh, and an audio server is.
-/

namespace GokeWebcam.Server

open Lib Common Global Manager

variable {κ : Type} {P : Message → Prop} {s s' : ServerState κ}

/-! ### Tasks and requests leave the exit protocol alone -/

theorem frame_finishTask {ack : Message} (hack : P ack) : Frame P s (finishTask ack s) where
  message := rfl
  pc := rfl
  exit := rfl
  quitStatus := rfl
  status _ := rfl
  out := ⟨[_], rfl, fun m hm => by rw [List.mem_singleton.mp hm]; exact hack⟩

theorem frame_beginTask {type : TaskType} {msg : Message} : Frame P s (beginTask type msg s) where
  message := rfl
  pc := rfl
  exit := rfl
  quitStatus := rfl
  status _ := rfl
  out := ⟨[], by simp [beginTask], by simp⟩

theorem frame_setTask {task : Task} : Frame P s (s.setTask task) where
  message := rfl
  pc := rfl
  exit := rfl
  quitStatus := rfl
  status _ := rfl
  out := ⟨[], by simp [ServerState.setTask], by simp⟩

theorem frame_refl : Frame P s s := TaskFrame.refl.toFrame

theorem frame_setStatus {status : ServerStatus} (h : status.isExit = false) :
    Frame P s (s.setStatus status) :=
  (TaskFrame.refl.setStatus h).toFrame

theorem frame_startTask {server : ServerType} : Frame (Signed server) s (startTask server s) := by
  rw [startTask]
  split
  · exact frame_setStatus rfl
  · exact frame_setStatus rfl
  · exact frame_setStatus rfl
  · exact frame_finishTask signed_taskAck
  · split_ifs
    · exact frame_finishTask signed_taskAck
    · exact frame_refl

theorem frame_stopTask {server : ServerType} : Frame (Signed server) s (stopTask server s) := by
  rw [stopTask]
  split_ifs <;> exact frame_finishTask signed_taskAck

/-- A thread leaves the status alone. -/
theorem status_serverThread {server : ServerType} {input : ServerInput} :
    (serverThread server input s).info.status = s.info.status := by
  rw [serverThread]
  split_ifs <;> rfl

/-- The table has no client. -/
def TableEmpty {σ : Type} (free : σ → Bool) (channel : ℤ → σ) : Prop :=
  ∀ i : Fin maxAvChannel, free (channel i) = true

instance {σ : Type} {free : σ → Bool} {channel : ℤ → σ} : Decidable (TableEmpty free channel) :=
  inferInstanceAs (Decidable (∀ _, _))

namespace Audio

/-! ### The audio server -/

variable {input : ServerInput} {msg : Message} {s s' : State}

/-- No state below `STATUS_ERROR` touches the task. -/
theorem taskFrame_states (h : states input s = some s') : TaskFrame Ordinary s s' := by
  rw [states] at h
  split at h <;> cases h
  · rw [serverInit]
    refine TaskFrame.ite (TaskFrame.setStatus rfl ?_) ?_ <;>
      exact TaskFrame.ite (TaskFrame.refl.send (by decide)) .refl
  · rw [serverSetup]
    split_ifs <;> exact TaskFrame.refl.setStatus rfl
  · rw [serverStart]
    split_ifs <;> first | exact TaskFrame.refl.setStatus rfl | exact .refl
  · rw [serverStop]
    split_ifs <;> first | exact TaskFrame.refl.setStatus rfl | exact .refl
  · rw [serverRestart]
    split_ifs <;> first | exact TaskFrame.refl.setStatus rfl | exact .refl
  · exact .refl

theorem frame_taskProc (h : taskProc s = some s') : Frame (Signed .audio) s s' := by
  rw [taskProc] at h
  split at h <;> cases h
  · rw [taskNone]
    split <;> first | exact frame_setStatus rfl | exact frame_refl
  · exact frame_startTask
  · exact frame_stopTask
  · exact frame_refl
  · exact frame_refl

theorem frame_handle (h : handle s msg = some s') : Frame (Signed .audio) s s' := by
  rw [handle] at h
  split_ifs at h <;> cases h
  · exact frame_beginTask
  · exact frame_beginTask
  · exact TaskFrame.refl.setInitBit.toFrame
  · exact frame_refl
  · have hsync : Ordinary (requestSyncAck msg) :=
      ordinary_of_id (n := ackOf msgPlayerRequestSync) rfl (by decide)
    exact (TaskFrame.refl.send hsync.signed).toFrame
  · exact frame_refl

theorem keeper_server : Keeper (Signed .audio) server where
  states h := by
    have hframe : Frame (Signed .audio) _ _ := (taskFrame_states h).toFrame.mono fun _ => Ordinary.signed
    exact ⟨{ hframe with pc := rfl }, .inl hframe.pc⟩
  taskProc := frame_taskProc
  handle := frame_handle
  handler h := by
    cases h
    exact frame_refl
  thread h := by
    cases h
    exact (taskFrame_serverThread (Ordinary.signed (by decide))).toFrame
  release1 := frame_refl
  release2 := frame_refl
  drained := ⟨rfl, rfl, id, fun _ => rfl⟩
  serverStart := .inl rfl

theorem status_thread (h : server.thread input s = some s') : s'.info.status = s.info.status := by
  cases h
  exact status_serverThread

/-- What the states do to the hardware. In `STATUS_RESTART` the stages are taken down if the first
function has succeeded.
Source: `server/audio/audio.c` `server_setup`, `server_start`, `server_stop`, `server_restart`,
`server_release_1` -/
def audioHardware : HardwareCode AudioRunning AudioCalls := fun calls input info r =>
  match info.status with
  | .setup => (reached (audioInit calls r), { input with ok := (audioInit calls r).isOk })
  | .start => (reached (audioStart calls r), { input with ok := (audioStart calls r).isOk })
  | .stop => (reached (audioStop calls r), { input with ok := (audioStop calls r).isOk })
  | .restart =>
    let stopped := audioStop calls r
    if stopped.isOk then
      let ended := audioUninit calls (reached stopped)
      (reached ended, { input with ok := true, uninitOk := ended.isOk })
    else (reached stopped, { input with ok := false })
  | .exitStage1 => (audioRelease1 calls r, input)
  | _ => (r, input)

/-- The server with its table and its hardware. -/
abbrev AudioProcess := Process Unit AudioSlot AudioRunning

/-- One step. -/
abbrev audioProcess (config : ManagerConfig) :
    AudioProcess → ProcessAction SentFrame AudioCalls → Option AudioProcess :=
  processStep server channelTable audioHardware config

/-- The program begins with zeroed variables. -/
def audioProcessInit (memory : Channels) : AudioProcess where
  state := channelInit memory
  hardware := fun _ => false

/-- What a server that is started finds: an empty table, a cleared record, no flag set that any
function reads, and a set-up that succeeds whenever it does with no flag set. -/
structure FreshStart (p : AudioProcess) : Prop where
  table : TableEmpty AudioSlot.free p.state.channel
  info : p.state.server.info = {}
  flags : ∀ flag, flag ≠ .codecInit → p.hardware flag = false
  setup : ∀ calls, (audioInit calls fun _ => false).isOk = true →
    (audioInit calls p.hardware).isOk = true

/-- The condition on a step: `server_release_1` succeeds in taking down what is up, the table is empty
when `server_release_2` is run, and no thread goes on when the server has ended. -/
def Careful (p : AudioProcess) : ProcessAction SentFrame AudioCalls → Prop
  | .main _ calls => InStates p.state.server →
      (p.state.server.info.status = .exitStage1 →
        ∀ flag ∈ stopFlags ++ uninitFlags, p.hardware flag = true → calls.downOk flag = true) ∧
      (p.state.server.info.status = .exitStage2 → TableEmpty AudioSlot.free p.state.channel)
  | .thread _ => p.state.server.pc ≠ .stopped
  | _ => True

instance {p : AudioProcess} : ∀ a, Decidable (Careful p a)
  | .main _ _ => inferInstanceAs (Decidable (_ → _ ∧ _))
  | .thread _ => inferInstanceAs (Decidable (_ ≠ _))
  | .arrive _ => .isTrue trivial
  | .start => .isTrue trivial
  | .encoder _ _ => .isTrue trivial

/-- What an exit has given back. -/
structure Released (p : AudioProcess) : Prop where
  server : ProcessInv p.state.server
  info : p.state.server.pc = .stopped → p.state.server.info = {}
  flags : After .exitStage1 p.state.server → ∀ flag, flag ≠ .codecInit → p.hardware flag = false
  table : After .exitStage2 p.state.server → TableEmpty AudioSlot.free p.state.channel

variable {config : ManagerConfig} {p p' : AudioProcess} {a : ProcessAction SentFrame AudioCalls}

theorem released_init (memory : Channels) : Released (audioProcessInit memory) where
  server := processInv_init ()
  info _ := rfl
  flags _ _ _ := rfl
  table _ i := by
    have hi : InTable maxAvChannel i := ⟨by omega, by omega⟩
    simp [audioProcessInit, channelInit, hi, AudioSlot.free]

theorem tableEmpty_of_shrinks {channel channel' : Channels} (h : TableEmpty AudioSlot.free channel)
    (hs : Shrinks channel channel') : TableEmpty AudioSlot.free channel' := by
  intro i
  rw [free_iff]
  intro hvalid
  have hi : InTable maxAvChannel i := ⟨by omega, by omega⟩
  obtain ⟨⟨hsame, -⟩, -⟩ := hs i hi hvalid
  exact free_iff.1 (h i) hsame

/-- Past the first release the hardware is left alone. -/
theorem audioHardware_of_lt {calls : AudioCalls} {info : ServerInfo} {r : AudioRunning}
    (h : ServerStatus.exitStage1.toNat < info.status.toNat) :
    (audioHardware calls input info r).1 = r := by
  rw [audioHardware]
  split <;> first | rfl | simp_all [ServerStatus.toNat]

theorem flags_step (hinv : Released p) (hok : Careful p a) (h : audioProcess config p a = some p')
    (hafter : After .exitStage1 p'.state.server) {flag : AudioFlag} (hflag : flag ≠ .codecInit) :
    p'.hardware flag = false := by
  rw [hardwareAfter_processStep h]
  rcases after_processStep keeper_server (by decide) h hafter with
    hbefore | ⟨⟨input, calls, rfl⟩, hstates, hstatus⟩
  · have hclear := hinv.flags hbefore flag hflag
    by_cases hstates : InStates p.state.server
    · cases a with
      | main input calls =>
          rw [ProcessAction.hardwareAfter, hardwarePass, if_pos hstates,
            audioHardware_of_lt (hstates.lt_status hbefore)]
          exact hclear
      | thread | arrive | start | encoder => exact hclear
    · rw [hardwareAfter_of_not_inStates hstates]
      exact hclear
  · rw [ProcessAction.hardwareAfter, hardwarePass, if_pos hstates, audioHardware, hstatus]
    exact audioRelease1_eq_false ((hok hstates).1 hstatus) hflag

/-- A step starts a client in `STATUS_RUN`, or empties slots at most. -/
theorem table_step (hinv : Released p) (hok : Careful p a) (h : audioProcess config p a = some p')
    (hafter : After .exitStage2 p'.state.server) : TableEmpty AudioSlot.free p'.state.channel := by
  have hbefore : TableEmpty AudioSlot.free p.state.channel ∧
      (p.state.server.pc = .taskProc → p.state.server.info.status ≠ .run) := by
    rcases after_processStep keeper_server (by decide) h hafter with
      hbefore | ⟨⟨input, calls, rfl⟩, hstates, hstatus⟩
    · exact ⟨hinv.table hbefore, status_ne_run hinv.server (by decide) hbefore⟩
    · refine ⟨(hok hstates).2 hstatus, fun hpc => ?_⟩
      rw [hstates.1] at hpc
      cases hpc
  rcases step_cases (channelStep_processStep h) with ⟨-, hpc, -, hrun, -⟩ | hshrinks
  · exact absurd hrun (hbefore.2 hpc)
  · exact tableEmpty_of_shrinks hbefore.1 hshrinks

theorem released_step (hinv : Released p) (hok : Careful p a)
    (h : audioProcess config p a = some p') : Released p' where
  server := processInv_step keeper_server status_thread hinv.server h
  info := by
    refine info_processStep keeper_server hinv.info ?_ h
    rintro input rfl
    exact hok
  flags hafter _ hflag := flags_step hinv hok h hafter hflag
  table := table_step hinv hok h

theorem released_of_reach {memory : Channels}
    (h : Reach (audioProcess config) Careful (audioProcessInit memory) p) : Released p :=
  h.inv (released_init memory) fun _ _ _ hinv hok h => released_step hinv hok h

end Audio

namespace Video

open VideoHardware

/-! ### The video server -/

variable {input : ServerInput} {msg : Message} {s s' : State}

theorem frame_finishRestart {temp : CInt} : Frame (Signed .video) s (finishRestart s temp) :=
  (frame_finishTask ⟨ackOf_ne (by decide), fun _ => rfl⟩).trans TaskFrame.refl.own.toFrame

theorem frame_setParaSet {b : Bool} : Frame (Signed .video) s (setParaSet s b) :=
  TaskFrame.refl.own.toFrame

theorem frame_taskRestart (h : taskRestart input s = some s') : Frame (Signed .video) s s' := by
  rw [taskRestart] at h
  split at h
  · rw [Option.map_eq_some_iff] at h
    obtain ⟨temp, -, rfl⟩ := h
    split_ifs
    · exact frame_setParaSet.trans frame_finishRestart
    · exact frame_setParaSet.trans (frame_setStatus rfl)
  · split_ifs at h <;> cases h
    · exact frame_finishRestart
    · exact frame_setStatus rfl
    · exact frame_setStatus rfl
  · split_ifs at h
    · cases h
      exact frame_finishRestart
    · rw [Option.map_eq_some_iff] at h
      obtain ⟨block, -, rfl⟩ := h
      exact frame_finishRestart
    · cases h
      exact frame_setStatus rfl
  · cases h
    exact frame_finishRestart

theorem frame_taskProc (h : taskProc input s = some s') : Frame (Signed .video) s s' := by
  rw [taskProc] at h
  split at h
  · cases h
    rw [taskNone]
    split <;> first | exact frame_setStatus rfl | exact frame_refl
  · cases h
    exact frame_startTask
  · cases h
    exact frame_stopTask
  · exact frame_taskRestart h
  · cases h
    exact frame_refl

theorem frame_handle (h : handle input s msg = some s') : Frame (Signed .video) s s' := by
  by_cases hmsg : isRequest msg = true
  · rw [isRequest, decide_eq_true_iff] at hmsg
    rw [handle] at h
    rcases hmsg with hstart | hstop | hset
    · rw [if_pos hstart] at h
      cases h
      exact frame_beginTask
    · rw [if_neg (by rw [hstop]; decide), if_pos hstop] at h
      cases h
      exact frame_beginTask
    · rw [if_neg (by rw [hset]; decide), if_neg (by rw [hset]; decide),
        if_neg (by rw [hset]; decide), if_pos hset] at h
      cases h
      exact frame_beginTask.trans frame_setTask
  · exact (taskFrame_handle (Bool.eq_false_iff.mpr hmsg) h).toFrame.mono fun _ hplain => hplain.1.signed

theorem keeper_server : Keeper (Signed .video) server where
  states h := by
    have hframe : Frame (Signed .video) _ _ :=
      (taskFrame_states h).toFrame.mono fun _ hplain => hplain.1.signed
    exact ⟨{ hframe with pc := rfl }, .inl hframe.pc⟩
  taskProc := frame_taskProc
  handle := frame_handle
  handler h := by
    cases h
    exact frame_refl
  thread h := by
    cases h
    exact (taskFrame_serverThread (Ordinary.signed (by decide))).toFrame
  release1 := taskFrame_serverRelease1.toFrame.mono fun _ hplain => hplain.1.signed
  release2 := TaskFrame.refl.own.toFrame
  drained := ⟨rfl, rfl, id, fun _ => rfl⟩
  serverStart := .inl rfl

theorem status_thread (h : server.thread input s = some s') : s'.info.status = s.info.status := by
  cases h
  exact status_serverThread

/-- The configuration and what is kept of the hardware. -/
structure VideoStatics where
  config : VideoConfig
  hardware : Hardware := {}

/-- What the calls into the hardware return, and what an exit finds. -/
structure VideoCalls where
  init : InitInput := {}
  start : StartInput := {}
  release : ReleaseInput

/-- What the states do to the hardware. The result of `video_stop` is not defined.
Source: `server/video/video.c` `server_setup`, `server_start`, `server_stop`, `server_restart`,
`server_release_1`, `server_release_2` -/
def videoHardware : HardwareCode VideoStatics VideoCalls := fun calls input info r =>
  match info.status with
  | .setup =>
    let done := VideoHardware.videoInit r.config calls.init r.hardware
    ({ config := (videoAdjustParameters r.config).1, hardware := reached done },
      { input with ok := done.isOk })
  | .start =>
    let done := VideoHardware.videoStart r.config calls.start r.hardware
    ({ r with hardware := reached done }, { input with ok := done.isOk })
  | .stop =>
    ({ r with hardware := VideoHardware.videoStop r.config calls.release.stop r.hardware }, input)
  | .restart =>
    let stopped := VideoHardware.videoStop r.config calls.release.stop r.hardware
    if input.ok ∧ info.threadStart = 0#32 then
      ({ r with hardware := VideoHardware.videoUninit r.config calls.release stopped }, input)
    else ({ r with hardware := stopped }, input)
  | .exitStage1 =>
    ({ r with hardware := VideoHardware.serverRelease1 r.config calls.release r.hardware }, input)
  | .exitStage2 => ({ r with config := {} }, input)
  | _ => (r, input)

/-- The server with its table and its hardware. -/
abbrev VideoProcess := Process Statics VideoChannel VideoStatics

/-- One step. -/
abbrev videoProcess (config : ManagerConfig) :
    VideoProcess → ProcessAction SentFrame VideoCalls → Option VideoProcess :=
  processStep server channelTable videoHardware config

/-- The program begins with the streams of the device. -/
def videoProcessInit (own : Statics) (memory : Channels) : VideoProcess where
  state := channelInit own memory
  hardware := { config := { stream := deviceStreams } }

/-- What a server that is started finds: an empty table, a cleared record, and a set-up that succeeds
whenever the first one does. -/
structure FreshStart (p : VideoProcess) : Prop where
  table : TableEmpty VideoChannel.free p.state.channel
  info : p.state.server.info = {}
  setup : ∀ init, (VideoHardware.videoInit { stream := deviceStreams } init {}).isOk = true →
    (VideoHardware.videoInit p.hardware.config init p.hardware.hardware).isOk = true

/-- Every stream of the profile is off. -/
def AllOff (config : VideoConfig) : Prop := ∀ i, (config.stream i).enable = false

variable {config : ManagerConfig} {p p' : VideoProcess} {a : ProcessAction SentFrame VideoCalls}

theorem allOff_videoAdjustParameters {config : VideoConfig} (h : AllOff config) :
    AllOff (videoAdjustParameters config).1 := by
  intro i
  obtain ⟨_, _, hi⟩ := @stream_foldl_adjustStream { config with maxW := 0, maxH := 0 }
    (List.finRange maxStreamNum).reverse i
  have henable := congrArg StreamProfile.enable hi
  exact henable.trans (h i)

/-- Without a stream the set-up fails, whatever the hardware does. -/
theorem isOk_videoInit_of_allOff {config : VideoConfig} (h : AllOff config) (init : InitInput)
    (hardware : Hardware) : (VideoHardware.videoInit config init hardware).isOk = false := by
  have hadjust : (videoAdjustParameters config).2 = false := by
    rw [← Bool.not_eq_true, videoAdjustParameters_iff]
    rintro ⟨i, henable, -⟩
    rw [h i] at henable
    cases henable
  rw [VideoHardware.videoInit, hadjust]
  rfl

/-- The calls of the set-up in the first life can all succeed. -/
theorem isOk_videoInit_device :
    (VideoHardware.videoInit { stream := deviceStreams } {} {}).isOk = true := by
  decide

theorem allOff_videoHardware {calls : VideoCalls} {info : ServerInfo} {r : VideoStatics}
    (h : AllOff r.config) : AllOff (videoHardware calls input info r).1.config := by
  rw [videoHardware]
  split
  · exact allOff_videoAdjustParameters h
  · exact h
  · exact h
  · dsimp only
    split_ifs <;> exact h
  · exact h
  · intro i
    rfl
  · exact h

theorem allOff_hardwareAfter (h : AllOff p.hardware.config) :
    AllOff (a.hardwareAfter videoHardware p).config := by
  cases a with
  | main input calls =>
      rw [ProcessAction.hardwareAfter, hardwarePass]
      split_ifs
      · exact allOff_videoHardware h
      · exact h
  | thread | arrive | start | encoder => exact h

/-- What the end of a life leaves behind, and the lives after it find. -/
structure Cleared (p : VideoProcess) : Prop where
  server : ProcessInv p.state.server
  ended : After .exitStage2 p.state.server → 0 < p.starts → AllOff p.hardware.config
  again : 1 < p.starts → AllOff p.hardware.config

theorem cleared_init (own : Statics) (memory : Channels) : Cleared (videoProcessInit own memory) where
  server := processInv_init own
  ended _ h := absurd h (by simp [videoProcessInit])
  again h := absurd h (by simp [videoProcessInit])

theorem cleared_step (hinv : Cleared p) (h : videoProcess config p a = some p') : Cleared p' := by
  have hserver := processInv_step keeper_server status_thread hinv.server h
  have hkept : AllOff p.hardware.config → AllOff p'.hardware.config := by
    intro hoff
    rw [hardwareAfter_processStep h]
    exact allOff_hardwareAfter hoff
  have hstarts := starts_processStep h
  refine ⟨hserver, fun hafter hpos => ?_, fun hagain => ?_⟩
  · rcases after_processStep keeper_server (by decide) h hafter with
      hbefore | ⟨⟨input, calls, rfl⟩, hstates, hstatus⟩
    · cases a with
      | start => exact absurd hafter (not_after_start (fun _ => rfl) (by decide) hserver h)
      | main | thread | arrive | encoder =>
          rw [hstarts] at hpos
          exact hkept (hinv.ended hbefore hpos)
    · rw [hardwareAfter_processStep h, ProcessAction.hardwareAfter, hardwarePass, if_pos hstates,
        videoHardware, hstatus]
      intro i
      rfl
  · rw [hstarts] at hagain
    cases a with
    | start =>
        have hstopped := (start_processStep (fun _ => rfl) h).1
        exact hkept (hinv.ended (.inr (.inr hstopped)) (Nat.lt_of_succ_lt_succ hagain))
    | main | thread | arrive | encoder => exact hkept (hinv.again hagain)

theorem cleared_of_reach {own : Statics} {memory : Channels}
    (h : Reach (videoProcess config) AllRuns (videoProcessInit own memory) p) : Cleared p :=
  h.inv (cleared_init own memory) fun _ _ _ hinv _ h => cleared_step hinv h

end Video

/-! ### Both servers -/

/-- A video server that is started again never finds what it found at first, and an audio server always
does in a run of careful steps. -/
theorem restart_fresh (config : ManagerConfig) :
    (∀ own memory p p', Reach (Video.videoProcess config) AllRuns (Video.videoProcessInit own memory) p →
        0 < p.starts → Video.videoProcess config p .start = some p' → ¬ Video.FreshStart p') ∧
      ∀ memory p p', Reach (Audio.audioProcess config) Audio.Careful (Audio.audioProcessInit memory) p →
        Audio.audioProcess config p .start = some p' → Audio.FreshStart p' := by
  constructor
  · intro own memory p p' hreach hpos h hfresh
    obtain ⟨hstopped, -, -, -, hhardware⟩ := start_processStep (fun _ => rfl) h
    have hoff := (Video.cleared_of_reach hreach).ended (.inr (.inr hstopped)) hpos
    have hsetup := hfresh.setup {} Video.isOk_videoInit_device
    rw [hhardware, Video.isOk_videoInit_of_allOff hoff] at hsetup
    cases hsetup
  · intro memory p p' hreach h
    obtain ⟨hstopped, -, hinfo, hchannel, hhardware⟩ := start_processStep (fun _ => rfl) h
    have hreleased := Audio.released_of_reach hreach
    refine ⟨?_, ?_, ?_, ?_⟩
    · rw [hchannel]
      exact hreleased.table (.inr (.inr hstopped))
    · rw [hinfo]
      exact hreleased.info hstopped
    · rw [hhardware]
      exact fun _ => hreleased.flags (.inr (.inr hstopped)) _
    · intro calls hok
      exact Audio.isOk_audioInit.trans hok

/-- A pass of the loop, with messages that arrive before its last part. -/
def processPass {ω η : Type} (calls : η) (msgs : List Message) : List (ProcessAction ω η) :=
  [.main {} calls, .main {} calls] ++ msgs.map .arrive ++ [.main {} calls]

/-- A life: the server comes up, is set up, and is told by the manager to end. -/
def setUpAndEnd {ω η : Type} (calls : η) : List (ProcessAction ω η) :=
  [.start, .main {} calls] ++ processPass calls [gokeRunning] ++ processPass calls [] ++
    processPass calls [{ message := msgManagerExit, sender := ServerType.manager.toInt }] ++
    (List.replicate 6 (processPass calls [])).flatten ++ [.main {} calls]

/-- The calls of the video server succeed. -/
def videoCalls : Video.VideoCalls where
  release := { stop := { address := VideoHardware.stackWord }
               uninitAddress := VideoHardware.stackWord }

/-- The condition of the theorem on both servers is met: the video server is started a second time and
fails to set up, the audio server is fresh. -/
theorem restart_fresh_once :
    (∃ p p', Video.videoProcess managerConfig p .start = some p' ∧ 0 < p.starts ∧
        ¬ Video.FreshStart p') ∧
      ∃ p p', Audio.audioProcess managerConfig p .start = some p' ∧ 0 < p.starts ∧
        Audio.FreshStart p' := by
  constructor
  · have hrun : (exec (Video.videoProcess managerConfig) (fun _ _ => true)
        (Video.videoProcessInit {} fun _ => {}) (setUpAndEnd videoCalls)).any
        (fun p => (Video.videoProcess managerConfig p .start).any fun _ => decide (0 < p.starts)) =
        true := by
      decide
    obtain ⟨p, p', hreach, h, hpos⟩ :=
      Reach.exists_step_of_exec (P := fun (p _ : Video.VideoProcess) => 0 < p.starts)
        (fun _ _ _ => trivial) hrun
    exact ⟨p, p', h, hpos, (restart_fresh managerConfig).1 {} (fun _ => {}) p p' hreach hpos h⟩
  · have hrun : (exec (Audio.audioProcess managerConfig) (fun p a => decide (Audio.Careful p a))
        (Audio.audioProcessInit fun _ => {}) (setUpAndEnd {})).any
        (fun p => (Audio.audioProcess managerConfig p .start).any fun _ => decide (0 < p.starts)) =
        true := by
      decide
    obtain ⟨p, p', hreach, h, hpos⟩ :=
      Reach.exists_step_of_exec (P := fun (p _ : Audio.AudioProcess) => 0 < p.starts)
        (fun p a hok => show Audio.Careful p a from of_decide_eq_true hok) hrun
    exact ⟨p, p', h, hpos, (restart_fresh managerConfig).2 (fun _ => {}) p p' hreach h⟩

/-- The video server has been set up, has ended and is started again: every call into the hardware
succeeds as before, and its set-up fails. -/
theorem videoSetup_fails :
    ∃ p p', Reach (Video.videoProcess managerConfig) AllRuns (Video.videoProcessInit {} fun _ => {}) p ∧
      0 < p.starts ∧ (.init, .od) ∈ p.hardware.hardware.log ∧
      Video.videoProcess managerConfig p .start = some p' ∧ ¬ Video.FreshStart p' := by
  have hrun : (exec (Video.videoProcess managerConfig) (fun _ _ => true)
      (Video.videoProcessInit {} fun _ => {}) (setUpAndEnd videoCalls)).any
      (fun p => (Video.videoProcess managerConfig p .start).any fun p' => decide (0 < p.starts ∧
        (VideoHardware.StageCall.init, VideoHardware.Stage.od) ∈ p.hardware.hardware.log ∧
        (VideoHardware.videoInit p'.hardware.config {} p'.hardware.hardware).isOk = false)) =
      true := by
    decide
  obtain ⟨p, p', hreach, h, hpos, hinit, hfails⟩ := Reach.exists_step_of_exec
    (P := fun p p' : Video.VideoProcess => 0 < p.starts ∧
      (VideoHardware.StageCall.init, VideoHardware.Stage.od) ∈ p.hardware.hardware.log ∧
      (VideoHardware.videoInit p'.hardware.config {} p'.hardware.hardware).isOk = false)
    (fun _ _ _ => trivial) hrun
  refine ⟨p, p', hreach, hpos, hinit, h, fun hfresh => ?_⟩
  have hsetup := hfresh.setup {} Video.isOk_videoInit_device
  rw [hfails] at hsetup
  cases hsetup

end GokeWebcam.Server
