import GokeWebcam.Server.Aliyun
import GokeWebcam.Server.ExitForward
import GokeWebcam.Server.PlayerStatus
import GokeWebcam.Server.Recorder

/-!
# The exits of the recorder, the player and the aliyun server

Their message filters let the start of a format, a change of the recording mode, a playback request
and a restart of the cloud client pass in the exit states, since the ids of these end in a digit
that `msg_is_system` takes for a system message.

* `Recorder.disturbs`, `Player.disturbs`, `Aliyun.disturbs`: these messages.
* `exitForward_servers_iff`: the exits go on iff none of them is taken, no second exit request is,
  and no playback ends meanwhile.
* `exit_revoked`: each of the three servers leaves its exit.
-/

namespace GokeWebcam.Server

open Lib Common Global Manager

variable {input : ServerInput} {m : Message}

namespace Recorder

/-- The start of a format, and a new value of the recording mode. -/
def disturbs (m : Message) (_ : ServerInfo) (own : Statics) : Prop :=
  m.message = msgDeviceSdFormatStart ∨ (m.message = msgRecorderPropertySet ∧
    m.argIn.cat = recorderPropertySwitch ∧ ∃ block, m.arg = some block ∧
      own.recorderEnable.setWidth 32 ≠ readInt block)

variable {s s' : State}

theorem forward_handle (hexit : s.info.status.isExit = true) (hclear : s.info.exit = false)
    (h : handle input m s = some s') : Forward s s' ↔ ¬ disturbs m s.info s.own := by
  rw [handle] at h
  split_ifs at h with hadd hrun hformat hset
  · rw [hrun] at hexit
    cases hexit
  · cases h
    refine iff_of_true (.of_info rfl) ?_
    rintro (hid | ⟨hid, -⟩) <;> rw [hadd] at hid <;> exact absurd hid (by decide)
  · cases h
    exact iff_of_false (not_forward hexit hclear rfl) fun hnot => hnot (.inl hformat)
  · rw [recorderSetProperty] at h
    split_ifs at h with hcat
    · rw [Option.map_eq_some_iff] at h
      obtain ⟨block, hblock, rfl⟩ := h
      dsimp only
      split_ifs with hchanged hzero
      · exact iff_of_false (not_forward hexit hclear rfl) fun hnot =>
          hnot (.inr ⟨hset, hcat, block, hblock, hchanged⟩)
      · exact iff_of_false (not_forward hexit hclear rfl) fun hnot =>
          hnot (.inr ⟨hset, hcat, block, hblock, hchanged⟩)
      · refine iff_of_true (.of_info rfl) ?_
        rintro (hid | ⟨-, -, block', hblock', hne⟩)
        · exact hformat hid
        · rw [hblock] at hblock'
          cases hblock'
          exact hchanged hne
    · cases h
      refine iff_of_true (.of_info rfl) ?_
      rintro (hid | ⟨-, hcat', -⟩)
      · exact hformat hid
      · exact hcat hcat'
  · have hno : ¬ disturbs m s.info s.own := by
      rintro (hid | ⟨hid, -⟩)
      · exact hformat hid
      · exact hset hid
    rcases hcard : cardAndClockMessage m s with _ | s₁
    · rw [hcard] at h
      cases h
      exact iff_of_true (.of_info rfl) hno
    · rw [hcard] at h
      cases h
      refine iff_of_true (forward_of_taskFrame (P := Ordinary)
        (taskFrame_cardAndClockMessage hcard) ?_) hno
      exact status_cardAndClockMessage hcard

theorem exitKeeper_server : ExitKeeper server disturbs fun _ _ => False where
  toKeeper := keeper_server
  taskExit hexit h := by
    cases h
    rw [taskProc]
    split
    case h_1 hstatus => rw [hstatus] at hexit; cases hexit
    case h_2 hstatus => rw [hstatus] at hexit; cases hexit
    case h_3 hstatus => rw [hstatus] at hexit; cases hexit
    case h_4 => rfl
  release1Info := rfl
  release2Info := rfl
  handlerExit h := (Option.some.inj h).symm
  handleExit := forward_handle
  threadExit _ _ h := iff_of_true
    (forward_of_taskFrame (taskFrame_recorderFunc h) (status_recorderFunc h)) id
  ids hd := by
    rcases hd with hid | ⟨hid, -⟩ <;> rw [hid] <;> decide

end Recorder

namespace Player

/-- The start of a format, and a playback request. -/
def disturbs (m : Message) (info : ServerInfo) (_ : Statics) : Prop :=
  m.message = msgDeviceSdFormatStart ∨ (m.message = msgPlayerRequest ∧ info.task.msg ≠ m)

variable {s s' : State}

theorem forward_handle (hexit : s.info.status.isExit = true) (hclear : s.info.exit = false)
    (h : handle input m s = some s') : Forward s s' ↔ ¬ disturbs m s.info s.own := by
  by_cases hrequest : m.message = msgPlayerRequest
  · have hrun : (s.setTaskMsg m).info.status ≠ .run := by
      intro hrun
      have hrun : s.info.status = .run := hrun
      rw [hrun] at hexit
      cases hexit
    rw [handle, if_pos hrequest, playerAddJob, if_pos hrun] at h
    cases h
    constructor
    · rintro ⟨-, hrecord⟩ (hid | ⟨-, hne⟩)
      · rw [hrequest] at hid
        exact absurd hid (by decide)
      · exact hne hrecord.symm
    · intro hnot
      refine ⟨.inl rfl, ?_⟩
      by_contra hne
      exact hnot (.inr ⟨hrequest, fun h => hne h.symm⟩)
  by_cases hformat : m.message = msgDeviceSdFormatStart
  · rw [handle, if_neg hrequest, if_pos hformat] at h
    cases h
    exact iff_of_false (not_forward hexit hclear rfl) fun hnot => hnot (.inl hformat)
  · refine iff_of_true (forward_of_taskFrame (taskFrame_handle hrequest hformat h)
      (status_handle hrequest hformat h)) ?_
    rintro (hid | ⟨hid, -⟩)
    · exact hformat hid
    · exact hrequest hid

theorem exitKeeper_server :
    ExitKeeper server disturbs fun input s => playbackEnds input s = true where
  toKeeper := keeper_server
  taskExit hexit h := by
    cases h
    rw [taskProc]
    split
    case h_1 hstatus => rw [hstatus] at hexit; cases hexit
    case h_2 hstatus => rw [hstatus] at hexit; cases hexit
    case h_3 hstatus => rw [hstatus] at hexit; cases hexit
    case h_4 => rfl
  release1Info := rfl
  release2Info := rfl
  handlerExit h := (Option.some.inj h).symm
  handleExit := forward_handle
  threadExit {input s s'} hexit hclear h := by
    have hframe := taskFrame_playerFunc h
    have hstatus := status_playerFunc h
    by_cases hends : playbackEnds input s = true
    · rw [if_pos hends] at hstatus
      refine iff_of_false (not_forward hexit (hframe.exit.trans hclear) ?_) fun hnot => hnot hends
      rw [hstatus]
      rfl
    · rw [if_neg hends] at hstatus
      exact iff_of_true (forward_of_taskFrame hframe hstatus) hends
  ids hd := by
    rcases hd with hid | ⟨hid, -⟩ <;> rw [hid] <;> decide

end Player

namespace Aliyun

/-- A restart of the cloud client. -/
def disturbs (m : Message) (_ : ServerInfo) (_ : Statics) : Prop := m.message = msgAliyunRestart

variable {s s' : State}

theorem forward_handle (hexit : s.info.status.isExit = true) (hclear : s.info.exit = false)
    (h : handle input m s = some s') : Forward s s' ↔ ¬ disturbs m s.info s.own := by
  by_cases hrestart : m.message = msgAliyunRestart
  · have hconnect : m.message ≠ msgAliyunConnect := by
      rw [hrestart]
      decide
    have hqrcode : m.message ≠ msgAliyunQrcodeResult := by
      rw [hrestart]
      decide
    rw [handle, if_neg hconnect, if_neg hqrcode, if_pos hrestart] at h
    cases h
    exact iff_of_false (not_forward hexit hclear rfl) fun hnot => hnot hrestart
  · refine iff_of_true (forward_of_taskFrame (taskFrame_handle h) ?_) hrestart
    have hidle : s.info.status ≠ .idle := by
      intro hidle
      rw [hidle] at hexit
      cases hexit
    rw [handle, if_neg hidle, if_neg hrestart] at h
    split_ifs at h <;> cases h
    · rfl
    · rw [getQrcodeCallback]
      split_ifs <;> rfl
    · rfl
    · rfl
    · rfl
    · rfl

theorem exitKeeper_server : ExitKeeper server disturbs fun _ _ => False where
  toKeeper := keeper_server
  taskExit hexit h := by
    cases h
    rw [taskProc]
    split
    case h_1 hstatus => rw [hstatus] at hexit; cases hexit
    case h_2 hstatus => rw [hstatus] at hexit; cases hexit
    case h_3 => rfl
  release1Info := rfl
  release2Info := rfl
  handlerExit h := (Option.some.inj h).symm
  handleExit := forward_handle
  threadExit _ _ h := by cases h
  ids hd := by
    rw [hd]
    decide

end Aliyun

/-! ### Runs -/

/-- In every run of the recorder, the player and the aliyun server the exit goes on to its end iff
no message that disturbs it is taken, and no playback of the player ends, in an exit state. -/
theorem exitForward_servers_iff (config : ManagerConfig) :
    (∀ own as, AllSteps (Recorder.server.step config) ExitForward { own := own } as ↔
      AllSteps (Recorder.server.step config)
        (fun s a _ => ¬ Disturbed Recorder.server Recorder.disturbs (fun _ _ => False) s a)
        { own := own } as) ∧
    (∀ own as, AllSteps (Player.server.step config) ExitForward { own := own } as ↔
      AllSteps (Player.server.step config)
        (fun s a _ => ¬ Disturbed Player.server Player.disturbs
          (fun input s => Player.playbackEnds input s = true) s a) { own := own } as) ∧
    ∀ own as, AllSteps (Aliyun.server.step config) ExitForward { own := own } as ↔
      AllSteps (Aliyun.server.step config)
        (fun s a _ => ¬ Disturbed Aliyun.server Aliyun.disturbs (fun _ _ => False) s a)
        { own := own } as :=
  ⟨exitForward_iff Recorder.exitKeeper_server config,
    exitForward_iff Player.exitKeeper_server config,
    exitForward_iff Aliyun.exitKeeper_server config⟩

/-- A server starts and handles an exit request, and then takes another message. -/
def exitThen (msg : Message) : List ServerAction :=
  [.start, .main {}, .arrive { message := msgManagerExit, sender := ServerType.manager.toInt },
    .main {}, .main {}, .main {}, .arrive msg, .main {}, .main {}]

/-- From `EXIT_SERVER` the recorder goes to `STATUS_START` when recording is switched on, the player
to `STATUS_REINIT` when a format starts, and the aliyun server to `STATUS_SETUP` when it is
restarted. -/
theorem exit_revoked :
    (∃ s s', Reach (Recorder.server.step managerConfig) AllRuns
        { own := { recorderEnable := 0#8 } } s ∧
      Recorder.server.step managerConfig s (.main {}) = some s' ∧
      (s.info.status = .exitServer ∧ s'.info.status = .start)) ∧
    (∃ s s', Reach (Player.server.step managerConfig) AllRuns { own := {} } s ∧
      Player.server.step managerConfig s (.main {}) = some s' ∧
      (s.info.status = .exitServer ∧ s'.info.status = .reinit)) ∧
    ∃ s s', Reach (Aliyun.server.step managerConfig) AllRuns { own := {} } s ∧
      Aliyun.server.step managerConfig s (.main {}) = some s' ∧
      (s.info.status = .exitServer ∧ s'.info.status = .setup) := by
  refine ⟨?_, ?_, ?_⟩
  · have hrun : (exec (Recorder.server.step managerConfig) (fun _ _ => true)
        { own := { recorderEnable := 0#8 } }
        (exitThen { message := msgRecorderPropertySet, arg := some (intBytes 3#32),
                    argIn := { cat := Recorder.recorderPropertySwitch } })).any
        (fun s => (Recorder.server.step managerConfig s (.main {})).any fun s' => decide
          (s.info.status = .exitServer ∧ s'.info.status = .start)) = true := by
      decide
    exact Reach.exists_step_of_exec (fun _ _ _ => trivial) hrun
  · have hrun : (exec (Player.server.step managerConfig) (fun _ _ => true) { own := {} }
        (exitThen { message := msgDeviceSdFormatStart })).any
        (fun s => (Player.server.step managerConfig s (.main {})).any fun s' => decide
          (s.info.status = .exitServer ∧ s'.info.status = .reinit)) = true := by
      decide
    exact Reach.exists_step_of_exec (fun _ _ _ => trivial) hrun
  · have hrun : (exec (Aliyun.server.step managerConfig) (fun _ _ => true) { own := {} }
        (exitThen { message := msgAliyunRestart })).any
        (fun s => (Aliyun.server.step managerConfig s (.main {})).any fun s' => decide
          (s.info.status = .exitServer ∧ s'.info.status = .setup)) = true := by
      decide
    exact Reach.exists_step_of_exec (fun _ _ _ => trivial) hrun

end GokeWebcam.Server
