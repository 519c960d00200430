import GokeWebcam.Server.Member
import GokeWebcam.Server.Restart
import GokeWebcam.Webcam.Program

/-!
# The servers as members

Each of the seven servers leaves its exit to the functions all servers share.

* `Keeper.member`: one that leaves the queue and the exit protocol alone does, if what it keeps of a
  wait for its threads is known.
* `Child.member`: each of them does.
-/

namespace GokeWebcam.Server

variable {κ : Type} {P : Common.Message → Prop} {c : ServerCode κ}

theorem Keeper.member (hc : Keeper P c) (hP : ∀ m, P m → Signed c.server m)
    (hkeeps : ∀ {input s s' status}, c.states input s = some s' → s'.pc = .drain status →
      s'.pc = s.pc ∨ KeepsQuit c status)
    (hquit : ∀ {status s}, (c.drained status s).info.quitStatus = s.info.quitStatus ∨
      (c.drained status s).info.quitStatus = 0#32)
    (htask : ∀ {input s s'}, c.thread input s = some s' →
      c.exitCondition = 0#32 ∨ s'.info.task = s.info.task) : ExitMember c where
  states h := by
    obtain ⟨hframe, hpc⟩ := hc.states h
    refine .inl ⟨hframe.mono hP, hpc.elim .inl fun hdrain => ?_⟩
    obtain ⟨status, hstatus⟩ := hdrain
    exact (hkeeps h hstatus).imp id fun hkeep => ⟨status, hstatus, hkeep⟩
  taskProc h := (hc.taskProc h).mono hP
  handle h := (hc.handle h).mono hP
  handler h := (hc.handler h).mono hP
  thread h := ⟨(hc.thread h).mono hP, htask h⟩
  release1 := hc.release1.mono hP
  release2 := hc.release2.mono hP
  drained := ⟨hc.drained.1, hc.drained.2.1, hquit, hc.drained.2.2.2⟩
  serverStart := hc.serverStart

namespace DeviceServer

theorem member_server : ExitMember server where
  states h := by
    cases h
    rcases @states_cases _ _ with hframe | hcleared
    · exact .inl ⟨⟨hframe.message, rfl, hframe.exit, hframe.quitStatus, hframe.status,
        (hframe.toFrame.mono fun _ => Ordinary.signed).out⟩, .inl hframe.pc⟩
    · exact .inr ⟨rfl, hcleared⟩
  taskProc h := by
    cases h
    exact taskFrame_taskProc.toFrame.mono fun _ => Ordinary.signed
  handle h := by
    cases h
    exact taskFrame_handle.toFrame.mono fun _ => Ordinary.signed
  handler h := by
    dsimp only [server] at h
    split_ifs at h
    cases h
    exact taskFrame_deviceCheckReset.toFrame.mono fun _ => Ordinary.signed
  thread h := by
    cases h
    exact ⟨(taskFrame_serverThread (Ordinary.signed (by decide))).toFrame, .inl rfl⟩
  release1 := TaskFrame.refl.toFrame
  release2 := TaskFrame.refl.toFrame
  drained := ⟨rfl, rfl, .inl rfl, fun _ => rfl⟩
  serverStart := .inl rfl

end DeviceServer

namespace Recorder

variable {s : State} {status : Global.ServerStatus}

theorem quitStatus_drained : (drained s status).info.quitStatus = s.info.quitStatus ∨
    (drained s status).info.quitStatus = 0#32 := by
  unfold drained
  dsimp only
  split
  · exact .inl rfl
  · exact .inl rfl
  · exact .inr rfl

end Recorder

namespace Player

variable {s s' : State} {status : Global.ServerStatus}

theorem quitStatus_drained : (drained s status).info.quitStatus = s.info.quitStatus ∨
    (drained s status).info.quitStatus = 0#32 := by
  rw [drained]
  split_ifs
  · exact .inl rfl
  · exact .inr rfl

theorem keepsQuit_of_states (h : states s = some s') (hdrain : s'.pc = .drain status) :
    s'.pc = s.pc ∨ KeepsQuit server status := by
  rw [states] at h
  split at h <;> cases h
  · have hinit : TaskFrame Ordinary s (serverInit s) := taskFrame_cardAndClockInit
    exact .inl hinit.pc
  · exact .inl rfl
  · exact .inl rfl
  · cases hdrain
    exact .inr (.inr (.inr fun _ => rfl))
  · cases hdrain
    exact .inr (.inr (.inl rfl))
  · exact .inl rfl

end Player

end GokeWebcam.Server

namespace GokeWebcam.Webcam

open Server

/-- Each server leaves its exit to the functions that all servers share. -/
theorem Child.member : (t : Child) → ExitMember t.code
  | .device => DeviceServer.member_server
  | .goke => Goke.keeper_server.member (fun _ => Ordinary.signed) (fun _ _ => .inr (.inr (.inr fun _ => rfl)))
      (.inl rfl) (by rintro _ _ _ ⟨⟩)
  | .video => Video.keeper_server.member (fun _ => id) (fun _ _ => .inr (.inr (.inr fun _ => rfl))) (.inl rfl)
      fun h => .inr (by cases h; exact (taskFrame_serverThread (P := fun _ => True) trivial).task)
  | .audio => Audio.keeper_server.member (fun _ => id) (fun _ _ => .inr (.inr (.inr fun _ => rfl))) (.inl rfl)
      fun h => .inr (by cases h; exact (taskFrame_serverThread (P := fun _ => True) trivial).task)
  | .recorder => Recorder.keeper_server.member (fun _ => Ordinary.signed)
      (fun _ _ => .inr (.inl rfl)) Recorder.quitStatus_drained
      fun _ => .inl rfl
  | .player => Player.keeper_server.member (fun _ => Ordinary.signed)
      Player.keepsQuit_of_states Player.quitStatus_drained
      fun h => .inr (Player.taskFrame_playerFunc h).task
  | .aliyun => Aliyun.keeper_server.member (fun _ => Ordinary.signed) (fun _ _ => .inr (.inr (.inr fun _ => rfl)))
      (.inl rfl) (by rintro _ _ _ ⟨⟩)

end GokeWebcam.Webcam
