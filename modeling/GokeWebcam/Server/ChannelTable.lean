import GokeWebcam.Lib.SlotTable
import GokeWebcam.Lib.Transition
import GokeWebcam.Server.Loop

/-!
# A server with a table of channels

The video and the audio server keep the clients they send a stream to in a table `channel` of
`MAX_AV_CHANNEL` slots. Start and stop requests, which both serve as tasks in the same way, take and
empty slots; so do some messages and the thread that sends the frames.

* `startTask`, `stopTask`: the two tasks, which a server's own `task_proc` is to agree with
  (`ServesClients`).
* `TableCode`: what a server's functions do to its table; `channelStep`: the server with its table.
* `channelStep_of`: what a step may do to the table, as a rule for what holds of the table.
* `Acknowledged`: a step answers a client's request; `start_acknowledged`, `stop_acknowledged`: when
  it is answered with success, and `acknowledged_of_start`, `acknowledged_of_stop`: that it is.

The thread reads a slot without the lock. Its writes are steps of their own, and what they depend on
is what it saw of the slot earlier.
-/

namespace GokeWebcam.Server

open Lib Common Global Manager

variable {κ σ ω : Type}

/-- Source: `server/goke/goke_interface.h` `MAX_AV_CHANNEL` -/
def maxAvChannel : ℕ := 4

/-- Source: `server/goke/goke_interface.h` `QOS_MAX_LATENCY` -/
def qosMaxLatency : CInt := 10000#32

/-- Source: `server/goke/goke_interface.h` `channel_status_t` -/
inductive ChannelStatus
  | empty | valid
  deriving DecidableEq, Repr

/-! ### The tasks of clients -/

/-- Source: `server/video/video.c`, `server/audio/audio.c` `task_proc`, `TASK_TYPE_START` -/
def startTask (server : ServerType) (s : ServerState κ) : ServerState κ :=
  match s.info.status with
  | .none => s.setStatus .init
  | .wait => s.setStatus .setup
  | .idle => s.setStatus .start
  | .run => finishTask (taskAck server s.info.task 0#32) s
  | status =>
    if ServerStatus.error.toNat ≤ status.toNat then
      finishTask (taskAck server s.info.task (-1#32)) s
    else s

/-- Source: `server/video/video.c`, `server/audio/audio.c` `task_proc`, `TASK_TYPE_STOP` -/
def stopTask (server : ServerType) (s : ServerState κ) : ServerState κ :=
  if ServerStatus.error.toNat ≤ s.info.status.toNat then
    finishTask (taskAck server s.info.task (-1#32)) s
  else finishTask (taskAck server s.info.task 0#32) s

/-- The server serves start and stop requests so, and only its main thread touches the task. -/
structure ServesClients (c : ServerCode κ) : Prop where
  start : ∀ {input s}, s.info.task.type = .start →
    c.taskProc input s = some (startTask c.server s)
  stop : ∀ {input s}, s.info.task.type = .stop → c.taskProc input s = some (stopTask c.server s)
  thread : ∀ {input s s'}, c.thread input s = some s' → s'.info.task = s.info.task
  serverStart : ∀ s, (c.serverStart s).info.task = s.info.task

/-! ### The server with its table -/

/-- What a server does to its table: in `task_proc`, with a message, in `server_release_2`, and with
a write of the thread that sends the frames. -/
structure TableCode (σ ω : Type) where
  task : ServerInfo → (ℤ → σ) → ℤ → σ
  message : ServerInput → Message → (ℤ → σ) → ℤ → σ
  release : (ℤ → σ) → ℤ → σ
  write : ω → σ → σ

/-- The server and the memory its table is part of: `channel[i]` for every `i`. -/
structure ChannelState (κ σ : Type) where
  server : ServerState κ
  channel : ℤ → σ

/-- A step of the server, or a write of the thread that sends the frames to the slot `i`. -/
inductive ChannelAction (ω : Type)
  | server (a : ServerAction)
  | encoder (i : Fin maxAvChannel) (w : ω)

/-- What a step of the server does to the table. -/
def serverChannels (c : ServerCode κ) (table : TableCode σ ω) (s : ServerState κ) (a : ServerAction)
    (channel : ℤ → σ) : ℤ → σ :=
  match a with
  | .main input =>
    match s.pc with
    | .stateMachine =>
      if s.info.exit = false ∧ s.info.status = .exitStage2 then table.release channel else channel
    | .taskProc => table.task s.info channel
    | .messageProc =>
      match nextMessage c s with
      | some msg => if messageFilter s msg then channel else table.message input msg channel
      | none => channel
    | _ => channel
  | _ => channel

/-- One step. -/
def channelStep (c : ServerCode κ) (table : TableCode σ ω) (config : ManagerConfig)
    (s : ChannelState κ σ) : ChannelAction ω → Option (ChannelState κ σ)
  | .server a => (c.step config s.server a).map fun server =>
      { server := server, channel := serverChannels c table s.server a s.channel }
  | .encoder i w => some { s with
      channel := Function.update s.channel i (table.write w (s.channel i)) }

/-- The step answers the request of this kind with the result. -/
def Acknowledged (type : TaskType) (result : CInt) (s s' : ChannelState κ σ) : Prop :=
  s.server.pc = .taskProc ∧ s.server.info.task.type = type ∧ s'.server.info.task.type = .none ∧
    ∃ ack, s'.server.out = s.server.out ++ [(s.server.info.task.msg.receiver, ack)] ∧
      ack.message = ackOf s.server.info.task.msg.message ∧ ack.result = result

/-! ### How the tasks end -/

variable {c : ServerCode κ} {table : TableCode σ ω} {config : ManagerConfig} {sv sv' : ServerState κ}
  {s s' : ChannelState κ σ} {a : ChannelAction ω} {input : ServerInput}

/-- A start task ends in `STATUS_RUN` with success and from `STATUS_ERROR` on with a failure. -/
theorem startTask_answered {server : ServerType} (htype : sv.info.task.type = .start)
    (hend : (startTask server sv).info.task.type = .none) :
    (sv.info.status = .run ∧ startTask server sv = finishTask (taskAck server sv.info.task 0#32) sv) ∨
      (ServerStatus.error.toNat ≤ sv.info.status.toNat ∧
        startTask server sv = finishTask (taskAck server sv.info.task (-1#32)) sv) := by
  have hgoing : ∀ status, (sv.setStatus status).info.task.type ≠ .none := by
    intro status heq
    have heq : sv.info.task.type = .none := heq
    rw [htype] at heq
    cases heq
  unfold startTask at hend ⊢
  split
  case h_1 hstatus =>
    simp only [hstatus] at hend
    exact absurd hend (hgoing _)
  case h_2 hstatus =>
    simp only [hstatus] at hend
    exact absurd hend (hgoing _)
  case h_3 hstatus =>
    simp only [hstatus] at hend
    exact absurd hend (hgoing _)
  case h_4 hstatus => exact .inl ⟨hstatus, rfl⟩
  case h_5 hnone hwait hidle hrun =>
    split_ifs with herror
    · exact .inr ⟨herror, rfl⟩
    · exfalso
      have hrest : sv.info.task.type = .none := by
        split at hend
        case h_5 =>
          rw [if_neg herror] at hend
          exact hend
        all_goals contradiction
      rw [htype] at hrest
      cases hrest

/-- A stop task ends at once. -/
theorem stopTask_answered (server : ServerType) (sv : ServerState κ) :
    (sv.info.status.toNat < ServerStatus.error.toNat ∧
        stopTask server sv = finishTask (taskAck server sv.info.task 0#32) sv) ∨
      (ServerStatus.error.toNat ≤ sv.info.status.toNat ∧
        stopTask server sv = finishTask (taskAck server sv.info.task (-1#32)) sv) := by
  unfold stopTask
  split_ifs with herror
  · exact .inr ⟨herror, rfl⟩
  · exact .inl ⟨by omega, rfl⟩

theorem out_finishTask {ack : Message} :
    (finishTask ack sv).out = sv.out ++ [(sv.info.task.msg.receiver, ack)] := rfl

/-- The result that is sent is the one the task ends with. -/
theorem result_of_acknowledged {type : TaskType} {server : ServerType} {result result' : CInt}
    {t : ServerState κ} {pc : ServerPc} {channel' : ℤ → σ}
    (ht : t = finishTask (taskAck server s.server.info.task result') s.server)
    (hack : Acknowledged type result s ⟨{ t with pc := pc }, channel'⟩) : result = result' := by
  obtain ⟨-, -, -, ack, hout, -, hresult⟩ := hack
  rw [ht] at hout
  simp only [out_finishTask, List.append_cancel_left_eq, List.cons.injEq, Prod.mk.injEq, true_and,
    and_true] at hout
  rw [← hresult, ← hout]
  rfl

/-! ### Which steps answer -/

/-- Only the main thread touches the task. -/
theorem ServesClients.task_of_not_main (hc : ServesClients c) {b : ServerAction}
    (h : c.step config sv b = some sv') (hmain : ∀ input, b ≠ .main input) :
    sv'.info.task = sv.info.task := by
  cases b with
  | main input => exact absurd rfl (hmain input)
  | thread input => exact hc.thread h
  | arrive msg =>
      cases h
      unfold serverMessage
      split_ifs <;> rfl
  | start =>
      rw [ServerCode.step] at h
      split_ifs at h
      cases h
      exact hc.serverStart sv

/-- An answer is sent by `task_proc`. -/
theorem ServesClients.task_of_acknowledged (hc : ServesClients c) {type : TaskType} {result : CInt}
    (htype : type ≠ .none) (h : channelStep c table config s a = some s')
    (hack : Acknowledged type result s s') :
    ∃ input t, a = .server (.main input) ∧ c.taskProc input s.server = some t ∧
      s' = ⟨{ t with pc := .messageProc }, table.task s.server.info s.channel⟩ := by
  obtain ⟨hpc, hbefore, hafter, -⟩ := hack
  have hkept : s'.server.info.task ≠ s.server.info.task := by
    intro heq
    rw [heq, hbefore] at hafter
    exact htype hafter
  cases a with
  | server b =>
      rw [channelStep, Option.map_eq_some_iff] at h
      obtain ⟨t, ht, rfl⟩ := h
      cases b with
      | main input =>
          rw [ServerCode.step, mainStep] at ht
          simp only [hpc] at ht
          rw [Option.map_eq_some_iff] at ht
          obtain ⟨u, hu, rfl⟩ := ht
          refine ⟨input, u, rfl, hu, ?_⟩
          simp only [serverChannels, hpc]
      | thread input => exact absurd (hc.task_of_not_main ht (by simp)) hkept
      | arrive msg => exact absurd (hc.task_of_not_main ht (by simp)) hkept
      | start => exact absurd (hc.task_of_not_main ht (by simp)) hkept
  | encoder i w =>
      cases h
      exact absurd rfl hkept

/-- An answered start succeeds exactly in `STATUS_RUN`. -/
theorem ServesClients.start_acknowledged (hc : ServesClients c) {result : CInt}
    (h : channelStep c table config s a = some s') (hack : Acknowledged .start result s s') :
    (∃ input, a = .server (.main input)) ∧ s'.channel = table.task s.server.info s.channel ∧
      ((s.server.info.status = .run ∧ result = 0#32) ∨
        (s.server.info.status ≠ .run ∧ result ≠ 0#32)) := by
  obtain ⟨input, t, rfl, ht, rfl⟩ := hc.task_of_acknowledged (by decide) h hack
  refine ⟨⟨input, rfl⟩, rfl, ?_⟩
  have htype := hack.2.1
  rw [hc.start htype] at ht
  cases ht
  obtain ⟨hrun, hstart⟩ | ⟨herror, hstart⟩ := startTask_answered htype hack.2.2.1
  · exact .inl ⟨hrun, result_of_acknowledged hstart hack⟩
  · right
    constructor
    · intro hrun
      rw [hrun] at herror
      exact absurd herror (by decide)
    · rw [result_of_acknowledged hstart hack]
      decide

/-- An answered stop succeeds exactly below `STATUS_ERROR`. -/
theorem ServesClients.stop_acknowledged (hc : ServesClients c)
    (h : channelStep c table config s a = some s') (hack : Acknowledged .stop 0#32 s s') :
    (∃ input, a = .server (.main input)) ∧ s'.channel = table.task s.server.info s.channel ∧
      s.server.info.status.toNat < ServerStatus.error.toNat := by
  obtain ⟨input, t, rfl, ht, rfl⟩ := hc.task_of_acknowledged (by decide) h hack
  refine ⟨⟨input, rfl⟩, rfl, ?_⟩
  have htype := hack.2.1
  rw [hc.stop htype] at ht
  cases ht
  obtain ⟨hlt, -⟩ | ⟨-, hstop⟩ := stopTask_answered c.server s.server
  · exact hlt
  · exact absurd (result_of_acknowledged hstop hack) (by decide)

/-- A start that is served in `STATUS_RUN` is answered with success. -/
theorem ServesClients.acknowledged_of_start (hc : ServesClients c)
    (h : channelStep c table config s (.server (.main input)) = some s')
    (hpc : s.server.pc = .taskProc) (htype : s.server.info.task.type = .start)
    (hrun : s.server.info.status = .run) : Acknowledged .start 0#32 s s' := by
  rw [channelStep, ServerCode.step, mainStep] at h
  simp only [hpc] at h
  rw [hc.start htype] at h
  simp only [startTask, hrun] at h
  cases h
  exact ⟨hpc, htype, rfl, _, rfl, rfl, rfl⟩

/-- A stop that is served is answered, with success below `STATUS_ERROR`. -/
theorem ServesClients.acknowledged_of_stop (hc : ServesClients c)
    (h : channelStep c table config s (.server (.main input)) = some s')
    (hpc : s.server.pc = .taskProc) (htype : s.server.info.task.type = .stop) :
    ∃ result, Acknowledged .stop result s s' ∧
      (s.server.info.status.toNat < ServerStatus.error.toNat → result = 0#32) := by
  rw [channelStep, ServerCode.step, mainStep] at h
  simp only [hpc] at h
  rw [hc.stop htype, stopTask] at h
  split_ifs at h with herror
  · cases h
    refine ⟨-1#32, ⟨hpc, htype, rfl, _, rfl, rfl, rfl⟩, ?_⟩
    intro hlt
    omega
  · cases h
    exact ⟨0#32, ⟨hpc, htype, rfl, _, rfl, rfl, rfl⟩, fun _ => rfl⟩

/-- What holds of the table and of all that may become of it in one step holds after the step. -/
theorem channelStep_of {P : (ℤ → σ) → Prop} (h : channelStep c table config s a = some s')
    (hsame : P s.channel)
    (htask : (∃ input, a = .server (.main input)) → s.server.pc = .taskProc →
      P (table.task s.server.info s.channel))
    (hmessage : ∀ input msg, P (table.message input msg s.channel))
    (hrelease : P (table.release s.channel))
    (hwrite : ∀ (i : Fin maxAvChannel) w,
      P (Function.update s.channel i (table.write w (s.channel i)))) : P s'.channel := by
  cases a with
  | encoder i w =>
      cases h
      exact hwrite i w
  | server b =>
      rw [channelStep, Option.map_eq_some_iff] at h
      obtain ⟨t, -, rfl⟩ := h
      unfold serverChannels
      split
      case h_1 input =>
        split
        case h_1 =>
          split_ifs
          · exact hrelease
          · exact hsame
        case h_2 hpc => exact htask ⟨input, rfl⟩ hpc
        case h_3 =>
          split
          · split_ifs
            · exact hsame
            · exact hmessage _ _
          · exact hsame
        case h_4 => exact hsame
      case h_2 => exact hsame

/-- In a pass of `task_proc` the table changes as the task says. -/
theorem channel_taskProc (h : channelStep c table config s (.server (.main input)) = some s')
    (hpc : s.server.pc = .taskProc) : s'.channel = table.task s.server.info s.channel := by
  rw [channelStep, Option.map_eq_some_iff] at h
  obtain ⟨t, -, rfl⟩ := h
  simp only [serverChannels, hpc]

/-! ### Runs -/

/-- A pass of the loop of the main thread, with messages that arrive before its last part. -/
def pass (msgs : List Message) : List (ChannelAction ω) :=
  [.server (.main {}), .server (.main {})] ++ msgs.map (fun msg => .server (.arrive msg)) ++
    [.server (.main {})]

/-- The report that the goke server runs. -/
def gokeRunning : Message where
  message := msgGokePropertyNotify
  sender := ServerType.goke.toInt
  argIn := { dog := BitVec.ofNat 32 ServerStatus.run.toNat }

/-- A client's request about a service id. -/
def streamRequest (id : CInt) (client : ServerType) (serviceId : CInt) : Message where
  message := id
  sender := client.toInt
  receiver := client.toInt
  argIn := { wolf := serviceId }
  argPass := { wolf := serviceId }

end GokeWebcam.Server
