import GokeWebcam.Server.ChannelTable
import GokeWebcam.Server.ExitForward

/-!
# A server over its lives

The static variables of a server's file outlive its thread: the manager starts it again after an exit,
and it finds what the last exit left. `Process` is the server with its table and with the variables
for the hardware; it counts its starts.

* `HardwareCode`: what the states of `state_machine` do to the variables for the hardware.
* `processStep`: one step.
* `After k`: the exit is past the state `k`, or over; `after_step`: it gets there only through `k`.
* `QuietExit`: once the exit is complete no task is taken up, `quietExit_step`.
-/

namespace GokeWebcam.Server

open Lib Common Global Manager

variable {κ σ ω ρ η : Type}

/-- What a pass of `state_machine` does to the variables for the hardware, and what it found out; `η`
is what the calls into the hardware return. -/
abbrev HardwareCode (ρ η : Type) := η → ServerInput → ServerInfo → ρ → ρ × ServerInput

/-- The static variables of a server's file, and how often it was started. -/
structure Process (κ σ ρ : Type) where
  state : ChannelState κ σ
  hardware : ρ
  starts : ℕ := 0

/-- A step of the main thread, of another thread, an arriving message, a start by the manager, or a
write of the thread that sends the frames. -/
inductive ProcessAction (ω η : Type)
  | main (input : ServerInput) (calls : η)
  | thread (input : ServerInput)
  | arrive (msg : Message)
  | start
  | encoder (i : Fin maxAvChannel) (w : ω)

/-- The main thread is before a pass of `state_machine`. -/
def InStates (s : ServerState κ) : Prop := s.pc = .stateMachine ∧ s.info.exit = false

instance {s : ServerState κ} : Decidable (InStates s) := inferInstanceAs (Decidable (_ ∧ _))

/-- The hardware's part of a step of the main thread. -/
def hardwarePass (hardware : HardwareCode ρ η) (p : Process κ σ ρ) (input : ServerInput) (calls : η) :
    ρ × ServerInput :=
  if InStates p.state.server then hardware calls input p.state.server.info p.hardware
  else (p.hardware, input)

/-- The step of the server with its table. -/
def ProcessAction.toChannel (hardware : HardwareCode ρ η) (p : Process κ σ ρ) :
    ProcessAction ω η → ChannelAction ω
  | .main input calls => .server (.main (hardwarePass hardware p input calls).2)
  | .thread input => .server (.thread input)
  | .arrive msg => .server (.arrive msg)
  | .start => .server .start
  | .encoder i w => .encoder i w

/-- The variables for the hardware after the step. -/
def ProcessAction.hardwareAfter (hardware : HardwareCode ρ η) (p : Process κ σ ρ) :
    ProcessAction ω η → ρ
  | .main input calls => (hardwarePass hardware p input calls).1
  | _ => p.hardware

def ProcessAction.startsAfter (p : Process κ σ ρ) : ProcessAction ω η → ℕ
  | .start => p.starts + 1
  | _ => p.starts

/-- One step. -/
def processStep (c : ServerCode κ) (table : TableCode σ ω) (hardware : HardwareCode ρ η)
    (config : ManagerConfig) (p : Process κ σ ρ) (a : ProcessAction ω η) :
    Option (Process κ σ ρ) :=
  (channelStep c table config p.state (a.toChannel hardware p)).map fun state =>
    { state := state, hardware := a.hardwareAfter hardware p, starts := a.startsAfter p }

/-! ### Past a state of the exit -/

/-- The exit is past the state `k`, or over. -/
def After (k : ServerStatus) (s : ServerState κ) : Prop :=
  s.info.exit = true ∨ k.toNat < s.info.status.toNat ∨ s.pc = .stopped

/-- Once `info.exit` is set, `task_proc` finds `STATUS_NONE`. -/
def QuietExit (s : ServerState κ) : Prop :=
  s.info.exit = true → s.pc = .taskProc → s.info.status = .none

variable {c : ServerCode κ} {config : ManagerConfig} {input : ServerInput} {s s' : ServerState κ}
  {P : Message → Prop} {k : ServerStatus} {a : ServerAction}

theorem toNat_injective : Function.Injective ServerStatus.toNat := by
  intro status status' h
  cases status <;> cases status' <;> first | rfl | simp [ServerStatus.toNat] at h

theorem isExit_of_lt {status : ServerStatus} (hk : k.isExit = true)
    (h : k.toNat < status.toNat) : status.isExit = true := by
  rw [ServerStatus.isExit, decide_eq_true_iff] at hk ⊢
  omega

/-- A pass of the state machine goes one state on at most. -/
theorem after_stateMachine (hc : Keeper P c) (hk : k.isExit = true)
    (h : stateMachine c input s = some s')
    (hafter : s'.info.exit = true ∨ k.toNat < s'.info.status.toNat) :
    s.info.exit = true ∨ k.toNat ≤ s.info.status.toNat := by
  have hk' := hk
  rw [ServerStatus.isExit, decide_eq_true_iff] at hk'
  rw [stateMachine] at h
  split at h
  case h_1 hstatus =>
    cases h
    refine hafter.imp id fun hlt => ?_
    have hlt : k.toNat < 1000 := hlt
    omega
  case h_2 hstatus =>
    cases h
    refine hafter.imp id fun hlt => ?_
    rw [hstatus]
    exact Nat.le_of_lt_succ hlt
  case h_3 hstatus =>
    cases h
    split_ifs at hafter
    · refine hafter.imp id fun hlt => ?_
      rw [hstatus]
      exact Nat.le_of_lt_succ hlt
    · exact hafter.imp id Nat.le_of_lt
  case h_4 hstatus =>
    cases h
    have hframe : Frame P s (c.serverRelease1 input s) := hc.release1
    refine hafter.imp (fun hexit => hframe.exit.symm.trans hexit) fun hlt => ?_
    rw [hstatus]
    exact Nat.le_of_lt_succ hlt
  case h_5 hstatus =>
    cases h
    split_ifs at hafter
    · refine hafter.imp id fun hlt => ?_
      rw [hstatus]
      exact Nat.le_of_lt_succ hlt
    · exact hafter.imp id Nat.le_of_lt
  case h_6 hstatus =>
    cases h
    have hframe := hc.release2 (s := { s with message := msgBufferRelease s.message })
    refine hafter.imp (fun hexit => hframe.exit.symm.trans hexit) fun hlt => ?_
    rw [hstatus]
    exact Nat.le_of_lt_succ hlt
  case h_7 hstatus =>
    cases h
    rw [hstatus]
    right
    cases k <;> decide
  case h_8 =>
    obtain ⟨hframe, -⟩ := hc.states h
    refine hafter.imp (fun hexit => hframe.exit.symm.trans hexit) fun hlt => ?_
    rw [← hframe.status (isExit_of_lt hk hlt)]
    exact hlt.le

/-- A function that leaves the exit protocol alone does not go on. -/
theorem After.of_frame (hframe : Frame P s s') (hk : k.isExit = true) (hafter : After k s') :
    After k s := by
  rcases hafter with hexit | hlt | hpc
  · exact .inl (hframe.exit.symm.trans hexit)
  · refine .inr (.inl ?_)
    rw [← hframe.status (isExit_of_lt hk hlt)]
    exact hlt
  · exact .inr (.inr (hframe.pc.symm.trans hpc))

theorem After.of_handleMessage (hc : Keeper P c) (hk : k.isExit = true) {msg : Message}
    (h : handleMessage c input msg s = some s') (hafter : After k s') : After k s := by
  rw [handleMessage] at h
  split_ifs at h
  · cases h
    refine hafter.imp id (Or.imp (fun hlt => ?_) id)
    have hk' := hk
    rw [ServerStatus.isExit, decide_eq_true_iff] at hk'
    have hlt : k.toNat < 1000 := hlt
    omega
  · cases h
    exact hafter
  · rw [Option.bind_eq_some_iff] at h
    obtain ⟨f, -, h⟩ := h
    exact hafter.of_frame (hc.handler h) hk
  · exact hafter.of_frame (hc.handle h) hk

/-- What a pop takes out of the queue does not matter here. -/
theorem After.of_messageProc (hc : Keeper P c) (hk : k.isExit = true)
    (h : serverMessageProc c input s = some s') (hafter : After k s') : After k s := by
  rcases serverMessageProc_cases h with ⟨-, rfl⟩ | ⟨buff, -, h⟩
  · exact hafter
  · rcases h with ⟨-, rfl⟩ | ⟨msg, -, ⟨-, rfl⟩ | ⟨-, h⟩⟩
    · exact hafter
    · exact hafter
    · exact After.of_handleMessage (s := s.popped buff) hc hk h hafter

theorem pc_stateMachine (hc : Keeper P c) (h : stateMachine c input s = some s')
    (hpc : s.pc = .stateMachine) : s'.pc ≠ .stopped := by
  rw [stateMachine] at h
  split at h
  case h_3 =>
    cases h
    split_ifs <;> (show s.pc ≠ _; simp [hpc])
  case h_5 =>
    cases h
    split_ifs <;> (show s.pc ≠ _; simp [hpc])
  case h_4 =>
    cases h
    have hframe : Frame P s (c.serverRelease1 input s) := hc.release1
    show (c.serverRelease1 input s).pc ≠ _
    rw [hframe.pc, hpc]
    simp
  case h_6 =>
    cases h
    have hframe := hc.release2 (s := { s with message := msgBufferRelease s.message })
    show (c.serverRelease2 _).pc ≠ _
    rw [hframe.pc]
    simp [hpc]
  case h_8 =>
    rcases (hc.states h).2 with hsame | ⟨status, hdrain⟩
    · rw [hsame, hpc]
      simp
    · rw [hdrain]
      simp
  all_goals
    cases h
    show s.pc ≠ _
    simp [hpc]

/-- The exit gets past a state only by a pass in that state. -/
theorem after_step (hc : Keeper P c) (hk : k.isExit = true)
    (h : c.step config s a = some s') (hafter : After k s') :
    After k s ∨ (∃ input, a = .main input) ∧ InStates s ∧ s.info.status = k := by
  cases a with
  | main input =>
      rw [ServerCode.step, mainStep] at h
      split at h
      case h_1 => cases h
      case h_2 =>
        cases h
        exact .inl (hafter.imp id (Or.imp id (by rintro ⟨⟩)))
      case h_3 hpc =>
        split_ifs at h with hexit
        · exact .inl (.inl hexit)
        · rw [Option.map_eq_some_iff] at h
          obtain ⟨t, ht, rfl⟩ := h
          have hstates := pc_stateMachine hc ht hpc
          have hnext : t.info.exit = true ∨ k.toNat < t.info.status.toNat := by
            rw [After, afterStates] at hafter
            split_ifs at hafter
            · exact hafter.imp id fun h => h.resolve_right (by simp)
            · exact hafter.imp id fun h => h.resolve_right hstates
          rcases after_stateMachine hc hk ht hnext with hset | hle
          · exact .inl (.inl hset)
          · rcases hle.lt_or_eq with hlt | heq
            · exact .inl (.inr (.inl hlt))
            · exact .inr ⟨⟨input, rfl⟩, ⟨hpc, Bool.eq_false_iff.mpr hexit⟩, (toNat_injective heq).symm⟩
      case h_4 status hpc =>
        split_ifs at h
        cases h
        obtain ⟨-, -, hset, hkept⟩ := @Keeper.drained _ _ _ hc status s
        refine .inl (hafter.imp hset fun h => ?_)
        refine .inl ?_
        have hlt := h.resolve_right (by simp)
        rw [← hkept (isExit_of_lt hk hlt)]
        exact hlt
      case h_5 hpc =>
        rw [Option.map_eq_some_iff] at h
        obtain ⟨t, ht, rfl⟩ := h
        have ht' : After k t := hafter.imp id (Or.imp id (by rintro ⟨⟩))
        exact .inl (ht'.of_frame (hc.taskProc ht) hk)
      case h_6 hpc =>
        rw [Option.map_eq_some_iff] at h
        obtain ⟨t, ht, rfl⟩ := h
        have ht' : After k t := hafter.imp id (Or.imp id (by rintro ⟨⟩))
        exact .inl (ht'.of_messageProc hc hk ht)
  | thread input => exact .inl (hafter.of_frame (hc.thread h) hk)
  | arrive msg =>
      cases h
      rw [serverMessage] at hafter
      split_ifs at hafter <;> exact .inl hafter
  | start =>
      rw [ServerCode.step] at h
      split_ifs at h with hpc
      exact .inl (.inr (.inr hpc))

/-- A pass of the state machine that sets `info.exit` leaves `STATUS_NONE`. -/
theorem status_stateMachine (hc : Keeper P c) (h : stateMachine c input s = some s')
    (hexit : s.info.exit = false) (hset : s'.info.exit = true) : s'.info.status = .none := by
  have hkept : s'.info.exit = s.info.exit → s'.info.status = .none := by
    intro hsame
    rw [hsame, hexit] at hset
    cases hset
  rw [stateMachine] at h
  split at h
  case h_3 =>
    cases h
    exact hkept (by split_ifs <;> rfl)
  case h_4 =>
    cases h
    have hframe : Frame P s (c.serverRelease1 input s) := hc.release1
    exact hkept hframe.exit
  case h_5 =>
    cases h
    exact hkept (by split_ifs <;> rfl)
  case h_6 =>
    cases h
    exact hkept (hc.release2 (s := { s with message := msgBufferRelease s.message })).exit
  case h_7 =>
    cases h
    rfl
  case h_8 => exact hkept (hc.states h).1.exit
  all_goals
    cases h
    exact hkept rfl

theorem quietExit_step (hc : Keeper P c) (hinv : ExitInv s)
    (hthread : ∀ {input s s'}, c.thread input s = some s' → s'.info.status = s.info.status)
    (hquiet : QuietExit s) (h : c.step config s a = some s') : QuietExit s' := by
  cases a with
  | main input =>
      rw [ServerCode.step, mainStep] at h
      intro hset hpc'
      split at h
      case h_1 => cases h
      case h_2 =>
        cases h
        cases hpc'
      case h_3 hpc =>
        split_ifs at h with hexit
        · cases h
          cases hset
        · rw [Option.map_eq_some_iff] at h
          obtain ⟨t, ht, rfl⟩ := h
          have hinfo : (afterStates t).info = t.info := by
            rw [afterStates]
            split_ifs <;> rfl
          rw [hinfo] at hset ⊢
          exact status_stateMachine hc ht (Bool.eq_false_iff.mpr hexit) hset
      case h_4 status hpc =>
        split_ifs at h
        cases h
        obtain ⟨-, -, hkept, -⟩ := @Keeper.drained _ _ _ hc status s
        have hclear := (hinv.idle (.inr (.inr ⟨_, hpc⟩))).2
        rw [hkept hset] at hclear
        cases hclear
      case h_5 =>
        rw [Option.map_eq_some_iff] at h
        obtain ⟨t, -, rfl⟩ := h
        cases hpc'
      case h_6 =>
        rw [Option.map_eq_some_iff] at h
        obtain ⟨t, -, rfl⟩ := h
        cases hpc'
  | thread input =>
      intro hset hpc'
      have hframe := hc.thread h
      rw [hthread h]
      exact hquiet (hframe.exit.symm.trans hset) (hframe.pc.symm.trans hpc')
  | arrive msg =>
      cases h
      rw [QuietExit, serverMessage]
      split_ifs <;> exact hquiet
  | start =>
      rw [ServerCode.step] at h
      split_ifs at h
      cases h
      rintro - ⟨⟩

/-- A server that has ended has a cleared record as long as no thread of it goes on. -/
theorem info_of_stopped (hc : Keeper P c) (hinfo : s.pc = .stopped → s.info = {})
    (hthread : ∀ input, a = .thread input → s.pc ≠ .stopped)
    (h : c.step config s a = some s') (hpc' : s'.pc = .stopped) : s'.info = {} := by
  cases a with
  | main input =>
      rw [ServerCode.step, mainStep] at h
      split at h
      case h_1 => cases h
      case h_2 =>
        cases h
        cases hpc'
      case h_3 hpc =>
        split_ifs at h
        · cases h
          rfl
        · rw [Option.map_eq_some_iff] at h
          obtain ⟨t, ht, rfl⟩ := h
          rw [afterStates] at hpc'
          split_ifs at hpc'
          exact absurd hpc' (pc_stateMachine hc ht hpc)
      case h_4 =>
        split_ifs at h
        cases h
        cases hpc'
      case h_5 =>
        rw [Option.map_eq_some_iff] at h
        obtain ⟨t, -, rfl⟩ := h
        cases hpc'
      case h_6 =>
        rw [Option.map_eq_some_iff] at h
        obtain ⟨t, -, rfl⟩ := h
        cases hpc'
  | thread input => exact absurd ((hc.thread h).pc.symm.trans hpc') (hthread input rfl)
  | arrive msg =>
      cases h
      rw [serverMessage] at hpc' ⊢
      split_ifs at hpc' ⊢ <;> exact hinfo hpc'
  | start =>
      rw [ServerCode.step] at h
      split_ifs at h
      cases h
      cases hpc'

/-! ### Steps of the process -/

variable {table : TableCode σ ω} {hardware : HardwareCode ρ η} {p p' : Process κ σ ρ}
  {b : ProcessAction ω η}

theorem hardwareAfter_processStep (h : processStep c table hardware config p b = some p') :
    p'.hardware = b.hardwareAfter hardware p := by
  rw [processStep, Option.map_eq_some_iff] at h
  obtain ⟨state, -, rfl⟩ := h
  rfl

theorem starts_processStep (h : processStep c table hardware config p b = some p') :
    p'.starts = b.startsAfter p := by
  rw [processStep, Option.map_eq_some_iff] at h
  obtain ⟨state, -, rfl⟩ := h
  rfl

theorem channelStep_processStep (h : processStep c table hardware config p b = some p') :
    channelStep c table config p.state (b.toChannel hardware p) = some p'.state := by
  rw [processStep, Option.map_eq_some_iff] at h
  obtain ⟨state, hstate, rfl⟩ := h
  exact hstate

/-- Outside of `state_machine` the hardware is left alone. -/
theorem hardwareAfter_of_not_inStates (hnot : ¬ InStates p.state.server) :
    b.hardwareAfter hardware p = p.hardware := by
  cases b with
  | main input calls => rw [ProcessAction.hardwareAfter, hardwarePass, if_neg hnot]
  | thread | arrive | start | encoder => rfl

/-- A step of the process is one of the server, or the server does nothing. -/
theorem server_processStep (h : processStep c table hardware config p b = some p') :
    p'.state.server = p.state.server ∨ ∃ a, b.toChannel hardware p = .server a ∧
      c.step config p.state.server a = some p'.state.server := by
  have h := channelStep_processStep h
  cases hb : b.toChannel hardware p with
  | server a =>
      rw [hb, channelStep, Option.map_eq_some_iff] at h
      obtain ⟨server, hserver, heq⟩ := h
      rw [← heq]
      exact .inr ⟨a, rfl, hserver⟩
  | encoder i w =>
      rw [hb, channelStep, Option.some.injEq] at h
      exact .inl (congrArg ChannelState.server h).symm

/-- A start finds the server ended and changes none of its variables. -/
theorem start_processStep (hstart : ∀ s, c.serverStart s = s)
    (h : processStep c table hardware config p .start = some p') :
    p.state.server.pc = .stopped ∧ p'.state.server.pc = .boot ∧
      p'.state.server.info = p.state.server.info ∧ p'.state.channel = p.state.channel ∧
      p'.hardware = p.hardware := by
  have hchannel := channelStep_processStep h
  rw [ProcessAction.toChannel, channelStep, ServerCode.step, Option.map_eq_some_iff] at hchannel
  obtain ⟨server, hserver, hstate⟩ := hchannel
  split_ifs at hserver with hpc
  cases hserver
  rw [← hstate, hstart]
  exact ⟨hpc, rfl, rfl, rfl, hardwareAfter_processStep h⟩

theorem info_processStep (hc : Keeper P c) (hinfo : p.state.server.pc = .stopped → p.state.server.info = {})
    (hthread : ∀ input, b = .thread input → p.state.server.pc ≠ .stopped)
    (h : processStep c table hardware config p b = some p') :
    p'.state.server.pc = .stopped → p'.state.server.info = {} := by
  rcases server_processStep h with hsame | ⟨a, ha, hstep⟩
  · rwa [hsame]
  · refine info_of_stopped hc hinfo (fun input hthread' => ?_) hstep
    subst hthread'
    cases b with
    | thread input' => exact hthread input' rfl
    | main | arrive | start | encoder => cases ha

/-- Before a pass of `state_machine` the exit is past a state only if it is in a later one. -/
theorem InStates.lt_status (hstates : InStates s) (hafter : After k s) :
    k.toNat < s.info.status.toNat := by
  obtain ⟨hpc, hexit⟩ := hstates
  rcases hafter with hset | hlt | hstopped
  · rw [hexit] at hset
    cases hset
  · exact hlt
  · rw [hpc] at hstopped
    cases hstopped

/-- What holds of the server in every state of a run. -/
structure ProcessInv (s : ServerState κ) : Prop where
  exit : ExitInv s
  quiet : QuietExit s

theorem processInv_init (own : κ) : ProcessInv ({ own := own } : ServerState κ) where
  exit := exitInv_init own
  quiet := by rintro ⟨⟩

theorem processInv_step (hc : Keeper P c)
    (hthread : ∀ {input s s'}, c.thread input s = some s' → s'.info.status = s.info.status)
    (hinv : ProcessInv p.state.server) (h : processStep c table hardware config p b = some p') :
    ProcessInv p'.state.server := by
  rcases server_processStep h with hsame | ⟨a, -, hstep⟩
  · rwa [hsame]
  · exact ⟨exitInv_step hc hinv.exit hstep, quietExit_step hc hinv.exit hthread hinv.quiet hstep⟩

/-- A server that has just been started is in no state of the exit. -/
theorem not_after_start (hstart : ∀ s, c.serverStart s = s) (hk : k.isExit = true)
    (hinv : ProcessInv p'.state.server)
    (h : processStep c table hardware config p .start = some p') : ¬ After k p'.state.server := by
  obtain ⟨-, hboot, -⟩ := start_processStep hstart h
  obtain ⟨hnot, hexit⟩ := hinv.exit.idle (.inr (.inl hboot))
  rintro (hset | hlt | hstopped)
  · rw [hexit] at hset
    cases hset
  · rw [isExit_of_lt hk hlt] at hnot
    cases hnot
  · rw [hboot] at hstopped
    cases hstopped

/-- The exit gets past a state only by a pass in that state. -/
theorem after_processStep (hc : Keeper P c) (hk : k.isExit = true)
    (h : processStep c table hardware config p b = some p') (hafter : After k p'.state.server) :
    After k p.state.server ∨
      (∃ input calls, b = .main input calls) ∧ InStates p.state.server ∧
        p.state.server.info.status = k := by
  rcases server_processStep h with hsame | ⟨a, ha, hstep⟩
  · rw [hsame] at hafter
    exact .inl hafter
  · rcases after_step hc hk hstep hafter with hbefore | ⟨⟨input, rfl⟩, hstates⟩
    · exact .inl hbefore
    · refine .inr ⟨?_, hstates⟩
      cases b with
      | main input calls => exact ⟨input, calls, rfl⟩
      | thread | arrive | start | encoder => cases ha

/-- After a state of the exit `task_proc` does not run in `STATUS_RUN`. -/
theorem status_ne_run (hinv : ProcessInv p.state.server) (hk : k.isExit = true)
    (hafter : After k p.state.server) (hpc : p.state.server.pc = .taskProc) :
    p.state.server.info.status ≠ .run := by
  intro hrun
  rcases hafter with hexit | hlt | hstopped
  · rw [hinv.quiet hexit hpc] at hrun
    cases hrun
  · rw [ServerStatus.isExit, decide_eq_true_iff] at hk
    rw [hrun] at hlt
    have hlt : k.toNat < 6 := hlt
    omega
  · rw [hstopped] at hpc
    cases hpc

end GokeWebcam.Server
