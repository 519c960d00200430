import GokeWebcam.Manager.Sleep

/-!
# The exit is not undone

Once the exit task has been entered, only its own steps change the status, and nothing changes the task.

* `callHandler_exit`: `sleep_check_scheduler` itself does not look at the task. Called during the exit,
  switched on, it would start a sleep or a wake-up; the other handlers leave the exit alone.
* `taskEffect_managerMessage`: what a message other than `TIMER_ON` does to the task and the status.
* `exitInv_step`: the exit task is not in `STATUS_RUN`, in which a request could put it to sleep.
* `exit_kept`: in no run is the exit undone. No handler is called at all: the only timers whose firing is
  sent to the manager are its own, and `timer_proc` discards these (`ManagerInv.noTimerOn`).
-/

namespace GokeWebcam.Manager

open Lib Common Global Server

variable {s s' : ManagerState} {input : ManagerInput} {msg : Message} {a : ManagerAction}

/-! ### The handlers of the timers -/

/-- What the start of a server leaves alone. -/
structure SameTask (s s' : ManagerState) : Prop where
  task : s'.info.task = s.info.task
  status : s'.info.status = s.info.status
  status2 : s'.info.status2 = s.info.status2

theorem sameTask_managerServerStart {server : CInt} :
    SameTask s (managerServerStart input server s) := by
  unfold managerServerStart
  split
  · exact ⟨rfl, rfl, rfl⟩
  · exact ⟨rfl, rfl, rfl⟩
  · split_ifs <;> exact ⟨rfl, rfl, rfl⟩

/-- The scheduler goes to sleep or wakes up. -/
theorem func_sleepCheckScheduler (h : s.sleepEnable = 2#32) :
    (sleepCheckScheduler input s).info.task.func ≠ some .taskExit := by
  rw [sleepCheckScheduler, if_pos h]
  split_ifs
  · exact fun heq => by cases heq
  · rw [managerWakeup, info_send]
    exact fun heq => by cases heq

/-- Called during the exit, a handler leaves the task and the status alone iff it is not the scheduler,
or the scheduler is switched off. -/
theorem callHandler_exit {handler : Handler} {arg : MessageArg}
    (hexit : s.info.task.func = some .taskExit)
    (h : callHandler input (some handler) arg s = some s') :
    (s'.info.task.func = some .taskExit ∧ s'.info.status = s.info.status) ↔
      ¬ (handler = .sleepCheckScheduler ∧ s.sleepEnable = 2#32) := by
  cases handler with
  | sleepCheckScheduler =>
    cases h
    by_cases henable : s.sleepEnable = 2#32
    · exact iff_of_false (fun hkept => func_sleepCheckScheduler henable hkept.1)
        fun hnot => hnot ⟨rfl, henable⟩
    · rw [sleepCheckScheduler, if_neg henable]
      exact iff_of_true ⟨hexit, rfl⟩ fun hcalled => henable hcalled.2
  | managerRoutineProc =>
    cases h
    exact iff_of_true ⟨hexit, rfl⟩ (by simp)
  | testFunc =>
    cases h
    rw [testFunc, hexit, if_neg (by decide)]
    exact iff_of_true ⟨hexit, rfl⟩ (by simp)
  | managerDelayedStart =>
    cases h
    have hsame := @sameTask_managerServerStart s input arg.cat
    rw [managerDelayedStart, hsame.task, hsame.status]
    exact iff_of_true ⟨hexit, rfl⟩ (by simp)
  | _ => cases h

/-! ### The other messages -/

/-- What a step outside the tasks does to the task and its status: nothing, or it enters the exit, or it
leaves `STATUS_RUN` for another task. -/
structure TaskEffect (s s' : ManagerState) : Prop where
  status2 : s'.info.status2 = s.info.status2
  effect : (s'.info.task.func = s.info.task.func ∧ s'.info.status = s.info.status) ∨
    (s.info.task.func ≠ some .taskExit ∧ s'.info.status = .exitInit) ∨
    (s.info.status = .run ∧ s'.info.task.func ≠ some .taskExit)

theorem TaskEffect.of_info (h : s'.info = s.info) : TaskEffect s s' :=
  ⟨by rw [h], .inl ⟨by rw [h], by rw [h]⟩⟩

theorem TaskEffect.send_right {receiver : CInt} (h : TaskEffect s s') :
    TaskEffect s (s'.send receiver msg) := by
  refine ⟨?_, ?_⟩
  · rw [info_send]
    exact h.status2
  · rw [info_send]
    exact h.effect

theorem taskEffect_setSleep {temp : CInt} : TaskEffect s (setSleep temp s).1 := by
  unfold setSleep
  split_ifs with _ hwake hsleep
  · exact .of_info rfl
  · dsimp only [managerWakeup]
    apply TaskEffect.send_right
    refine ⟨rfl, .inr (.inr ⟨hwake.2, ?_⟩)⟩
    exact fun heq => by cases heq
  · refine ⟨rfl, .inr (.inr ⟨hsleep.2, ?_⟩)⟩
    exact fun heq => by cases heq
  · exact .of_info rfl

theorem taskEffect_managerMessage (hon : msg.message ≠ msgManagerTimerOn)
    (h : managerMessage input msg s = some s') : TaskEffect s s' := by
  unfold managerMessage at h
  split_ifs at h
  · cases h
    unfold sigint
    split_ifs with hfunc
    · exact ⟨rfl, .inr (.inl ⟨hfunc, rfl⟩)⟩
    · exact .of_info rfl
  · cases h
    unfold exitAck
    dsimp only
    split_ifs
    · exact .send_right ⟨rfl, .inl ⟨rfl, rfl⟩⟩
    · exact ⟨rfl, .inl ⟨rfl, rfl⟩⟩
  · cases h
    exact .of_info rfl
  · cases h
    exact .of_info rfl
  · cases h
    unfold managerGetProperty
    dsimp only
    split_ifs <;> exact .of_info info_send
  · unfold managerSetProperty at h
    dsimp only at h
    split_ifs at h
    · rw [Option.map_eq_some_iff] at h
      obtain ⟨block, -, rfl⟩ := h
      exact .send_right taskEffect_setSleep
    · cases h
      exact .of_info info_send
    · cases h
      exact .of_info info_send
  · cases h
    exact .of_info rfl

/-! ### The tasks -/

/-- A step of another task than the exit task, which it may enter. -/
structure TaskStep (s s' : ManagerState) : Prop where
  status2 : s'.info.status2 = s.info.status2
  enters : s'.info.task.func = some .taskExit → s'.info.status = .exitInit

theorem TaskStep.of_func (hfunc : s.info.task.func ≠ some .taskExit)
    (h : s'.info.task = s.info.task) (h2 : s'.info.status2 = s.info.status2) : TaskStep s s' :=
  ⟨h2, fun hexit => absurd (h ▸ hexit) hfunc⟩

/-- The step sets the status behind something that does not touch the record. -/
theorem TaskStep.setStatus {status : ServerStatus} (hfunc : s.info.task.func ≠ some .taskExit)
    (h : s'.info = s.info) : TaskStep s (s'.setStatus status) := by
  have htask : s'.info.task = s.info.task := by rw [h]
  have h2 : s'.info.status2 = s.info.status2 := by rw [h]
  exact .of_func hfunc htask h2

theorem info_startServers : (s.startServers input).info.task = s.info.task ∧
    (s.startServers input).info.status2 = s.info.status2 := by
  unfold ManagerState.startServers
  induction ServerType.all generalizing s with
  | nil => exact ⟨rfl, rfl⟩
  | cons t ts ih =>
    rw [List.foldl_cons]
    split_ifs
    · exact ⟨ih.1.trans sameTask_managerServerStart.task,
        ih.2.trans sameTask_managerServerStart.status2⟩
    · exact ih

theorem taskStep_default (hfunc : s.info.task.func ≠ some .taskExit) :
    TaskStep s (taskDefault input s) := by
  unfold taskDefault
  split
  case h_3 => exact .of_func hfunc info_startServers.1 info_startServers.2
  case h_6 => exact ⟨rfl, fun _ => rfl⟩
  all_goals exact .of_func hfunc rfl rfl

theorem taskStep_sleep (hfunc : s.info.task.func ≠ some .taskExit) : TaskStep s (taskSleep s) := by
  have hstop := (info_stopServers (s := s) fun t => t ≠ .aliyun).1
  unfold taskSleep
  split
  case h_3 => exact .setStatus hfunc hstop
  case h_4 =>
    split_ifs
    · exact .of_func hfunc rfl rfl
    · exact .of_func hfunc (by rw [info_announceQuitter.1]) (by rw [info_announceQuitter.1])
  all_goals exact .of_func hfunc rfl rfl

theorem taskStep_deepSleep (hfunc : s.info.task.func ≠ some .taskExit) :
    TaskStep s (taskDeepSleep s) := by
  unfold taskDeepSleep
  split
  case h_3 =>
    have hstop := (info_foldl (f := fun s t => if s.running t then managerServerStop t s else s)
      (fun s t => by split_ifs <;> simp [managerServerStop]) ServerType.all (s := s)).1
    exact .setStatus hfunc hstop
  case h_4 =>
    split_ifs
    · exact .of_func hfunc rfl rfl
    · exact .of_func hfunc (by rw [info_announceQuitter.1]) (by rw [info_announceQuitter.1])
  all_goals exact .of_func hfunc rfl rfl

theorem taskStep_testing (hfunc : s.info.task.func ≠ some .taskExit) :
    TaskStep s (taskTesting input s) := by
  have hstop := (info_stopServers (s := s) fun _ => true).1
  unfold taskTesting
  split
  case h_3 => exact .of_func hfunc info_startServers.1 info_startServers.2
  case h_5 => exact .setStatus hfunc info_send
  case h_6 => exact .setStatus hfunc hstop
  case h_7 =>
    split_ifs
    · exact .of_func hfunc rfl rfl
    · exact .of_func hfunc (by rw [info_announceQuitter.1]) (by rw [info_announceQuitter.1])
  case h_8 => exact ⟨rfl, fun _ => rfl⟩
  all_goals exact .of_func hfunc rfl rfl

theorem taskStep_task (hfunc : s.info.task.func ≠ some .taskExit) (h : s.task input = some s') :
    TaskStep s s' := by
  unfold ManagerState.task at h
  split at h
  · cases h
  · cases h
    exact taskStep_default hfunc
  · cases h
    exact taskStep_sleep hfunc
  · cases h
    exact taskStep_deepSleep hfunc
  · cases h
    exact taskStep_testing hfunc
  · next heq => exact absurd heq hfunc

/-- A step of the exit task. -/
structure ExitStep (s s' : ManagerState) : Prop where
  func : s'.info.task.func = s.info.task.func
  status2 : s'.info.status2 = false
  not_run : s'.info.status ≠ .run

theorem ExitStep.setStatus {status : ServerStatus} (h2 : s.info.status2 = false) (h : s'.info = s.info)
    (hstatus : status ≠ .run) : ExitStep s (s'.setStatus status) := by
  have hfunc : s'.info.task.func = s.info.task.func := by rw [h]
  rw [← h] at h2
  exact ⟨hfunc, h2, hstatus⟩

theorem exitStep_taskExit (h2 : s.info.status2 = false) (hrun : s.info.status ≠ .run) :
    ExitStep s (taskExit s) := by
  unfold taskExit
  split
  case h_1 => exact .setStatus h2 info_broadcast.1 (by simp)
  case h_2 =>
    split_ifs
    · exact .setStatus h2 rfl (by simp)
    · have hinfo := (info_announceQuitter (s := s)).1
      exact ⟨by rw [hinfo], by rw [hinfo, h2], by rwa [hinfo]⟩
  case h_3 => exact .setStatus h2 rfl (by simp)
  case h_4 =>
    dsimp only
    split_ifs
    · exact ⟨rfl, h2, fun heq => by cases heq⟩
    · exact ⟨rfl, h2, hrun⟩
  case h_5 =>
    have hsend : (serverRelease2 s).info = s.info := by
      rw [serverRelease2]
      exact info_send
    exact .setStatus h2 hsend (by simp)
  case h_6 =>
    rw [if_neg (by rw [h2]; exact Bool.false_ne_true)]
    exact ⟨rfl, h2, fun heq => by cases heq⟩
  case h_7 => exact ⟨rfl, h2, hrun⟩

theorem exitStep_task (h2 : s.info.status2 = false) (hrun : s.info.status ≠ .run)
    (hexit : s.info.task.func = some .taskExit) (h : s.task input = some s') : ExitStep s s' := by
  rw [ManagerState.task, hexit] at h
  cases h
  exact exitStep_taskExit h2 hrun

/-! ### Runs -/

/-- What every run keeps: `status2` is never set, and the exit task is not in `STATUS_RUN`. -/
structure ExitInv (s : ManagerState) : Prop where
  inv : ManagerInv s
  status2 : s.info.status2 = false
  not_run : s.info.task.func = some .taskExit → s.info.status ≠ .run

theorem exitInv_init {config : ManagerConfig} : ExitInv (managerInit config) := by
  refine ⟨managerInv_init, ?_, ?_⟩
  · rw [managerInit, info_send, info_send]
    rfl
  · rw [managerInit, info_send, info_send]
    exact fun _ heq => by cases heq

theorem TaskEffect.exitInv (h : ExitInv s) (he : TaskEffect s s') (hinv : ManagerInv s') :
    ExitInv s' := by
  refine ⟨hinv, he.status2.trans h.status2, fun hexit => ?_⟩
  rcases he.effect with ⟨hfunc, hstatus⟩ | ⟨-, hstatus⟩ | ⟨-, hfunc⟩
  · rw [hstatus]
    exact h.not_run (hfunc ▸ hexit)
  · rw [hstatus]
    exact fun heq => by cases heq
  · exact absurd hexit hfunc

/-- A step of another thread, or the handling of a message. -/
theorem taskEffect_step (h : ManagerInv s) (hs : s.step a = some s')
    (ha : ∀ input, a ≠ .task input) : TaskEffect s s' := by
  cases a with
  | task input => exact absurd rfl (ha input)
  | message input =>
    obtain ⟨t, ht, rfl⟩ := step_message hs
    rcases serverMessageProc_cases ht with ⟨rfl, -⟩ | ⟨msg, -, hpop, hmsg⟩
    · exact .of_info rfl
    · have heffect := taskEffect_managerMessage (h.noTimerOn.of_pop hpop) hmsg
      exact ⟨heffect.status2, heffect.effect⟩
  | arrive msg =>
    obtain ⟨-, rfl⟩ := step_arrive hs
    exact .of_info rfl
  | pollBegin =>
    obtain rfl := step_pollBegin hs
    exact .of_info rfl
  | pollSlot now again =>
    obtain ⟨server, i, hi, hpoll, rfl⟩ := step_pollSlot hs
    rw [ManagerState.pollSlot]
    rcases (timerProcSlot server now again s.table ⟨i, hi⟩).2 with _ | timer
    · exact .of_info rfl
    · exact .of_info info_send
  | pollEnd =>
    obtain rfl := step_pollEnd hs
    exact .of_info rfl
  | timerEnd =>
    obtain rfl := step_timerEnd hs
    exact .of_info info_send

/-- The step lemma. -/
theorem exitInv_step (h : ExitInv s) (hs : s.step a = some s') : ExitInv s' := by
  have hinv := managerInv_step h.inv hs
  by_cases ha : ∃ input, a = .task input
  · obtain ⟨input, rfl⟩ := ha
    obtain ⟨t, ht, rfl⟩ := step_task hs
    by_cases hexit : s.info.task.func = some .taskExit
    · have hstep := exitStep_task (s := s.noteStatus) h.status2 (h.not_run hexit) hexit ht
      exact ⟨hinv, hstep.status2, fun _ => hstep.not_run⟩
    · have hstep := taskStep_task (s := s.noteStatus) hexit ht
      refine ⟨hinv, hstep.status2.trans h.status2, fun hfunc heq => ?_⟩
      rw [show t.info.status = .exitInit from hstep.enters hfunc] at heq
      cases heq
  · exact (taskEffect_step h.inv hs fun input heq => ha ⟨input, heq⟩).exitInv h hinv

/-- In the exit task the step keeps the task, and the status unless it is a step of the task. -/
def ExitKept (s : ManagerState) (a : ManagerAction) (s' : ManagerState) : Prop :=
  s.info.task.func = some .taskExit →
    s'.info.task.func = some .taskExit ∧
      (s'.info.status = s.info.status ∨ ∃ input, a = .task input)

theorem exitKept_step (h : ExitInv s) (hs : s.step a = some s') : ExitKept s a s' := by
  intro hexit
  by_cases ha : ∃ input, a = .task input
  · refine ⟨?_, .inr ha⟩
    obtain ⟨input, rfl⟩ := ha
    obtain ⟨t, ht, rfl⟩ := step_task hs
    exact (exitStep_task (s := s.noteStatus) h.status2 (h.not_run hexit) hexit ht).func.trans hexit
  · rcases (taskEffect_step h.inv hs fun input heq => ha ⟨input, heq⟩).effect with
      ⟨hfunc, hstatus⟩ | ⟨hfunc, -⟩ | ⟨hstatus, -⟩
    · exact ⟨hfunc.trans hexit, .inl hstatus⟩
    · exact absurd hexit hfunc
    · exact absurd hstatus (h.not_run hexit)

/-- In every run of the manager, with any configuration and at any time of day: once the exit task has been
entered it stays, and only its own steps change the status. -/
theorem exit_kept (config : ManagerConfig) (actions : List ManagerAction) :
    AllSteps ManagerState.step ExitKept (managerInit config) actions :=
  .of_inv (fun _ _ _ => exitInv_step) (fun _ _ _ => exitKept_step) exitInv_init actions

end GokeWebcam.Manager
