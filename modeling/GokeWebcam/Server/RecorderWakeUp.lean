import GokeWebcam.Lib.Monitor
import GokeWebcam.Lib.Transition
import GokeWebcam.Server.Recorder

/-!
# Stopping the jobs of the recorder

`server_stop`, `server_restart` and `server_reinit` set the exit flags of all jobs, signal the
condition variable of each, and wait for the threads to end. A thread looks at its flag without a lock,
at the top of its loop, and waits for frames further down, under the mutex of the condition variable.

* `StopState.step`: a step of the main thread, of a thread of a job, a frame, or the end of a wait.
* `Stuck`: the main thread waits for a thread that nothing wakes.
* `InTime`: no thread goes to sleep behind the signal for it.
* `not_stuck`: then none of them is waited for in vain; `wakeUp_lost`: otherwise one may be.

The exit of the whole server, whose signals are repeated until all threads have ended, and what is
recorded are left out.
-/

namespace GokeWebcam.Server.Recorder.WakeUp

open Lib Common Manager

/-! ### The threads -/

/-- The place of a thread in `recorder_func`; a thread that waits is before the switch. -/
inductive JobPc
  | absent | created | look | switch | leave
  deriving DecidableEq, Repr

/-- A slot of the jobs: its thread, its condition variable, its frames. -/
structure JobSlot where
  pc : JobPc := .absent
  status : ThreadStatus := .none
  waiter : Waiter := .awake
  video : MessageBuffer := {}
  audio : MessageBuffer := {}
  deriving DecidableEq

/-- The functions that stop the jobs. -/
inductive Stop
  | stop | restart | reinit
  deriving DecidableEq, Repr

/-- Where the main thread is: elsewhere, before the flag or the signal of a slot, or waiting. -/
inductive StopPc
  | idle
  | flag (kind : Stop) (i : ℕ)
  | signal (kind : Stop) (i : ℕ)
  | drain (kind : Stop)
  deriving DecidableEq, Repr

/-- What the main thread and the threads of the jobs share. -/
structure StopState where
  info : ServerInfo := {}
  main : StopPc := .idle
  slots : Fin maxRecorderJob → JobSlot := fun _ => {}
  deriving DecidableEq

/-- What a pass of a thread's loop ends with: the status, and whether it ends by itself. -/
structure PassInput where
  status : ThreadStatus := .run
  exit : Bool := false
  deriving DecidableEq, Repr

namespace StopState

variable (s : StopState)

def setSlot (i : Fin maxRecorderJob) (slot : JobSlot) : StopState :=
  { s with slots := Function.update s.slots i slot }

/-- The exit flag of a job. -/
def flag (i : Fin maxRecorderJob) : Prop := miscGetBit s.info.threadExit i ≠ 0#32

instance (i : Fin maxRecorderJob) : Decidable (s.flag i) := inferInstanceAs (Decidable (_ ≠ _))

end StopState

/-- Source: `server/recorder/recorder.c` `recorder_thread_run`, the condition of the wait -/
def JobSlot.empty (slot : JobSlot) : Bool :=
  msgBufferIsEmpty slot.video && msgBufferIsEmpty slot.audio

/-- A frame of each kind is taken.
Source: `server/recorder/recorder.c` `recorder_thread_run`, after the wait -/
def JobSlot.take (slot : JobSlot) (input : PassInput) : JobSlot :=
  { slot with
    video := (msgBufferPop slot.video).1
    audio := (msgBufferPop slot.audio).1
    waiter := .awake
    status := input.status
    pc := .look }

/-- Source: `server/recorder/recorder.c` `recorder_func`, the locked sections before the loop -/
def JobSlot.begin (config : ManagerConfig) (slot : JobSlot) : JobSlot :=
  { slot with
    video := msgBufferInit .no config.msgBufferSizeMedia
    audio := msgBufferInit .no config.msgBufferSizeMedia
    status := .started
    pc := .look }

/-- The switch of the loop; only a job that is recording waits.
Source: `server/recorder/recorder.c` `recorder_func` -/
def JobSlot.switch (slot : JobSlot) (input : PassInput) : JobSlot :=
  if slot.status = .run then
    if slot.empty then { slot with waiter := .blocked } else slot.take input
  else { slot with status := input.status, pc := .look }

/-- The end of the thread.
Source: `server/recorder/recorder.c` `recorder_func`, behind the loop -/
def jobEnd (i : Fin maxRecorderJob) (s : StopState) : StopState :=
  { s.setSlot i {} with
    info := { s.info with
      threadStart := miscClearBit s.info.threadStart i
      threadExit := miscClearBit s.info.threadExit i } }

/-- A step of a thread that does not wait.
Source: `server/recorder/recorder.c` `recorder_func` -/
def jobStep (config : ManagerConfig) (i : Fin maxRecorderJob) (input : PassInput) (s : StopState) :
    Option StopState :=
  let slot := s.slots i
  if slot.waiter ≠ .awake then none
  else
    match slot.pc with
    | .absent => none
    | .created => some { s.setSlot i (slot.begin config) with
        info := { s.info with threadStart := miscSetBit s.info.threadStart i } }
    | .look =>
      some (s.setSlot i { slot with
        pc := if s.info.exit ∨ input.exit ∨ s.flag i then .leave else .switch })
    | .switch => some (s.setSlot i (slot.switch input))
    | .leave => some (jobEnd i s)

/-- The end of a wait, which needs no signal. -/
def wakeStep (i : Fin maxRecorderJob) (input : PassInput) (s : StopState) : Option StopState :=
  if (s.slots i).waiter = .awake then none else some (s.setSlot i ((s.slots i).take input))

/-! ### Frames -/

/-- Source: `server/recorder/recorder.c` `server_recorder_video_message` -/
def serverRecorderVideoMessage (i : Fin maxRecorderJob) (msg : Message) (s : StopState) : StopState :=
  let slot := s.slots i
  if slot.video.init then
    let r := msgBufferPush slot.video (some msg)
    s.setSlot i { slot with video := r.1, waiter := slot.waiter.signalIf (r.2 ≠ .fail) }
  else s

/-- Source: `server/recorder/recorder.c` `server_recorder_audio_message` -/
def serverRecorderAudioMessage (i : Fin maxRecorderJob) (msg : Message) (s : StopState) : StopState :=
  let slot := s.slots i
  if slot.audio.init then
    let r := msgBufferPush slot.audio (some msg)
    s.setSlot i { slot with audio := r.1, waiter := slot.waiter.signalIf (r.2 ≠ .fail) }
  else s

/-! ### The main thread -/

/-- A free slot gets a thread.
Source: `server/recorder/recorder.c` `recorder_add_job`, `pthread_create` -/
def addJob (i : Fin maxRecorderJob) (s : StopState) : Option StopState :=
  if s.main = .idle ∧ (s.slots i).pc = .absent then
    some { s.setSlot i { pc := .created, status := .started } with
      info := { s.info with threadExit := miscClearBit s.info.threadExit i } }
  else none

/-- What the functions do after all threads have ended.
Source: `server/recorder/recorder.c` `server_stop`, `server_restart`, `server_reinit` -/
def stopEnd (info : ServerInfo) : Stop → ServerInfo
  | .stop => { info with status2 := false, status := .idle }
  | .restart => { info with status2 := false, status := .wait }
  | .reinit => {}

/-- A step of the main thread inside one of the three functions; the last one begins when all bits
of `thread_start` are cleared.
Source: `server/recorder/recorder.c` `server_stop`, `recorder_broadcast_session_exit` -/
def mainStep (s : StopState) : Option StopState :=
  match s.main with
  | .idle => none
  | .flag kind i =>
    some (if i < maxRecorderJob then { s with
        info := { s.info with threadExit := miscSetBit s.info.threadExit i }
        main := .flag kind (i + 1) }
      else { s with main := .signal kind 0 })
  | .signal kind i =>
    some (if h : i < maxRecorderJob then
        let slot := s.slots ⟨i, h⟩
        { s.setSlot ⟨i, h⟩ { slot with waiter := slot.waiter.signal } with main := .signal kind (i + 1) }
      else { s with main := .drain kind })
  | .drain kind =>
    if s.info.threadStart = 0#32 then some { s with info := stopEnd s.info kind, main := .idle }
    else none

/-- What the threads do. -/
inductive StopAction
  | stop (kind : Stop)
  | main
  | add (i : Fin maxRecorderJob)
  | job (i : Fin maxRecorderJob) (input : PassInput)
  | wake (i : Fin maxRecorderJob) (input : PassInput)
  | video (i : Fin maxRecorderJob) (msg : Message)
  | audio (i : Fin maxRecorderJob) (msg : Message)
  deriving DecidableEq

/-- One step; `none` where the action is not enabled. -/
def StopState.step (config : ManagerConfig) (s : StopState) : StopAction → Option StopState
  | .stop kind => if s.main = .idle then some { s with main := .flag kind 0 } else none
  | .main => mainStep s
  | .add i => addJob i s
  | .job i input => jobStep config i input s
  | .wake i input => wakeStep i input s
  | .video i msg => some (serverRecorderVideoMessage i msg s)
  | .audio i msg => some (serverRecorderAudioMessage i msg s)

/-! ### The property -/

/-- The main thread waits for a thread that is blocked without frames and without a signal. -/
def Stuck (s : StopState) : Prop :=
  (∃ kind, s.main = .drain kind) ∧ s.info.threadStart ≠ 0#32 ∧
    ∃ i, s.flag i ∧ (s.slots i).waiter = .blocked ∧ (s.slots i).empty = true

/-- The main thread has still to signal the slot, after its flags. -/
def ToCome (main : StopPc) (i : Fin maxRecorderJob) : Prop :=
  match main with
  | .flag _ _ => True
  | .signal _ j => j ≤ i
  | _ => False

/-- A thread that goes to sleep, having found no frames, has not been told to end, or has the signal
still to come. -/
def InTime (s : StopState) (a : StopAction) : Prop :=
  ∀ i input, a = .job i input → (s.slots i).pc = .switch → (s.slots i).status = .run →
    (s.slots i).empty = true → s.flag i → ToCome s.main i

variable {config : ManagerConfig} {s s' : StopState} {a : StopAction} {i j : Fin maxRecorderJob}
  {slot : JobSlot} {input : PassInput} {msg : Message}

/-! ### The invariant -/

/-- Whoever is blocked with its flag set is signalled yet. -/
def Awaited (s : StopState) : Prop :=
  ∀ i, (s.slots i).waiter.Idle (s.flag i → ToCome s.main i)

theorem StopState.slots_setSlot : (s.setSlot i slot).slots = Function.update s.slots i slot := rfl

@[simp] theorem StopState.main_setSlot : (s.setSlot i slot).main = s.main := rfl

@[simp] theorem StopState.flag_setSlot : (s.setSlot i slot).flag j = s.flag j := rfl

/-- A step at one slot. -/
theorem Awaited.setSlot (h : Awaited s) (hslot : slot.waiter.Idle (s.flag i → ToCome s.main i)) :
    Awaited (s.setSlot i slot) := by
  intro j
  rw [StopState.slots_setSlot, Function.update_apply]
  split_ifs with hij
  · rw [hij]
    exact hslot
  · exact h j

/-- Flags that are cleared. -/
theorem Awaited.mono {info : ServerInfo} (h : Awaited s)
    (hflag : ∀ i : Fin maxRecorderJob, miscGetBit info.threadExit i ≠ 0#32 → s.flag i) :
    Awaited { s with info := info } :=
  fun i => (h i).imp fun hcome hset => hcome (hflag i hset)

theorem flag_of_clear (h : miscGetBit (miscClearBit s.info.threadExit i) j ≠ 0#32) : s.flag j := by
  have hlt : (j : ℕ) < 32 := j.isLt.trans (by decide)
  rw [miscGetBit_ne_zero hlt] at h
  exact (miscGetBit_ne_zero hlt).mpr (getLsbD_of_miscClearBit h)

/-! ### Steps -/

theorem awaited_jobStep (h : Awaited s) (htime : InTime s (.job i input))
    (hs : jobStep config i input s = some s') : Awaited s' := by
  by_cases hawake : (s.slots i).waiter = .awake
  swap
  · rw [jobStep, if_pos hawake] at hs
    cases hs
  rw [jobStep, if_neg (not_not.mpr hawake)] at hs
  rcases hpc : (s.slots i).pc with _ | _ | _ | _ | _
  · rw [hpc] at hs
    cases hs
  · rw [hpc] at hs
    cases hs
    refine Awaited.mono (h.setSlot ?_) fun _ => id
    rw [JobSlot.begin, hawake]
    exact Waiter.idle_awake
  · rw [hpc] at hs
    cases hs
    refine h.setSlot ?_
    rw [hawake]
    exact Waiter.idle_awake
  · rw [hpc] at hs
    cases hs
    refine h.setSlot ?_
    rw [JobSlot.switch]
    split_ifs with hrun hempty
    · -- only a thread in time goes to sleep
      exact fun _ => htime i input rfl hpc hrun hempty
    · exact Waiter.idle_awake
    · rw [hawake]
      exact Waiter.idle_awake
  · rw [hpc] at hs
    cases hs
    exact Awaited.mono (h.setSlot Waiter.idle_awake) fun _ => flag_of_clear

theorem awaited_wakeStep (h : Awaited s) (hs : wakeStep i input s = some s') : Awaited s' := by
  rw [wakeStep] at hs
  split_ifs at hs
  cases hs
  exact h.setSlot Waiter.idle_awake

theorem awaited_serverRecorderVideoMessage (h : Awaited s) :
    Awaited (serverRecorderVideoMessage i msg s) := by
  rw [serverRecorderVideoMessage]
  split_ifs
  · exact h.setSlot ((h i).signalIf fun _ => id)
  · exact h

theorem awaited_serverRecorderAudioMessage (h : Awaited s) :
    Awaited (serverRecorderAudioMessage i msg s) := by
  rw [serverRecorderAudioMessage]
  split_ifs
  · exact h.setSlot ((h i).signalIf fun _ => id)
  · exact h

theorem awaited_addJob (h : Awaited s) (hs : addJob i s = some s') : Awaited s' := by
  rw [addJob] at hs
  split_ifs at hs
  cases hs
  exact Awaited.mono (h.setSlot Waiter.idle_awake) fun _ => flag_of_clear

/-- The signal of a slot comes before those of the slots behind it. -/
theorem awaited_mainStep (h : Awaited s) (hs : mainStep s = some s') : Awaited s' := by
  rw [mainStep] at hs
  rcases hmain : s.main with _ | ⟨kind, i⟩ | ⟨kind, i⟩ | kind
  · rw [hmain] at hs
    cases hs
  · rw [hmain] at hs
    cases hs
    split_ifs
    · exact fun j _ _ => trivial
    · exact fun j _ _ => Nat.zero_le _
  · rw [hmain] at hs
    cases hs
    split_ifs with hi
    · intro j hblocked hset
      rw [StopState.slots_setSlot, Function.update_apply] at hblocked
      split_ifs at hblocked with hij
      · exact absurd hblocked Waiter.signal_ne_blocked
      · have hcome := h j hblocked hset
        rw [hmain] at hcome
        have hne : (j : ℕ) ≠ i := fun heq => hij (Fin.ext heq)
        exact Nat.lt_of_le_of_ne hcome hne.symm
    · intro j hblocked hset
      have hcome := h j hblocked hset
      rw [hmain] at hcome
      exact absurd (lt_of_le_of_lt hcome j.isLt) hi
  · rw [hmain] at hs
    dsimp only at hs
    split_ifs at hs
    cases hs
    intro j hblocked hset
    have hold : s.flag j := by
      cases kind
      · exact hset
      · exact hset
      · simp [StopState.flag, stopEnd, miscGetBit] at hset
    have hcome := h j hblocked hold
    rw [hmain] at hcome
    exact hcome.elim

theorem awaited_step (h : Awaited s) (htime : InTime s a) (hs : s.step config a = some s') :
    Awaited s' := by
  cases a with
  | stop kind =>
      rw [StopState.step] at hs
      split_ifs at hs
      cases hs
      exact fun _ _ _ => trivial
  | main => exact awaited_mainStep h hs
  | add i => exact awaited_addJob h hs
  | job i input => exact awaited_jobStep h htime hs
  | wake i input => exact awaited_wakeStep h hs
  | video i msg =>
      cases hs
      exact awaited_serverRecorderVideoMessage h
  | audio i msg =>
      cases hs
      exact awaited_serverRecorderAudioMessage h

/-- As long as the threads go to sleep in time, the main thread does not wait for one in vain. -/
theorem not_stuck (h : Reach (StopState.step config) InTime {} s) : ¬ Stuck s := by
  have hstart : Awaited {} := fun _ => Waiter.idle_awake
  have hawaited : Awaited s := h.inv hstart fun _ _ _ hawaited htime hs => awaited_step hawaited htime hs
  rintro ⟨⟨kind, hmain⟩, -, i, hset, hblocked, -⟩
  have hcome := hawaited i hblocked hset
  rw [hmain] at hcome
  exact hcome

/-- The first slot. -/
def slot0 : Fin maxRecorderJob := ⟨0, by decide⟩

/-- A job that has begun to record and has looked at its flag. -/
def recording : List StopAction :=
  [.add slot0, .job slot0 {}, .job slot0 {}, .job slot0 {}, .job slot0 {}]

/-- The flags, the signals, and what follows them. -/
def stopping : List StopAction := .stop .stop :: List.replicate 8 .main

/-- A job that is asleep when the stop begins is signalled. -/
theorem not_stuck_asleep : ∃ s, Reach (StopState.step managerConfig) InTime {} s ∧
    (s.main = .drain .stop ∧ s.flag slot0 ∧ (s.slots slot0).waiter = .signalled) ∧ ¬ Stuck s := by
  have hrun : (exec (StopState.step managerConfig)
      (fun s a => decide (s.info.threadExit = 0#32 ∨ a = .main)) {}
      (recording ++ [.job slot0 {}] ++ stopping)).any (fun s =>
        decide (s.main = .drain .stop ∧ s.flag slot0 ∧ (s.slots slot0).waiter = .signalled)) = true := by
    decide
  have htime : ∀ s a, decide (s.info.threadExit = 0#32 ∨ a = .main) = true → InTime s a := by
    intro s a hsa i input ha _ _ _ hset
    rcases of_decide_eq_true hsa with hclear | rfl
    · simp [StopState.flag, hclear, miscGetBit] at hset
    · cases ha
  obtain ⟨s, hs, hstate⟩ := Reach.exists_of_exec htime hrun
  exact ⟨s, hs, hstate, not_stuck hs⟩

/-- A job that has looked at its flag and is not asleep yet misses the signal. -/
theorem wakeUp_lost : ¬ ∀ s, Reach (StopState.step managerConfig) AllRuns {} s → ¬ Stuck s := by
  intro hall
  have hrun : (exec (StopState.step managerConfig) (fun _ _ => true) {}
      (recording ++ stopping ++ [.job slot0 {}])).any (fun s =>
        decide (s.main = .drain .stop ∧ s.info.threadStart ≠ 0#32 ∧ s.flag slot0 ∧
          (s.slots slot0).waiter = .blocked ∧ (s.slots slot0).empty = true)) = true := by
    decide
  obtain ⟨s, hs, hmain, hstart, hset, hblocked, hempty⟩ :=
    Reach.exists_of_exec (fun _ _ _ => trivial) hrun
  exact hall s hs ⟨⟨_, hmain⟩, hstart, slot0, hset, hblocked, hempty⟩

end GokeWebcam.Server.Recorder.WakeUp
