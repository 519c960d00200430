import GokeWebcam.Server.RecorderSlots

/-!
# The planned recording

Whether a planned recording is wanted is stored in `_config_.recorder_enable`, whether it has been
started in `info.status2`, and whether there is one in the table of jobs. `state_machine` starts it
in `STATUS_RUN`, and takes it for started whatever came of it; only the mode `NONE` ends it.

* `planAgrees_of_kept`: in a run in which every start of the planned recording succeeds, no mode
  without it is set while there is one, and its thread does not end by itself, the three agree
  whenever the server is at rest.
* `plan_disagrees`: what the mode `ALARM` and a failed start leave.
-/

namespace GokeWebcam.Server.Recorder

open Lib Common Global Manager

/-- The mode has planned recordings. -/
def selectsPlan (enable : BitVec 8) : Bool :=
  enable = aliyunRecorderModePlan || enable = aliyunRecorderModeAll

variable (input : ServerInput) (msg : Message) (s : State) (t : RecorderThread)

/-- A planned recording has the slot. -/
def PlanSlot (i : ℕ) : Prop :=
  (jobAt s i).status ≠ .none ∧ (jobAt s i).init.type = lvStorageRecordPlan

instance (i : ℕ) : Decidable (PlanSlot s i) := inferInstanceAs (Decidable (_ ∧ _))

/-- A planned recording has a slot. -/
def PlanPresent : Prop := ∃ i, i < maxRecorderJob ∧ PlanSlot s i

instance : Decidable (PlanPresent s) := inferInstanceAs (Decidable (∃ i, i < _ ∧ _))

/-- A planned recording has a thread. -/
def PlanRunning : Prop := ∃ t ∈ s.own.threads, PlanSlot s t.job

/-- The main thread waits for a message in `STATUS_RUN`. -/
def AtRest : Prop :=
  s.info.status = .run ∧ s.info.oldStatus = .run ∧ s.pc = .messageProc ∧
    msgBufferIsEmpty s.message = true

instance : Decidable (AtRest s) := inferInstanceAs (Decidable (_ ∧ _))

/-- At rest, there is a planned recording exactly if the mode has one, and the server knows. -/
def PlanAgrees : Prop :=
  AtRest s →
    (PlanPresent s ↔ selectsPlan s.own.recorderEnable = true) ∧
    (PlanRunning s ↔ selectsPlan s.own.recorderEnable = true) ∧
    (s.info.status2 = true ↔ selectsPlan s.own.recorderEnable = true)

/-! ### What keeps it so -/

/-- Every thread has taken its first lock. -/
def AllBegun : Prop := ∀ t ∈ s.own.threads, t.pc ≠ .begin

instance : Decidable (AllBegun s) := inferInstanceAs (Decidable (∀ t ∈ _, _))

/-- A new mode other than `NONE` has planned recordings if there is one, and is not set in an exit
state; a message adds no planned recording in a mode without them. -/
def KeepsPlan : Prop :=
  (msg.message = msgRecorderPropertySet → msg.argIn.cat = recorderPropertySwitch →
    ∀ block ∈ msg.arg, readInt block ≠ 0#32 → s.own.recorderEnable.setWidth 32 ≠ readInt block →
      s.info.status.isExit = false ∧
        (PlanPresent s → selectsPlan ((readInt block).setWidth 8) = true)) ∧
  (msg.message = msgRecorderAdd → ∀ block ∈ msg.arg,
    (recorderInit block).type = lvStorageRecordPlan → selectsPlan s.own.recorderEnable = true)

instance : Decidable (KeepsPlan msg s) := inferInstanceAs (Decidable (_ ∧ _))

/-- The planned recording that is started gets a slot and a thread; the threads that are waited for
have begun; the message that is taken keeps a planned recording. -/
def MainKept : Prop :=
  match s.pc with
  | .stateMachine =>
    (s.info.status = .run → s.info.status2 = false → selectsPlan s.own.recorderEnable = true →
      countJobNumber s < maxRecorderJob ∧ input.createOk = true) ∧
    (s.info.status = .exitThread → s.info.threadStart = 0#32 → AllBegun s)
  | .drain _ => AllBegun s
  | .messageProc => ∀ msg ∈ nextMessage server s, KeepsPlan msg s
  | _ => True

instance : Decidable (MainKept input s) := by
  unfold MainKept
  split <;> infer_instance

/-- The thread of a planned recording can create its file, and is to repeat it. -/
def ThreadKept : Prop :=
  PlanSlot s t.job → t.pc = .loop →
    (t.status = .started → input.found = true → input.ok = true) ∧
    (t.status = .pause → t.init.repeated ≠ 0#32)

instance : Decidable (ThreadKept input s t) := inferInstanceAs (Decidable (_ → _))

/-- Nothing takes the planned recording from the server unnoticed. -/
def PlanKept : ServerAction → Prop
  | .main input => MainKept input s
  | .thread input => ∀ t ∈ s.own.threads[input.tid]?, ThreadKept input s t
  | _ => True

instance : ∀ a, Decidable (PlanKept s a)
  | .main _ => inferInstanceAs (Decidable (MainKept _ _))
  | .thread _ => inferInstanceAs (Decidable (∀ t ∈ _, _))
  | .arrive _ => isTrue trivial
  | .start => isTrue trivial

/-! ### The invariant -/

variable {input msg s t} {s' : State} {u : RecorderThread} {i j n : ℕ}

/-- The next pass of the state machine tells all threads to end. -/
def Draining (status : ServerStatus) : Prop :=
  status = .stop ∨ status = .restart ∨ status = .reinit

instance (status : ServerStatus) : Decidable (Draining status) :=
  inferInstanceAs (Decidable (_ ∨ _))

/-- The threads are not told to end. -/
structure Serving (s : State) : Prop where
  pc : ∀ status, s.pc ≠ .drain status
  status : s.info.status.isExit = false
  draining : ¬ Draining s.info.status
  exit : s.info.exit = false

/-- The server has waited for its threads on its way out, or has not begun. -/
def PastThreads (s : State) : Prop :=
  s.pc = .stopped ∨ s.pc = .boot ∨ s.info.exit = true ∨ s.info.status = .exitStage2 ∨
    s.info.status = .exitFinish

/-- The thread is not told to end, and ends by itself only without a planned recording. -/
structure Calm (s : State) (t : RecorderThread) : Prop where
  bit : s.info.threadExit.getLsbD t.job = false
  plan : PlanSlot s t.job → t.exit = false ∧ t.pc ≠ .release ∧ t.status ≠ .error

/-- What the server knows of the planned recording while it serves. -/
structure Served (s : State) : Prop where
  calm : ∀ t ∈ s.own.threads, Calm s t
  active : s.info.status2 = true → PlanPresent s
  selected : PlanPresent s → selectsPlan s.own.recorderEnable = true
  started : s.pc = .taskProc ∨ s.pc = .messageProc → s.info.status = .run →
    s.info.oldStatus = .run → selectsPlan s.own.recorderEnable = true → s.info.status2 = true

structure PlanInv (s : State) : Prop where
  linked : Linked s
  gone : PastThreads s → s.own.threads = []
  leaving : s.info.exit = true → s.pc = .taskProc ∧ s.info.status = .none ∨
    s.pc = .messageProc ∧ s.info.status = .init ∨ s.pc = .stateMachine
  prompt : s.pc = .taskProc ∨ s.pc = .messageProc → ¬ Draining s.info.status
  served : Serving s → Served s

theorem planSlot_congr (h : s'.own.jobs = s.own.jobs) : PlanSlot s' i ↔ PlanSlot s i := by
  rw [PlanSlot, PlanSlot, jobAt_congr h]

theorem planPresent_congr (h : s'.own.jobs = s.own.jobs) : PlanPresent s' ↔ PlanPresent s :=
  exists_congr fun _ => and_congr_right fun _ => planSlot_congr h

theorem Linked.planRunning_iff (h : Linked s) : PlanRunning s ↔ PlanPresent s := by
  constructor
  · rintro ⟨t, ht, hplan⟩
    exact ⟨t.job, (h.attached t ht).lt, hplan⟩
  · rintro ⟨i, -, hplan⟩
    obtain ⟨t, ht, rfl⟩ := h.owner i hplan.1
    exact ⟨t, ht, hplan⟩

theorem Linked.not_planPresent (h : Linked s) (hnil : s.own.threads = []) : ¬ PlanPresent s := by
  rintro ⟨i, -, hplan⟩
  exact hplan.1 (h.free hnil i)

/-- Without threads and without a mark there is no planned recording. -/
theorem served_of_nil (h : Linked s) (hnil : s.own.threads = []) (hmark : s.info.status2 = false)
    (hstatus : s.info.oldStatus ≠ .run ∨ s.info.status ≠ .run) : Served s where
  calm := by
    rw [hnil]
    rintro t ⟨⟩
  active hactive := by
    rw [hmark] at hactive
    cases hactive
  selected hplan := absurd hplan (h.not_planPresent hnil)
  started _ hrun hold := by
    rcases hstatus with hne | hne
    · exact absurd hold hne
    · exact absurd hrun hne

/-- At rest, the invariant is the agreement. -/
theorem PlanInv.agrees (h : PlanInv s) : PlanAgrees s := by
  rintro ⟨hstatus, hold, hpc, -⟩
  have hserving : Serving s := by
    refine ⟨fun status => by rw [hpc]; rintro ⟨⟩, by rw [hstatus]; decide, h.prompt (.inr hpc), ?_⟩
    rw [Bool.eq_false_iff]
    intro hexit
    rcases h.leaving hexit with ⟨hleave, -⟩ | ⟨-, hinit⟩ | hleave
    · exact absurd (hpc.symm.trans hleave) (by decide)
    · exact absurd (hstatus.symm.trans hinit) (by decide)
    · exact absurd (hpc.symm.trans hleave) (by decide)
  obtain ⟨-, hactive, hselected, hstarted⟩ := h.served hserving
  have hmark : selectsPlan s.own.recorderEnable = true → s.info.status2 = true :=
    hstarted (.inr hpc) hstatus hold
  have hpresent : PlanPresent s ↔ selectsPlan s.own.recorderEnable = true :=
    ⟨hselected, fun hsel => hactive (hmark hsel)⟩
  exact ⟨hpresent, h.linked.planRunning_iff.trans hpresent,
    ⟨fun htrue => hselected (hactive htrue), hmark⟩⟩

/-! ### Steps that leave the slots alone -/

/-- The slots and the threads stay, and the step does not come back from an end of the threads. -/
structure Quiet (s s' : State) : Prop where
  own : s'.own = s.own
  threadStart : s'.info.threadStart = s.info.threadStart
  past : PastThreads s' → PastThreads s
  leaving : s'.info.exit = true → s'.pc = .taskProc ∧ s'.info.status = .none ∨
    s'.pc = .messageProc ∧ s'.info.status = .init ∨ s'.pc = .stateMachine
  prompt : s'.pc = .taskProc ∨ s'.pc = .messageProc → ¬ Draining s'.info.status
  serving : Serving s' → Serving s ∧ s'.info.threadExit = s.info.threadExit ∧
    s'.info.status2 = s.info.status2 ∧
    (s'.pc = .taskProc ∨ s'.pc = .messageProc → s'.info.status = .run → s'.info.oldStatus = .run →
      selectsPlan s.own.recorderEnable = true → s.info.status2 = true)

theorem PlanInv.quiet (h : PlanInv s) (hq : Quiet s s') : PlanInv s' where
  linked := h.linked.congr (by rw [hq.own]) (by rw [hq.own]) hq.threadStart
  gone hpast := by
    rw [hq.own]
    exact h.gone (hq.past hpast)
  leaving := hq.leaving
  prompt := hq.prompt
  served hserving := by
    obtain ⟨hs, hexit, hmark, hstarted⟩ := hq.serving hserving
    obtain ⟨hcalm, hactive, hselected, -⟩ := h.served hs
    have hjobs : s'.own.jobs = s.own.jobs := by rw [hq.own]
    refine ⟨fun t ht => ?_, fun htrue => ?_, fun hplan => ?_, ?_⟩
    · rw [hq.own] at ht
      refine ⟨by rw [hexit]; exact (hcalm t ht).bit, fun hplan => (hcalm t ht).plan ?_⟩
      exact (planSlot_congr hjobs).mp hplan
    · rw [hmark] at htrue
      exact (planPresent_congr hjobs).mpr (hactive htrue)
    · rw [hq.own]
      exact hselected ((planPresent_congr hjobs).mp hplan)
    · rw [hq.own, hmark]
      exact hstarted

/-! ### Threads -/

/-- What the threads leave alone; they take back what they were told. -/
structure ThreadFrame (s s' : State) : Prop where
  pc : s'.pc = s.pc
  status : s'.info.status = s.info.status
  oldStatus : s'.info.oldStatus = s.info.oldStatus
  status2 : s'.info.status2 = s.info.status2
  exit : s'.info.exit = s.info.exit
  enable : s'.own.recorderEnable = s.own.recorderEnable
  threadExit : ∀ j, j < 32 → s.info.threadExit.getLsbD j = false →
    s'.info.threadExit.getLsbD j = false

theorem threadFrame_of_info (hpc : s'.pc = s.pc) (hinfo : s'.info = s.info)
    (henable : s'.own.recorderEnable = s.own.recorderEnable) : ThreadFrame s s' := by
  constructor <;> simp only [hpc, hinfo, henable, imp_self, implies_true]

theorem PlanInv.of_threadFrame (h : PlanInv s) (hf : ThreadFrame s s') (hlinked : Linked s')
    (hmem : t ∈ s.own.threads) (hcalm : Served s → ∀ u ∈ s'.own.threads, Calm s' u)
    (hplan : Served s → (PlanPresent s' ↔ PlanPresent s)) : PlanInv s' where
  linked := hlinked
  gone hpast := by
    rw [PastThreads, hf.pc, hf.exit, hf.status] at hpast
    rw [h.gone hpast] at hmem
    cases hmem
  leaving hexit := by
    rw [hf.exit] at hexit
    rw [hf.pc, hf.status]
    exact h.leaving hexit
  prompt := by
    rw [hf.pc, hf.status]
    exact h.prompt
  served hserving := by
    have hserved : Served s := by
      obtain ⟨hpc, hstatus, hdraining, hexit⟩ := hserving
      rw [hf.pc] at hpc
      rw [hf.status] at hstatus hdraining
      rw [hf.exit] at hexit
      exact h.served ⟨hpc, hstatus, hdraining, hexit⟩
    refine ⟨hcalm hserved, ?_, ?_, ?_⟩
    · rw [hf.status2, hplan hserved]
      exact hserved.active
    · rw [hplan hserved, hf.enable]
      exact hserved.selected
    · rw [hf.pc, hf.status, hf.oldStatus, hf.enable, hf.status2]
      exact hserved.started

/-- A thread that goes on in its slot. -/
theorem PlanInv.advance (h : PlanInv s) (hf : ThreadFrame s s') (ht : s.own.threads[n]? = some t)
    (hjobs : s'.own.jobs = s.own.jobs) (hthreads : s'.own.threads = s.own.threads.set n u)
    (hjob : u.job = t.job) (hbits : ∀ j, s.info.threadStart.getLsbD j = true →
      s'.info.threadStart.getLsbD j = true)
    (hu : Attached s' u)
    (hplan : Served s → PlanSlot s t.job → u.exit = false ∧ u.pc ≠ .release ∧ u.status ≠ .error) :
    PlanInv s' := by
  have hmem := List.mem_of_getElem? ht
  refine h.of_threadFrame hf (h.linked.advance ht hjobs hthreads hjob hbits hu) hmem
    (fun hserved v hv => ?_) fun _ => planPresent_congr hjobs
  rw [hthreads] at hv
  rcases List.mem_or_eq_of_mem_set hv with hv | rfl
  · have hcalm := hserved.calm v hv
    refine ⟨hf.threadExit _ ((h.linked.attached v hv).lt.trans (by decide)) hcalm.bit, ?_⟩
    rw [planSlot_congr hjobs]
    exact hcalm.plan
  · refine ⟨hf.threadExit _ (hu.lt.trans (by decide)) ?_, ?_⟩
    · rw [hjob]
      exact (hserved.calm t hmem).bit
    · rw [planSlot_congr hjobs, hjob]
      exact hplan hserved

/-- A thread that keeps its place and its copy of the job stays attached. -/
theorem Attached.keep (h : Attached s t) (hbegun : t.pc ≠ .begin)
    (hjobs : s'.own.jobs = s.own.jobs) (hstart : s'.info.threadStart = s.info.threadStart)
    (hjob : u.job = t.job) (htid : u.tid = t.tid) (hinit : u.init = t.init) : Attached s' u where
  lt := by rw [hjob]; exact h.lt
  taken := by rw [hjob, jobAt_congr hjobs]; exact h.taken
  tid := by rw [hjob, jobAt_congr hjobs]; exact h.tid
  begun _ := by
    rw [htid, hinit, hjob, jobAt_congr hjobs, hstart]
    exact h.begun hbegun

theorem own_recorderThreadStartStream : (recorderThreadStartStream s t).own = s.own := by
  rw [recorderThreadStartStream]
  split_ifs <;> rfl

theorem own_recorderThreadStopStream {realStop : CInt} :
    (recorderThreadStopStream s t realStop).own = s.own := by
  rw [recorderThreadStopStream]
  split_ifs <;> rfl

theorem planInv_threadStart (h : PlanInv s) (ht : s.own.threads[n]? = some t) :
    PlanInv (threadStart s n t) := by
  have hattached := h.linked.attached t (List.mem_of_getElem? ht)
  have hlt : t.job < 32 := hattached.lt.trans (by decide)
  have htid : (jobAt s t.job).tid.toNat = t.job := by
    rw [hattached.tid, BitVec.toNat_ofNat]
    omega
  refine h.advance ⟨rfl, rfl, rfl, rfl, rfl, rfl, fun _ _ => id⟩ ht rfl rfl rfl (fun j hj => ?_) ?_
    fun hserved hplan => ?_
  · have hj32 : j < 32 := BitVec.lt_of_getLsbD hj
    rw [threadStart]
    exact (getLsbD_miscSetBit hj32).trans (by rw [hj, Bool.or_true])
  · refine ⟨hattached.lt, hattached.taken, hattached.tid, fun _ => ⟨htid, rfl, ?_⟩⟩
    refine (getLsbD_miscSetBit hlt).trans ?_
    rw [htid, decide_eq_true rfl, Bool.true_or]
  · exact ⟨((hserved.calm t (List.mem_of_getElem? ht)).plan hplan).1, by rintro ⟨⟩, by rintro ⟨⟩⟩

theorem planInv_threadLoop (h : PlanInv s) (ht : s.own.threads[n]? = some t) (hpc : t.pc = .loop)
    (hok : ThreadKept input s t) : PlanInv (threadLoop input s n t) := by
  have hmem := List.mem_of_getElem? ht
  have hattached := h.linked.attached t hmem
  have hbegun : t.pc ≠ .begin := by
    rw [hpc]
    rintro ⟨⟩
  obtain ⟨htid, hinit, -⟩ := hattached.begun hbegun
  -- the thread keeps its slot, whatever it sends
  have step : ∀ s₁ : State, s₁.pc = s.pc → s₁.info = s.info → s₁.own = s.own →
      ∀ u : RecorderThread, u.job = t.job → u.tid = t.tid → u.init = t.init →
        (Served s → PlanSlot s t.job → u.exit = false ∧ u.pc ≠ .release ∧ u.status ≠ .error) →
        PlanInv (setThread s₁ n u) := by
    intro s₁ hpc₁ hinfo₁ hown₁ u hjob htid hinit hplan
    have hjobs : (setThread s₁ n u).own.jobs = s.own.jobs := congrArg (·.jobs) hown₁
    refine h.advance (threadFrame_of_info hpc₁ hinfo₁ (congrArg (·.recorderEnable) hown₁)) ht hjobs
      ?_ hjob (fun j => ?_) (hattached.keep hbegun hjobs ?_ hjob htid hinit) hplan
    · exact congrArg (fun own : Statics => own.threads.set n u) hown₁
    · rw [setThread, hinfo₁]
      exact id
    · exact congrArg (·.threadStart) hinfo₁
  rw [threadLoop]
  split
  case isTrue hleave =>
    refine step s rfl rfl rfl _ rfl rfl rfl fun hserved hplan => ?_
    have hcalm := hserved.calm t hmem
    rcases hleave with hexit | hexit | hbit
    · rw [h.gone (.inr (.inr (.inl hexit)))] at hmem
      cases hmem
    · rw [(hcalm.plan hplan).1] at hexit
      cases hexit
    · rw [htid, miscGetBit_ne_zero (hattached.lt.trans (by decide)), hcalm.bit] at hbit
      cases hbit
  case isFalse =>
    have hcalm : Served s → PlanSlot s t.job → t.exit = false ∧ t.pc ≠ .release ∧ t.status ≠ .error :=
      fun hserved => (hserved.calm t hmem).plan
    split
    case h_1 hstatus =>
      split_ifs with hfound hcan
      · exact h
      · refine step _ ?_ info_recorderThreadStartStream own_recorderThreadStartStream _ rfl rfl rfl
          fun hserved hplan => ?_
        · exact taskFrame_recorderThreadStartStream.pc
        · exact ⟨(hcalm hserved hplan).1, (hcalm hserved hplan).2.1, by rintro ⟨⟩⟩
      · refine step s rfl rfl rfl _ rfl rfl rfl fun hserved hplan => absurd ?_ hcan
        exact ((hok hplan hpc).1 hstatus (by simpa using hfound))
    case h_2 hstatus =>
      split_ifs
      · refine step s rfl rfl rfl _ rfl rfl rfl fun hserved hplan => ?_
        exact ⟨(hcalm hserved hplan).1, (hcalm hserved hplan).2.1, by rintro ⟨⟩⟩
      · exact h
    case h_3 hstatus =>
      by_cases hrepeated : t.init.repeated = 0#32
      · rw [if_pos hrepeated]
        refine step s rfl rfl rfl _ rfl rfl rfl fun hserved hplan => ?_
        exact absurd hrepeated ((hok hplan hpc).2 hstatus)
      · rw [if_neg hrepeated]
        refine step _ ?_ info_recorderThreadStopStream own_recorderThreadStopStream _ rfl rfl rfl
          fun hserved hplan => ?_
        · exact taskFrame_recorderThreadStopStream.pc
        · exact ⟨(hcalm hserved hplan).1, (hcalm hserved hplan).2.1, by rintro ⟨⟩⟩
    case h_4 hstatus =>
      refine step s rfl rfl rfl _ rfl rfl rfl fun hserved hplan => ?_
      exact absurd hstatus (hcalm hserved hplan).2.2
    case h_5 => exact h

theorem planInv_threadRelease (h : PlanInv s) (ht : s.own.threads[n]? = some t)
    (hpc : t.pc = .release) : PlanInv (threadRelease s n t) := by
  have hmem := List.mem_of_getElem? ht
  have hattached := h.linked.attached t hmem
  obtain ⟨htid, -, -⟩ := hattached.begun (by rw [hpc]; rintro ⟨⟩)
  have hinfo : (threadRelease s n t).info = { s.info with
      threadStart := miscClearBit s.info.threadStart t.job
      threadExit := miscClearBit s.info.threadExit t.job } := by
    have hstop : (recorderThreadStopStream s t 1#32).info = s.info :=
      info_recorderThreadStopStream
    rw [← htid, ← hstop]
    rfl
  have hown : (recorderThreadStopStream s t 1#32).own = s.own := own_recorderThreadStopStream
  have hjobs : (threadRelease s n t).own.jobs = s.own.jobs.set t.job {} := by
    rw [← htid, ← hown]
    rfl
  have hthreads : (threadRelease s n t).own.threads = s.own.threads.eraseIdx n := by
    rw [← hown]
    rfl
  have hother : ∀ i, i ≠ t.job → jobAt (threadRelease s n t) i = jobAt s i := fun i hi => by
    rw [jobAt, hjobs, jobAt, List.getD_eq_getElem?_getD, List.getElem?_set_ne hi.symm,
      List.getD_eq_getElem?_getD]
  have hf : ThreadFrame s (threadRelease s n t) := by
    constructor
    · exact taskFrame_recorderThreadStopStream.pc
    · rw [hinfo]
    · rw [hinfo]
    · rw [hinfo]
    · rw [hinfo]
    · rw [← hown]
      rfl
    · intro j hj hclear
      rw [hinfo, getLsbD_miscClearBit hj, hclear, Bool.false_and]
  have hlinked : Linked (threadRelease s n t) := by
    refine h.linked.release ht hjobs hthreads fun j hj hlt => ?_
    rw [hinfo, getLsbD_miscClearBit hlt, decide_eq_false hj.symm, Bool.not_false, Bool.and_true]
  -- a planned recording is in another slot
  have hnoplan : Served s → ¬ PlanSlot s t.job := fun hserved hplan =>
    ((hserved.calm t hmem).plan hplan).2.1 hpc
  have hslot : Served s → ∀ i, PlanSlot (threadRelease s n t) i ↔ PlanSlot s i := by
    intro hserved i
    by_cases hi : i = t.job
    · rw [hi]
      refine iff_of_false (fun hplan => hplan.1 ?_) (hnoplan hserved)
      rw [jobAt, hjobs]
      simp [h.linked.length, hattached.lt]
    · rw [PlanSlot, PlanSlot, hother i hi]
  refine h.of_threadFrame hf hlinked hmem (fun hserved v hv => ?_) fun hserved => ?_
  · rw [hthreads] at hv
    have hcalm := hserved.calm v (List.mem_of_mem_eraseIdx hv)
    have hlt := (h.linked.attached v (List.mem_of_mem_eraseIdx hv)).lt
    refine ⟨hf.threadExit _ (hlt.trans (by decide)) hcalm.bit, fun hplan => hcalm.plan ?_⟩
    exact (hslot hserved _).mp hplan
  · exact exists_congr fun i => and_congr_right fun _ => hslot hserved i

theorem planInv_recorderFunc (h : PlanInv s)
    (hok : ∀ t ∈ s.own.threads[input.tid]?, ThreadKept input s t)
    (hs : recorderFunc input s = some s') : PlanInv s' := by
  rw [recorderFunc, Option.map_eq_some_iff] at hs
  obtain ⟨t, ht, rfl⟩ := hs
  rcases hpc : t.pc with _ | _ | _
  · exact planInv_threadStart h ht
  · exact planInv_threadLoop h ht hpc (hok t ht)
  · exact planInv_threadRelease h ht hpc

/-! ### A new job -/

/-- The same server, with other messages in its queue or sent. -/
theorem PlanInv.congr (h : PlanInv s) (hpc : s'.pc = s.pc) (hinfo : s'.info = s.info)
    (hown : s'.own = s.own) : PlanInv s' := by
  refine h.quiet ⟨hown, by rw [hinfo], ?_, ?_, ?_, ?_⟩
  · rw [PastThreads, hpc, hinfo]
    exact id
  · rw [hpc, hinfo]
    exact h.leaving
  · rw [hpc, hinfo]
    exact h.prompt
  · rintro ⟨hdrain, hstatus, hdraining, hexit⟩
    rw [hpc] at hdrain
    rw [hinfo] at hstatus hdraining hexit
    have hserving : Serving s := ⟨hdrain, hstatus, hdraining, hexit⟩
    rw [hpc, hinfo]
    exact ⟨hserving, rfl, rfl, (h.served hserving).started⟩

/-- What a slot that is found gets. -/
theorem startJob_some (init : RecorderInit)
    (hfree : (s.own.jobs.findIdx? fun job => job.status = .none) = some i)
    (hok : input.createOk = true) :
    let job : Job := { tid := BitVec.ofNat 32 i, status := .started, init := init }
    (startJob input s init).own = { s.own with
      jobs := s.own.jobs.set i job, threads := s.own.threads ++ [{ job := i }] } ∧
    (startJob input s init).info = { s.info with
      threadExit := miscClearBit s.info.threadExit i } ∧
    (startJob input s init).pc = s.pc := by
  rw [startJob, hfree]
  dsimp only
  rw [hok, if_neg (by decide)]
  exact ⟨rfl, rfl, rfl⟩

theorem planInv_startJob {init : RecorderInit} (h : PlanInv s) (hpast : ¬ PastThreads s)
    (hallow : init.type = lvStorageRecordPlan → selectsPlan s.own.recorderEnable = true) :
    PlanInv (startJob input s init) := by
  rcases hfree : s.own.jobs.findIdx? fun job => job.status = .none with _ | i
  · rw [startJob, hfree]
    exact h
  obtain ⟨hlt, hnone⟩ := of_findIdx hfree
  rcases hok : input.createOk with _ | _
  · -- the slot stays free
    rw [startJob, hfree]
    dsimp only
    rw [hok, if_pos (by decide)]
    have hlinked : Linked (setJob s i { tid := -1#32, init := init }) :=
      h.linked.setJob_free hnone rfl
    have hslot : ∀ j, PlanSlot (setJob s i { tid := -1#32, init := init }) j ↔ PlanSlot s j := by
      intro j
      by_cases hij : i = j
      · subst hij
        rw [PlanSlot, PlanSlot, jobAt_setJob hlt]
        exact iff_of_false (fun hplan => hplan.1 rfl) fun hplan => hplan.1 hnone
      · rw [PlanSlot, PlanSlot, jobAt_setJob_of_ne hij]
    have hplan : PlanPresent (setJob s i { tid := -1#32, init := init }) ↔ PlanPresent s :=
      exists_congr fun j => and_congr_right fun _ => hslot j
    refine ⟨hlinked, h.gone, h.leaving, h.prompt, fun hserving => ?_⟩
    obtain ⟨hcalm, hactive, hselected, hstarted⟩ :=
      h.served ⟨hserving.1, hserving.2, hserving.3, hserving.4⟩
    refine ⟨fun t ht => ⟨(hcalm t ht).bit, fun hp => (hcalm t ht).plan ((hslot _).mp hp)⟩,
      fun hmark => hplan.mpr (hactive hmark), fun hp => hselected (hplan.mp hp), hstarted⟩
  · obtain ⟨hown, hinfo, hpc⟩ := startJob_some init hfree hok
    have hlinked : Linked (startJob input s init) :=
      h.linked.fill hlt hnone (by rw [hown]) (by rw [hown]) (by rw [hinfo])
    have hsame : ∀ j, i ≠ j → jobAt (startJob input s init) j = jobAt s j := fun j hij => by
      rw [jobAt, hown, jobAt, List.getD_eq_getElem?_getD, List.getElem?_set_ne hij,
        List.getD_eq_getElem?_getD]
    have hnew : (jobAt (startJob input s init) i).init = init := by
      rw [jobAt, hown]
      simp [hlt]
    have hne : ∀ j, PlanSlot s j → i ≠ j := by
      rintro j hplan rfl
      exact hplan.1 hnone
    refine ⟨hlinked, fun hp => absurd ?_ hpast, ?_, ?_, fun hserving => ?_⟩
    · rwa [PastThreads, hpc, hinfo] at hp
    · rw [hinfo, hpc]
      exact h.leaving
    · rw [hinfo, hpc]
      exact h.prompt
    obtain ⟨hdrain, hstatus, hdraining, hexit⟩ := hserving
    rw [hpc] at hdrain
    rw [hinfo] at hstatus hdraining hexit
    obtain ⟨hcalm, hactive, hselected, hstarted⟩ := h.served ⟨hdrain, hstatus, hdraining, hexit⟩
    refine ⟨fun t ht => ?_, fun hmark => ?_, fun hplan => ?_, ?_⟩
    · rw [hown, List.mem_append, List.mem_singleton] at ht
      rcases ht with ht | rfl
      · have hti : i ≠ t.job := by
          intro hti
          exact (h.linked.attached t ht).taken (hti ▸ hnone)
        refine ⟨?_, fun hplan => (hcalm t ht).plan ?_⟩
        · have hlt32 := (h.linked.attached t ht).lt.trans (show maxRecorderJob < 32 by decide)
          rw [hinfo, getLsbD_miscClearBit hlt32, (hcalm t ht).bit, Bool.false_and]
        · rwa [PlanSlot, hsame _ hti] at hplan
      · refine ⟨?_, fun _ => ⟨rfl, by rintro ⟨⟩, by rintro ⟨⟩⟩⟩
        have hlt32 : i < 32 := (h.linked.length ▸ hlt).trans (by decide)
        rw [hinfo, getLsbD_miscClearBit hlt32, decide_eq_true rfl, Bool.not_true, Bool.and_false]
    · rw [hinfo] at hmark
      obtain ⟨j, hj, hplan⟩ := hactive hmark
      refine ⟨j, hj, ?_⟩
      rwa [PlanSlot, hsame j (hne j hplan)]
    · rw [hown]
      obtain ⟨j, hj, hplan⟩ := hplan
      by_cases hij : i = j
      · subst hij
        rw [PlanSlot, hnew] at hplan
        exact hallow hplan.2
      · rw [PlanSlot, hsame j hij] at hplan
        exact hselected ⟨j, hj, hplan⟩
    · rw [hpc, hinfo, hown]
      exact hstarted

theorem planInv_recorderAddJob {init : Option RecorderInit} (h : PlanInv s) (hpast : ¬ PastThreads s)
    (hallow : ∀ i ∈ init, i.type = lvStorageRecordPlan → selectsPlan s.own.recorderEnable = true)
    (hs : recorderAddJob input msg s init = some s') : PlanInv s' := by
  rw [recorderAddJob] at hs
  split at hs
  · cases hs
    exact h.congr rfl rfl rfl
  · rw [Option.map_eq_some_iff] at hs
    obtain ⟨init, hinit, rfl⟩ := hs
    split_ifs
    · exact h.congr rfl rfl rfl
    · exact (planInv_startJob h hpast (hallow init hinit)).congr rfl rfl rfl

/-! ### Messages -/

/-- A pass of the message loop that leaves all but the task and the status alone. -/
theorem quiet_of_message (h : PlanInv s) (hpc : s.pc = .messageProc) (hown : s'.own = s.own)
    (hinfo : s'.info.threadStart = s.info.threadStart ∧ s'.info.threadExit = s.info.threadExit ∧
      s'.info.status2 = s.info.status2 ∧ s'.info.exit = s.info.exit)
    (hpc' : s'.pc = .stateMachine)
    (hpast : s'.info.status = .exitStage2 ∨ s'.info.status = .exitFinish →
      s'.info.status = s.info.status)
    (hstatus : ¬ Draining s'.info.status → s'.info.status.isExit = false →
      s.info.status.isExit = false) : Quiet s s' where
  own := hown
  threadStart := hinfo.1
  past := by
    rintro (hp | hp | hp | hp | hp)
    · exact absurd (hpc'.symm.trans hp) (by decide)
    · exact absurd (hpc'.symm.trans hp) (by decide)
    · exact .inr (.inr (.inl (hinfo.2.2.2.symm.trans hp)))
    · exact .inr (.inr (.inr (.inl ((hpast (.inl hp)).symm.trans hp))))
    · exact .inr (.inr (.inr (.inr ((hpast (.inr hp)).symm.trans hp))))
  leaving _ := .inr (.inr hpc')
  prompt hp := by rcases hp with hp | hp <;> exact absurd (hpc'.symm.trans hp) (by decide)
  serving hserving := by
    refine ⟨⟨fun status => by rw [hpc]; rintro ⟨⟩, hstatus hserving.draining hserving.status,
      h.prompt (.inr hpc), hinfo.2.2.2.symm.trans hserving.exit⟩, hinfo.2.1, hinfo.2.2.1,
      fun hp => ?_⟩
    rcases hp with hp | hp <;> exact absurd (hpc'.symm.trans hp) (by decide)

/-- A message of which the recorder takes no notice. -/
theorem PlanInv.ignore (h : PlanInv s) (hpc : s.pc = .messageProc) (hown : s'.own = s.own)
    (hinfo : s'.info.threadStart = s.info.threadStart ∧ s'.info.threadExit = s.info.threadExit ∧
      s'.info.status2 = s.info.status2 ∧ s'.info.exit = s.info.exit)
    (hstatus : s'.info.status = s.info.status) (hpc' : s'.pc = .stateMachine) : PlanInv s' :=
  h.quiet (quiet_of_message h hpc hown hinfo hpc' (fun _ => hstatus) fun _ => by rw [hstatus]; exact id)

/-- The mode is set, and the server is to stop or to start. -/
theorem planInv_recorderSetProperty (h : PlanInv s) (hpc : s.pc = .messageProc)
    (hset : msg.message = msgRecorderPropertySet) (hok : KeepsPlan msg s)
    (hs : recorderSetProperty msg s = some s') : PlanInv { s' with pc := .stateMachine } := by
  have hsame : PlanInv { s with pc := .stateMachine } := h.ignore hpc rfl ⟨rfl, rfl, rfl, rfl⟩ rfl rfl
  rw [recorderSetProperty] at hs
  split at hs
  case isFalse =>
    cases hs
    exact hsame
  case isTrue hcat =>
  rw [Option.map_eq_some_iff] at hs
  obtain ⟨block, hblock, rfl⟩ := hs
  dsimp only
  by_cases hdiffer : s.own.recorderEnable.setWidth 32 ≠ readInt block
  case neg =>
    rw [if_neg hdiffer]
    exact hsame
  rw [if_pos hdiffer]
  refine ⟨h.linked.congr rfl rfl rfl, fun hpast => ?_, fun _ => .inr (.inr rfl), refuted rfl,
    fun hserving => ?_⟩
  · dsimp only [ServerState.setStatus] at hpast
    rcases hpast with hp | hp | hp | hp | hp
    · cases hp
    · cases hp
    · exact h.gone (.inr (.inr (.inl hp)))
    · dsimp only at hp
      split_ifs at hp
    · dsimp only at hp
      split_ifs at hp
  · have hnonzero : readInt block ≠ 0#32 := by
      intro hzero
      refine hserving.draining (.inl ?_)
      dsimp only [ServerState.setStatus]
      rw [if_pos hzero]
    obtain ⟨hstatus, hselects⟩ := hok.1 hset hcat block hblock hnonzero hdiffer
    have hserved : Served s :=
      h.served ⟨fun status => by rw [hpc]; rintro ⟨⟩, hstatus, h.prompt (.inr hpc), hserving.exit⟩
    refine ⟨fun t ht => ?_, fun hmark => hserved.active hmark, hselects, refuted rfl⟩
    exact ⟨(hserved.calm t ht).bit, (hserved.calm t ht).plan⟩

theorem planInv_handle (h : PlanInv s) (hpc : s.pc = .messageProc) (hok : KeepsPlan msg s)
    (hs : handle input msg s = some s') : PlanInv { s' with pc := .stateMachine } := by
  have hsame : PlanInv { s with pc := .stateMachine } := h.ignore hpc rfl ⟨rfl, rfl, rfl, rfl⟩ rfl rfl
  rw [handle] at hs
  split_ifs at hs with hadd hrun hformat hset
  · have hpast : ¬ PastThreads s := by
      rintro (hp | hp | hp | hp | hp)
      · exact absurd (hpc.symm.trans hp) (by decide)
      · exact absurd (hpc.symm.trans hp) (by decide)
      · rcases h.leaving hp with ⟨hl, -⟩ | ⟨-, hl⟩ | hl
        · exact absurd (hpc.symm.trans hl) (by decide)
        · exact absurd (hrun.symm.trans hl) (by decide)
        · exact absurd (hpc.symm.trans hl) (by decide)
      · exact absurd (hrun.symm.trans hp) (by decide)
      · exact absurd (hrun.symm.trans hp) (by decide)
    have hadded : PlanInv s' := by
      refine planInv_recorderAddJob h hpast (fun init hinit htype => ?_) hs
      obtain ⟨block, hblock, rfl⟩ := Option.map_eq_some_iff.mp hinit
      exact hok.2 hadd block hblock htype
    have hpc' : s'.pc = .messageProc := (taskFrame_recorderAddJob hadd hs).pc.trans hpc
    exact hadded.ignore hpc' rfl ⟨rfl, rfl, rfl, rfl⟩ rfl rfl
  · cases hs
    exact hsame
  · cases hs
    refine h.quiet (quiet_of_message h hpc rfl ⟨rfl, rfl, rfl, rfl⟩ rfl ?_ fun hnot => ?_)
    · rintro (hp | hp) <;> cases hp
    · exact absurd (.inr (.inr rfl)) hnot
  · exact planInv_recorderSetProperty h hpc hset hok hs
  · rcases hcard : cardAndClockMessage msg s with _ | s₁ <;> rw [hcard] at hs <;> cases hs
    · exact hsame
    · rw [cardAndClockMessage] at hcard
      split_ifs at hcard <;> cases hcard <;> exact h.ignore hpc rfl ⟨rfl, rfl, rfl, rfl⟩ rfl rfl

theorem planInv_handleMessage (h : PlanInv s) (hpc : s.pc = .messageProc) (hok : KeepsPlan msg s)
    (hs : handleMessage server input msg s = some s') : PlanInv { s' with pc := .stateMachine } := by
  rw [handleMessage] at hs
  split_ifs at hs with hexit hack htimer
  · cases hs
    refine h.quiet (quiet_of_message h hpc rfl ⟨rfl, rfl, rfl, rfl⟩ rfl ?_ fun _ hexit => ?_)
    · rintro (hp | hp) <;> cases hp
    · cases hexit
  · cases hs
    exact h.ignore hpc rfl ⟨rfl, rfl, rfl, rfl⟩ rfl rfl
  · obtain ⟨handler, -, hhandler⟩ := Option.bind_eq_some_iff.mp hs
    cases hhandler
    exact h.ignore hpc rfl ⟨rfl, rfl, rfl, rfl⟩ rfl rfl
  · exact planInv_handle h hpc hok hs

theorem planInv_serverMessageProc (h : PlanInv s) (hpc : s.pc = .messageProc)
    (hok : ∀ msg ∈ nextMessage server s, KeepsPlan msg s)
    (hs : serverMessageProc server input s = some s') : PlanInv { s' with pc := .stateMachine } := by
  have hsame : ∀ buff, PlanInv { s.popped buff with pc := .stateMachine } := fun buff =>
    h.ignore hpc rfl ⟨rfl, rfl, rfl, rfl⟩ rfl rfl
  rcases serverMessageProc_cases hs with
    ⟨-, rfl⟩ | ⟨buff, hsource, ⟨-, rfl⟩ | ⟨msg, hpop, ⟨-, rfl⟩ | ⟨-, hhandle⟩⟩⟩
  · exact h.ignore hpc rfl ⟨rfl, rfl, rfl, rfl⟩ rfl rfl
  · exact hsame buff
  · exact hsame buff
  · have hnext : nextMessage server s = some msg := by
      rw [nextMessage, hsource, Option.bind_some, hpop]
    exact planInv_handleMessage (s := s.popped buff) (h.congr rfl rfl rfl) hpc
      (hok msg hnext) hhandle

/-! ### The state machine -/

/-- A pass of the state machine that leaves all but the status alone. -/
theorem quiet_of_states (hpc : s.pc = .stateMachine) (hdrain : ¬ Draining s.info.status)
    (hown : s'.own = s.own)
    (hinfo : s'.info.threadStart = s.info.threadStart ∧ s'.info.threadExit = s.info.threadExit ∧
      s'.info.status2 = s.info.status2 ∧ s'.info.exit = s.info.exit) (hexit : s.info.exit = false)
    (hpc' : s'.pc = .taskProc) (hdrain' : ¬ Draining s'.info.status)
    (hpast : s'.info.status = .exitStage2 ∨ s'.info.status = .exitFinish →
      s'.info.status = s.info.status)
    (hstatus : s'.info.status.isExit = false → s.info.status.isExit = false)
    (hstarted : s'.info.status = .run → s'.info.oldStatus = .run →
      selectsPlan s.own.recorderEnable = true → s.info.status2 = true) : Quiet s s' where
  own := hown
  threadStart := hinfo.1
  past := by
    rintro (hp | hp | hp | hp | hp)
    · exact absurd (hpc'.symm.trans hp) (by decide)
    · exact absurd (hpc'.symm.trans hp) (by decide)
    · exact .inr (.inr (.inl (hinfo.2.2.2.symm.trans hp)))
    · exact .inr (.inr (.inr (.inl ((hpast (.inl hp)).symm.trans hp))))
    · exact .inr (.inr (.inr (.inr ((hpast (.inr hp)).symm.trans hp))))
  leaving he := by
    rw [hinfo.2.2.2, hexit] at he
    cases he
  prompt _ := hdrain'
  serving hserving := ⟨⟨fun status => by rw [hpc]; rintro ⟨⟩, hstatus hserving.status, hdrain, hexit⟩,
    hinfo.2.1, hinfo.2.2.1, fun _ => hstarted⟩

/-- The planned recording is started, and marked. -/
theorem planInv_startPlan (h : PlanInv s) (hpc : s.pc = .stateMachine) (hexit : s.info.exit = false)
    (hstatus : s.info.status = .run) (hmark : s.info.status2 = false)
    (hselects : selectsPlan s.own.recorderEnable = true) (hslot : countJobNumber s < maxRecorderJob)
    (hok : input.createOk = true) {s₁ : State} (hs : recorderStartInitRecorderJob input s = some s₁) :
    PlanInv { s₁ with info := { s₁.info with status2 := true }, pc := .taskProc } := by
  have hpast : ¬ PastThreads s := by
    rintro (hp | hp | hp | hp | hp)
    · exact absurd (hpc.symm.trans hp) (by decide)
    · exact absurd (hpc.symm.trans hp) (by decide)
    · exact absurd (hexit.symm.trans hp) (by decide)
    · exact absurd (hstatus.symm.trans hp) (by decide)
    · exact absurd (hstatus.symm.trans hp) (by decide)
  obtain ⟨i, hfree⟩ := exists_findIdx (s := s) (by rw [h.linked.length]; exact hslot)
  obtain ⟨hlt, -⟩ := of_findIdx hfree
  have hmode : s.own.recorderEnable ≠ aliyunRecorderModeNone ∧
      s.own.recorderEnable ≠ aliyunRecorderModeAlarm := by
    constructor <;> intro hnone <;> rw [hnone] at hselects <;> exact absurd hselects (by decide)
  rw [recorderStartInitRecorderJob, if_neg (by rw [hmark]; decide), recorderAddJob,
    if_neg (by simp [hmode.1, hslot.ne])] at hs
  have hallowed : forbidden s lvStorageRecordPlan = false := by
    simp [forbidden, hmode.1, hmode.2, lvStorageRecordPlan, lvStorageRecordAlarm]
  rw [Option.map_some, if_neg (by rw [hallowed]; decide), Option.some.injEq] at hs
  obtain ⟨init, hinit⟩ : ∃ init : RecorderInit, init =
    { type := lvStorageRecordPlan, repeated := 1#32, audio := 1#32, quality := 1#32 } := ⟨_, rfl⟩
  have hstart : PlanInv (startJob input s init) := planInv_startJob h hpast fun _ => hselects
  obtain ⟨hown, hinfo, hpc'⟩ := startJob_some init hfree hok
  have hown₁ : s₁.own = (startJob input s init).own := by
    rw [← hs, hinit]
    rfl
  have hinfo₁ : s₁.info = (startJob input s init).info := by
    rw [← hs, hinit]
    rfl
  have hpc₁ : s₁.pc = (startJob input s init).pc := by
    rw [← hs, hinit]
    rfl
  have hadded : PlanInv s₁ := hstart.congr hpc₁ hinfo₁ hown₁
  have hplan : PlanPresent s₁ := by
    refine ⟨i, h.linked.length ▸ hlt, ?_⟩
    rw [PlanSlot, jobAt, hown₁, hown]
    simp [hlt, hinit]
  have hstatus₁ : s₁.info.status = .run := by
    rw [hinfo₁, hinfo]
    exact hstatus
  have hexit₁ : s₁.info.exit = false := by
    rw [hinfo₁, hinfo]
    exact hexit
  have hdrain : ¬ Draining s₁.info.status := by
    rw [hstatus₁]
    rintro (hd | hd | hd) <;> cases hd
  have hserved : Served s₁ := hadded.served
    ⟨fun status => by rw [hpc₁, hpc', hpc]; rintro ⟨⟩,
      by rw [hstatus₁]; rfl, hdrain, hexit₁⟩
  refine ⟨hadded.linked.congr rfl rfl rfl, fun hp => ?_, fun he => ?_, fun _ => hdrain, fun _ => ?_⟩
  · rcases hp with hp | hp | hp | hp | hp
    · cases hp
    · cases hp
    · exact absurd (hexit₁.symm.trans hp) (by decide)
    · exact absurd (hstatus₁.symm.trans hp) (by decide)
    · exact absurd (hstatus₁.symm.trans hp) (by decide)
  · exact absurd (hexit₁.symm.trans he) (by decide)
  · exact ⟨fun t ht => ⟨(hserved.calm t ht).bit, (hserved.calm t ht).plan⟩, fun _ => hplan,
      hserved.selected, fun _ _ _ _ => rfl⟩

theorem planInv_states (h : PlanInv s) (hpc : s.pc = .stateMachine) (hexit : s.info.exit = false)
    (hstatus : s.info.status.isExit = false) (hold : s.info.oldStatus = s.info.status)
    (hok : s.info.status = .run → s.info.status2 = false →
      selectsPlan s.own.recorderEnable = true →
      countJobNumber s < maxRecorderJob ∧ input.createOk = true)
    (hs : states input s = some s') : PlanInv (afterStates s') := by
  -- a pass that changes only the status, and does not leave the threads to end
  have quiet : ∀ s₁ : State, s₁.own = s.own → s₁.pc = .stateMachine →
      (s₁.info.threadStart = s.info.threadStart ∧ s₁.info.threadExit = s.info.threadExit ∧
        s₁.info.status2 = s.info.status2 ∧ s₁.info.exit = s.info.exit) →
      ¬ Draining s.info.status → ¬ Draining s₁.info.status → s₁.info.status.isExit = false →
      (s₁.info.status = .run → s₁.info.oldStatus = .run →
        selectsPlan s.own.recorderEnable = true → s.info.status2 = true) →
      PlanInv (afterStates s₁) := by
    intro s₁ hown hpc₁ hinfo hdrain hdrain₁ hstatus₁ hstarted
    rw [afterStates, if_pos hpc₁]
    refine h.quiet (quiet_of_states hpc hdrain hown hinfo hexit rfl hdrain₁ ?_ (fun _ => hstatus)
      hstarted)
    rintro (hp | hp) <;> rw [hp] at hstatus₁ <;> cases hstatus₁
  have drain : ∀ status, PlanInv (afterStates (serverDrain s status)) := by
    intro status
    refine ⟨h.linked.congr rfl rfl rfl, fun hp => ?_, fun he => ?_, refuted rfl, fun hserving => ?_⟩
    · rcases hp with hp | hp | hp | hp | hp
      · cases hp
      · cases hp
      · exact absurd (hexit.symm.trans hp) (by decide)
      · exact absurd (hstatus.symm.trans (by rw [show s.info.status = _ from hp])) (by decide)
      · exact absurd (hstatus.symm.trans (by rw [show s.info.status = _ from hp])) (by decide)
    · exact absurd (hexit.symm.trans he) (by decide)
    · exact absurd rfl (hserving.pc status)
  rw [states] at hs
  split at hs
  case h_1 hinit =>
    cases hs
    have hdrain : ¬ Draining s.info.status := by
      rw [hinit]
      exact refuted rfl
    rw [serverInit, cardAndClockInit]
    dsimp only
    split_ifs
    all_goals
      refine quiet _ rfl hpc ⟨rfl, rfl, rfl, rfl⟩ hdrain ?_ ?_ ?_
      · first | exact hdrain | exact refuted rfl
      · first | exact hstatus | rfl
      · first | exact fun hrun => absurd (hinit.symm.trans hrun) (by decide) | rintro ⟨⟩
  case h_2 hsetup =>
    cases hs
    refine quiet _ rfl hpc ⟨rfl, rfl, rfl, rfl⟩ ?_ (refuted rfl) rfl (by rintro ⟨⟩)
    rw [hsetup]
    exact refuted rfl
  case h_3 hstart =>
    cases hs
    refine quiet _ rfl hpc ⟨rfl, rfl, rfl, rfl⟩ ?_ (refuted rfl) rfl fun _ hrun => ?_
    · rw [hstart]
      exact refuted rfl
    · exact absurd (hstart.symm.trans (hold.symm.trans hrun)) (by decide)
  case h_4 hrun =>
    have hdrain : ¬ Draining s.info.status := by
      rw [hrun]
      exact refuted rfl
    have hmode : (s.own.recorderEnable = aliyunRecorderModePlan ∨
        s.own.recorderEnable = aliyunRecorderModeAll) ↔
        selectsPlan s.own.recorderEnable = true := by
      rw [selectsPlan, Bool.or_eq_true, decide_eq_true_eq, decide_eq_true_eq]
    dsimp only at hs
    split_ifs at hs with hstart
    · have hmark : s.info.status2 = false := by simpa using hstart.1
      have hselects := hmode.mp hstart.2
      obtain ⟨s₁, hs₁, rfl⟩ := Option.map_eq_some_iff.mp hs
      obtain ⟨hslot, hcreate⟩ := hok hrun hmark hselects
      have hstarted := planInv_startPlan h hpc hexit hrun hmark hselects hslot hcreate hs₁
      have hpc₁ : s₁.pc = .stateMachine := by
        rw [recorderStartInitRecorderJob, if_neg (by rw [hmark]; decide)] at hs₁
        exact (taskFrame_recorderAddJob rfl hs₁).pc.trans hpc
      rw [afterStates, if_pos hpc₁]
      exact hstarted
    · cases hs
      refine quiet _ rfl hpc ⟨rfl, rfl, rfl, rfl⟩ hdrain hdrain hstatus fun _ _ hselects => ?_
      by_contra hmark
      exact hstart ⟨by simpa using hmark, hmode.mpr hselects⟩
  case h_5 =>
    cases hs
    exact drain .stop
  case h_6 =>
    cases hs
    exact drain .restart
  case h_7 =>
    cases hs
    exact drain .reinit
  case h_8 hrun hstop hrestart hreinit =>
    cases hs
    have hdrain : ¬ Draining s.info.status := by
      rintro (hd | hd | hd)
      · exact hstop hd
      · exact hrestart hd
      · exact hreinit hd
    exact quiet _ rfl hpc ⟨rfl, rfl, rfl, rfl⟩ hdrain hdrain hstatus fun hr => absurd hr hrun

/-- Once the threads have ended on the way out, there is nothing left to keep. -/
theorem planInv_of_ended (hlinked : Linked s) (hnil : s.own.threads = []) (hpc : s.pc = .stateMachine)
    (hstatus : s.info.exit = false ∧ s.info.status.isExit = true ∨
      s.info.exit = true ∧ s.info.status = .none) : PlanInv (afterStates s) := by
  rw [afterStates, if_pos hpc]
  rcases hstatus with ⟨hexit, hstatus⟩ | ⟨hexit, hstatus⟩
  · refine ⟨hlinked.congr rfl rfl rfl, fun _ => hnil,
      fun he => absurd (hexit.symm.trans he) (by decide), fun _ hd => ?_, fun hserving => ?_⟩
    · rcases hd with hd | hd | hd <;> rw [show s.info.status = _ from hd] at hstatus <;>
        cases hstatus
    · exact absurd (hstatus.symm.trans hserving.status) (by decide)
  · refine ⟨hlinked.congr rfl rfl rfl, fun _ => hnil, fun _ => .inl ⟨rfl, hstatus⟩, fun _ hd => ?_,
      fun hserving => absurd (hexit.symm.trans hserving.exit) (by decide)⟩
    rcases hd with hd | hd | hd <;> exact absurd (hstatus.symm.trans hd) (by decide)

/-- The exit states, too, end the threads before they forget them. -/
theorem planInv_stateMachine (h : PlanInv s) (hpc : s.pc = .stateMachine) (hexit : s.info.exit = false)
    (hold : s.info.oldStatus = s.info.status)
    (hok : s.info.status = .run → s.info.status2 = false →
      selectsPlan s.own.recorderEnable = true →
      countJobNumber s < maxRecorderJob ∧ input.createOk = true)
    (hwait : s.info.status = .exitThread → s.info.threadStart = 0#32 → AllBegun s)
    (hs : stateMachine server input s = some s') : PlanInv (afterStates s') := by
  -- a pass from an exit state to the same or the next one
  have quiet : ∀ s₁ : State, s₁.own = s.own → s₁.pc = .stateMachine →
      s₁.info.threadStart = s.info.threadStart → s₁.info.exit = false →
      s₁.info.status.isExit = true →
      (s₁.info.status = .exitStage2 ∨ s₁.info.status = .exitFinish →
        s₁.info.status = s.info.status) → PlanInv (afterStates s₁) := by
    intro s₁ hown hpc₁ hstart hexit₁ hstatus₁ hpast
    rw [afterStates, if_pos hpc₁]
    refine ⟨h.linked.congr (congrArg (·.jobs) hown) (congrArg (·.threads) hown) hstart, fun hp => ?_,
      fun he => absurd (hexit₁.symm.trans he) (by decide), fun _ hd => ?_, fun hserving => ?_⟩
    · dsimp only [PastThreads] at hp
      rw [hown]
      rcases hp with hp | hp | hp | hp | hp
      · cases hp
      · cases hp
      · exact absurd (hexit₁.symm.trans hp) (by decide)
      · exact h.gone (.inr (.inr (.inr (.inl ((hpast (.inl hp)).symm.trans hp)))))
      · exact h.gone (.inr (.inr (.inr (.inr ((hpast (.inr hp)).symm.trans hp)))))
    · rcases hd with hd | hd | hd <;> rw [show s₁.info.status = _ from hd] at hstatus₁ <;>
        cases hstatus₁
    · exact absurd (hstatus₁.symm.trans hserving.status) (by decide)
  rw [stateMachine] at hs
  split at hs
  case h_1 =>
    cases hs
    exact quiet _ rfl hpc rfl hexit rfl (by rintro (hp | hp) <;> cases hp)
  case h_2 =>
    cases hs
    exact quiet _ rfl hpc rfl hexit rfl (by rintro (hp | hp) <;> cases hp)
  case h_3 hstatus =>
    cases hs
    split_ifs
    · exact quiet _ rfl hpc rfl hexit rfl (by rintro (hp | hp) <;> cases hp)
    · exact quiet _ rfl hpc rfl hexit (by rw [hstatus]; rfl) fun _ => rfl
  case h_4 =>
    cases hs
    exact quiet _ rfl hpc rfl hexit rfl (by rintro (hp | hp) <;> cases hp)
  case h_5 hstatus =>
    cases hs
    split_ifs with hstart
    · exact planInv_of_ended (h.linked.congr rfl rfl rfl)
        (h.linked.threads_eq_nil hstart (hwait hstatus hstart)) hpc (.inl ⟨hexit, rfl⟩)
    · exact quiet _ rfl hpc rfl hexit (by rw [hstatus]; rfl) fun _ => rfl
  case h_6 hstatus =>
    cases hs
    have hnil : s.own.threads = [] := h.gone (.inr (.inr (.inr (.inl hstatus))))
    have hlinked : Linked (setJob s 0 {}) := h.linked.setJob_free (h.linked.free hnil 0) rfl
    exact planInv_of_ended (hlinked.congr rfl rfl rfl) hnil hpc (.inl ⟨hexit, rfl⟩)
  case h_7 hstatus =>
    cases hs
    have hnil : s.own.threads = [] := h.gone (.inr (.inr (.inr (.inr hstatus))))
    exact planInv_of_ended (h.linked.congr rfl rfl rfl) hnil hpc (.inr ⟨rfl, rfl⟩)
  case h_8 herror hinit hserver hstage1 hthread hstage2 hfinish =>
    refine planInv_states h hpc hexit ?_ hold hok hs
    rcases hstatus : s.info.status
    all_goals first | rfl | simp_all

/-! ### Runs -/

theorem planInv_taskProc (h : PlanInv s) (hpc : s.pc = .taskProc) :
    PlanInv { taskProc s with pc := .messageProc } := by
  -- a status that is left, or a new one
  have same : s.info.status ≠ .none → PlanInv { s with pc := .messageProc } := by
    intro hnone
    refine h.quiet ⟨rfl, rfl, ?_, fun he => ?_, fun _ => h.prompt (.inl hpc), fun hserving => ?_⟩
    · rintro (hp | hp | hp)
      · cases hp
      · cases hp
      · exact .inr (.inr hp)
    · rcases h.leaving he with ⟨-, hleave⟩ | ⟨hleave, -⟩ | hleave
      · exact absurd hleave hnone
      · exact absurd (hpc.symm.trans hleave) (by decide)
      · exact absurd (hpc.symm.trans hleave) (by decide)
    · have hserving' : Serving s :=
        ⟨fun status => by rw [hpc]; rintro ⟨⟩, hserving.status, hserving.draining, hserving.exit⟩
      exact ⟨hserving', rfl, rfl, fun _ => (h.served hserving').started (.inl hpc)⟩
  have next : ∀ status : ServerStatus, s.info.status.isExit = false → status.isExit = false →
      status ≠ .run → ¬ Draining status → (s.info.exit = true → status = .init) →
      PlanInv { s.setStatus status with pc := .messageProc } := by
    intro status hold hnew hrun hdrain hinit
    refine h.quiet ⟨rfl, rfl, ?_, fun he => .inr (.inl ⟨rfl, hinit he⟩), fun _ => hdrain,
      fun hserving => ⟨⟨fun status => by rw [hpc]; rintro ⟨⟩, hold, h.prompt (.inl hpc), hserving.exit⟩,
        rfl, rfl, fun _ hr => absurd hr hrun⟩⟩
    rintro (hp | hp | hp | hp | hp)
    · cases hp
    · cases hp
    · exact .inr (.inr (.inl hp))
    · rw [show status = _ from hp] at hnew
      cases hnew
    · rw [show status = _ from hp] at hnew
      cases hnew
  have hexit : ∀ status : ServerStatus, s.info.status = status → status ≠ .none →
      s.info.exit ≠ true := by
    rintro status rfl hne he
    rcases h.leaving he with ⟨-, hleave⟩ | ⟨hleave, -⟩ | hleave
    · exact hne hleave
    · exact absurd (hpc.symm.trans hleave) (by decide)
    · exact absurd (hpc.symm.trans hleave) (by decide)
  rw [taskProc]
  split
  case h_1 hstatus =>
    exact next .init (by rw [hstatus]; rfl) rfl (by rintro ⟨⟩) (refuted rfl) fun _ => rfl
  case h_2 hstatus =>
    split_ifs
    · exact next .setup (by rw [hstatus]; rfl) rfl (by rintro ⟨⟩) (refuted rfl) fun he =>
        absurd he (hexit _ hstatus (by rintro ⟨⟩))
    · exact same (by rw [hstatus]; rintro ⟨⟩)
  case h_3 hstatus =>
    exact next .start (by rw [hstatus]; rfl) rfl (by rintro ⟨⟩) (refuted rfl) fun he =>
      absurd he (hexit _ hstatus (by rintro ⟨⟩))
  case h_4 hnone _ _ => exact same hnone

/-- After the wait for its threads the server goes on without any. -/
theorem planInv_drained {status : ServerStatus} (h : PlanInv s) (hpc : s.pc = .drain status)
    (hstart : s.info.threadStart = 0#32) (hok : AllBegun s) :
    PlanInv { drained s status with pc := .taskProc } := by
  have hnil : s.own.threads = [] := h.linked.threads_eq_nil hstart hok
  have hexit : s.info.exit = false := by
    rw [Bool.eq_false_iff]
    intro he
    rcases h.leaving he with ⟨hl, -⟩ | ⟨hl, -⟩ | hl <;> rw [hpc] at hl <;> cases hl
  unfold drained
  split
  case h_1 =>
    have hlinked : Linked { s with
        info := { s.info with status2 := false, status := .idle }, pc := .taskProc } :=
      h.linked.congr rfl rfl rfl
    exact ⟨hlinked, fun _ => hnil, fun he => absurd (hexit.symm.trans he) (by decide), fun _ => refuted rfl,
      fun _ => served_of_nil hlinked hnil rfl (.inr (by rintro ⟨⟩))⟩
  case h_2 =>
    have hlinked : Linked { s with
        info := { s.info with status2 := false, status := .wait }, pc := .taskProc } :=
      h.linked.congr rfl rfl rfl
    exact ⟨hlinked, fun _ => hnil, fun he => absurd (hexit.symm.trans he) (by decide), fun _ => refuted rfl,
      fun _ => served_of_nil hlinked hnil rfl (.inr (by rintro ⟨⟩))⟩
  case h_3 =>
    have hlinked : Linked { s with info := {}, pc := .taskProc } := h.linked.congr rfl rfl hstart.symm
    exact ⟨hlinked, fun _ => hnil, by rintro ⟨⟩, fun _ => refuted rfl,
      fun _ => served_of_nil hlinked hnil rfl (.inr (by rintro ⟨⟩))⟩

theorem planInv_serverRelease3 (h : PlanInv s) (hexit : s.info.exit = true) :
    PlanInv (serverRelease3 server s) := by
  have hnil : s.own.threads = [] := h.gone (.inr (.inr (.inl hexit)))
  have hlinked : Linked (serverRelease3 server s) := by
    refine ⟨h.linked.length, fun t ht => ?_, h.linked.differ, h.linked.owner⟩
    rw [show (serverRelease3 server s).own.threads = [] from hnil] at ht
    cases ht
  exact ⟨hlinked, fun _ => hnil, by rintro ⟨⟩, refuted rfl,
    fun _ => served_of_nil hlinked hnil rfl (.inr (by rintro ⟨⟩))⟩

theorem planInv_mainStep {config : ManagerConfig} (h : PlanInv s) (hok : MainKept input s)
    (hs : mainStep server config input s = some s') : PlanInv s' := by
  rw [mainStep] at hs
  rw [MainKept] at hok
  split at hs
  case h_1 => cases hs
  case h_2 hpc =>
    cases hs
    have hnil : s.own.threads = [] := h.gone (.inr (.inl hpc))
    refine h.quiet ⟨rfl, rfl, fun _ => .inr (.inl hpc), fun _ => .inr (.inr rfl), refuted rfl,
      fun hserving => ⟨⟨fun status => by rw [hpc]; rintro ⟨⟩, hserving.status, hserving.draining,
        hserving.exit⟩, rfl, rfl, refuted rfl⟩⟩
  case h_3 hpc =>
    rw [hpc] at hok
    split_ifs at hs with hexit
    · cases hs
      exact planInv_serverRelease3 h hexit
    · obtain ⟨s₁, hs₁, rfl⟩ := Option.map_eq_some_iff.mp hs
      have hnoted : PlanInv s.noteStatus := by
        refine h.quiet ⟨rfl, rfl, id, h.leaving, h.prompt, fun hserving =>
          ⟨⟨hserving.1, hserving.2, hserving.3, hserving.4⟩, rfl, rfl, ?_⟩⟩
        rintro (hp | hp) <;> exact absurd (hpc.symm.trans hp) (by decide)
      exact planInv_stateMachine hnoted hpc (Bool.eq_false_iff.mpr hexit) rfl hok.1 hok.2 hs₁
  case h_4 status hpc =>
    rw [hpc] at hok
    split_ifs at hs with hstart
    cases hs
    exact planInv_drained h hpc hstart hok
  case h_5 hpc =>
    cases hs
    exact planInv_taskProc h hpc
  case h_6 hpc =>
    rw [hpc] at hok
    obtain ⟨s₁, hs₁, rfl⟩ := Option.map_eq_some_iff.mp hs
    exact planInv_serverMessageProc h hpc hok hs₁

theorem planInv_step {config : ManagerConfig} {a : ServerAction} (h : PlanInv s)
    (hok : PlanKept s a) (hs : server.step config s a = some s') : PlanInv s' := by
  rcases a with input | input | msg | _
  · exact planInv_mainStep h hok hs
  · exact planInv_recorderFunc h hok hs
  · cases hs
    rw [serverMessage]
    split_ifs
    · exact h.congr rfl rfl rfl
    · exact h
  · rw [ServerCode.step] at hs
    split_ifs at hs with hpc
    cases hs
    refine h.quiet ⟨rfl, rfl, fun _ => .inl hpc, fun he => ?_, refuted rfl,
      fun hserving => ⟨⟨fun status => by rw [hpc]; rintro ⟨⟩, hserving.status, hserving.draining,
        hserving.exit⟩, rfl, rfl, refuted rfl⟩⟩
    rcases h.leaving he with ⟨hl, -⟩ | ⟨hl, -⟩ | hl <;> rw [hpc] at hl <;> cases hl

theorem planInv_start {enable : BitVec 8} : PlanInv { own := { recorderEnable := enable } } where
  linked := linked_start
  gone _ := rfl
  leaving := by rintro ⟨⟩
  prompt := refuted rfl
  served _ := served_of_nil linked_start rfl rfl (.inr (by rintro ⟨⟩))

/-- In every run that keeps the planned recording, from any stored mode, the mode, the mark of the
server and the table of jobs agree whenever the server is at rest. -/
theorem planAgrees_of_kept (config : ManagerConfig) (enable : BitVec 8)
    (h : Reach (server.step config) PlanKept { own := { recorderEnable := enable } } s) :
    PlanAgrees s :=
  (h.inv planInv_start fun _ _ _ hinv hok hs => planInv_step hinv hok hs).agrees

/-- A pass of the main loop. -/
def mainPass (input : ServerInput := {}) : List ServerAction :=
  [.main input, .main input, .main input]

/-- The card is ready. -/
def cardReady : Message where
  message := ackOf msgDeviceGetPara
  sender := ServerType.device.toInt
  argIn := { cat := deviceParamSdInfo, dog := 1#32 }

/-- The server starts, is told that the card and the clock are ready, and reaches `STATUS_RUN`. -/
def startUp : List ServerAction :=
  [.start, .main {}, .arrive cardReady, .arrive { message := msgAliyunTimeSynchronized }] ++
    mainPass ++ mainPass ++ mainPass ++ mainPass ++ mainPass

/-- The mode to set. -/
def setMode (mode : BitVec 8) : Message where
  message := msgRecorderPropertySet
  sender := ServerType.aliyun.toInt
  argIn := { cat := recorderPropertySwitch }
  arg := some [mode, 0#8, 0#8, 0#8]

/-- After the start, the mode is set to `PLAN`. -/
theorem planAgrees_setPlan :
    ∃ s, exec (server.step managerConfig) (fun s a => decide (PlanKept s a))
        { own := { recorderEnable := aliyunRecorderModeAll } }
        (startUp ++ mainPass ++ [.thread {}, .arrive (setMode 2)] ++ mainPass ++ mainPass ++
          [.main {}, .main {}]) =
          some s ∧
      AtRest s ∧ PlanAgrees s := by
  have hrun : (exec (server.step managerConfig) (fun s a => decide (PlanKept s a))
      { own := { recorderEnable := aliyunRecorderModeAll } }
      (startUp ++ mainPass ++ [.thread {}, .arrive (setMode 2)] ++ mainPass ++ mainPass ++
        [.main {}, .main {}])).any (fun s => decide (AtRest s)) = true := by
    decide
  rw [Option.any_eq_true] at hrun
  obtain ⟨s, hs, hrest⟩ := hrun
  exact ⟨s, hs, of_decide_eq_true hrest, planAgrees_of_kept managerConfig aliyunRecorderModeAll
    (.of_exec (fun _ _ => of_decide_eq_true) hs)⟩

/-- The planned recording stays, and stays marked, when the mode `ALARM` is set; and a planned
recording whose thread cannot be created is marked for ever. -/
theorem plan_disagrees :
    (∃ s, Reach (server.step managerConfig) AllRuns { own := {} } s ∧ ¬ PlanAgrees s ∧
      (AtRest s ∧ s.own.recorderEnable = aliyunRecorderModeAlarm ∧ PlanPresent s ∧
        s.info.status2 = true)) ∧
    ∃ s, Reach (server.step managerConfig) AllRuns { own := {} } s ∧ ¬ PlanAgrees s ∧
      (AtRest s ∧ s.own.recorderEnable = aliyunRecorderModeAll ∧ ¬ PlanPresent s ∧
        s.info.status2 = true) := by
  have disagree : ∀ s : State, AtRest s →
      ¬ (PlanPresent s ↔ selectsPlan s.own.recorderEnable = true) → ¬ PlanAgrees s :=
    fun s hrest hnot hagrees => hnot (hagrees hrest).1
  constructor
  · have hrun : (exec (server.step managerConfig) (fun _ _ => true) { own := {} }
        (startUp ++ mainPass ++ [.arrive (setMode 1)] ++ mainPass ++ mainPass ++ [.main {}, .main {}])).any
        (fun s => decide (AtRest s ∧ s.own.recorderEnable = aliyunRecorderModeAlarm ∧
          PlanPresent s ∧ s.info.status2 = true)) = true := by
      decide
    obtain ⟨s, hs, hstate⟩ := Reach.exists_of_exec (fun _ _ _ => trivial) hrun
    refine ⟨s, hs, disagree s hstate.1 fun hiff => ?_, hstate⟩
    have hselects := hiff.mp hstate.2.2.1
    rw [hstate.2.1] at hselects
    cases hselects
  · have hrun : (exec (server.step managerConfig) (fun _ _ => true) { own := {} }
        (startUp ++ mainPass { createOk := false } ++ [.main {}, .main {}])).any
        (fun s => decide (AtRest s ∧ s.own.recorderEnable = aliyunRecorderModeAll ∧
          ¬ PlanPresent s ∧ s.info.status2 = true)) = true := by
      decide
    obtain ⟨s, hs, hstate⟩ := Reach.exists_of_exec (fun _ _ _ => trivial) hrun
    refine ⟨s, hs, disagree s hstate.1 fun hiff => ?_, hstate⟩
    exact hstate.2.2.1 (hiff.mpr (by rw [hstate.2.1]; rfl))

end GokeWebcam.Server.Recorder
