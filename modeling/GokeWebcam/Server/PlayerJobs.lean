import GokeWebcam.Server.PlayerStatus

/-!
# The player's job slots and their threads

The part of the player server that its main thread and the playback threads share: the slots
`jobs[]`, each with at most one thread. `jobStep` interleaves the handling of the messages about
jobs with the steps of the threads, each section under the lock being one step; what else the main
thread does shows only in `info.status`, which it may set at any time.

* `JobInv`: a slot is in use exactly if it has a thread, and then it has one.
* `Watch`: a slot with an accepted request that no thread has taken and no stop has withdrawn.
* `RequestKept`: the request of such a slot is recorded, its thread will still look at it, and no
  thread clears the slot; `AddedInTime`: the condition on a request.
* `requestKept_iff`: a run loses no accepted request exactly if no request is accepted for a slot
  whose thread looks at it no more.
* `request_lost`: a request that follows a stop is accepted, and the slot is cleared.
-/

namespace GokeWebcam.Server.Player

open Lib Common Global

/-! ### The shared part -/

/-- A step of the main thread that handles a message about jobs or changes `info.status`, a step of
a playback thread, or the second half of a stop, whose search for the job was done earlier, without
the lock. -/
inductive JobAction
  | message (input : ServerInput) (msg : Message)
  | stopFound (id : Fin aliyunVisualMaxChannel)
  | status (status : ServerStatus)
  | thread (input : ServerInput)

/-- The messages about jobs.
Source: `server/player/player.c` `server_message_proc` -/
def jobMessage (input : ServerInput) (msg : Message) (s : State) : Option State :=
  if msg.message = msgPlayerRequest then some (playerAddJob input msg s)
  else if msg.message = ackOf msgPlayerRequestSync then requestSyncAck msg s
  else handleJob msg s

/-- One step. -/
def jobStep (s : State) : JobAction → Option State
  | .message input msg => jobMessage input msg s
  | .stopFound id => some (setJob s id { jobAt s id with exit := 1#32 })
  | .status status => some (s.setStatus status)
  | .thread input => playerFunc input s

/-! ### Slots and threads -/

variable {s s' : State} {input : ServerInput} {msg : Message} {i j k : ℕ} {job : Job}
  {t t' : PlayerThread}

theorem jobAt_setJob (hi : i < s.own.jobs.length) :
    jobAt (setJob s i job) j = if i = j then job else jobAt s j := by
  unfold jobAt setJob
  simp only [List.getD_eq_getElem?_getD, List.getElem?_set]
  split_ifs <;> rfl

@[simp] theorem jobAt_setThread : jobAt (setThread s k t) j = jobAt s j := rfl

@[simp] theorem jobAt_setStatus {status : ServerStatus} :
    jobAt (s.setStatus status) j = jobAt s j := rfl

@[simp] theorem jobAt_send {receiver : CInt} {m : Message} :
    jobAt (s.send receiver m) j = jobAt s j := rfl

@[simp] theorem jobAt_threadBegin {bit : ℕ} : jobAt (s.threadBegin bit) j = jobAt s j := rfl

@[simp] theorem jobAt_threadEnd {bit : ℕ} : jobAt (s.threadEnd bit) j = jobAt s j := rfl

@[simp] theorem threads_setJob : (setJob s i job).own.threads = s.own.threads := rfl

@[simp] theorem length_jobs_setJob : (setJob s i job).own.jobs.length = s.own.jobs.length :=
  List.length_set

theorem jobAt_of_length_le (h : s.own.jobs.length ≤ j) : jobAt s j = {} := by
  unfold jobAt
  rw [List.getD_eq_getElem?_getD, List.getElem?_eq_none h]
  rfl

/-- A slot that is found is one of the array. -/
theorem findJobChannel_spec {channel : CInt} (h : findJobChannel s channel = some i) :
    i < s.own.jobs.length ∧ (jobAt s i).status ≠ .none := by
  obtain ⟨hi, hjob, -⟩ := List.findIdx?_eq_some_iff_getElem.mp h
  have hat : jobAt s i = s.own.jobs[i] := by
    unfold jobAt
    rw [List.getD_eq_getElem?_getD, List.getElem?_eq_getElem hi]
    rfl
  rw [hat]
  exact ⟨hi, (of_decide_eq_true hjob).1⟩

theorem freeJob_spec (h : (s.own.jobs.findIdx? fun job => job.status = .none) = some i) :
    i < s.own.jobs.length ∧ (jobAt s i).status = .none := by
  obtain ⟨hi, hjob, -⟩ := List.findIdx?_eq_some_iff_getElem.mp h
  have hat : jobAt s i = s.own.jobs[i] := by
    unfold jobAt
    rw [List.getD_eq_getElem?_getD, List.getElem?_eq_getElem hi]
    rfl
  rw [hat]
  exact ⟨hi, of_decide_eq_true hjob⟩

/-- The `k`-th of the threads that exist. -/
def threadAt (s : State) (k : ℕ) : Option PlayerThread := s.own.threads[k]?

/-- What holds of the slots and their threads in every state. -/
structure JobInv (s : State) : Prop where
  length : s.own.jobs.length = aliyunVisualMaxChannel
  /-- A slot in use has a thread. -/
  serves : ∀ i, (jobAt s i).status ≠ .none → ∃ k t, threadAt s k = some t ∧ t.job = i
  /-- The slot of a thread is in use. -/
  inUse : ∀ k t, threadAt s k = some t → (jobAt s t.job).status ≠ .none
  /-- A thread reads its number out of its slot. -/
  begins : ∀ k t, threadAt s k = some t → t.pc = .begin → (jobAt s t.job).init.tid.toNat = t.job
  tid : ∀ k t, threadAt s k = some t → t.pc ≠ .begin → t.tid = t.job
  one : ∀ k k' t t', threadAt s k = some t → threadAt s k' = some t' → t.job = t'.job → k = k'
  exit : s.info.exit = false
  threadExit : s.info.threadExit = 0#32

/-- The slot of a thread is one of the array. -/
theorem JobInv.lt (h : JobInv s) (ht : threadAt s k = some t) :
    t.job < s.own.jobs.length := by
  by_contra hlt
  have hused := h.inUse k t ht
  rw [jobAt_of_length_le (Nat.not_lt.mp hlt)] at hused
  exact hused rfl

theorem jobInv_init : JobInv ({ own := {} } : State) := by
  have hfree : ∀ i, jobAt ({ own := {} } : State) i = {} := by
    intro i
    unfold jobAt
    dsimp only
    rw [List.getD_eq_getElem?_getD, List.getElem?_replicate]
    split_ifs <;> rfl
  refine ⟨rfl, ?_, ?_, ?_, ?_, ?_, rfl, rfl⟩
  · intro i hi
    rw [hfree] at hi
    exact absurd rfl hi
  all_goals simp [threadAt]

/-! ### Every step keeps the slots and threads in order -/

theorem JobInv.congr (h : JobInv s) (hown : s'.own = s.own) (hexit : s'.info.exit = s.info.exit)
    (hthreadExit : s'.info.threadExit = s.info.threadExit) : JobInv s' := by
  have hjob : ∀ i, jobAt s' i = jobAt s i := by
    intro i
    unfold jobAt
    rw [hown]
  have hthread : ∀ k, threadAt s' k = threadAt s k := by
    intro k
    unfold threadAt
    rw [hown]
  refine ⟨by rw [hown]; exact h.length, ?_, ?_, ?_, ?_, ?_, hexit.trans h.exit,
    hthreadExit.trans h.threadExit⟩
  · simpa only [hjob, hthread] using h.serves
  · simpa only [hjob, hthread] using h.inUse
  · simpa only [hjob, hthread] using h.begins
  · simpa only [hthread] using h.tid
  · simpa only [hthread] using h.one

/-- A slot stays in use, or not, and its thread will read its own number. -/
theorem JobInv.setJob (h : JobInv s) (hi : i < s.own.jobs.length)
    (hstatus : job.status = .none ↔ (jobAt s i).status = .none)
    (htid : job.init.tid.toNat = i ∨ job.init.tid = (jobAt s i).init.tid) :
    JobInv (setJob s i job) where
  length := length_jobs_setJob.trans h.length
  serves j hj := by
    rw [jobAt_setJob hi] at hj
    split_ifs at hj with hij
    · rw [← hij]
      exact h.serves i (fun hnone => hj (hstatus.mpr hnone))
    · exact h.serves j hj
  inUse k t ht := by
    have hused := h.inUse k t ht
    rw [jobAt_setJob hi]
    split_ifs with hij
    · rw [← hij] at hused
      exact fun hnone => hused (hstatus.mp hnone)
    · exact hused
  begins k t ht hpc := by
    have hbegins := h.begins k t ht hpc
    rw [jobAt_setJob hi]
    split_ifs with hij
    · rw [← hij] at hbegins ⊢
      obtain hnew | hsame := htid
      · exact hnew
      · rw [hsame]
        exact hbegins
    · exact hbegins
  tid := h.tid
  one := h.one
  exit := h.exit
  threadExit := h.threadExit

theorem threadAt_setThread (ht : threadAt s k = some t) :
    threadAt (setThread s k t') j = if k = j then some t' else threadAt s j := by
  unfold threadAt setThread at *
  dsimp only
  rw [List.getElem?_set, if_pos (List.getElem?_eq_some_iff.mp ht).1]

/-- A thread that has begun stays the thread of its slot. -/
theorem JobInv.setThread (h : JobInv s) (ht : threadAt s k = some t) (hjob : t'.job = t.job)
    (hpc : t'.pc ≠ .begin) (htid : t'.tid = t.job) : JobInv (setThread s k t') where
  length := h.length
  serves j hj := by
    obtain ⟨k', t₁, ht₁, hslot⟩ := h.serves j hj
    by_cases hk : k = k'
    · refine ⟨k, t', by rw [threadAt_setThread ht, if_pos rfl], ?_⟩
      rw [← hk, ht] at ht₁
      cases ht₁
      rw [hjob, hslot]
    · exact ⟨k', t₁, by rw [threadAt_setThread ht, if_neg hk, ht₁], hslot⟩
  inUse j t₁ ht₁ := by
    rw [threadAt_setThread ht] at ht₁
    split_ifs at ht₁
    · cases ht₁
      rw [jobAt_setThread, hjob]
      exact h.inUse k t ht
    · exact h.inUse j t₁ ht₁
  begins j t₁ ht₁ hbegin := by
    rw [threadAt_setThread ht] at ht₁
    split_ifs at ht₁
    · cases ht₁
      exact absurd hbegin hpc
    · exact h.begins j t₁ ht₁ hbegin
  tid j t₁ ht₁ hbegun := by
    rw [threadAt_setThread ht] at ht₁
    split_ifs at ht₁
    · cases ht₁
      rw [htid, hjob]
    · exact h.tid j t₁ ht₁ hbegun
  one j j' t₁ t₂ ht₁ ht₂ hsame := by
    rw [threadAt_setThread ht] at ht₁ ht₂
    split_ifs at ht₁ ht₂ with hj hj'
    · exact hj.symm.trans hj'
    · cases ht₁
      rw [hjob] at hsame
      exact hj.symm.trans (h.one k j' t t₂ ht ht₂ hsame)
    · cases ht₂
      rw [hjob] at hsame
      rename_i hkj'
      exact (h.one j k t₁ t ht₁ ht hsame).trans hkj'
    · exact h.one j j' t₁ t₂ ht₁ ht₂ hsame
  exit := h.exit
  threadExit := h.threadExit

/-- A new thread. -/
def addThread (t : PlayerThread) (s : State) : State :=
  { s with own := { s.own with threads := s.own.threads ++ [t] } }

/-- The thread `k` is gone. -/
def dropThread (k : ℕ) (s : State) : State :=
  { s with own := { s.own with threads := s.own.threads.eraseIdx k } }

@[simp] theorem jobAt_addThread : jobAt (addThread t s) j = jobAt s j := rfl

@[simp] theorem jobAt_dropThread : jobAt (dropThread k s) j = jobAt s j := rfl

theorem threadAt_addThread (ht : threadAt (addThread t s) k = some t') :
    threadAt s k = some t' ∨ (k = s.own.threads.length ∧ t' = t) := by
  unfold threadAt addThread at *
  dsimp only at ht
  rw [List.getElem?_append] at ht
  split_ifs at ht with hk
  · exact .inl ht
  · right
    rw [List.getElem?_singleton] at ht
    split_ifs at ht with h0
    cases ht
    exact ⟨by omega, rfl⟩

theorem threadAt_addThread_old (ht : threadAt s k = some t') :
    threadAt (addThread t s) k = some t' := by
  unfold threadAt addThread at *
  dsimp only
  rw [List.getElem?_append_left (List.getElem?_eq_some_iff.mp ht).1, ht]

theorem threadAt_addThread_new : threadAt (addThread t s) s.own.threads.length = some t := by
  unfold threadAt addThread
  dsimp only
  rw [List.getElem?_append_right (Nat.le_refl _)]
  simp

/-- Where the thread `j` was before the thread `k` went. -/
def shift (k j : ℕ) : ℕ := if j < k then j else j + 1

theorem threadAt_dropThread : threadAt (dropThread k s) j = threadAt s (shift k j) := by
  unfold threadAt dropThread shift
  dsimp only
  rw [List.getElem?_eraseIdx]
  split_ifs <;> rfl

theorem shift_ne : shift k j ≠ k := by
  unfold shift
  split_ifs <;> omega

theorem shift_inj (h : shift k i = shift k j) : i = j := by
  unfold shift at h
  split_ifs at h <;> omega

theorem exists_shift (h : j ≠ k) : ∃ i, shift k i = j := by
  by_cases hlt : j < k
  · exact ⟨j, if_pos hlt⟩
  · refine ⟨j - 1, ?_⟩
    unfold shift
    split_ifs <;> omega

/-- A free slot is taken, and gets a thread. -/
theorem JobInv.create (h : JobInv s) (hi : i < s.own.jobs.length) (hfree : (jobAt s i).status = .none)
    (hused : job.status ≠ .none) (htid : job.init.tid.toNat = i) :
    JobInv (addThread { job := i } (Player.setJob s i job)) where
  length := length_jobs_setJob.trans h.length
  serves j hj := by
    rw [jobAt_addThread, jobAt_setJob hi] at hj
    split_ifs at hj with hij
    · exact ⟨_, _, threadAt_addThread_new, hij⟩
    · obtain ⟨k, t, ht, hslot⟩ := h.serves j hj
      exact ⟨k, t, threadAt_addThread_old ht, hslot⟩
  inUse k t ht := by
    rw [jobAt_addThread, jobAt_setJob hi]
    split_ifs with hij
    · exact hused
    · obtain hold | ⟨-, rfl⟩ := threadAt_addThread ht
      · exact h.inUse k t hold
      · exact absurd rfl hij
  begins k t ht hpc := by
    rw [jobAt_addThread, jobAt_setJob hi]
    split_ifs with hij
    · rw [htid, hij]
    · obtain hold | ⟨-, rfl⟩ := threadAt_addThread ht
      · exact h.begins k t hold hpc
      · exact absurd rfl hij
  tid k t ht hpc := by
    obtain hold | ⟨-, rfl⟩ := threadAt_addThread ht
    · exact h.tid k t hold hpc
    · exact absurd rfl hpc
  one k k' t t' ht ht' hsame := by
    have hnot : ∀ k t, threadAt s k = some t → t.job ≠ i := by
      intro k t ht heq
      exact h.inUse k t ht (heq ▸ hfree)
    obtain hold | ⟨hk, rfl⟩ := threadAt_addThread ht
    · obtain hold' | ⟨-, rfl⟩ := threadAt_addThread ht'
      · exact h.one k k' t t' hold hold' hsame
      · exact absurd hsame (hnot k t hold)
    · obtain hold' | ⟨hk', -⟩ := threadAt_addThread ht'
      · exact absurd hsame.symm (hnot k' t' hold')
      · exact hk.trans hk'.symm
  exit := h.exit
  threadExit := h.threadExit

/-- A slot is cleared with the end of its thread. -/
theorem JobInv.release (h : JobInv s) (ht : threadAt s k = some t) :
    JobInv (dropThread k (Player.setJob s t.job {})) where
  length := length_jobs_setJob.trans h.length
  serves j hj := by
    rw [jobAt_dropThread, jobAt_setJob (h.lt ht)] at hj
    split_ifs at hj with hij
    · exact absurd rfl hj
    · obtain ⟨k', t', ht', hslot⟩ := h.serves j hj
      have hne : k' ≠ k := by
        rintro rfl
        rw [ht] at ht'
        cases ht'
        exact hij hslot
      obtain ⟨m, rfl⟩ := exists_shift hne
      exact ⟨m, t', threadAt_dropThread.trans ht', hslot⟩
  inUse j t' ht' := by
    rw [threadAt_dropThread] at ht'
    rw [jobAt_dropThread, jobAt_setJob (h.lt ht)]
    split_ifs with hij
    · exact absurd (h.one _ _ t t' ht ht' hij) shift_ne.symm
    · exact h.inUse _ t' ht'
  begins j t' ht' hpc := by
    rw [threadAt_dropThread] at ht'
    rw [jobAt_dropThread, jobAt_setJob (h.lt ht)]
    split_ifs with hij
    · exact absurd (h.one _ _ t t' ht ht' hij) shift_ne.symm
    · exact h.begins _ t' ht' hpc
  tid j t' ht' hpc := by
    rw [threadAt_dropThread] at ht'
    exact h.tid _ t' ht' hpc
  one j j' t₁ t₂ ht₁ ht₂ hsame := by
    rw [threadAt_dropThread] at ht₁ ht₂
    exact shift_inj (h.one _ _ t₁ t₂ ht₁ ht₂ hsame)
  exit := h.exit
  threadExit := h.threadExit

/-! ### What a message does -/

/-- The slot of a job that an accepted request is recorded in, with its restart flag set.
Source: `server/player/player.c` `player_add_job`, `if (same)` -/
def acceptedBy (input : ServerInput) (msg : Message) (s : State) : Option ℕ :=
  if msg.message = msgPlayerRequest ∧ s.info.status = .run ∧ input.found then
    (msg.arg.map playerInit).bind fun init => findJobChannel s init.channel
  else none

/-- The slot a stop is for. -/
def stoppedBy (msg : Message) (s : State) : Option ℕ :=
  if msg.message = msgPlayerStop then findJobChannel s msg.argIn.wolf else none

/-- A slot after a command: it is in use if it was, a request that is recorded stays so, and only a
stop sets the exit flag. -/
structure JobEdit (stop : Prop) (job job' : Job) : Prop where
  status : job'.status = .none ↔ job.status = .none
  tid : job'.init.tid = job.init.tid
  channel : job'.init.channel = job.init.channel
  /-- What to play changes only with the restart flag set. -/
  init : job'.restart = false → job'.init = job.init ∧ job.restart = false
  restart : job.restart = true → job'.restart = true
  exit : ¬ stop → job.exit = 0#32 → job'.exit = 0#32

/-- A request is recorded in the slot of its channel or starts a job in a free one, or is refused. -/
theorem playerAddJob_cases (input : ServerInput) (hmsg : msg.message = msgPlayerRequest) (s : State) :
    (∃ i init, acceptedBy input msg s = some i ∧ findJobChannel s init.channel = some i ∧
        playerAddJob input msg s = updateJob s i init) ∨
      (acceptedBy input msg s = none ∧ (playerAddJob input msg s = s ∨
        ∃ i init, i < s.own.jobs.length ∧ (jobAt s i).status = .none ∧
          findJobChannel s init.channel = none ∧
          playerAddJob input msg s = createJob input s i init)) := by
  unfold playerAddJob acceptedBy
  by_cases hrun : s.info.status = .run
  · rw [if_neg (not_not.mpr hrun)]
    rcases harg : msg.arg.map playerInit with _ | init
    · exact .inr ⟨by simp, .inl rfl⟩
    · by_cases hfound : input.found = true
      · simp only [hmsg, hrun, hfound, Bool.not_true, Bool.false_eq_true, if_false, and_self, if_true,
          Option.bind_some]
        rcases hfind : findJobChannel s init.channel with _ | i
        · refine .inr ⟨rfl, ?_⟩
          dsimp only
          split
          case h_1 i hfree =>
            obtain ⟨hi, hstatus⟩ := freeJob_spec hfree
            exact .inr ⟨i, init, hi, hstatus, hfind, rfl⟩
          case h_2 => exact .inl rfl
        · exact .inl ⟨i, init, rfl, hfind, rfl⟩
      · right
        simp [hfound]
  · rw [if_pos hrun]
    exact .inr ⟨by simp [hrun], .inl rfl⟩

theorem acceptedBy_spec (h : acceptedBy input msg s = some i) :
    i < s.own.jobs.length ∧ (jobAt s i).status ≠ .none := by
  unfold acceptedBy at h
  split_ifs at h
  rw [Option.bind_eq_some_iff] at h
  obtain ⟨init, -, hfind⟩ := h
  exact findJobChannel_spec hfind

/-- A command changes the slot of its channel, if there is one. -/
theorem onJob_cases {f : Job → Job} (msg : Message) (s : State) (stop : Prop)
    (hf : ∀ job, job.status ≠ .none → JobEdit stop job (f job)) (hmsg : stop → msg.message = msgPlayerStop) :
    onJob msg s f = s ∨ ∃ i, i < s.own.jobs.length ∧
      JobEdit (stoppedBy msg s = some i) (jobAt s i) (f (jobAt s i)) ∧
      onJob msg s f = setJob s i (f (jobAt s i)) := by
  unfold onJob
  rcases hfind : findJobChannel s msg.argIn.wolf with _ | i
  · exact .inl rfl
  · right
    obtain ⟨hi, hused⟩ := findJobChannel_spec hfind
    have hedit := hf (jobAt s i) hused
    refine ⟨i, hi, ⟨hedit.status, hedit.tid, hedit.channel, hedit.init, hedit.restart, ?_⟩, rfl⟩
    intro hnot
    apply hedit.exit
    intro hstop
    apply hnot
    rw [stoppedBy, if_pos (hmsg hstop), hfind]

/-- The commands change one slot. -/
theorem handleJob_cases (h : handleJob msg s = some s') :
    s' = s ∨ ∃ i job, i < s.own.jobs.length ∧
      JobEdit (stoppedBy msg s = some i) (jobAt s i) job ∧ s' = setJob s i job := by
  have hcases : ∀ {f : Job → Job} (stop : Prop),
      (∀ job, job.status ≠ .none → JobEdit stop job (f job)) → (stop → msg.message = msgPlayerStop) →
      onJob msg s f = s ∨ ∃ i job, i < s.own.jobs.length ∧
        JobEdit (stoppedBy msg s = some i) (jobAt s i) job ∧ onJob msg s f = setJob s i job := by
    intro f stop hf hmsg
    obtain hsame | ⟨i, hi, hedit, heq⟩ := onJob_cases msg s stop hf hmsg
    · exact .inl hsame
    · exact .inr ⟨i, _, hi, hedit, heq⟩
  unfold handleJob at h
  split_ifs at h with h1 h2 h3 h4 h5 h6 h7 h8 <;> cases h
  · apply hcases False _ False.elim
    intro job hused
    exact ⟨Iff.rfl, rfl, rfl, fun h => ⟨rfl, h⟩, id, fun _ => id⟩
  · apply hcases True _ (fun _ => h2)
    intro job hused
    exact ⟨Iff.rfl, rfl, rfl, fun h => ⟨rfl, h⟩, id, fun hnot => absurd trivial hnot⟩
  · apply hcases False _ False.elim
    intro job hused
    exact ⟨Iff.rfl, rfl, rfl, fun h => ⟨rfl, h⟩, id, fun _ => id⟩
  · apply hcases False _ False.elim
    intro job hused
    exact ⟨Iff.rfl, rfl, rfl, fun h => ⟨rfl, h⟩, id, fun _ => id⟩
  · apply hcases False _ False.elim
    intro job hused
    simp only [hused, if_false]
    exact ⟨Iff.rfl, rfl, rfl, fun h => ⟨rfl, h⟩, id, fun _ => id⟩
  · apply hcases False _ False.elim
    intro job hused
    simp only [hused, if_false]
    exact ⟨Iff.rfl, rfl, rfl, fun h => ⟨rfl, h⟩, id, fun _ => id⟩
  · apply hcases False _ False.elim
    intro job hused
    exact ⟨by simp [hused], rfl, rfl, fun h => by simp at h, fun _ => rfl, fun _ _ => rfl⟩
  · apply hcases False _ False.elim
    intro job hused
    exact ⟨by simp [hused], rfl, rfl, fun h => by simp at h, fun _ => rfl, fun _ _ => rfl⟩

/-- The answer to a synchronisation request changes one slot. -/
theorem requestSyncAck_cases (hlength : s.own.jobs.length = aliyunVisualMaxChannel) (stop : ℕ → Prop)
    (h : requestSyncAck msg s = some s') :
    s' = s ∨ ∃ i job, i < s.own.jobs.length ∧ JobEdit (stop i) (jobAt s i) job ∧
      s' = setJob s i job := by
  have hnote : ∀ {bit}, noteSync msg s bit = some s' →
      s' = s ∨ ∃ i job, i < s.own.jobs.length ∧ JobEdit (stop i) (jobAt s i) job ∧
        s' = setJob s i job := by
    intro bit h
    unfold noteSync at h
    dsimp only at h
    split_ifs at h with hresult hid
    · cases h
      exact .inl rfl
    · cases h
      refine .inr ⟨msg.argIn.dog.toNat, { jobAt s msg.argIn.dog.toNat with
        liveSync := miscSetBit (jobAt s msg.argIn.dog.toNat).liveSync bit }, ?_, ?_, rfl⟩
      · rw [hlength]
        exact hid
      · exact ⟨Iff.rfl, rfl, rfl, fun h => ⟨rfl, h⟩, id, fun _ => id⟩
  unfold requestSyncAck at h
  split_ifs at h
  · exact hnote h
  · exact hnote h
  · cases h
    exact .inl rfl

/-- A message is an accepted request, starts a job, or changes one slot at most. -/
theorem jobMessage_cases (hinv : JobInv s) (h : jobMessage input msg s = some s') :
    (∃ i init, acceptedBy input msg s = some i ∧ findJobChannel s init.channel = some i ∧
        s' = updateJob s i init) ∨
      (acceptedBy input msg s = none ∧
        (s' = s ∨
          (∃ i init, i < s.own.jobs.length ∧ (jobAt s i).status = .none ∧
            findJobChannel s init.channel = none ∧ stoppedBy msg s = none ∧
            s' = createJob input s i init) ∨
          ∃ i job, i < s.own.jobs.length ∧ JobEdit (stoppedBy msg s = some i) (jobAt s i) job ∧
            s' = setJob s i job)) := by
  unfold jobMessage at h
  split_ifs at h with hrequest hsync
  · cases h
    have hstop : stoppedBy msg s = none := by
      rw [stoppedBy, hrequest, if_neg (by decide)]
    obtain ⟨i, init, hacc, hfind, heq⟩ | ⟨hacc, hsame | ⟨i, init, hi, hfree, hnew, heq⟩⟩ :=
      playerAddJob_cases input hrequest s
    · exact .inl ⟨i, init, hacc, hfind, heq⟩
    · exact .inr ⟨hacc, .inl hsame⟩
    · exact .inr ⟨hacc, .inr (.inl ⟨i, init, hi, hfree, hnew, hstop, heq⟩)⟩
  · have hacc : acceptedBy input msg s = none := by simp [acceptedBy, hrequest]
    obtain hsame | hedit := requestSyncAck_cases hinv.length (fun i => stoppedBy msg s = some i) h
    · exact .inr ⟨hacc, .inl hsame⟩
    · exact .inr ⟨hacc, .inr (.inr hedit)⟩
  · have hacc : acceptedBy input msg s = none := by simp [acceptedBy, hrequest]
    obtain hsame | hedit := handleJob_cases h
    · exact .inr ⟨hacc, .inl hsame⟩
    · exact .inr ⟨hacc, .inr (.inr hedit)⟩

/-! ### What a thread does -/

/-- A step of a thread other than its last one: how it and its slot change. -/
structure ThreadMove (job job' : Job) (t t' : PlayerThread) : Prop where
  slot : t'.job = t.job
  begun : t'.pc ≠ .begin
  tid : t'.tid = t.job
  status : job'.status = job.status
  init : job'.init = job.init
  run : job'.run = job.run
  pause : job'.pause = job.pause
  speed : job'.speed = job.speed
  begin : t.pc = .begin → t'.pc = .head
  body : t.pc = .body → t'.pc = .head
  /-- It copies what to play before the loop and with the restart flag. -/
  copy : t'.init = job.init ∨ (t'.init = t.init ∧ t.pc ≠ .begin ∧ job'.restart = job.restart)
  /-- It reads the settings at the head of its loop, where it leaves no request behind. -/
  reads : t'.pc = .body → t'.play = job.run ∧ t'.pause = job.pause ∧ t'.speed = job.speed ∧
    job'.restart = false
  /-- It notes the end of a playback. -/
  ends : if t.pc = .body ∧ isDone t = true then job'.exit ≠ 0#32 else job'.exit = job.exit
  /-- It clears the restart flag only with the recorded request in hand. -/
  restart : job'.restart = job.restart ∨ (t.pc = .head ∧ job.exit = 0#32 ∧ job.restart = true)
  take : t.pc = .head → job.exit = 0#32 → job.restart = true →
    t'.pc = .body ∧ t'.init = job.init ∧ t'.status = .inited ∧ job'.restart = false

/-- A thread sets the exit flag only at the end of a playback. -/
theorem ThreadMove.exit {job job' : Job} (h : ThreadMove job job' t t') (hclear : job.exit = 0#32)
    (hset : job'.exit ≠ 0#32) : t.pc = .body ∧ isDone t = true := by
  have hends := h.ends
  split_ifs at hends with hdone
  · exact hdone
  · exact absurd (hends.trans hclear) hset

/-- Before its first lock is released, it has its number and what to play. -/
theorem threadMove_begin (hpc : t.pc = .begin) (htid : job.init.tid.toNat = t.job) :
    ThreadMove job job t
      { t with pc := .head, tid := job.init.tid.toNat, init := job.init, status := .inited } where
  slot := rfl
  begun := by simp
  tid := htid
  status := rfl
  init := rfl
  run := rfl
  pause := rfl
  speed := rfl
  begin _ := rfl
  body _ := rfl
  copy := .inl rfl
  reads h := by simp at h
  ends := by simp [hpc]
  restart := .inl rfl
  take h := by simp [hpc] at h

/-- It leaves its loop at the exit flag. -/
theorem threadMove_leave (hpc : t.pc = .head) (htid : t.tid = t.job) (hexit : job.exit ≠ 0#32) :
    ThreadMove job job t { t with pc := .release } where
  slot := rfl
  begun := by simp
  tid := htid
  status := rfl
  init := rfl
  run := rfl
  pause := rfl
  speed := rfl
  begin h := by simp [hpc] at h
  body h := by simp [hpc] at h
  copy := .inr ⟨rfl, by simp [hpc], rfl⟩
  reads h := by simp at h
  ends := by simp [hpc]
  restart := .inl rfl
  take _ h := absurd h hexit

/-- It goes on with what it plays. -/
theorem threadMove_enter (hpc : t.pc = .head) (htid : t.tid = t.job) (hrestart : job.restart ≠ true) :
    ThreadMove job job t
      { t with pc := .body, play := job.run, speed := job.speed, pause := job.pause } where
  slot := rfl
  begun := by simp
  tid := htid
  status := rfl
  init := rfl
  run := rfl
  pause := rfl
  speed := rfl
  begin h := by simp [hpc] at h
  body h := by simp [hpc] at h
  copy := .inr ⟨rfl, by simp [hpc], rfl⟩
  reads _ := ⟨rfl, rfl, rfl, Bool.eq_false_iff.mpr hrestart⟩
  ends := by simp [hpc]
  restart := .inl rfl
  take _ _ h := absurd h hrestart

/-- It takes up the recorded request. -/
theorem threadMove_take (hpc : t.pc = .head) (htid : t.tid = t.job) (hexit : job.exit = 0#32)
    (hrestart : job.restart = true) :
    ThreadMove job { job with restart := false } t
      { t with pc := .body, play := job.run, speed := job.speed, pause := job.pause,
               init := job.init, status := .inited } where
  slot := rfl
  begun := by simp
  tid := htid
  status := rfl
  init := rfl
  run := rfl
  pause := rfl
  speed := rfl
  begin h := by simp [hpc] at h
  body h := by simp [hpc] at h
  copy := .inl rfl
  reads _ := ⟨rfl, rfl, rfl, rfl⟩
  ends := by simp [hpc]
  restart := .inr ⟨hpc, hexit, hrestart⟩
  take _ _ _ := ⟨rfl, rfl, rfl, rfl⟩

/-- A pass of the `switch`. -/
theorem threadMove_body {status : ThreadStatus} {exit liveSync : CInt} (hpc : t.pc = .body)
    (htid : t.tid = t.job) (hexit : if isDone t = true then exit ≠ 0#32 else exit = job.exit) :
    ThreadMove job { job with exit := exit, liveSync := liveSync } t
      { t with pc := .head, status := status } where
  slot := rfl
  begun := by simp
  tid := htid
  status := rfl
  init := rfl
  run := rfl
  pause := rfl
  speed := rfl
  begin h := by simp [hpc] at h
  body _ := rfl
  copy := .inr ⟨rfl, by simp [hpc], rfl⟩
  reads h := by simp at h
  ends := by simpa [hpc] using hexit
  restart := .inl rfl
  take h := by simp [hpc] at h

theorem setJob_jobAt (hi : i < s.own.jobs.length) : (setJob s i (jobAt s i)).own = s.own := by
  have hjobs : s.own.jobs.set i (jobAt s i) = s.own.jobs := by
    apply List.ext_getElem?
    intro j
    rw [List.getElem?_set]
    split_ifs with hij
    · rw [← hij, jobAt, List.getD_eq_getElem?_getD, List.getElem?_eq_getElem hi]
      rfl
    · rfl
  unfold setJob
  dsimp only
  rw [hjobs]

/-- A step that leaves the slot alone. -/
theorem own_setThread (hi : i < s.own.jobs.length) :
    (setThread s k t).own = (setThread (setJob s i (jobAt s i)) k t).own := by
  unfold setThread
  dsimp only
  rw [setJob_jobAt hi]

theorem miscGetBit_zero {bit : ℕ} : miscGetBit 0#32 bit = 0#32 := by
  unfold miscGetBit
  simp

/-- What a thread does in one step. -/
theorem playerFunc_cases (hinv : JobInv s) (h : playerFunc input s = some s') :
    ∃ t, threadAt s input.tid = some t ∧ s'.info.exit = s.info.exit ∧
      s'.info.threadExit = s.info.threadExit ∧
      ((t.pc = .release ∧ s'.own = (dropThread input.tid (setJob s t.job {})).own) ∨
        ∃ job' t', ThreadMove (jobAt s t.job) job' t t' ∧
          s'.own = (setThread (setJob s t.job job') input.tid t').own) := by
  rw [playerFunc, Option.map_eq_some_iff] at h
  obtain ⟨t, ht, rfl⟩ := h
  have hlt := hinv.lt ht
  rcases hpc : t.pc with _ | _ | _ | _
  · have hmove := threadMove_begin hpc (hinv.begins _ t ht hpc)
    exact ⟨t, ht, rfl, rfl, .inr ⟨jobAt s t.job, _, hmove, own_setThread hlt⟩⟩
  · have htid : t.tid = t.job := hinv.tid _ t ht (by simp [hpc])
    dsimp only
    unfold threadHead
    simp only [hinv.exit, hinv.threadExit, miscGetBit_zero, htid, Bool.false_eq_true, false_or, ne_eq,
      not_true_eq_false, if_false]
    by_cases hexit : (jobAt s t.job).exit = 0#32
    · rw [if_neg (not_not.mpr hexit)]
      by_cases hrestart : (jobAt s t.job).restart = true
      · rw [if_pos hrestart]
        have hmove := threadMove_take hpc htid hexit hrestart
        exact ⟨t, ht, hinv.exit, hinv.threadExit, .inr ⟨_, _, hmove, by rw [htid]⟩⟩
      · rw [if_neg hrestart]
        have hmove := threadMove_enter hpc htid hrestart
        refine ⟨t, ht, hinv.exit, hinv.threadExit, .inr ⟨jobAt s t.job, _, hmove, ?_⟩⟩
        rw [htid]
        exact own_setThread hlt
    · rw [if_pos hexit]
      have hmove := threadMove_leave hpc htid hexit
      refine ⟨t, ht, hinv.exit, hinv.threadExit, .inr ⟨jobAt s t.job, _, hmove, ?_⟩⟩
      rw [htid]
      exact own_setThread hlt
  · have htid : t.tid = t.job := hinv.tid _ t ht (by simp [hpc])
    -- Most passes leave the slot alone.
    have hsame : isDone t = false → ∀ status, ThreadMove (jobAt s t.job) (jobAt s t.job) t
        { t with pc := .head, status := status } := by
      intro hgoing status
      have hends : if isDone t = true then (jobAt s t.job).exit ≠ 0#32
          else (jobAt s t.job).exit = (jobAt s t.job).exit := by
        rw [hgoing]
        rfl
      exact threadMove_body hpc htid hends
    dsimp only
    unfold threadBody
    split
    case h_1 hstatus =>
      have hgoing : isDone t = false := by simp [isDone, hstatus]
      split_ifs
      · exact ⟨t, ht, rfl, rfl, .inr ⟨jobAt s t.job, _, hsame hgoing _, own_setThread hlt⟩⟩
      · exact ⟨t, ht, rfl, rfl, .inr ⟨jobAt s t.job, _, hsame hgoing _, own_setThread hlt⟩⟩
    case h_2 hstatus =>
      have hgoing : isDone t = false := by simp [isDone, hstatus]
      split_ifs
      · refine ⟨t, ht, rfl, rfl, .inr ⟨{ jobAt s t.job with liveSync := 0#32 },
          { t with pc := .head, status := .idle }, ?_, ?_⟩⟩
        · exact threadMove_body hpc htid (by simp [hgoing])
        · rw [← htid]
      · exact ⟨t, ht, rfl, rfl, .inr ⟨jobAt s t.job, _, hsame hgoing _, own_setThread hlt⟩⟩
    case h_6 hstatus =>
      refine ⟨t, ht, rfl, rfl, .inr ⟨{ jobAt s t.job with exit := 1#32 },
        { t with pc := .head, status := .finish }, ?_, ?_⟩⟩
      · exact threadMove_body hpc htid (by simp [isDone, hstatus])
      · rw [threadDone, ← htid]
        rfl
    case h_7 hstatus =>
      refine ⟨t, ht, rfl, rfl, .inr ⟨{ jobAt s t.job with exit := 1#32 },
        { t with pc := .head, status := .error }, ?_, ?_⟩⟩
      · exact threadMove_body hpc htid (by simp [isDone, hstatus])
      · rw [threadDone, ← htid]
        rfl
    case h_8 hfinish herror =>
      have hgoing : isDone t = false := by
        rw [isDone, decide_eq_false_iff_not]
        rintro (hdone | hdone)
        · exact hfinish hdone
        · exact herror hdone
      exact ⟨t, ht, rfl, rfl, .inr ⟨jobAt s t.job, _, hsame hgoing _, own_setThread hlt⟩⟩
    all_goals
      rename_i hstatus
      have hgoing : isDone t = false := by simp [isDone, hstatus]
      exact ⟨t, ht, rfl, rfl, .inr ⟨jobAt s t.job, _, hsame hgoing _, own_setThread hlt⟩⟩
  · have htid : t.tid = t.job := hinv.tid _ t ht (by simp [hpc])
    refine ⟨t, ht, rfl, rfl, .inl ⟨hpc, ?_⟩⟩
    show (threadRelease s input.tid t).own = _
    rw [threadRelease, htid]
    rfl

theorem toNat_ofNat_lt (hi : i < aliyunVisualMaxChannel) : (BitVec.ofNat 32 i).toNat = i := by
  rw [BitVec.toNat_ofNat]
  exact Nat.mod_eq_of_lt (hi.trans (by decide))

theorem JobInv.updateJob {init : PlayerInit} (h : JobInv s) (hi : i < s.own.jobs.length)
    (hused : (jobAt s i).status ≠ .none) : JobInv (updateJob s i init) := by
  unfold Player.updateJob
  apply h.setJob hi
  · simp [hused]
  · left
    rw [h.length] at hi
    exact toNat_ofNat_lt hi

theorem JobInv.createJob {init : PlayerInit} (h : JobInv s) (hi : i < s.own.jobs.length)
    (hfree : (jobAt s i).status = .none) : JobInv (createJob input s i init) := by
  have htid : (BitVec.ofNat 32 i).toNat = i := by
    rw [h.length] at hi
    exact toNat_ofNat_lt hi
  unfold Player.createJob
  split_ifs
  · exact h.create hi hfree (by simp) htid
  · apply h.setJob hi
    · simp [hfree]
    · exact .inl htid

/-- Every step keeps the slots and their threads in order. -/
theorem jobInv_step {a : JobAction} (hinv : JobInv s) (h : jobStep s a = some s') : JobInv s' := by
  cases a with
  | message input msg =>
      obtain ⟨i, init, hacc, -, rfl⟩ | ⟨-, rfl | ⟨i, init, hi, hfree, -, -, rfl⟩ | ⟨i, job, hi, hedit, rfl⟩⟩ :=
        jobMessage_cases hinv h
      · obtain ⟨hi, hused⟩ := acceptedBy_spec hacc
        exact hinv.updateJob hi hused
      · exact hinv
      · exact hinv.createJob hi hfree
      · exact hinv.setJob hi hedit.status (.inr hedit.tid)
  | stopFound id =>
      cases h
      apply hinv.setJob
      · rw [hinv.length]
        exact id.isLt
      · exact Iff.rfl
      · exact .inr rfl
  | status status =>
      cases h
      exact hinv.congr rfl rfl rfl
  | thread input =>
      obtain ⟨t, ht, hexit, hthreadExit, ⟨-, hown⟩ | ⟨job', t', hmove, hown⟩⟩ := playerFunc_cases hinv h
      · exact (hinv.release ht).congr hown hexit hthreadExit
      · have hslot : JobInv (setJob s t.job job') := hinv.setJob (hinv.lt ht) (by rw [hmove.status])
          (.inr (by rw [hmove.init]))
        have hthread : threadAt (setJob s t.job job') input.tid = some t := ht
        exact (hslot.setThread hthread hmove.slot hmove.begun hmove.tid).congr hown hexit hthreadExit

/-! ### Accepted requests -/

/-- The state, and the slots with an accepted request that no thread has taken up and no stop has
withdrawn since. -/
structure Watch where
  state : State
  accepted : ℕ → Bool := fun _ => false

/-- The slot of a recorded request that the thread takes up in its next step.
Source: `server/player/player.c` `player_func`, `if (restart)` -/
def takenBy (input : ServerInput) (s : State) : Option ℕ :=
  (threadAt s input.tid).bind fun t =>
    if t.pc = .head ∧ s.info.exit = false ∧ (jobAt s t.tid).exit = 0#32 ∧
        miscGetBit s.info.threadExit t.tid = 0#32 ∧ (jobAt s t.tid).restart = true then
      some t.tid
    else none

/-- The accepted requests after a step. -/
def nextAccepted (w : Watch) : JobAction → ℕ → Bool
  | .message input msg =>
    match acceptedBy input msg w.state with
    | some i => Function.update w.accepted i true
    | none =>
      match stoppedBy msg w.state with
      | some i => Function.update w.accepted i false
      | none => w.accepted
  | .stopFound id => Function.update w.accepted id false
  | .status _ => w.accepted
  | .thread input =>
    match takenBy input w.state with
    | some i => Function.update w.accepted i false
    | none => w.accepted

/-- One step, watched. -/
def watchStep (w : Watch) (a : JobAction) : Option Watch :=
  (jobStep w.state a).map fun state => { state := state, accepted := nextAccepted w a }

/-- The thread will look at the restart flag of its slot once more, if the slot's exit flag is
clear then. -/
def LooksAgain (t : PlayerThread) : Prop :=
  t.pc ≠ .release ∧ (t.pc = .body → isDone t = false)

instance : Decidable (LooksAgain t) := inferInstanceAs (Decidable (_ ∧ _))

/-- The accepted requests are recorded in slots whose threads will look at them. -/
def Recorded (w : Watch) : Prop :=
  ∀ i, w.accepted i = true → (jobAt w.state i).restart = true ∧ (jobAt w.state i).exit = 0#32 ∧
    ∃ k t, threadAt w.state k = some t ∧ t.job = i ∧ LooksAgain t

/-- What a step does that loses no accepted request. -/
structure RequestKept (w : Watch) (a : JobAction) (w' : Watch) : Prop where
  recorded : Recorded w'
  /-- A request is gone from the slot when it was stopped or a thread plays it. -/
  taken : ∀ i, w.accepted i = true → w'.accepted i = false →
    (∃ id : Fin aliyunVisualMaxChannel, a = .stopFound id ∧ id = i) ∨
    (∃ input msg, a = .message input msg ∧ stoppedBy msg w.state = some i) ∨
    ∃ k t, threadAt w'.state k = some t ∧ t.job = i ∧ t.pc = .body ∧ t.status = .inited ∧
      t.init = (jobAt w.state i).init
  /-- The slot of a request is not cleared. -/
  cleared : ∀ i, w.accepted i = true → (jobAt w'.state i).status ≠ .none

/-- The condition on a step: a request is accepted only for a slot whose thread will look at it
again. -/
def AddedInTime (w : Watch) : JobAction → Prop
  | .message input msg => ∀ i, acceptedBy input msg w.state = some i →
      ∀ k t, threadAt w.state k = some t → t.job = i → LooksAgain t
  | _ => True

/-! ### What becomes of an accepted request -/

variable {w w' : Watch} {a : JobAction}

/-- A slot in use stays so until its thread ends. -/
theorem status_step (hinv : JobInv s) (h : jobStep s a = some s') (hused : (jobAt s i).status ≠ .none) :
    (jobAt s' i).status ≠ .none ∨ ∃ input t, a = .thread input ∧ threadAt s input.tid = some t ∧
      t.pc = .release ∧ t.job = i := by
  cases a with
  | message input msg =>
      left
      obtain ⟨j, init, hacc, -, rfl⟩ | ⟨-, rfl | ⟨j, init, hj, hfree, -, -, rfl⟩ | ⟨j, job, hj, hedit, rfl⟩⟩ :=
        jobMessage_cases hinv h
      · unfold updateJob
        rw [jobAt_setJob (acceptedBy_spec hacc).1]
        split_ifs
        · simp
        · exact hused
      · exact hused
      · have hne : j ≠ i := by
          rintro rfl
          exact hused hfree
        unfold createJob
        split_ifs
        · show (jobAt (addThread { job := j } (setJob s j _)) i).status ≠ .none
          rw [jobAt_addThread, jobAt_setJob hj, if_neg hne]
          exact hused
        · rw [jobAt_setJob hj, if_neg hne]
          exact hused
      · rw [jobAt_setJob hj]
        split_ifs with hji
        · rw [← hji] at hused
          exact fun hnone => hused (hedit.status.mp hnone)
        · exact hused
  | stopFound id =>
      left
      cases h
      rw [jobAt_setJob (by rw [hinv.length]; exact id.isLt)]
      split_ifs with hid
      · rw [← hid] at hused
        exact hused
      · exact hused
  | status status =>
      cases h
      exact .inl hused
  | thread input =>
      obtain ⟨t, ht, -, -, ⟨hpc, hown⟩ | ⟨job', t', hmove, hown⟩⟩ := playerFunc_cases hinv h
      · by_cases hslot : t.job = i
        · exact .inr ⟨input, t, rfl, ht, hpc, hslot⟩
        · left
          have hjob : jobAt s' i = jobAt (dropThread input.tid (setJob s t.job {})) i := by
            unfold jobAt
            rw [hown]
          rw [hjob, jobAt_dropThread, jobAt_setJob (hinv.lt ht), if_neg hslot]
          exact hused
      · left
        have hjob : jobAt s' i = jobAt (setThread (setJob s t.job job') input.tid t') i := by
          unfold jobAt
          rw [hown]
        rw [hjob, jobAt_setThread, jobAt_setJob (hinv.lt ht)]
        split_ifs with hslot
        · rw [hmove.status, hslot]
          exact hused
        · exact hused

/-- The slot of a recorded request is in use. -/
theorem Recorded.inUse (hrec : Recorded w) (hinv : JobInv w.state) (hi : w.accepted i = true) :
    (jobAt w.state i).status ≠ .none := by
  obtain ⟨-, -, k, t, ht, hslot, -⟩ := hrec i hi
  rw [← hslot]
  exact hinv.inUse k t ht

/-- The thread of its slot will look at it. -/
theorem Recorded.looksAgain (hrec : Recorded w) (hinv : JobInv w.state) (hi : w.accepted i = true)
    (ht : threadAt w.state k = some t) (hslot : t.job = i) : LooksAgain t := by
  obtain ⟨-, -, k', t', ht', hslot', hlooks⟩ := hrec i hi
  have hk := hinv.one k k' t t' ht ht' (hslot.trans hslot'.symm)
  rw [hk, ht'] at ht
  cases ht
  exact hlooks

/-- A command keeps the requests of the slots it does not stop. -/
theorem Recorded.edit {accepted : ℕ → Bool} {stop : Prop} (hrec : Recorded w) (hi : i < w.state.own.jobs.length)
    (hedit : JobEdit stop (jobAt w.state i) job)
    (hsub : ∀ j, accepted j = true → w.accepted j = true ∧ (i = j → ¬ stop)) :
    Recorded ⟨setJob w.state i job, accepted⟩ := by
  intro j hj
  obtain ⟨hold, hstop⟩ := hsub j hj
  obtain ⟨hrestart, hexit, hthread⟩ := hrec j hold
  refine ⟨?_, ?_, hthread⟩
  · rw [jobAt_setJob hi]
    split_ifs with hij
    · rw [← hij] at hrestart
      exact hedit.restart hrestart
    · exact hrestart
  · rw [jobAt_setJob hi]
    split_ifs with hij
    · rw [← hij] at hexit
      exact hedit.exit (hstop hij) hexit
    · exact hexit

/-- An accepted request is recorded, if it came in time. -/
theorem Recorded.update {init : PlayerInit} (hrec : Recorded w) (hinv : JobInv w.state)
    (hi : i < w.state.own.jobs.length) (hused : (jobAt w.state i).status ≠ .none)
    (htime : ∀ k t, threadAt w.state k = some t → t.job = i → LooksAgain t) :
    Recorded ⟨updateJob w.state i init, Function.update w.accepted i true⟩ := by
  intro j hj
  unfold updateJob
  dsimp only at hj ⊢
  rw [jobAt_setJob hi]
  split_ifs with hij
  · obtain ⟨k, t, ht, hslot⟩ := hinv.serves i hused
    exact ⟨rfl, rfl, k, t, ht, hslot.trans hij, htime k t ht hslot⟩
  · rw [Function.update_of_ne (Ne.symm hij)] at hj
    exact hrec j hj

/-- A new job leaves the recorded requests alone. -/
theorem Recorded.create {init : PlayerInit} (hrec : Recorded w) (hinv : JobInv w.state)
    (hi : i < w.state.own.jobs.length) (hfree : (jobAt w.state i).status = .none) :
    Recorded ⟨createJob input w.state i init, w.accepted⟩ := by
  intro j hj
  have hne : i ≠ j := by
    rintro rfl
    exact hrec.inUse hinv hj hfree
  obtain ⟨hrestart, hexit, k, t, ht, hslot, hlooks⟩ := hrec j hj
  unfold createJob
  dsimp only at hj ⊢
  split_ifs
  · show (jobAt (addThread { job := i } (setJob w.state i _)) j).restart = true ∧
      (jobAt (addThread { job := i } (setJob w.state i _)) j).exit = 0#32 ∧
      ∃ k t, threadAt (addThread { job := i } (setJob w.state i _)) k = some t ∧ t.job = j ∧
        LooksAgain t
    rw [jobAt_addThread, jobAt_setJob hi, if_neg hne]
    exact ⟨hrestart, hexit, k, t, threadAt_addThread_old ht, hslot, hlooks⟩
  · rw [jobAt_setJob hi, if_neg hne]
    exact ⟨hrestart, hexit, k, t, ht, hslot, hlooks⟩

/-- Only the slots and the threads count. -/
theorem Recorded.congr {accepted : ℕ → Bool} (hrec : Recorded ⟨s, accepted⟩) (hown : s'.own = s.own) :
    Recorded ⟨s', accepted⟩ := by
  intro i hi
  have hkept := hrec i hi
  unfold jobAt threadAt at hkept ⊢
  dsimp only at hkept ⊢
  rw [hown]
  exact hkept

/-- A thread takes up the request that is recorded in its slot, when it is at the head of its loop. -/
theorem takenBy_iff (hinv : JobInv s) (ht : threadAt s input.tid = some t) :
    takenBy input s = some i ↔
      t.job = i ∧ t.pc = .head ∧ (jobAt s i).exit = 0#32 ∧ (jobAt s i).restart = true := by
  rw [takenBy, ht, Option.bind_some]
  simp only [hinv.exit, hinv.threadExit, miscGetBit_zero, true_and]
  constructor
  · intro htaken
    split_ifs at htaken with hhead
    cases htaken
    have htid : t.tid = t.job := hinv.tid _ t ht (by simp [hhead.1])
    exact ⟨htid.symm, hhead⟩
  · rintro ⟨rfl, hpc, hexit, hrestart⟩
    have htid : t.tid = t.job := hinv.tid _ t ht (by simp [hpc])
    rw [htid, if_pos ⟨hpc, hexit, hrestart⟩]

/-- A step of a thread keeps the recorded requests it does not take up. -/
theorem Recorded.move {accepted : ℕ → Bool} (hrec : Recorded w) (hinv : JobInv w.state)
    (ht : threadAt w.state k = some t) (hmove : ThreadMove (jobAt w.state t.job) job t t')
    (hsub : ∀ j, accepted j = true → w.accepted j = true ∧ (t.job = j → t.pc ≠ .head)) :
    Recorded ⟨setThread (setJob w.state t.job job) k t', accepted⟩ := by
  intro j hj
  obtain ⟨hold, hnothead⟩ := hsub j hj
  obtain ⟨hrestart, hexit, k', t₁, ht₁, hslot, hlooks⟩ := hrec j hold
  have hthread : threadAt (setJob w.state t.job job) k = some t := ht
  dsimp only
  rw [jobAt_setThread, jobAt_setJob (hinv.lt ht)]
  by_cases hjob : t.job = j
  · have hmine : LooksAgain t := hrec.looksAgain hinv hold ht hjob
    have hpc : t'.pc = .head := by
      rcases hpc : t.pc with _ | _ | _ | _
      · exact hmove.begin hpc
      · exact absurd hpc (hnothead hjob)
      · exact hmove.body hpc
      · exact absurd hpc hmine.1
    rw [if_pos hjob]
    rw [← hjob] at hrestart hexit
    refine ⟨?_, ?_, k, t', ?_, hmove.slot.trans hjob, ?_⟩
    · obtain hsame | ⟨hhead, -⟩ := hmove.restart
      · exact hsame.trans hrestart
      · exact absurd hhead (hnothead hjob)
    · by_contra hset
      obtain ⟨hbody, hdone⟩ := hmove.exit hexit hset
      rw [hmine.2 hbody] at hdone
      cases hdone
    · rw [threadAt_setThread hthread, if_pos rfl]
    · simp [LooksAgain, hpc]
  · have hne : k ≠ k' := by
      rintro rfl
      rw [ht] at ht₁
      cases ht₁
      exact hjob hslot
    rw [if_neg hjob]
    refine ⟨hrestart, hexit, k', t₁, ?_, hslot, hlooks⟩
    rw [threadAt_setThread hthread, if_neg hne]
    exact ht₁

/-- The end of a thread keeps the recorded requests: none is in its slot. -/
theorem Recorded.release (hrec : Recorded w) (hinv : JobInv w.state) (ht : threadAt w.state k = some t)
    (hpc : t.pc = .release) : Recorded ⟨dropThread k (setJob w.state t.job {}), w.accepted⟩ := by
  intro j hj
  have hjob : t.job ≠ j := by
    intro hjob
    exact (hrec.looksAgain hinv hj ht hjob).1 hpc
  obtain ⟨hrestart, hexit, k', t₁, ht₁, hslot, hlooks⟩ := hrec j hj
  have hne : k' ≠ k := by
    rintro rfl
    rw [ht] at ht₁
    cases ht₁
    exact hjob hslot
  obtain ⟨m, hm⟩ := exists_shift hne
  dsimp only
  rw [jobAt_dropThread, jobAt_setJob (hinv.lt ht), if_neg hjob]
  refine ⟨hrestart, hexit, m, t₁, ?_, hslot, hlooks⟩
  rw [threadAt_dropThread, hm]
  exact ht₁

/-- The search of a stop was done before; it sets the exit flag now. -/
theorem Recorded.stop (hrec : Recorded w) (hi : i < w.state.own.jobs.length) :
    Recorded ⟨setJob w.state i { jobAt w.state i with exit := 1#32 },
      Function.update w.accepted i false⟩ := by
  have hedit : JobEdit True (jobAt w.state i) { jobAt w.state i with exit := 1#32 } :=
    ⟨Iff.rfl, rfl, rfl, fun h => ⟨rfl, h⟩, id, fun hnot => absurd trivial hnot⟩
  apply hrec.edit hi hedit
  intro j hj
  have hne : j ≠ i := by
    rintro rfl
    rw [Function.update_self] at hj
    cases hj
  rw [Function.update_of_ne hne] at hj
  exact ⟨hj, fun hij => absurd hij.symm hne⟩

theorem nextAccepted_request (hacc : acceptedBy input msg w.state = some i) :
    nextAccepted w (.message input msg) = Function.update w.accepted i true := by
  simp only [nextAccepted, hacc]

theorem nextAccepted_stop (hacc : acceptedBy input msg w.state = none)
    (hstop : stoppedBy msg w.state = some i) :
    nextAccepted w (.message input msg) = Function.update w.accepted i false := by
  simp only [nextAccepted, hacc, hstop]

theorem nextAccepted_message (hacc : acceptedBy input msg w.state = none)
    (hstop : stoppedBy msg w.state = none) : nextAccepted w (.message input msg) = w.accepted := by
  simp only [nextAccepted, hacc, hstop]

theorem nextAccepted_taken (htaken : takenBy input w.state = some i) :
    nextAccepted w (.thread input) = Function.update w.accepted i false := by
  simp only [nextAccepted, htaken]

theorem nextAccepted_thread (htaken : takenBy input w.state = none) :
    nextAccepted w (.thread input) = w.accepted := by
  simp only [nextAccepted, htaken]

/-- What is accepted after one slot was struck out. -/
theorem of_update_false {accepted : ℕ → Bool} (h : Function.update accepted j false i = true) :
    accepted i = true ∧ i ≠ j := by
  have hne : i ≠ j := by
    rintro rfl
    simp at h
  rw [Function.update_of_ne hne] at h
  exact ⟨h, hne⟩

/-- Only an accepted request adds to the accepted ones; a stop withdraws one. -/
theorem of_nextAccepted_message (hacc : acceptedBy input msg w.state = none)
    (hi : nextAccepted w (.message input msg) i = true) :
    w.accepted i = true ∧ stoppedBy msg w.state ≠ some i := by
  rcases hstop : stoppedBy msg w.state with _ | j
  · rw [nextAccepted_message hacc hstop] at hi
    exact ⟨hi, by simp⟩
  · rw [nextAccepted_stop hacc hstop] at hi
    obtain ⟨hold, hne⟩ := of_update_false hi
    exact ⟨hold, fun hsame => hne (Option.some.inj hsame).symm⟩

/-- The accepted requests stay recorded while all of them come in time. -/
theorem recorded_watchStep (hinv : JobInv w.state) (hrec : Recorded w) (h : watchStep w a = some w')
    (htime : AddedInTime w a) : Recorded w' := by
  rw [watchStep, Option.map_eq_some_iff] at h
  obtain ⟨s', hstep, rfl⟩ := h
  cases a with
  | message input msg =>
      obtain ⟨i, init, hacc, -, rfl⟩ | ⟨hacc, hcases⟩ := jobMessage_cases hinv hstep
      · obtain ⟨hi, hused⟩ := acceptedBy_spec hacc
        rw [nextAccepted_request hacc]
        exact hrec.update hinv hi hused (htime i hacc)
      · have hsub := fun j => of_nextAccepted_message (i := j) hacc
        obtain rfl | ⟨i, init, hi, hfree, -, hstop, rfl⟩ | ⟨i, job, hi, hedit, rfl⟩ := hcases
        · exact fun j hj => hrec j (hsub j hj).1
        · rw [nextAccepted_message hacc hstop]
          exact hrec.create hinv hi hfree
        · apply hrec.edit hi hedit
          intro j hj
          obtain ⟨hold, hnot⟩ := hsub j hj
          exact ⟨hold, fun hij => by rw [hij]; exact hnot⟩
  | stopFound id =>
      cases hstep
      exact hrec.stop (by rw [hinv.length]; exact id.isLt)
  | status status =>
      cases hstep
      exact Recorded.congr hrec rfl
  | thread input =>
      obtain ⟨t, ht, -, -, ⟨hpc, hown⟩ | ⟨job', t', hmove, hown⟩⟩ := playerFunc_cases hinv hstep
      · have htaken : takenBy input w.state = none := by
          rw [Option.eq_none_iff_forall_ne_some]
          intro i htaken
          have hhead := ((takenBy_iff hinv ht).mp htaken).2.1
          rw [hpc] at hhead
          cases hhead
        rw [nextAccepted_thread htaken]
        exact (hrec.release hinv ht hpc).congr hown
      · apply Recorded.congr _ hown
        apply hrec.move hinv ht hmove
        intro j hj
        rcases htaken : takenBy input w.state with _ | i
        · rw [nextAccepted_thread htaken] at hj
          refine ⟨hj, ?_⟩
          rintro rfl hhead
          obtain ⟨hrestart, hexit, -⟩ := hrec _ hj
          rw [(takenBy_iff hinv ht).mpr ⟨rfl, hhead, hexit, hrestart⟩] at htaken
          cases htaken
        · rw [nextAccepted_taken htaken] at hj
          have hslot := ((takenBy_iff hinv ht).mp htaken).1
          obtain ⟨hold, hne⟩ := of_update_false hj
          exact ⟨hold, fun hjob => absurd (hjob.symm.trans hslot) hne⟩

/-- A recorded request is gone when it was stopped or its thread plays it. -/
theorem taken_watchStep (hinv : JobInv w.state) (h : watchStep w a = some w')
    (hi : w.accepted i = true) (hgone : w'.accepted i = false) :
    (∃ id : Fin aliyunVisualMaxChannel, a = .stopFound id ∧ id = i) ∨
      (∃ input msg, a = .message input msg ∧ stoppedBy msg w.state = some i) ∨
      ∃ k t, threadAt w'.state k = some t ∧ t.job = i ∧ t.pc = .body ∧ t.status = .inited ∧
        t.init = (jobAt w.state i).init := by
  rw [watchStep, Option.map_eq_some_iff] at h
  obtain ⟨s', hstep, rfl⟩ := h
  dsimp only at hgone
  -- The entry of `i` changes from true to false.
  have hupdate : ∀ {j b}, Function.update w.accepted j b i = false → j = i := by
    intro j b hfalse
    by_contra hne
    rw [Function.update_of_ne (Ne.symm hne), hi] at hfalse
    cases hfalse
  cases a with
  | message input msg =>
      right
      left
      refine ⟨input, msg, rfl, ?_⟩
      rcases hacc : acceptedBy input msg w.state with _ | j
      · rcases hstop : stoppedBy msg w.state with _ | j
        · rw [nextAccepted_message hacc hstop, hi] at hgone
          cases hgone
        · rw [nextAccepted_stop hacc hstop] at hgone
          rw [hupdate hgone]
      · rw [nextAccepted_request hacc] at hgone
        rw [hupdate hgone] at hgone
        simp at hgone
  | stopFound id =>
      left
      exact ⟨id, rfl, hupdate hgone⟩
  | status status =>
      have hsame : w.accepted i = false := hgone
      rw [hi] at hsame
      cases hsame
  | thread input =>
      right
      right
      rcases htaken : takenBy input w.state with _ | j
      · rw [nextAccepted_thread htaken, hi] at hgone
        cases hgone
      · rw [nextAccepted_taken htaken] at hgone
        rw [hupdate hgone] at htaken
        obtain ⟨t, ht, -, -, ⟨hpc, -⟩ | ⟨job', t', hmove, hown⟩⟩ := playerFunc_cases hinv hstep
        · have hhead := ((takenBy_iff hinv ht).mp htaken).2.1
          rw [hpc] at hhead
          cases hhead
        · obtain ⟨hslot, hhead, hexit, hrestart⟩ := (takenBy_iff hinv ht).mp htaken
          rw [← hslot] at hexit hrestart
          obtain ⟨hbody, hinit, hstatus, -⟩ := hmove.take hhead hexit hrestart
          have hthread : threadAt (setJob w.state t.job job') input.tid = some t := ht
          refine ⟨input.tid, t', ?_, hmove.slot.trans hslot, hbody, hstatus, ?_⟩
          · show threadAt s' input.tid = some t'
            unfold threadAt
            rw [hown]
            exact (threadAt_setThread hthread).trans (if_pos rfl)
          · rw [hinit, hslot]

/-- The slot of a recorded request is in use after the step too. -/
theorem cleared_watchStep (hinv : JobInv w.state) (hrec : Recorded w) (h : watchStep w a = some w')
    (hi : w.accepted i = true) : (jobAt w'.state i).status ≠ .none := by
  rw [watchStep, Option.map_eq_some_iff] at h
  obtain ⟨s', hstep, rfl⟩ := h
  obtain hused | ⟨input, t, -, ht, hpc, hslot⟩ := status_step hinv hstep (hrec.inUse hinv hi)
  · exact hused
  · exact absurd hpc (hrec.looksAgain hinv hi ht hslot).1

/-! ### Runs -/

theorem jobInv_watchStep (hinv : JobInv w.state) (h : watchStep w a = some w') : JobInv w'.state := by
  rw [watchStep, Option.map_eq_some_iff] at h
  obtain ⟨s', hstep, rfl⟩ := h
  exact jobInv_step hinv hstep

/-- A step loses no request exactly if it meets the condition. -/
theorem requestKept_of_addedInTime (hinv : JobInv w.state) (hrec : Recorded w)
    (h : watchStep w a = some w') (htime : AddedInTime w a) : RequestKept w a w' where
  recorded := recorded_watchStep hinv hrec h htime
  taken _ hi hgone := taken_watchStep hinv h hi hgone
  cleared _ hi := cleared_watchStep hinv hrec h hi

theorem addedInTime_of_requestKept (hinv : JobInv w.state) (h : watchStep w a = some w')
    (hkept : RequestKept w a w') : AddedInTime w a := by
  have hinv' := jobInv_watchStep hinv h
  rw [watchStep, Option.map_eq_some_iff] at h
  obtain ⟨s', hstep, rfl⟩ := h
  cases a with
  | message input msg =>
      intro i hacc k t ht hslot
      obtain ⟨j, init, hacc', -, rfl⟩ | ⟨hnone, -⟩ := jobMessage_cases hinv hstep
      · rw [hacc] at hacc'
        cases hacc'
        have hnext : nextAccepted w (.message input msg) i = true := by
          rw [nextAccepted_request hacc]
          exact Function.update_self i true w.accepted
        exact hkept.recorded.looksAgain hinv' hnext ht hslot
      · rw [hacc] at hnone
        cases hnone
  | _ => trivial

/-- In every run of the player's main thread and its playback threads, an accepted request is
recorded in the slot of a thread that looks at it, until the thread takes it up or it is stopped, and
its slot is not cleared, exactly if no request is accepted for a slot whose thread will not look at it
again. -/
theorem requestKept_iff (as : List JobAction) :
    AllSteps watchStep RequestKept { state := { own := {} } } as ↔
      AllSteps watchStep (fun w a _ => AddedInTime w a) { state := { own := {} } } as := by
  have h0 : JobInv ({ own := {} } : State) ∧ Recorded { state := { own := {} } } := by
    refine ⟨jobInv_init, ?_⟩
    intro i hi
    cases hi
  constructor
  · intro hkept
    refine AllSteps.imp (I := fun w : Watch => JobInv w.state ∧ Recorded w) ?_ h0 hkept
    intro w a w' hinv h hstep
    exact ⟨⟨jobInv_watchStep hinv.1 h, hstep.recorded⟩, addedInTime_of_requestKept hinv.1 h hstep⟩
  · intro htime
    refine AllSteps.imp (I := fun w : Watch => JobInv w.state ∧ Recorded w) ?_ h0 htime
    intro w a w' hinv h hstep
    have hkept := requestKept_of_addedInTime hinv.1 hinv.2 h hstep
    exact ⟨⟨jobInv_watchStep hinv.1 h, hkept.recorded⟩, hkept⟩

/-! ### A lost request -/

/-- A request for a recording on the channel 0. -/
def requestChannel : JobAction :=
  .message {} { message := msgPlayerRequest, arg := some (List.replicate 40 0#8) }

/-- A stop of the playback on the channel 0. -/
def stopChannel : JobAction := .message {} { message := msgPlayerStop }

/-- A playback is stopped and requested again, before its thread has cleared the slot. -/
def stoppedPlayback : List JobAction :=
  [.status .run, requestChannel, .thread {}, .thread {}, .thread {}, stopChannel, .thread {},
    requestChannel]

/-- A playback fails, and is requested again, before its thread notes the failure. -/
def endedPlayback : List JobAction :=
  [.status .run, requestChannel, .thread {}, .thread {}, .thread { found := false }, .thread {},
    requestChannel, .thread {}, .thread {}]

/-- The second request is accepted, and the thread of the first one clears its slot: after a stop,
and at the end of a playback. -/
theorem request_lost :
    (∃ w w', Reach watchStep AllRuns { state := { own := {} } } w ∧
      watchStep w (.thread {}) = some w' ∧ (w.accepted 0 = true ∧ (jobAt w.state 0).restart = true ∧
        (jobAt w'.state 0).status = .none ∧ w'.state.own.threads = [])) ∧
    ∃ w w', Reach watchStep AllRuns { state := { own := {} } } w ∧
      watchStep w (.thread {}) = some w' ∧ (w.accepted 0 = true ∧ (jobAt w.state 0).restart = true ∧
        (jobAt w'.state 0).status = .none ∧ w'.state.own.threads = []) := by
  constructor
  · have hrun : (exec watchStep (fun _ _ => true) { state := { own := {} } } stoppedPlayback).any
        (fun w => (watchStep w (.thread {})).any fun w' => decide
          (w.accepted 0 = true ∧ (jobAt w.state 0).restart = true ∧
            (jobAt w'.state 0).status = .none ∧ w'.state.own.threads = [])) = true := by
      decide
    exact Reach.exists_step_of_exec (fun s a _ => show AllRuns s a from trivial) hrun
  · have hrun : (exec watchStep (fun _ _ => true) { state := { own := {} } } endedPlayback).any
        (fun w => (watchStep w (.thread {})).any fun w' => decide
          (w.accepted 0 = true ∧ (jobAt w.state 0).restart = true ∧
            (jobAt w'.state 0).status = .none ∧ w'.state.own.threads = [])) = true := by
      decide
    exact Reach.exists_step_of_exec (fun s a _ => show AllRuns s a from trivial) hrun

end GokeWebcam.Server.Player
