import GokeWebcam.Manager.FailRestart

/-!
# Waiting for the stopped servers

To sleep, and to restart in the testing mode, the manager stops the running servers of the sleep
mask and waits until the word of running servers equals `~server_sleep & 0x7FFF`.

* `Wait`: the two waits, with the status each is requested in, spent in and left for.
* `WaitCanEnd`: the sleep mask contains the bits 0 and 8 to 14, every server outside it runs, and
  every server inside it that ran is one that is stopped or has gone by itself.
* `waitInv_step`: while the task waits, servers only leave.
* `wait_ends_iff`: once all stopped servers have acknowledged, the next step of the task leaves the
  wait exactly under that condition.
* `sleep_stuck`: with the shipped configuration it does not.
-/

namespace GokeWebcam.Manager

open Lib Common Global Server

set_option maxRecDepth 1024

variable {s s' : ManagerState} {input : ManagerInput}

/-! ### The two waits -/

/-- The wait of `task_sleep` for the sleep, that of `task_testing` for the restart. -/
inductive Wait
  | sleep | restart
  deriving DecidableEq, Repr

namespace Wait

/-- The task that waits. -/
def func : Wait → TaskFunc
  | sleep => .taskSleep
  | restart => .taskTesting

/-- The status in which the servers are told to exit. -/
def request : Wait → ServerStatus
  | sleep => .setup
  | restart => .stop

/-- The status in which the task waits. -/
def status : Wait → ServerStatus
  | sleep => .idle
  | restart => .restart

/-- The status the task leaves the wait for. -/
def next : Wait → ServerStatus
  | sleep => .start
  | restart => .none

/-- The servers that may be stopped. -/
def select : Wait → ServerType → Bool
  | sleep, t => t ≠ .aliyun
  | restart, _ => true

end Wait

/-- The server is told to exit: it runs, it is in the sleep mask and it may be stopped. -/
def Selected (w : Wait) (s : ManagerState) (t : ServerType) : Prop :=
  s.info.threadStart.getLsbD t.toNat = true ∧ s.config.serverSleep.getLsbD t.toNat = true ∧
    w.select t = true

instance {w : Wait} {t : ServerType} : Decidable (Selected w s t) :=
  inferInstanceAs (Decidable (_ ∧ _ ∧ _))

/-- The wait for the sleep mask can end, `start` being the servers that ran when the exits were
requested and `now` those that run when all stopped servers have acknowledged. -/
structure WaitCanEnd (w : Wait) (serverSleep start now : CInt) : Prop where
  reserved : ∀ i, i = 0 ∨ (8 ≤ i ∧ i ≤ 14) → serverSleep.getLsbD i = true
  others_run : ∀ t : ServerType, t ≠ .manager → serverSleep.getLsbD t.toNat = false →
    start.getLsbD t.toNat = true ∧ now.getLsbD t.toNat = true
  stopped : ∀ t : ServerType, t ≠ .manager → serverSleep.getLsbD t.toNat = true →
    start.getLsbD t.toNat = true → w.select t = true ∨ now.getLsbD t.toNat = false

/-! ### The word the wait compares with -/

theorem getLsbD_0x7FFF {i : ℕ} (hi : i < 32) : (0x7FFF#32 : CInt).getLsbD i = decide (i < 15) := by
  decide +revert

theorem getLsbD_sleepMask {config : ManagerConfig} {i : ℕ} (hi : i < 32) :
    (sleepMask config).getLsbD i = (!config.serverSleep.getLsbD i && decide (i < 15)) := by
  rw [sleepMask, BitVec.getLsbD_and, BitVec.getLsbD_not, getLsbD_0x7FFF hi]
  simp [hi]

theorem exists_server {i : ℕ} (h1 : 1 ≤ i) (h7 : i ≤ 7) :
    ∃ t : ServerType, t ≠ .manager ∧ t.toNat = i := by
  interval_cases i
  · exact ⟨.device, by decide, rfl⟩
  · exact ⟨.goke, by decide, rfl⟩
  · exact ⟨.video, by decide, rfl⟩
  · exact ⟨.audio, by decide, rfl⟩
  · exact ⟨.recorder, by decide, rfl⟩
  · exact ⟨.player, by decide, rfl⟩
  · exact ⟨.aliyun, by decide, rfl⟩

/-- When the selected servers of `start` have gone, the word equals the mask exactly when the wait
can end. -/
theorem eq_sleepMask_iff {w : Wait} {config : ManagerConfig} {start now : CInt}
    (honly : OnlyServers now) (hle : ∀ i, now.getLsbD i = true → start.getLsbD i = true)
    (hacked : ∀ t : ServerType, start.getLsbD t.toNat = true →
      config.serverSleep.getLsbD t.toNat = true → w.select t = true →
      now.getLsbD t.toNat = false) :
    now = sleepMask config ↔ WaitCanEnd w config.serverSleep start now := by
  constructor
  · rintro rfl
    have hbit : ∀ t : ServerType, (sleepMask config).getLsbD t.toNat =
        !config.serverSleep.getLsbD t.toNat := by
      intro t
      rw [getLsbD_sleepMask ServerType.toNat_lt_32]
      have : t.toNat < 15 := lt_trans ServerType.toNat_lt (by decide)
      simp [this]
    refine ⟨fun i hi => ?_, fun t _ hout => ?_, fun t _ hin _ => .inr (by rw [hbit, hin]; rfl)⟩
    · by_contra hclear
      obtain ⟨t, ht, rfl⟩ := honly i (by
        rw [getLsbD_sleepMask (by omega)]
        simp only [Bool.not_eq_true] at hclear
        rw [hclear]
        simp
        omega)
      have hlt : t.toNat < 8 := ServerType.toNat_lt
      have hne : t.toNat ≠ 0 := fun h0 => ht (ServerType.toNat_inj.mp h0)
      omega
    · have hnow : (sleepMask config).getLsbD t.toNat = true := by rw [hbit, hout]; rfl
      exact ⟨hle _ hnow, hnow⟩
  · intro h
    apply eq_of_getLsbD
    intro i hi
    rw [getLsbD_sleepMask hi]
    by_cases hserver : 1 ≤ i ∧ i ≤ 7
    · obtain ⟨t, ht, rfl⟩ := exists_server hserver.1 hserver.2
      have hlt : t.toNat < 15 := by omega
      rw [decide_eq_true hlt, Bool.and_true]
      rcases hin : config.serverSleep.getLsbD t.toNat with _ | _
      · exact (h.others_run t ht hin).2
      · by_contra hset
        have hnow : now.getLsbD t.toNat = true := by simpa using hset
        have hgone : now.getLsbD t.toNat = false :=
          (h.stopped t ht hin (hle _ hnow)).elim (hacked t (hle _ hnow) hin) id
        rw [hgone] at hnow
        cases hnow
    · have hclear : now.getLsbD i = false := by
        by_contra hset
        obtain ⟨t, ht, rfl⟩ := honly i (by simpa using hset)
        have hlt : t.toNat < 8 := ServerType.toNat_lt
        have hne : t.toNat ≠ 0 := fun h0 => ht (ServerType.toNat_inj.mp h0)
        omega
      rw [hclear]
      by_cases hlt : i < 15
      · rw [h.reserved i (by omega)]
        rfl
      · simp [hlt]

/-! ### What happens during the wait -/

@[simp] theorem info_send {receiver : CInt} {msg : Message} : (s.send receiver msg).info = s.info := by
  unfold ManagerState.send
  split_ifs <;> rfl

@[simp] theorem config_send {receiver : CInt} {msg : Message} :
    (s.send receiver msg).config = s.config := by
  unfold ManagerState.send
  split_ifs <;> rfl

/-- A loop over the servers whose steps leave the record and the configuration alone. -/
theorem info_foldl {f : ManagerState → ServerType → ManagerState}
    (h : ∀ s t, (f s t).info = s.info ∧ (f s t).config = s.config) (ts : List ServerType) :
    (ts.foldl f s).info = s.info ∧ (ts.foldl f s).config = s.config := by
  induction ts generalizing s with
  | nil => exact ⟨rfl, rfl⟩
  | cons t ts ih => exact ⟨ih.1.trans (h s t).1, ih.2.trans (h s t).2⟩

theorem info_broadcast {msg : Message} :
    (s.broadcast msg).info = s.info ∧ (s.broadcast msg).config = s.config :=
  info_foldl (fun s t => by split_ifs <;> simp) _

theorem info_announceQuitter :
    s.announceQuitter.info = s.info ∧ s.announceQuitter.config = s.config := by
  unfold ManagerState.announceQuitter
  split_ifs
  · exact info_broadcast
  · exact ⟨rfl, rfl⟩

theorem info_stopServers (select : ServerType → Bool) :
    (s.stopServers select).info = s.info ∧ (s.stopServers select).config = s.config :=
  info_foldl (fun s t => by split_ifs <;> simp [managerServerStop]) _

/-- From `s` to `s'` no server is added to the running ones and the sleep mask stays. -/
structure OnlyLeave (s s' : ManagerState) : Prop where
  threadStart : ∀ i, s'.info.threadStart.getLsbD i = true → s.info.threadStart.getLsbD i = true
  serverSleep : s'.config.serverSleep = s.config.serverSleep

theorem OnlyLeave.of_info (hinfo : s'.info = s.info) (hconfig : s'.config = s.config) :
    OnlyLeave s s' :=
  ⟨fun i hi => hinfo ▸ hi, by rw [hconfig]⟩

theorem OnlyLeave.send {receiver : CInt} {msg : Message} : OnlyLeave s (s.send receiver msg) :=
  .of_info info_send config_send

theorem setSleep_of_ne_run {temp : CInt} (h : s.info.status ≠ .run) :
    setSleep temp s = (s, 0#32) := by
  unfold setSleep
  split_ifs with _ h1 h2
  · rfl
  · exact absurd h1.2 h
  · exact absurd h2.2 h
  · rfl

/-- A message handled outside `STATUS_RUN`, no firing timer, starts no server. -/
theorem onlyLeave_managerMessage {msg : Message} (hstatus : s.info.status ≠ .run)
    (hon : msg.message ≠ msgManagerTimerOn) (h : managerMessage input msg s = some s') :
    OnlyLeave s s' := by
  unfold managerMessage at h
  split_ifs at h with _ _ hack
  · cases h
    unfold sigint
    split_ifs
    · exact ⟨fun i hi => hi, rfl⟩
    · exact .of_info rfl rfl
  · cases h
    unfold exitAck
    dsimp only
    split_ifs
    · refine ⟨fun i hi => ?_, by simp⟩
      rw [info_send] at hi
      exact getLsbD_of_miscClearBit hi
    · exact ⟨fun i hi => getLsbD_of_miscClearBit hi, rfl⟩
  · cases h
    exact .of_info rfl rfl
  · cases h
    exact .of_info rfl rfl
  · cases h
    unfold managerGetProperty
    dsimp only
    split_ifs <;> exact .send
  · unfold managerSetProperty at h
    dsimp only at h
    split_ifs at h
    · rw [Option.map_eq_some_iff] at h
      obtain ⟨block, -, rfl⟩ := h
      rw [setSleep_of_ne_run hstatus]
      exact .send
    · cases h
      exact ⟨fun i hi => by simpa [ManagerState.setTimezone] using hi,
        by simp [ManagerState.setTimezone]⟩
    · cases h
      exact .send
  · cases h
    exact .of_info rfl rfl

/-- A step of the task in the waiting status. -/
theorem task_wait {w : Wait} (hfunc : s.info.task.func = some w.func) (hstatus : s.info.status = w.status)
    (h : s.task input = some s') :
    (s.info.threadStart = sleepMask s.config ∧ s' = s.setStatus w.next) ∨
      (s.info.threadStart ≠ sleepMask s.config ∧ s' = s.announceQuitter) := by
  cases w
  all_goals
    simp only [ManagerState.task, hfunc, Wait.func, Option.some.injEq] at h
    subst h
  · simp only [taskSleep, hstatus, Wait.status, Wait.next]
    split_ifs with heq
    · exact .inl ⟨heq, rfl⟩
    · exact .inr ⟨heq, rfl⟩
  · simp only [taskTesting, hstatus, Wait.status, Wait.next]
    split_ifs with heq
    · exact .inl ⟨heq, rfl⟩
    · exact .inr ⟨heq, rfl⟩

/-- The step of the task that requests the exits. -/
theorem task_request {w : Wait} (hfunc : s.info.task.func = some w.func)
    (hstatus : s.info.status = w.request) (h : s.task input = some s') :
    s' = (s.stopServers w.select).setStatus w.status := by
  cases w
  all_goals
    simp only [ManagerState.task, hfunc, Wait.func, Option.some.injEq] at h
    subst h
  · simp only [taskSleep, hstatus, Wait.request, Wait.status]
    rfl
  · simp only [taskTesting, hstatus, Wait.request, Wait.status]
    rfl

/-! ### The end of the wait -/

/-- The task waits. -/
def Waits (w : Wait) (s : ManagerState) : Prop :=
  s.info.task.func = some w.func ∧ s.info.status = w.status

instance {w : Wait} {s : ManagerState} : Decidable (Waits w s) :=
  inferInstanceAs (Decidable (_ ∧ _))

/-- What the wait keeps, `s₀` being the state in which the exits were requested. -/
structure WaitInv (s₀ s : ManagerState) : Prop where
  inv : ManagerInv s
  onlyLeave : OnlyLeave s₀ s

variable {w : Wait} {s₀ s₁ : ManagerState}

theorem WaitInv.trans (h : WaitInv s₀ s) (hinv : ManagerInv s') (hs : OnlyLeave s s') :
    WaitInv s₀ s' :=
  ⟨hinv, fun i hi => h.onlyLeave.threadStart i (hs.threadStart i hi),
    hs.serverSleep.trans h.onlyLeave.serverSleep⟩

/-- The step lemma. -/
theorem waitInv_step {a : ManagerAction} (h : WaitInv s₀ s) (hwait : Waits w s)
    (hs : s.step a = some s') : WaitInv s₀ s' := by
  refine h.trans (managerInv_step h.inv hs) ?_
  cases a with
  | task input =>
    obtain ⟨t, ht, rfl⟩ := step_task hs
    rcases task_wait (s := s.noteStatus) hwait.1 hwait.2 ht with ⟨-, rfl⟩ | ⟨-, rfl⟩
    · exact ⟨fun i hi => hi, rfl⟩
    · obtain ⟨hinfo, hconfig⟩ := info_announceQuitter (s := s.noteStatus)
      have hleave := OnlyLeave.of_info hinfo hconfig
      exact ⟨hleave.threadStart, hleave.serverSleep⟩
  | message input =>
    obtain ⟨t, ht, rfl⟩ := step_message hs
    rcases serverMessageProc_cases ht with ⟨rfl, -⟩ | ⟨msg, -, hpop, hmsg⟩
    · exact .of_info rfl rfl
    · have hrun : (s.taken msg).info.status ≠ .run := by
        show s.info.status ≠ .run
        rw [hwait.2]
        cases w <;> decide
      have hleave := onlyLeave_managerMessage hrun (h.inv.noTimerOn.of_pop hpop) hmsg
      exact ⟨hleave.threadStart, hleave.serverSleep⟩
  | arrive msg =>
    obtain ⟨-, rfl⟩ := step_arrive hs
    exact .of_info rfl rfl
  | pollBegin =>
    obtain rfl := step_pollBegin hs
    exact .of_info rfl rfl
  | pollSlot now again =>
    obtain ⟨server, i, hi, hpoll, rfl⟩ := step_pollSlot hs
    rw [ManagerState.pollSlot]
    rcases (timerProcSlot server now again s.table ⟨i, hi⟩).2 with _ | timer
    · exact .of_info rfl rfl
    · exact .of_info info_send config_send
  | pollEnd =>
    obtain rfl := step_pollEnd hs
    exact .of_info rfl rfl
  | timerEnd =>
    obtain rfl := step_timerEnd hs
    exact .of_info info_send config_send

/-- The request starts the wait. -/
theorem waitInv_request (hinv : ManagerInv s₀) (hfunc : s₀.info.task.func = some w.func)
    (hstatus : s₀.info.status = w.request) (hs : s₀.step (.task input) = some s₁) :
    WaitInv s₀ s₁ := by
  have hinv₁ := managerInv_step hinv hs
  obtain ⟨t, ht, rfl⟩ := step_task hs
  obtain rfl := task_request (s := s₀.noteStatus) (w := w) hfunc hstatus ht
  obtain ⟨hinfo, hconfig⟩ := info_stopServers (s := s₀.noteStatus) w.select
  have hleave := OnlyLeave.of_info hinfo hconfig
  exact ⟨hinv₁, hleave.threadStart, hleave.serverSleep⟩

/-- When all selected servers have gone, the comparison of the wait succeeds exactly if the wait can
end. -/
theorem WaitInv.eq_sleepMask_iff (h : WaitInv s₀ s)
    (hacked : ∀ t, Selected w s₀ t → s.info.threadStart.getLsbD t.toNat = false) :
    s.info.threadStart = sleepMask s.config ↔
      WaitCanEnd w s₀.config.serverSleep s₀.info.threadStart s.info.threadStart := by
  rw [← h.onlyLeave.serverSleep]
  exact Manager.eq_sleepMask_iff h.inv.clear.threadStart h.onlyLeave.threadStart
    fun t hrun hin hsel => hacked t ⟨hrun, h.onlyLeave.serverSleep ▸ hin, hsel⟩

theorem next_ne_status : w.next ≠ w.status := by cases w <;> decide

/-- In `STATUS_RUN` a wake-up is accepted. -/
theorem setSleep_wakeup (hrun : s.info.status = .run) (henable : s.config.sleepEnable ≠ 0#32) :
    (setSleep 1#32 s).2 = 1#32 := by
  have hchanged : sleepUnchanged 1#32 s.config.sleepEnable = false := by
    simp [sleepUnchanged, henable]
  rw [setSleep, if_neg (by rw [hchanged]; exact Bool.false_ne_true), if_pos ⟨rfl, hrun⟩]

theorem taskSleep_start (h : s.info.status = .start) : taskSleep s = s.setStatus .run := by
  rw [taskSleep, h]

/-- A task that waits does not reach `STATUS_RUN` in one step. -/
theorem taskSleep_idle_ne_run (h : s.info.status = .idle) : (taskSleep s).info.status ≠ .run := by
  rw [taskSleep, h]
  dsimp only
  split_ifs
  · exact fun h => by cases h
  · rw [info_announceQuitter.1, h]
    decide

/-- From the step that requests the exits on, while the task waits: once all stopped servers have
acknowledged, the next step of the task leaves the wait exactly when the wait can end; and then, for
the sleep, one more step reaches `STATUS_RUN`, where a wake-up is accepted. -/
theorem wait_ends_iff (w : Wait) (s₀ s₁ s s' : ManagerState) (input input' : ManagerInput)
    (hinv : ManagerInv s₀) (hfunc : s₀.info.task.func = some w.func)
    (hstatus : s₀.info.status = w.request) (hrequest : s₀.step (.task input) = some s₁)
    (hrun : Reach ManagerState.step (fun s _ => Waits w s) s₁ s) (hwait : Waits w s)
    (hacked : ∀ t, Selected w s₀ t → s.info.threadStart.getLsbD t.toNat = false)
    (hnext : s.step (.task input') = some s') :
    (s'.info.status ≠ w.status ↔
        WaitCanEnd w s₀.config.serverSleep s₀.info.threadStart s.info.threadStart) ∧
      (w = .sleep → s.config.sleepEnable ≠ 0#32 →
        (((taskSleep s').info.status = .run ∧ (setSleep 1#32 (taskSleep s')).2 = 1#32) ↔
          WaitCanEnd w s₀.config.serverSleep s₀.info.threadStart s.info.threadStart)) := by
  have h : WaitInv s₀ s := hrun.inv (waitInv_request hinv hfunc hstatus hrequest)
    fun _ _ _ h hok hs => waitInv_step h hok hs
  have hiff := h.eq_sleepMask_iff hacked
  obtain ⟨t, ht, rfl⟩ := step_task hnext
  rcases task_wait (s := s.noteStatus) hwait.1 hwait.2 ht with ⟨heq, rfl⟩ | ⟨hne, rfl⟩
  · have hcan := hiff.mp heq
    refine ⟨iff_of_true next_ne_status hcan, ?_⟩
    rintro rfl hsleep
    refine iff_of_true ?_ hcan
    rw [taskSleep_start rfl]
    exact ⟨rfl, setSleep_wakeup rfl hsleep⟩
  · have hcannot := mt hiff.mpr hne
    have hstill : s.noteStatus.announceQuitter.info.status = w.status := by
      rw [info_announceQuitter.1]
      exact hwait.2
    refine ⟨iff_of_false (not_not.mpr hstill) hcannot, ?_⟩
    rintro rfl -
    have hnot := taskSleep_idle_ne_run (s := { s.noteStatus.announceQuitter with pc := .message })
      hstill
    exact iff_of_false (fun hend => hnot hend.1) hcannot

/-! ### Runs of the wait -/

/-- One pass of `manager_proc`. -/
def pass : List ManagerAction := [.task {}, .message {}]

/-- All servers but the aliyun server acknowledge one after the other. -/
def sleepAcks : List ManagerAction :=
  ([.device, .goke, .video, .audio, .recorder, .player].map fun t =>
    ManagerAction.arrive (exitAckMsg t) :: pass).flatten

/-- The manager about to request the exits, all servers running and all but the aliyun server in the
sleep mask, whose reserved bits are set. -/
def sleepState : ManagerState where
  config := { runningMode := .sleep, serverSleep := 0x7F7F#32, sleepEnable := 1#32 }
  info := { status := .setup, task := { func := some .taskSleep }, threadStart := 0xFE#32 }
  message := managerConfig.queue .manager

theorem managerInv_sleepState : ManagerInv sleepState := by
  refine ⟨⟨fun i hi => ?_, fun server i hp => by cases hp⟩, noTimerOn_queue⟩
  have hlt : i < 32 := BitVec.lt_of_getLsbD hi
  revert hi
  decide +revert +kernel

/-- `sleepState` after the step that requests the exits. -/
def sleepRequested : ManagerState :=
  { (sleepState.noteStatus.stopServers Wait.sleep.select).setStatus .idle with pc := .message }

/-- With that mask the sleep ends after six acknowledgements. -/
theorem sleep_ends :
    ∃ s s', Reach ManagerState.step (fun s _ => Waits .sleep s) sleepRequested s ∧
      s.step (.task {}) = some s' ∧
      (s'.info.status ≠ .idle ↔ WaitCanEnd .sleep 0x7F7F#32 0xFE#32 s.info.threadStart) := by
  have hrun : (exec ManagerState.step (fun s _ => decide (Waits .sleep s)) sleepRequested
      (.message {} :: sleepAcks)).any (fun s => (s.step (.task {})).any fun s' => decide
        (Waits .sleep s ∧ s.info.threadStart = 0x80#32)) = true := by
    decide
  obtain ⟨s, s', hreach, hstep, hwait, hgone⟩ : ∃ s s', Reach ManagerState.step
      (fun s _ => Waits .sleep s) sleepRequested s ∧ s.step (.task {}) = some s' ∧
      (Waits .sleep s ∧ s.info.threadStart = 0x80#32) :=
    Reach.exists_step_of_exec (fun _ _ h => of_decide_eq_true h) hrun
  refine ⟨s, s', hreach, hstep, ?_⟩
  have hends := wait_ends_iff .sleep sleepState sleepRequested s s' {} {} managerInv_sleepState rfl
    rfl rfl hreach hwait (fun t ht => ?_) hstep
  · exact hends.1
  · rw [hgone]
    revert ht
    cases t <;> decide

/-- A request to sleep. -/
def sleepRequest : Message where
  message := msgManagerPropertySet
  sender := ServerType.aliyun.toInt
  receiver := ServerType.aliyun.toInt
  argIn := { cat := managerPropertySleep }
  arg := some (intBytes 0#32)
  argSize := 4#32

/-- All servers start, a request to sleep is handled, the stopped servers acknowledge. -/
def sleepRun : List ManagerAction :=
  (List.replicate 5 pass).flatten ++ .arrive sleepRequest :: (List.replicate 4 pass).flatten ++
    sleepAcks

/-- With the shipped configuration all selected servers have acknowledged and only the aliyun server
runs, yet the task keeps waiting. -/
theorem sleep_stuck :
    ∃ s s', Reach ManagerState.step AllRuns (managerInit managerConfig) s ∧
      s.step (.task {}) = some s' ∧
      (s.info.task.func = some .taskSleep ∧ s.info.status = .idle ∧
        s.info.threadStart = 1#32 <<< ServerType.aliyun.toNat ∧ s'.info.status = .idle) := by
  have hrun : (exec ManagerState.step (fun _ _ => true) (managerInit managerConfig) sleepRun).any
      (fun s => (s.step (.task {})).any fun s' => decide
        (s.info.task.func = some .taskSleep ∧ s.info.status = .idle ∧
          s.info.threadStart = 1#32 <<< ServerType.aliyun.toNat ∧ s'.info.status = .idle)) = true := by
    decide
  exact Reach.exists_step_of_exec (fun _ _ _ => trivial) hrun

end GokeWebcam.Manager
