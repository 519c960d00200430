import GokeWebcam.Lib.Transition
import GokeWebcam.Manager.Manager

/-!
# Who keeps a timer

A timer of an owner that is alive should leave the table only by its own one-shot firing, by a
`TIMER_REMOVE` for its handler or by an add with the same handler. `timer_proc` decides by the bit
of the owner's number whether the owner is alive, with an exception for the number 32; the manager
has the number 0, whose bit nobody sets.

* `Undisturbed`: what all functions of the main thread but the two timer requests leave alone.
* `timerKept_iff`: a run keeps the timers of live owners exactly when no poll examines a timer of
  the manager, or one whose owner was started after the poll began.
* `routineTimer_discarded`: the first poll discards the manager's own periodic timers.
-/

namespace GokeWebcam.Manager

open Lib Common Global Server

variable {s s' s'' : ManagerState} {input : ManagerInput}

/-! ### What the main thread leaves alone -/

/-- The word has only bits of servers other than the manager. -/
def OnlyServers (w : CInt) : Prop :=
  ∀ i, w.getLsbD i = true → ∃ t : ServerType, t ≠ .manager ∧ t.toNat = i

theorem onlyServers_zero : OnlyServers 0#32 := fun i h => by rw [BitVec.getLsbD_zero] at h; cases h

namespace OnlyServers

variable {w : CInt}

theorem bit_zero (h : OnlyServers w) : w.getLsbD 0 = false := by
  by_contra hbit
  obtain ⟨t, ht, h0⟩ := h 0 (by simpa using hbit)
  exact ht (ServerType.toNat_inj.mp h0)

theorem miscSetBit (h : OnlyServers w) {t : ServerType} (ht : t ≠ .manager) :
    OnlyServers (miscSetBit w t.toNat) := by
  intro i hi
  rw [getLsbD_miscSetBit (BitVec.lt_of_getLsbD hi), Bool.or_eq_true, decide_eq_true_eq] at hi
  rcases hi with hi | hi
  · exact ⟨t, ht, hi⟩
  · exact h i hi

theorem miscClearBit {j : ℕ} (h : OnlyServers w) : OnlyServers (miscClearBit w j) :=
  fun i hi => h i (getLsbD_of_miscClearBit hi)

end OnlyServers

/-- From `s` to `s'` the timer table and the timer thread are untouched and nothing but servers
other than the manager is entered as running. -/
structure Undisturbed (s s' : ManagerState) : Prop where
  table_eq : s'.table = s.table
  poll_eq : s'.poll = s.poll
  servers : OnlyServers s.info.threadStart → OnlyServers s'.info.threadStart

namespace Undisturbed

theorem of_eq (htable : s'.table = s.table) (hpoll : s'.poll = s.poll)
    (hstart : s'.info.threadStart = s.info.threadStart) : Undisturbed s s' :=
  ⟨htable, hpoll, fun h0 => hstart ▸ h0⟩

theorem refl : Undisturbed s s := of_eq rfl rfl rfl

theorem trans (h : Undisturbed s s') (h' : Undisturbed s' s'') : Undisturbed s s'' :=
  ⟨h'.table_eq.trans h.table_eq, h'.poll_eq.trans h.poll_eq, fun h0 => h'.servers (h.servers h0)⟩

theorem send {receiver : CInt} {msg : Message} : Undisturbed s (s.send receiver msg) := by
  unfold ManagerState.send
  split_ifs <;> exact of_eq rfl rfl rfl

theorem setStatus {status : ServerStatus} : Undisturbed s (s.setStatus status) :=
  of_eq rfl rfl rfl

theorem setFunc {func : TaskFunc} : Undisturbed s (s.setFunc func) := of_eq rfl rfl rfl

theorem setRunningMode {mode : RunningMode} : Undisturbed s (s.setRunningMode mode) :=
  of_eq rfl rfl rfl

theorem setSleepEnable {enable : CInt} : Undisturbed s (s.setSleepEnable enable) :=
  of_eq rfl rfl rfl

theorem setTimezone {timezone : CInt} : Undisturbed s (s.setTimezone timezone) := of_eq rfl rfl rfl

/-- A loop over the servers of steps that leave everything alone. -/
theorem foldl {f : ManagerState → ServerType → ManagerState} (h : ∀ s t, Undisturbed s (f s t))
    (ts : List ServerType) : Undisturbed s (ts.foldl f s) := by
  induction ts generalizing s with
  | nil => exact refl
  | cons t ts ih => exact (h s t).trans ih

theorem broadcast {msg : Message} : Undisturbed s (s.broadcast msg) :=
  foldl (fun s t => by split_ifs; exacts [send, refl]) _

theorem announceQuitter : Undisturbed s s.announceQuitter := by
  unfold ManagerState.announceQuitter
  split_ifs
  · exact broadcast
  · exact refl

theorem managerServerStart {server : CInt} :
    Undisturbed s (managerServerStart input server s) := by
  unfold Manager.managerServerStart
  split
  · exact refl
  · exact refl
  · next t hne _ =>
    split_ifs
    · refine ⟨rfl, rfl, fun h0 => ?_⟩
      exact h0.miscSetBit hne
    · exact refl

theorem managerServerStop {server : ServerType} : Undisturbed s (managerServerStop server s) := send

theorem startServers : Undisturbed s (s.startServers input) :=
  foldl (fun s t => by split_ifs; exacts [managerServerStart, refl]) _

theorem stopServers {select : ServerType → Bool} : Undisturbed s (s.stopServers select) :=
  foldl (fun s t => by split_ifs; exacts [managerServerStop, refl]) _

theorem managerWakeup : Undisturbed s (managerWakeup s) :=
  (setStatus.trans setFunc).trans send

theorem toExit : Undisturbed s s.toExit := of_eq rfl rfl rfl

theorem taskDefault : Undisturbed s (taskDefault input s) := by
  unfold Manager.taskDefault
  split
  case h_3 => exact startServers.trans setStatus
  all_goals exact of_eq rfl rfl rfl

theorem taskSleep : Undisturbed s (taskSleep s) := by
  unfold Manager.taskSleep
  split
  case h_3 => exact stopServers.trans setStatus
  case h_4 =>
    split_ifs
    · exact setStatus
    · exact announceQuitter
  all_goals exact of_eq rfl rfl rfl

theorem taskDeepSleep : Undisturbed s (taskDeepSleep s) := by
  unfold Manager.taskDeepSleep
  split
  case h_3 =>
    refine (foldl (fun s t => ?_) _).trans setStatus
    split_ifs
    exacts [managerServerStop, refl]
  case h_4 =>
    split_ifs
    · exact setStatus
    · exact announceQuitter
  all_goals exact of_eq rfl rfl rfl

theorem taskTesting : Undisturbed s (taskTesting input s) := by
  unfold Manager.taskTesting
  split
  case h_3 => exact startServers.trans setStatus
  case h_5 => exact send.trans setStatus
  case h_6 => exact stopServers.trans setStatus
  case h_7 =>
    split_ifs
    · exact setStatus
    · exact announceQuitter
  all_goals exact of_eq rfl rfl rfl

theorem taskExit : Undisturbed s (taskExit s) := by
  unfold Manager.taskExit
  split
  case h_1 => exact broadcast.trans setStatus
  case h_2 =>
    split_ifs
    · exact setStatus
    · exact announceQuitter
  case h_4 =>
    dsimp only
    split_ifs <;> exact of_eq rfl rfl rfl
  case h_5 =>
    have h : Undisturbed s (s.send ServerType.manager.toInt sleepReleaseMsg) := send
    exact ⟨h.table_eq, h.poll_eq, h.servers⟩
  case h_6 =>
    split_ifs <;> exact of_eq rfl rfl rfl
  all_goals exact of_eq rfl rfl rfl

/-- A task of the main thread. -/
theorem task (h : s.task input = some s') : Undisturbed s s' := by
  unfold ManagerState.task at h
  split at h
  · cases h
  all_goals cases h
  exacts [taskDefault, taskSleep, taskDeepSleep, taskTesting, taskExit]

theorem callHandler {handler : Option Handler} {arg : MessageArg}
    (h : callHandler input handler arg s = some s') : Undisturbed s s' := by
  unfold Manager.callHandler at h
  split at h <;> cases h
  · exact refl
  · unfold sleepCheckScheduler
    split_ifs
    exacts [of_eq rfl rfl rfl, managerWakeup, refl]
  · unfold testFunc
    split_ifs <;> exact of_eq rfl rfl rfl
  · exact managerServerStart

theorem exitAck {msg : Message} : Undisturbed s (exitAck msg s) := by
  have hclear : Undisturbed s { s with info := { s.info with
      threadStart := miscClearBit s.info.threadStart msg.sender.toNat } } :=
    ⟨rfl, rfl, OnlyServers.miscClearBit⟩
  unfold Manager.exitAck
  dsimp only
  split_ifs
  · exact hclear.trans send
  · exact hclear

theorem sigint : Undisturbed s (sigint s) := by
  unfold Manager.sigint
  split_ifs <;> exact of_eq rfl rfl rfl

theorem managerGetProperty {msg : Message} : Undisturbed s (managerGetProperty msg s) := by
  unfold Manager.managerGetProperty
  dsimp only
  split_ifs <;> exact send

theorem setSleep {temp : CInt} : Undisturbed s (setSleep temp s).1 := by
  unfold Manager.setSleep
  split_ifs
  · exact refl
  · exact setRunningMode.trans (setSleepEnable.trans managerWakeup)
  · exact of_eq rfl rfl rfl
  · exact refl

theorem managerSetProperty {msg : Message} (h : managerSetProperty msg s = some s') :
    Undisturbed s s' := by
  unfold Manager.managerSetProperty at h
  dsimp only at h
  split_ifs at h
  · rw [Option.map_eq_some_iff] at h
    obtain ⟨block, -, rfl⟩ := h
    exact setSleep.trans send
  · cases h
    exact setTimezone.trans send
  · cases h
    exact send

end Undisturbed

/-- All a popped message can do to the timers. -/
theorem managerMessage_cases {msg : Message} (h : managerMessage input msg s = some s') :
    Undisturbed s s' ∨
      (msg.message = msgManagerTimerAdd ∧
        s' = { s with table := (timerAdd s.table input.now msg.argIn.handler msg.argIn.cat
          msg.argIn.dog msg.argIn.duck msg.sender msg.argPass).1 }) ∨
      (msg.message = msgManagerTimerRemove ∧
        s' = { s with table := (timerRemove s.table msg.argIn.handler).1 }) := by
  unfold managerMessage at h
  split_ifs at h with _ _ hadd _ hremove
  · cases h
    exact .inl .sigint
  · cases h
    exact .inl .exitAck
  · cases h
    exact .inr (.inl ⟨hadd, rfl⟩)
  · exact .inl (.callHandler h)
  · cases h
    exact .inr (.inr ⟨hremove, rfl⟩)
  · cases h
    exact .inl .managerGetProperty
  · exact .inl (.managerSetProperty h)
  · cases h
    exact .inl .refl

theorem undisturbed_taken {m : Message} : Undisturbed s (s.taken m) := .of_eq rfl rfl rfl

/-! ### What a poll sees -/

/-- Nobody enters the manager as running, so no poll is told that it is. -/
structure ServersRunning (s : ManagerState) : Prop where
  threadStart : OnlyServers s.info.threadStart
  polling : ∀ server i, s.poll = .polling server i → OnlyServers server

theorem ServersRunning.of_undisturbed (h : ServersRunning s) (hu : Undisturbed s s') :
    ServersRunning s' :=
  ⟨hu.servers h.threadStart, fun server i hp => h.polling server i (hu.poll_eq ▸ hp)⟩

theorem serversRunning_init {config : ManagerConfig} : ServersRunning (managerInit config) := by
  have hboot : ServersRunning (managerBoot config) :=
    ⟨onlyServers_zero, fun server i hp => by cases hp⟩
  exact (hboot.of_undisturbed .send).of_undisturbed .send

/-- The step lemma. -/
theorem serversRunning_step {a : ManagerAction} (h : ServersRunning s) (hs : s.step a = some s') :
    ServersRunning s' := by
  cases a with
  | task input =>
    obtain ⟨t, ht, rfl⟩ := step_task hs
    have hu : Undisturbed s t := .trans (.of_eq rfl rfl rfl : Undisturbed s s.noteStatus) (.task ht)
    have ht := h.of_undisturbed hu
    exact ⟨ht.threadStart, ht.polling⟩
  | message input =>
    obtain ⟨t, ht, rfl⟩ := step_message hs
    have hclear : ServersRunning t := by
      rcases serverMessageProc_cases ht with ⟨rfl, -⟩ | ⟨msg, -, -, hmsg⟩
      · exact h
      · have htaken := h.of_undisturbed (undisturbed_taken (s := s) (m := msg))
        rcases managerMessage_cases hmsg with hu | ⟨-, rfl⟩ | ⟨-, rfl⟩
        · exact htaken.of_undisturbed hu
        · exact ⟨htaken.threadStart, htaken.polling⟩
        · exact ⟨htaken.threadStart, htaken.polling⟩
    exact ⟨hclear.threadStart, hclear.polling⟩
  | arrive msg =>
    obtain ⟨-, rfl⟩ := step_arrive hs
    exact ⟨h.threadStart, h.polling⟩
  | pollBegin =>
    obtain rfl := step_pollBegin hs
    exact ⟨h.threadStart, fun server i hp => by cases hp; exact h.threadStart⟩
  | pollSlot now again =>
    obtain ⟨server, i, hi, hpoll, rfl⟩ := step_pollSlot hs
    have hserver := h.polling server i hpoll
    have hmid : ServersRunning { s with
        table := (timerProcSlot server now again s.table ⟨i, hi⟩).1
        poll := .polling server (i + 1) } :=
      ⟨h.threadStart, fun _ _ hp => by cases hp; exact hserver⟩
    rw [ManagerState.pollSlot]
    rcases (timerProcSlot server now again s.table ⟨i, hi⟩).2 with _ | timer
    · exact hmid
    · exact hmid.of_undisturbed .send
  | pollEnd =>
    obtain rfl := step_pollEnd hs
    exact ⟨h.threadStart, fun _ _ hp => by cases hp⟩
  | timerEnd =>
    obtain rfl := step_timerEnd hs
    have hmid : ServersRunning { s with table := timerRelease s.table, poll := .ended } :=
      ⟨h.threadStart, fun _ _ hp => by cases hp⟩
    exact hmid.of_undisturbed .send

/-! ### Timers of live owners -/

/-- The owner is alive: the manager until it ends, another server while its bit is set. -/
def ManagerState.ownerAlive (s : ManagerState) (sender : CInt) : Bool :=
  ServerType.all.any fun t =>
    sender = t.toInt && if t = .manager then !s.info.exit else s.running t

/-- The same timer, at most rearmed. -/
def SameTimer (t t' : TimerStruct) : Prop := t' = { t with tick := t'.tick }

instance (t t' : TimerStruct) : Decidable (SameTimer t t') := inferInstanceAs (Decidable (_ = _))

/-- The step is one by which the timer may leave: its own one-shot firing, or a request to remove
or to add a timer with its handler. -/
def mayLeave (s : ManagerState) (a : ManagerAction) (t : TimerStruct) : Bool :=
  match a with
  | .message _ =>
    (msgBufferPop s.message).2.any fun msg =>
      (msg.message = msgManagerTimerAdd || msg.message = msgManagerTimerRemove) &&
        msg.argIn.handler = t.fpcallback
  | .pollSlot now again =>
    match s.poll with
    | .polling server i =>
      if h : i < timerNumber then
        (timerProcSlot server now again s.table ⟨i, h⟩).2 = some t && t.oneshot = 1#32
      else false
    | _ => false
  | _ => false

/-- Every timer of a live owner stays, or leaves as it may. -/
def TimersKept (s : ManagerState) (a : ManagerAction) (s' : ManagerState) : Prop :=
  ∀ i, (s.table.timers i).Active → s.ownerAlive (s.table.timers i).sender = true →
    SameTimer (s.table.timers i) (s'.table.timers i) ∨ mayLeave s a (s.table.timers i) = true

instance {a : ManagerAction} : Decidable (TimersKept s a s') :=
  inferInstanceAs (Decidable (∀ _, _ → _ → _ ∨ _))

/-- A poll that examines a timer of a live owner was told that the owner is running, so the owner
is not the manager; and the timer thread ends only when no live owner has a timer. -/
def OwnersSeen (s : ManagerState) (a : ManagerAction) (_ : ManagerState) : Prop :=
  match a with
  | .pollSlot _ _ =>
    match s.poll with
    | .polling server i =>
      ∀ h : i < timerNumber, (s.table.timers ⟨i, h⟩).Active →
        s.ownerAlive (s.table.timers ⟨i, h⟩).sender = true →
        (s.table.timers ⟨i, h⟩).sender ≠ ServerType.manager.toInt ∧
          miscGetBit server (s.table.timers ⟨i, h⟩).sender.toNat ≠ 0#32
    | _ => True
  | .timerEnd => s.table.run = true → ∀ i, (s.table.timers i).Active →
      s.ownerAlive (s.table.timers i).sender = false
  | _ => True

theorem SameTimer.refl {t : TimerStruct} : SameTimer t t := rfl

theorem SameTimer.rearmed {t : TimerStruct} {tick : BitVec 32} :
    SameTimer t { t with tick := tick } := by
  rw [SameTimer]

theorem not_sameTimer_zero {t : TimerStruct} (h : t.Active) : ¬ SameTimer t {} := by
  intro hsame
  rw [SameTimer] at hsame
  have htid : (0#32 : CInt) = t.tid := (TimerStruct.mk.injEq .. ▸ hsame).1
  exact h htid.symm

theorem timersKept_of_table_eq {a : ManagerAction} (h : s'.table = s.table) : TimersKept s a s' :=
  fun _ _ _ => .inl (h ▸ SameTimer.refl)

/-- A step that writes one slot. -/
theorem timersKept_of_set {a : ManagerAction} {i : Fin timerNumber} {t : TimerStruct}
    (h : s'.table = s.table.set i t)
    (hi : (s.table.timers i).Active → s.ownerAlive (s.table.timers i).sender = true →
      SameTimer (s.table.timers i) t ∨ mayLeave s a (s.table.timers i) = true) : TimersKept s a s' := by
  intro j hactive halive
  rw [h, TimerTable.set_timers]
  by_cases hji : j = i
  · subst hji
    rw [if_pos rfl]
    exact hi hactive halive
  · rw [if_neg hji]
    exact .inl .refl

/-- The requests of the main thread remove only timers with the handler they name. -/
theorem timersKept_message {input : ManagerInput} {s' : ManagerState}
    (h : serverMessageProc input s = some s') : TimersKept s (.message input) s' := by
  rcases serverMessageProc_cases h with ⟨rfl, -⟩ | ⟨msg, -, hpop, hmsg⟩
  · exact timersKept_of_table_eq rfl
  · have hleave : ∀ (t : TimerStruct) (h : Handler),
        (msg.message = msgManagerTimerAdd ∨ msg.message = msgManagerTimerRemove) →
        msg.argIn.handler = some h → t.hasHandler h = true → mayLeave s (.message input) t = true := by
      intro t h hid hhandler ht
      rw [TimerStruct.hasHandler, Bool.and_eq_true] at ht
      have hcallback : t.fpcallback = some h := by simpa using ht.2
      simp [mayLeave, hpop, hid, hhandler, hcallback]
    rcases managerMessage_cases hmsg with hu | ⟨hid, rfl⟩ | ⟨hid, rfl⟩
    · exact timersKept_of_table_eq hu.table_eq
    · rcases timerAdd_cases s.table input.now msg.argIn.handler msg.argIn.cat
        msg.argIn.dog msg.argIn.duck msg.sender msg.argPass with hsame | ⟨h, i, hh, hslot, heq⟩
      · exact timersKept_of_table_eq hsame
      · refine timersKept_of_set heq fun hactive _ => .inr ?_
        exact hleave _ h (.inl hid) hh (hslot.resolve_left (not_not.mpr hactive))
    · rcases timerRemove_cases s.table msg.argIn.handler with hsame | ⟨h, i, hh, hslot, heq⟩
      · exact timersKept_of_table_eq hsame
      · exact timersKept_of_set heq fun _ _ => .inr (hleave _ h (.inr hid) hh hslot)

theorem exists_of_ownerAlive {sender : CInt} (h : s.ownerAlive sender = true) :
    ∃ t : ServerType, sender = t.toInt := by
  rw [ManagerState.ownerAlive, List.any_eq_true] at h
  obtain ⟨t, -, ht⟩ := h
  rw [Bool.and_eq_true, decide_eq_true_eq] at ht
  exact ⟨t, ht.1⟩

/-- For the number of a server `timer_proc` looks at the bit only. -/
theorem ownerGone_iff {server : CInt} {t : TimerStruct} {owner : ServerType}
    (h : t.sender = owner.toInt) :
    ownerGone server t = true ↔ miscGetBit server t.sender.toNat = 0#32 := by
  have hne : t.sender ≠ 32#32 := by
    rw [h]
    cases owner <;> decide
  simp [ownerGone, hne]

theorem table_pollSlot {now again : BitVec 32} {server : CInt} {i : Fin timerNumber} :
    (s.pollSlot now again server i).table = (timerProcSlot server now again s.table i).1 := by
  rw [ManagerState.pollSlot]
  rcases (timerProcSlot server now again s.table i).2 with _ | timer
  · rfl
  · exact Undisturbed.send.table_eq

/-- One iteration of a poll keeps the timers of live owners exactly when it was told that the owner
of the timer it examines is running. -/
theorem timersKept_pollSlot (hclear : ServersRunning s) {now again : BitVec 32} {server : CInt} {i : ℕ}
    (hpoll : s.poll = .polling server i) (hi : i < timerNumber) :
    TimersKept s (.pollSlot now again) (s.pollSlot now again server ⟨i, hi⟩) ↔
      OwnersSeen s (.pollSlot now again) s' := by
  have hzero : miscGetBit server ServerType.manager.toInt.toNat = 0#32 :=
    (miscGetBit_eq_zero (by decide)).mpr (hclear.polling server i hpoll).bit_zero
  have hleave : ∀ t, mayLeave s (.pollSlot now again) t = true ↔
      (timerProcSlot server now again s.table ⟨i, hi⟩).2 = some t ∧ t.oneshot = 1#32 := by
    intro t
    simp [mayLeave, hpoll, hi]
  rw [OwnersSeen, hpoll]
  by_cases hactive : (s.table.timers ⟨i, hi⟩).Active
  swap
  · have hproc := timerProcSlot_free server now again hactive
    refine iff_of_true (timersKept_of_table_eq (by rw [table_pollSlot, hproc])) ?_
    exact fun _ h => absurd h hactive
  · rcases hgone : ownerGone server (s.table.timers ⟨i, hi⟩) with _ | _
    · -- the owner is taken to be running: the timer stays or fires
      have hproc := timerProcSlot_here now again hactive hgone
      refine iff_of_true ?_ fun _ _ halive => ?_
      · split_ifs at hproc with hdue hone
        · refine timersKept_of_set (by rw [table_pollSlot, hproc]) fun _ _ => ?_
          exact .inr ((hleave _).mpr ⟨by rw [hproc], hone⟩)
        · exact timersKept_of_set (by rw [table_pollSlot, hproc]) fun _ _ => .inl .rearmed
        · exact timersKept_of_table_eq (by rw [table_pollSlot, hproc])
      · obtain ⟨owner, howner⟩ := exists_of_ownerAlive halive
        have hbit : miscGetBit server (s.table.timers ⟨i, hi⟩).sender.toNat ≠ 0#32 := by
          rw [ne_eq, ← ownerGone_iff howner, hgone]
          exact Bool.false_ne_true
        refine ⟨fun hmanager => ?_, hbit⟩
        rw [hmanager, hzero] at hbit
        exact hbit rfl
    · -- the owner is taken to be gone: the timer is discarded
      have hproc := timerProcSlot_gone now again hactive hgone
      constructor
      · intro hkept _ _ halive
        rcases hkept _ hactive halive with hsame | hmay
        · rw [table_pollSlot, hproc, TimerTable.set_timers, if_pos rfl] at hsame
          exact absurd hsame (not_sameTimer_zero hactive)
        · rw [hleave, hproc] at hmay
          exact absurd hmay.1 (by simp)
      · intro hseen
        refine timersKept_of_set (by rw [table_pollSlot, hproc]) fun _ halive => ?_
        obtain ⟨owner, howner⟩ := exists_of_ownerAlive halive
        exact absurd ((ownerGone_iff howner).mp hgone) (hseen hi hactive halive).2

/-- The end of the timer thread clears the table. -/
theorem timersKept_timerEnd :
    TimersKept s .timerEnd s.timerEnded ↔ OwnersSeen s .timerEnd s' := by
  rw [OwnersSeen]
  have htable : s.timerEnded.table = timerRelease s.table := Undisturbed.send.table_eq
  rcases hrun : s.table.run with _ | _
  · refine iff_of_true (timersKept_of_table_eq ?_) (fun h => by cases h)
    rw [htable, timerRelease, hrun]
    rfl
  · have hrelease : timerRelease s.table = { run := false, timers := fun _ => {} } := by
      rw [timerRelease, if_pos hrun]
    constructor
    · intro hkept _ i hactive
      by_contra halive
      rcases hkept i hactive (by simpa using halive) with hsame | hmay
      · rw [htable, hrelease] at hsame
        exact not_sameTimer_zero hactive hsame
      · cases hmay
    · intro hdead i hactive halive
      rw [hdead rfl i hactive] at halive
      cases halive

/-- One step keeps the timers of live owners exactly when the owners are seen. -/
theorem timersKept_step {a : ManagerAction} (hclear : ServersRunning s) (hs : s.step a = some s') :
    TimersKept s a s' ↔ OwnersSeen s a s' := by
  cases a with
  | task input =>
    obtain ⟨t, ht, rfl⟩ := step_task hs
    exact iff_of_true (timersKept_of_table_eq (Undisturbed.task ht).table_eq) trivial
  | message input =>
    obtain ⟨t, ht, rfl⟩ := step_message hs
    exact iff_of_true (fun i => timersKept_message ht i) trivial
  | arrive msg =>
    obtain ⟨-, rfl⟩ := step_arrive hs
    exact iff_of_true (timersKept_of_table_eq rfl) trivial
  | pollBegin =>
    obtain rfl := step_pollBegin hs
    exact iff_of_true (timersKept_of_table_eq rfl) trivial
  | pollSlot now again =>
    obtain ⟨server, i, hi, hpoll, rfl⟩ := step_pollSlot hs
    exact timersKept_pollSlot hclear hpoll hi
  | pollEnd =>
    obtain rfl := step_pollEnd hs
    exact iff_of_true (timersKept_of_table_eq rfl) trivial
  | timerEnd =>
    obtain rfl := step_timerEnd hs
    exact timersKept_timerEnd

/-- A run of the manager keeps the timers of live owners exactly when every poll is told of the
owners of the timers it examines, so when none of them is the manager's. -/
theorem timersKept_iff (config : ManagerConfig) (as : List ManagerAction) :
    AllSteps ManagerState.step TimersKept (managerInit config) as ↔
      AllSteps ManagerState.step OwnersSeen (managerInit config) as :=
  allSteps_iff (fun _ _ _ => serversRunning_step) (fun _ _ _ => timersKept_step)
    serversRunning_init as

/-- With the shipped configuration the first poll that follows the first two messages discards the
manager's scheduler timer, which is neither due nor named by a request. -/
theorem managerTimer_discarded :
    ¬ AllSteps ManagerState.step TimersKept (managerInit managerConfig)
      [.task {}, .message {}, .pollBegin, .pollSlot 0#32 0#32] := by
  decide

end GokeWebcam.Manager
