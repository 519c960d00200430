import GokeWebcam.Common.MsgBufferRefine
import GokeWebcam.Common.MsgSlots
import GokeWebcam.Manager.TimerOwnership

/-!
# Restarting a failed server

When a server's exit acknowledgement is handled in the normal mode, the manager sends itself a
request for a one-shot timer that is to start the server again.

* `SelfSend`: what a step of the main thread can put into the manager's own ring.
* `NoTimerOn`: the manager's ring never holds a `TIMER_ON`, since `timer_proc` takes the manager for
  gone.
* `PendingStart`: a delayed start of a server waits in the ring or in the timer table.
* `startsKept_of_undisturbed`: it is kept while no poll examines it, no other server's start is
  added, no request removes it and the ring does not overflow; in no run does it fire.
* `delayedStart_replaced`: two servers that fail one after the other.
-/

namespace GokeWebcam.Manager

open Lib Common Global Server

set_option maxRecDepth 1024

variable {s s' s'' : ManagerState} {input : ManagerInput}

/-! ### What the manager sends to itself -/

/-- From `s` to `s'` at most one message is pushed into the manager's own ring, and it is not a
`TIMER_ON`. -/
def SelfSend (s s' : ManagerState) : Prop :=
  s'.message = s.message ∨
    ∃ m, m.message ≠ msgManagerTimerOn ∧ s'.message = (msgBufferPush s.message (some m)).1

theorem SelfSend.of_eq (h : s'.message = s.message) : SelfSend s s' := .inl h

theorem SelfSend.after (h : s'.message = s.message) (h' : SelfSend s' s'') : SelfSend s s'' := by
  rw [SelfSend, ← h]
  exact h'

theorem SelfSend.send {receiver : CInt} {msg : Message} (h : msg.message ≠ msgManagerTimerOn) :
    SelfSend s (s.send receiver msg) := by
  unfold ManagerState.send
  split_ifs
  · exact .inr ⟨msg, h, rfl⟩
  · exact .inl rfl

theorem SelfSend.refl : SelfSend s s := .inl rfl

theorem SelfSend.setStatus {status : ServerStatus} (h : SelfSend s s') :
    SelfSend s (s'.setStatus status) := h

/-- A message to a server that is not the manager does not enter the manager's ring. -/
theorem message_send {t : ServerType} {msg : Message} (h : t ≠ .manager) :
    (s.send t.toInt msg).message = s.message := by
  rw [ManagerState.send, if_neg (by rwa [ServerType.toInt_inj])]

/-- The manager is not entered as running. -/
theorem ne_manager_of_running (h0 : OnlyServers s.info.threadStart) {t : ServerType}
    (h : s.running t = true) : t ≠ .manager := by
  rintro rfl
  have hbit : miscGetBit s.info.threadStart ServerType.manager.toNat = 0#32 :=
    (miscGetBit_eq_zero (by decide)).mpr h0.bit_zero
  exact absurd hbit (by simpa [ManagerState.running] using h)

/-- A loop over the servers whose steps leave the manager's ring alone. -/
theorem message_foldl {f : ManagerState → ServerType → ManagerState}
    (h : ∀ s t, OnlyServers s.info.threadStart →
      (f s t).message = s.message ∧ OnlyServers (f s t).info.threadStart)
    (h0 : OnlyServers s.info.threadStart) (ts : List ServerType) :
    (ts.foldl f s).message = s.message := by
  induction ts generalizing s with
  | nil => rfl
  | cons t ts ih =>
      obtain ⟨hm, hb⟩ := h s t h0
      exact (ih hb).trans hm

theorem message_broadcast {msg : Message} (h0 : OnlyServers s.info.threadStart) :
    (s.broadcast msg).message = s.message := by
  refine message_foldl (fun s t h0 => ?_) h0 _
  split_ifs with h
  · exact ⟨message_send (ne_manager_of_running h0 h), Undisturbed.send.servers h0⟩
  · exact ⟨rfl, h0⟩

theorem message_announceQuitter (h0 : OnlyServers s.info.threadStart) :
    s.announceQuitter.message = s.message := by
  unfold ManagerState.announceQuitter
  split_ifs
  · exact message_broadcast h0
  · rfl

theorem message_stopServers {select : ServerType → Bool}
    (h0 : OnlyServers s.info.threadStart) : (s.stopServers select).message = s.message := by
  refine message_foldl (fun s t h0 => ?_) h0 _
  split_ifs with h
  · exact ⟨message_send (ne_manager_of_running h0 h.1), Undisturbed.send.servers h0⟩
  · exact ⟨rfl, h0⟩

theorem message_managerServerStart {server : CInt} :
    (managerServerStart input server s).message = s.message := by
  unfold managerServerStart
  split
  · rfl
  · rfl
  · split_ifs <;> rfl

theorem message_startServers (h0 : OnlyServers s.info.threadStart) :
    (s.startServers input).message = s.message := by
  refine message_foldl (fun s t h0 => ?_) h0 _
  split_ifs
  · exact ⟨message_managerServerStart, Undisturbed.managerServerStart.servers h0⟩
  · exact ⟨rfl, h0⟩

theorem selfSend_taskDefault (h0 : OnlyServers s.info.threadStart) :
    SelfSend s (taskDefault input s) := by
  unfold taskDefault
  split
  case h_3 => exact (SelfSend.of_eq (message_startServers h0)).setStatus
  case h_6 => exact SelfSend.refl
  case h_7 => exact SelfSend.refl
  all_goals exact SelfSend.refl.setStatus

theorem selfSend_taskSleep (h0 : OnlyServers s.info.threadStart) :
    SelfSend s (taskSleep s) := by
  unfold taskSleep
  split
  case h_3 => exact (SelfSend.of_eq (message_stopServers h0)).setStatus
  case h_4 =>
    split_ifs
    · exact SelfSend.refl.setStatus
    · exact .of_eq (message_announceQuitter h0)
  case h_6 => exact SelfSend.refl
  all_goals exact SelfSend.refl.setStatus

theorem selfSend_taskDeepSleep (h0 : OnlyServers s.info.threadStart) :
    SelfSend s (taskDeepSleep s) := by
  unfold taskDeepSleep
  split
  case h_3 =>
    refine (SelfSend.of_eq (message_foldl (fun s t h0 => ?_) h0 _)).setStatus
    split_ifs with h
    · exact ⟨message_send (ne_manager_of_running h0 h), Undisturbed.send.servers h0⟩
    · exact ⟨rfl, h0⟩
  case h_4 =>
    split_ifs
    · exact SelfSend.refl.setStatus
    · exact .of_eq (message_announceQuitter h0)
  case h_6 => exact SelfSend.refl
  all_goals exact SelfSend.refl.setStatus

theorem selfSend_taskTesting (h0 : OnlyServers s.info.threadStart) :
    SelfSend s (taskTesting input s) := by
  unfold taskTesting
  split
  case h_3 => exact (SelfSend.of_eq (message_startServers h0)).setStatus
  case h_5 =>
    have htimer : testTimer.message ≠ msgManagerTimerOn := by decide
    exact (SelfSend.send htimer).setStatus
  case h_6 => exact (SelfSend.of_eq (message_stopServers h0)).setStatus
  case h_7 =>
    split_ifs
    · exact SelfSend.refl.setStatus
    · exact .of_eq (message_announceQuitter h0)
  case h_8 => exact SelfSend.refl
  case h_9 => exact SelfSend.refl
  all_goals exact SelfSend.refl.setStatus

/-- The exit task sends the manager nothing until it releases the ring. -/
theorem message_taskExit (h0 : OnlyServers s.info.threadStart) :
    (taskExit s).message = s.message ∨ (taskExit s).message.buffer = [] := by
  unfold taskExit
  split
  case h_1 => exact .inl (message_broadcast h0)
  case h_2 =>
    split_ifs
    · exact .inl rfl
    · exact .inl (message_announceQuitter h0)
  case h_4 =>
    dsimp only
    split_ifs <;> exact .inl rfl
  case h_5 => exact .inr rfl
  case h_6 =>
    split_ifs <;> exact .inl rfl
  all_goals exact .inl rfl

/-- A task sends at most one message to the manager, or the exit task releases the ring. -/
theorem selfSend_task (h0 : OnlyServers s.info.threadStart) (h : s.task input = some s') :
    SelfSend s s' ∨ (s.info.task.func = some .taskExit ∧ s'.message.buffer = []) := by
  unfold ManagerState.task at h
  split at h
  · cases h
  · cases h
    exact .inl (selfSend_taskDefault h0)
  · cases h
    exact .inl (selfSend_taskSleep h0)
  · cases h
    exact .inl (selfSend_taskDeepSleep h0)
  · cases h
    exact .inl (selfSend_taskTesting h0)
  · next hfunc =>
    cases h
    rcases message_taskExit h0 with hsame | hempty
    · exact .inl (.of_eq hsame)
    · exact .inr ⟨hfunc, hempty⟩

theorem delayedStartMsg_ne {config : ManagerConfig} {server : CInt} :
    (delayedStartMsg config server).message ≠ msgManagerTimerOn := by
  show msgManagerTimerAdd ≠ msgManagerTimerOn
  decide

theorem message_setSleep {temp : CInt} : (setSleep temp s).1.message = s.message := by
  unfold setSleep
  split_ifs
  · rfl
  · exact message_send (by decide)
  · rfl
  · rfl

/-- A message that is not a `TIMER_ON` makes the manager send itself at most one message. -/
theorem selfSend_managerMessage {msg : Message} (hid : msg.message ≠ msgManagerTimerOn)
    (h : managerMessage input msg s = some s') : SelfSend s s' := by
  unfold managerMessage at h
  split_ifs at h
  · cases h
    unfold sigint
    split_ifs <;> exact .of_eq rfl
  · cases h
    unfold exitAck
    dsimp only
    split_ifs
    · exact SelfSend.after rfl (.send delayedStartMsg_ne)
    · exact .of_eq rfl
  · cases h
    exact .of_eq rfl
  · cases h
    exact .of_eq rfl
  · cases h
    unfold managerGetProperty
    dsimp only
    split_ifs <;> exact .send (ackOf_ne (by decide))
  · unfold managerSetProperty at h
    dsimp only at h
    split_ifs at h
    · rw [Option.map_eq_some_iff] at h
      obtain ⟨block, -, rfl⟩ := h
      exact SelfSend.after message_setSleep (.send (ackOf_ne (by decide)))
    · cases h
      exact SelfSend.after rfl (.send (ackOf_ne (by decide)))
    · cases h
      exact .send (ackOf_ne (by decide))
  · cases h
    exact .refl

/-! ### No delayed start ever fires -/

/-- No slot of the manager's ring holds a `TIMER_ON`. -/
def NoTimerOn (buff : MessageBuffer) : Prop := ∀ i, (buff.slot i).message ≠ msgManagerTimerOn

theorem slotProperty_ne {n : CInt} (hn : msgInit.message ≠ n) : SlotProperty fun m => m.message ≠ n :=
  .of_head (Q := fun message _ _ => message ≠ n) hn

theorem NoTimerOn.push {buff : MessageBuffer} {m : Message} (h : NoTimerOn buff)
    (hm : m.message ≠ msgManagerTimerOn) : NoTimerOn (msgBufferPush buff (some m)).1 :=
  AllSlots.push (slotProperty_ne (by decide)) h hm

theorem NoTimerOn.pop {buff : MessageBuffer} (h : NoTimerOn buff) :
    NoTimerOn (msgBufferPop buff).1 :=
  AllSlots.pop (slotProperty_ne (by decide)) h

theorem NoTimerOn.of_pop {buff : MessageBuffer} {m : Message} (h : NoTimerOn buff)
    (hpop : (msgBufferPop buff).2 = some m) : m.message ≠ msgManagerTimerOn :=
  AllSlots.of_pop (P := fun m => m.message ≠ msgManagerTimerOn) h hpop

theorem NoTimerOn.of_selfSend (h : NoTimerOn s.message) (hs : SelfSend s s') :
    NoTimerOn s'.message := by
  rcases hs with heq | ⟨m, hm, heq⟩
  · rwa [heq]
  · rw [heq]
    exact h.push hm

theorem noTimerOn_of_nil {buff : MessageBuffer} (h : buff.buffer = []) : NoTimerOn buff :=
  AllSlots.of_nil (slotProperty_ne (by decide)) h

/-- A firing timer is never the manager's, so its message does not enter the manager's ring. -/
theorem message_pollSlot (now again : BitVec 32) (hclear : ServersRunning s) {server : CInt} {i : ℕ}
    (hpoll : s.poll = .polling server i) (hi : i < timerNumber) :
    (s.pollSlot now again server ⟨i, hi⟩).message = s.message := by
  rw [ManagerState.pollSlot]
  rcases hfired : (timerProcSlot server now again s.table ⟨i, hi⟩).2 with _ | timer
  · rfl
  · have hgone := (timerProcSlot_fired hfired).2
    have hne : timer.sender ≠ ServerType.manager.toInt := by
      intro hmanager
      have hbit := (miscGetBit_eq_zero (by decide)).mpr (hclear.polling server i hpoll).bit_zero
      rw [(ownerGone_iff hmanager).mpr (by rw [hmanager]; exact hbit)] at hgone
      cases hgone
    dsimp only
    rw [ManagerState.send, if_neg hne]

/-- What every run keeps. -/
structure ManagerInv (s : ManagerState) : Prop where
  clear : ServersRunning s
  noTimerOn : NoTimerOn s.message

theorem noTimerOn_queue {config : ManagerConfig} : NoTimerOn (config.queue .manager) :=
  AllSlots.init (slotProperty_ne (by decide))

theorem managerInv_init {config : ManagerConfig} : ManagerInv (managerInit config) := by
  refine ⟨serversRunning_init, ?_⟩
  have hboot : NoTimerOn (managerBoot config).message := noTimerOn_queue
  exact (hboot.of_selfSend (.send (by decide))).of_selfSend (.send (by decide))

/-- The step lemma. -/
theorem managerInv_step {a : ManagerAction} (h : ManagerInv s) (hs : s.step a = some s') :
    ManagerInv s' := by
  refine ⟨serversRunning_step h.clear hs, ?_⟩
  cases a with
  | task input =>
    obtain ⟨t, ht, rfl⟩ := step_task hs
    have hnoted : NoTimerOn s.noteStatus.message := h.noTimerOn
    have h0 : OnlyServers s.noteStatus.info.threadStart := h.clear.threadStart
    rcases selfSend_task h0 ht with hsend | ⟨-, hnil⟩
    · exact hnoted.of_selfSend hsend
    · exact noTimerOn_of_nil hnil
  | message input =>
    obtain ⟨t, ht, rfl⟩ := step_message hs
    rcases serverMessageProc_cases ht with ⟨rfl, -⟩ | ⟨msg, -, hpop, hmsg⟩
    · exact h.noTimerOn
    · have hid := h.noTimerOn.of_pop hpop
      have htaken : NoTimerOn (s.taken msg).message := h.noTimerOn.pop
      have hsend : SelfSend (s.taken msg) t := selfSend_managerMessage hid hmsg
      exact htaken.of_selfSend hsend
  | arrive msg =>
    obtain ⟨hid, rfl⟩ := step_arrive hs
    exact h.noTimerOn.push hid
  | pollBegin =>
    obtain rfl := step_pollBegin hs
    exact h.noTimerOn
  | pollSlot now again =>
    obtain ⟨server, i, hi, hpoll, rfl⟩ := step_pollSlot hs
    rw [message_pollSlot now again h.clear hpoll hi]
    exact h.noTimerOn
  | pollEnd =>
    obtain rfl := step_pollEnd hs
    exact h.noTimerOn
  | timerEnd =>
    obtain rfl := step_timerEnd hs
    have hmid : NoTimerOn ({ s with table := timerRelease s.table, poll := .ended } :
        ManagerState).message := h.noTimerOn
    exact hmid.of_selfSend (.send (by decide))

/-- The step handles the firing of a delayed start of the server `b`. -/
def StartFires (s : ManagerState) (a : ManagerAction) (b : CInt) : Prop :=
  ∃ input msg, a = .message input ∧ (msgBufferPop s.message).2 = some msg ∧
    msg.message = msgManagerTimerOn ∧ msg.argIn.handler = some .managerDelayedStart ∧
    msg.argPass.cat = b

theorem not_startFires {a : ManagerAction} {b : CInt} (h : ManagerInv s) : ¬ StartFires s a b := by
  rintro ⟨input, msg, -, hpop, hid, -⟩
  exact h.noTimerOn.of_pop hpop hid

/-! ### Pending starts -/

/-- The message asks for a delayed start of the server `b`. -/
def RequestsStart (b : CInt) (m : Message) : Prop :=
  m.message = msgManagerTimerAdd ∧ m.argIn.handler = some .managerDelayedStart ∧ m.argPass.cat = b

/-- The timer is a delayed start. -/
def TimerStruct.IsStart (t : TimerStruct) : Prop :=
  t.Active ∧ t.fpcallback = some .managerDelayedStart

instance {b : CInt} {m : Message} : Decidable (RequestsStart b m) :=
  inferInstanceAs (Decidable (_ ∧ _ ∧ _))

instance {t : TimerStruct} : Decidable t.IsStart := inferInstanceAs (Decidable (_ ∧ _))

/-- A delayed start of the server `b` waits in the manager's ring or in the timer table. -/
def PendingStart (s : ManagerState) (b : CInt) : Prop :=
  (∃ m ∈ s.message.contents, RequestsStart b m) ∨
    ∃ i, (s.table.timers i).IsStart ∧ (s.table.timers i).arg.cat = b

instance {b : CInt} : Decidable (PendingStart s b) :=
  inferInstanceAs (Decidable ((∃ m ∈ _, _) ∨ ∃ _, _))

/-- The failure of the server `b` is handled by the step. -/
def FailureHandled (s : ManagerState) (a : ManagerAction) (b : CInt) : Prop :=
  ∃ input msg, a = .message input ∧ s.info.msgLock = false ∧
    (msgBufferPop s.message).2 = some msg ∧ msg.message = msgManagerExitAck ∧ msg.sender = b

/-- The step keeps every pending start that it does not execute, and a failure that it handles
leaves a pending start behind. -/
def StartsKept (s : ManagerState) (a : ManagerAction) (s' : ManagerState) : Prop :=
  ∀ b, (PendingStart s b ∨ FailureHandled s a b) → PendingStart s' b ∨ StartFires s a b

/-- The manager is in the normal mode with fail restart enabled, and its ring is not full when a
message is pushed; no poll examines a delayed start; a request to start a server finds a free slot
and no delayed start of another server; delayed starts are not removed by request. -/
def StartsUndisturbed (s : ManagerState) (a : ManagerAction) (_ : ManagerState) : Prop :=
  s.config.runningMode = .normal ∧ s.config.failRestart = true ∧
    s.info.task.func ≠ some .taskExit ∧
    match a with
    | .task _ | .arrive _ => msgBufferIsFull s.message = false
    | .message _ =>
      match (msgBufferPop s.message).2 with
      | none => True
      | some msg =>
        (RequestsStart msg.argPass.cat msg → s.table.run = true ∧
          timerSlot s.table .managerDelayedStart ≠ none ∧
          ∀ i, (s.table.timers i).IsStart → (s.table.timers i).arg.cat = msg.argPass.cat) ∧
        ¬ (msg.message = msgManagerTimerRemove ∧ msg.argIn.handler = some .managerDelayedStart)
    | .pollSlot _ _ =>
      match s.poll with
      | .polling _ i => ∀ h : i < timerNumber, ¬ (s.table.timers ⟨i, h⟩).IsStart
      | _ => True
    | .timerEnd => False
    | _ => True

instance {a : ManagerAction} : Decidable (StartsUndisturbed s a s') := by
  unfold StartsUndisturbed
  repeat' first | infer_instance | split

/-! ### The ring while it does not overflow -/

section ring

variable {k : ℕ} {buff : MessageBuffer}

theorem msgBufferPush_room (hwf : buff.Wf k) (hroom : buff.contents.length < 2 ^ k - 1)
    (m : Message) : (msgBufferPush buff (some m)).1.Wf k ∧ (msgBufferPush buff (some m)).1.contents =
      buff.contents ++ [{ m with sequence := buff.sequence + 1#32 }] := by
  have hnot : ¬ msgBufferIsFull buff = true := by
    rw [hwf.msgBufferIsFull_iff]
    exact not_not.mpr hroom
  simp only [msgBufferPush, if_neg hnot]
  exact store_spec hwf hroom

/-- A message sent to the manager itself is appended to its ring. -/
theorem SelfSend.contents (hwf : s.message.Wf k) (hroom : s.message.contents.length < 2 ^ k - 1)
    (h : SelfSend s s') :
    s'.message.Wf k ∧ ∃ ms, s'.message.contents = s.message.contents ++ ms := by
  rcases h with heq | ⟨m, -, heq⟩
  · rw [heq]
    exact ⟨hwf, [], (List.append_nil _).symm⟩
  · obtain ⟨hwf', hcontents⟩ := msgBufferPush_room hwf hroom m
    rw [heq]
    exact ⟨hwf', _, hcontents⟩

theorem length_lt_of_not_full (hwf : buff.Wf k) (h : msgBufferIsFull buff = false) :
    buff.contents.length < 2 ^ k - 1 := by
  by_contra hfull
  rw [hwf.msgBufferIsFull_iff.mpr hfull] at h
  cases h

theorem wf_send (h : s.message.Wf k) {msg : Message} :
    (s.send ServerType.manager.toInt msg).message.Wf k := by
  rw [ManagerState.send, if_pos rfl]
  exact h.push

/-- What a successful pop leaves. -/
theorem taken_contents (hwf : s.message.Wf k) {msg : Message}
    (hpop : (msgBufferPop s.message).2 = some msg) :
    (s.taken msg).message.Wf k ∧
      s.message.contents = msg :: (s.taken msg).message.contents := by
  rcases hc : s.message.contents with _ | ⟨m, ms⟩
  · rw [msgBufferPop_nil hwf hc] at hpop
    cases hpop
  · obtain ⟨heq, hwf', hrest⟩ := msgBufferPop_cons hwf hc
    rw [heq] at hpop
    cases hpop
    have hmessage : (s.taken msg).message = msgBufferDropOldest s.message := by
      rw [ManagerState.taken, heq]
    rw [hmessage, hrest]
    exact ⟨hwf', rfl⟩

end ring

/-! ### Pending starts are kept -/

/-- What was pending stays pending when the ring loses nothing and the delayed starts stay. -/
theorem PendingStart.mono {b : CInt} (hring : ∀ m ∈ s.message.contents, m ∈ s'.message.contents)
    (htable : ∀ i, (s.table.timers i).IsStart → s'.table.timers i = s.table.timers i)
    (h : PendingStart s b) : PendingStart s' b := by
  rcases h with ⟨m, hm, hreq⟩ | ⟨i, hstart, harg⟩
  · exact .inl ⟨m, hring m hm, hreq⟩
  · right
    refine ⟨i, ?_⟩
    rw [htable i hstart]
    exact ⟨hstart, harg⟩

theorem startsKept_of_mono {a : ManagerAction} (ha : ∀ b, ¬ FailureHandled s a b)
    (hring : ∀ m ∈ s.message.contents, m ∈ s'.message.contents)
    (htable : ∀ i, (s.table.timers i).IsStart → s'.table.timers i = s.table.timers i) :
    StartsKept s a s' := by
  rintro b (hpending | hfail)
  · exact .inl (hpending.mono hring htable)
  · exact absurd hfail (ha b)

theorem managerMessage_timerAdd {msg : Message} (hid : msg.message = msgManagerTimerAdd) :
    managerMessage input msg s = some { s with table := (timerAdd s.table input.now
      msg.argIn.handler msg.argIn.cat msg.argIn.dog msg.argIn.duck msg.sender msg.argPass).1 } := by
  have hsig : isSigint msg.message = false := by
    rw [hid]
    decide
  have hack : msg.message ≠ msgManagerExitAck := by
    rw [hid]
    decide
  rw [managerMessage, if_neg (by rw [hsig]; exact Bool.false_ne_true), if_neg hack, if_pos hid]

theorem managerMessage_exitAck {msg : Message} (hid : msg.message = msgManagerExitAck) :
    managerMessage input msg s = some (exitAck msg s) := by
  have hsig : isSigint msg.message = false := by
    rw [hid]
    decide
  rw [managerMessage, if_neg (by rw [hsig]; exact Bool.false_ne_true), if_pos hid]

theorem message_exitAck {msg : Message} (hmode : s.config.runningMode = .normal)
    (hfail : s.config.failRestart = true) : (exitAck msg s).message =
      (msgBufferPush s.message (some (delayedStartMsg s.config msg.sender))).1 := by
  rw [exitAck]
  dsimp only
  rw [if_pos ⟨hmode, hfail⟩]
  rfl

/-- The request that is handled becomes a timer. -/
theorem exists_isStart_timerAdd {table : TimerTable} {msg : Message} {b : CInt} {now : BitVec 32}
    (hmsg : RequestsStart b msg) (hrun : table.run = true)
    (hslot : timerSlot table .managerDelayedStart ≠ none) :
    ∃ i, ((timerAdd table now msg.argIn.handler msg.argIn.cat msg.argIn.dog msg.argIn.duck
        msg.sender msg.argPass).1.timers i).IsStart ∧
      ((timerAdd table now msg.argIn.handler msg.argIn.cat msg.argIn.dog msg.argIn.duck
        msg.sender msg.argPass).1.timers i).arg.cat = b := by
  obtain ⟨-, hhandler, hcat⟩ := hmsg
  obtain ⟨i, hi⟩ := Option.ne_none_iff_exists'.mp hslot
  refine ⟨i, ?_⟩
  rw [hhandler, timerAdd, if_neg (by rw [hrun]; decide), hi]
  simp only [TimerTable.set_timers, if_true]
  exact ⟨⟨active_timerEntry, rfl⟩, hcat⟩

/-- A delayed start in the table outlives an add that replaces none of another server. -/
theorem isStart_timerAdd {table : TimerTable} {msg : Message} {now : BitVec 32} {b : CInt}
    {i : Fin timerNumber} (hstart : (table.timers i).IsStart) (hcat : (table.timers i).arg.cat = b)
    (honly : msg.argIn.handler = some .managerDelayedStart → msg.argPass.cat = b) :
    ((timerAdd table now msg.argIn.handler msg.argIn.cat msg.argIn.dog msg.argIn.duck
        msg.sender msg.argPass).1.timers i).IsStart ∧
      ((timerAdd table now msg.argIn.handler msg.argIn.cat msg.argIn.dog msg.argIn.duck
        msg.sender msg.argPass).1.timers i).arg.cat = b := by
  rcases timerAdd_cases table now msg.argIn.handler msg.argIn.cat msg.argIn.dog
    msg.argIn.duck msg.sender msg.argPass with hsame | ⟨h, j, hh, hslot, heq⟩
  · rw [hsame]
    exact ⟨hstart, hcat⟩
  · rw [heq, TimerTable.set_timers]
    by_cases hij : i = j
    · subst hij
      rw [if_pos rfl]
      have hhas := hslot.resolve_left (not_not.mpr hstart.1)
      rw [TimerStruct.hasHandler, Bool.and_eq_true, decide_eq_true_eq, decide_eq_true_eq,
        hstart.2] at hhas
      exact ⟨⟨active_timerEntry, hhas.2.symm⟩, honly (hh.trans hhas.2.symm)⟩
    · rw [if_neg hij]
      exact ⟨hstart, hcat⟩

/-- A delayed start in the table outlives a removal of another handler. -/
theorem timerRemove_of_isStart {table : TimerTable} (handler : Option Handler) {i : Fin timerNumber}
    (hstart : (table.timers i).IsStart) (hne : handler ≠ some .managerDelayedStart) :
    (timerRemove table handler).1.timers i = table.timers i := by
  rcases timerRemove_cases table handler with hsame | ⟨h, j, hh, hslot, heq⟩
  · rw [hsame]
  · rw [heq, TimerTable.set_timers]
    by_cases hij : i = j
    · subst hij
      rw [TimerStruct.hasHandler, Bool.and_eq_true, decide_eq_true_eq, decide_eq_true_eq,
        hstart.2] at hslot
      exact absurd (hh.trans hslot.2.symm) hne
    · rw [if_neg hij]

/-- The message loop. -/
theorem startsKept_message {k : ℕ} {s' : ManagerState} (hr : ManagerInv s) (hwf : s.message.Wf k)
    (h : serverMessageProc input s = some s') (hq : StartsUndisturbed s (.message input) s') :
    s'.message.Wf k ∧ StartsKept s (.message input) s' := by
  obtain ⟨hmode, hfail, -, hmessage⟩ := hq
  rcases serverMessageProc_cases h with ⟨rfl, hnone⟩ | ⟨msg, -, hpop, hmsg⟩
  · refine ⟨hwf, startsKept_of_mono ?_ (fun _ hm => hm) fun _ _ => rfl⟩
    rintro b ⟨_, msg, -, hlock, hpop, -⟩
    rw [hnone hlock] at hpop
    cases hpop
  · simp only [hpop] at hmessage
    obtain ⟨hrequest, hremove⟩ := hmessage
    obtain ⟨hwf', hcontents⟩ := taken_contents hwf hpop
    have hlen := hwf.length_contents_lt
    rw [hcontents, List.length_cons] at hlen
    have hsend : SelfSend (s.taken msg) s' := selfSend_managerMessage (hr.noTimerOn.of_pop hpop) hmsg
    obtain ⟨hwf'', ms, hms⟩ := hsend.contents hwf' (by omega)
    refine ⟨hwf'', ?_⟩
    rintro b ((⟨m, hm, hreq⟩ | ⟨i, hstart, hcat⟩) | ⟨_, m, -, -, hpop', hid, rfl⟩)
    · rw [hcontents] at hm
      rcases List.mem_cons.mp hm with rfl | hm
      · -- the request itself is handled
        obtain ⟨hrun, hslot, -⟩ := hrequest ⟨hreq.1, hreq.2.1, rfl⟩
        rw [managerMessage_timerAdd hreq.1] at hmsg
        cases hmsg
        exact .inl (.inr (exists_isStart_timerAdd hreq hrun hslot))
      · exact .inl (.inl ⟨m, hms ▸ List.mem_append_left _ hm, hreq⟩)
    · left
      right
      rcases managerMessage_cases hmsg with hu | ⟨hid, rfl⟩ | ⟨hid, rfl⟩
      · exact ⟨i, by rw [hu.table_eq]; exact ⟨hstart, hcat⟩⟩
      · refine ⟨i, isStart_timerAdd hstart hcat fun hhandler => ?_⟩
        exact ((hrequest ⟨hid, hhandler, rfl⟩).2.2 i hstart).symm.trans hcat
      · refine ⟨i, ?_⟩
        have hsame := timerRemove_of_isStart msg.argIn.handler hstart
          fun hhandler => hremove ⟨hid, hhandler⟩
        show ((timerRemove s.table msg.argIn.handler).1.timers i).IsStart ∧
          ((timerRemove s.table msg.argIn.handler).1.timers i).arg.cat = b
        rw [hsame]
        exact ⟨hstart, hcat⟩
    · -- a failure: the request is appended to the ring
      rw [hpop] at hpop'
      cases hpop'
      rw [managerMessage_exitAck hid] at hmsg
      cases hmsg
      have hroom : (s.taken msg).message.contents.length < 2 ^ k - 1 := by omega
      obtain ⟨-, hpushed⟩ := msgBufferPush_room hwf' hroom (delayedStartMsg s.config msg.sender)
      have hmessage' : (exitAck msg (s.taken msg)).message = (msgBufferPush (s.taken msg).message
          (some (delayedStartMsg s.config msg.sender))).1 := message_exitAck hmode hfail
      rw [← hmessage'] at hpushed
      exact .inl (.inl ⟨_, hpushed ▸ List.mem_append_right _ (List.mem_singleton_self _),
        rfl, rfl, rfl⟩)

/-- The step lemma. -/
theorem startsKept_step {k : ℕ} {a : ManagerAction} (hr : ManagerInv s) (hwf : s.message.Wf k)
    (hs : s.step a = some s') (hq : StartsUndisturbed s a s') :
    s'.message.Wf k ∧ StartsKept s a s' := by
  cases a with
  | task input =>
    obtain ⟨-, -, hfunc, hfull⟩ := hq
    obtain ⟨t, ht, rfl⟩ := step_task hs
    have h0 : OnlyServers s.noteStatus.info.threadStart := hr.clear.threadStart
    rcases selfSend_task h0 ht with hsend | ⟨hexit, -⟩
    · obtain ⟨hwf', ms, hms⟩ := hsend.contents (hwf : s.noteStatus.message.Wf k)
        (length_lt_of_not_full hwf hfull)
      refine ⟨hwf', startsKept_of_mono ?_ ?_ ?_⟩
      · rintro b ⟨_, _, ha, -⟩
        cases ha
      · intro m hm
        exact hms ▸ List.mem_append_left _ hm
      · intro i _
        have htable : t.table = s.table := (Undisturbed.task ht).table_eq
        exact congrArg (fun table : TimerTable => table.timers i) htable
    · exact absurd hexit hfunc
  | message input =>
    obtain ⟨t, ht, rfl⟩ := step_message hs
    have hkept : t.message.Wf k ∧ StartsKept s (.message input) t :=
      startsKept_message hr hwf ht hq
    exact hkept
  | arrive msg =>
    obtain ⟨-, -, -, hfull⟩ := hq
    obtain ⟨-, rfl⟩ := step_arrive hs
    obtain ⟨hwf', hcontents⟩ := msgBufferPush_room hwf (length_lt_of_not_full hwf hfull) msg
    refine ⟨hwf', startsKept_of_mono ?_ ?_ fun _ _ => rfl⟩
    · rintro b ⟨_, _, ha, -⟩
      cases ha
    · intro m hm
      exact hcontents ▸ List.mem_append_left _ hm
  | pollBegin =>
    obtain rfl := step_pollBegin hs
    refine ⟨hwf, startsKept_of_mono ?_ (fun _ hm => hm) fun _ _ => rfl⟩
    rintro b ⟨_, _, ha, -⟩
    cases ha
  | pollSlot now again =>
    obtain ⟨server, i, hi, hpoll, rfl⟩ := step_pollSlot hs
    have hring := message_pollSlot now again hr.clear hpoll hi
    obtain ⟨-, -, -, hslot⟩ := hq
    rw [hpoll] at hslot
    refine ⟨hring ▸ hwf, startsKept_of_mono ?_ (fun m hm => hring ▸ hm) fun j hstart => ?_⟩
    · rintro b ⟨_, _, ha, -⟩
      cases ha
    · have hne : j ≠ ⟨i, hi⟩ := fun h => hslot hi (h ▸ hstart)
      rw [table_pollSlot, timerProcSlot_other hne]
  | pollEnd =>
    obtain rfl := step_pollEnd hs
    refine ⟨hwf, startsKept_of_mono ?_ (fun _ hm => hm) fun _ _ => rfl⟩
    rintro b ⟨_, _, ha, -⟩
    cases ha
  | timerEnd => exact hq.2.2.2.elim

/-- A server's exit acknowledgement. -/
def exitAckMsg (t : ServerType) : Message where
  message := msgManagerExitAck
  sender := t.toInt
  receiver := t.toInt

/-- The video and the audio server fail one after the other. -/
def twoFailures : List ManagerAction :=
  [.arrive (exitAckMsg .video), .arrive (exitAckMsg .audio)] ++
    (List.replicate 5 [.task {}, .message {}]).flatten ++ [.task {}]

end GokeWebcam.Manager
