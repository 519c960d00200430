import GokeWebcam.Manager.ExitTimers
import GokeWebcam.Server.Frame

/-!
# What the manager tells the servers

`task_default` starts the servers, once. Apart from that a step of the manager tells them something about
the exit in two places only: `task_exit` asks the running servers to exit, naming them all, and passes on
the acknowledgement that was handled last.

* `Sends`: from `s` to `s'` nothing happens to the running servers, and nothing about the exit is said.
* `Announces`: all that a step outside the tasks of sleep can do; `announces_step`: the step lemma.
-/

namespace GokeWebcam.Manager

open Lib Common Global Server

variable {s s' s'' : ManagerState} {input : ManagerInput} {msg : Message} {a : ManagerAction}
  {P : Message → Prop}

/-- The default task has not started the servers yet. -/
def Before (s : ManagerState) : Prop :=
  s.info.task.func = some .taskDefault ∧ s.info.status ∈ [ServerStatus.none, .wait, .setup]

/-- A property of all messages that are not of the exit protocol, and of what it holds of when put into a
ring. -/
structure RingProperty (P : Message → Prop) : Prop extends SlotProperty P where
  ordinary : ∀ m, Ordinary m → P m

/-- From `s` to `s'` only messages outside the exit protocol are sent. -/
structure Sends (s s' : ManagerState) : Prop where
  threadStart : s'.info.threadStart = s.info.threadStart
  msg : s'.info.task.msg = s.info.task.msg
  slots : ∀ {P}, RingProperty P → AllSlots P s.message → AllSlots P s'.message
  out : ∃ os, s'.out = s.out ++ os ∧ ∀ o ∈ os, ∃ receiver m, o = .send receiver m ∧ Ordinary m
  before : Before s' → Before s

namespace Sends

theorem of_eq (hthread : s'.info.threadStart = s.info.threadStart)
    (hmsg : s'.info.task.msg = s.info.task.msg) (hmessage : s'.message.buffer = s.message.buffer)
    (hout : s'.out = s.out) (hbefore : Before s' → Before s) : Sends s s' where
  threadStart := hthread
  msg := hmsg
  slots _ h := h.of_buffer hmessage
  out := ⟨[], by rw [hout, List.append_nil], by simp⟩
  before := hbefore

theorem refl : Sends s s := of_eq rfl rfl rfl rfl id

theorem trans (h : Sends s s') (h' : Sends s' s'') : Sends s s'' where
  threadStart := h'.threadStart.trans h.threadStart
  msg := h'.msg.trans h.msg
  slots hP hs := h'.slots hP (h.slots hP hs)
  out := by
    obtain ⟨os, hout, hos⟩ := h.out
    obtain ⟨os', hout', hos'⟩ := h'.out
    refine ⟨os ++ os', by rw [hout', hout, List.append_assoc], fun o ho => ?_⟩
    exact (List.mem_append.mp ho).elim (hos o) (hos' o)
  before hs := h.before (h'.before hs)

theorem send {receiver : CInt} (hmsg : Ordinary msg) (h : Sends s s') :
    Sends s (s'.send receiver msg) := by
  refine h.trans ?_
  have hinfo : (s'.send receiver msg).info = s'.info := info_send
  refine ⟨by rw [hinfo], by rw [hinfo], fun hP hs => ?_, ?_, by rw [Before, hinfo]; exact id⟩
  · unfold ManagerState.send
    split_ifs
    · exact hs.push hP.toSlotProperty (hP.ordinary _ hmsg)
    · exact hs
  · unfold ManagerState.send
    split_ifs
    · exact ⟨[], (List.append_nil _).symm, by simp⟩
    · exact ⟨[_], rfl, fun o ho => ⟨receiver, msg, List.mem_singleton.mp ho, hmsg⟩⟩

end Sends

/-! ### The messages -/

theorem sends_setSleep {temp : CInt} : Sends s (setSleep temp s).1 := by
  unfold setSleep
  split_ifs
  · exact .refl
  · dsimp only [managerWakeup]
    have hwake : Ordinary (managerMsg msgManagerWakeup) := by decide
    refine Sends.send hwake (.of_eq rfl rfl rfl rfl ?_)
    rintro ⟨hfunc, -⟩
    cases hfunc
  · refine .of_eq rfl rfl rfl rfl ?_
    rintro ⟨hfunc, -⟩
    cases hfunc
  · exact .refl

theorem ordinary_of_propertyAck {id : CInt} (hmsg : msg.message = id)
    (hid : ackOf id ≠ msgManagerExit ∧ ackOf id ≠ msgManagerExitAck) {m : Message}
    (hm : m.message = (propertyAck msg).message) : Ordinary m := by
  refine ordinary_of_id (hm.trans ?_) hid
  rw [← hmsg]
  rfl

/-- What the handling of a message other than a `TIMER_ON` does: it takes the bit of a server that has
exited, or no bit. -/
theorem sends_managerMessage (hon : msg.message ≠ msgManagerTimerOn)
    (h : managerMessage input msg s = some s') :
    Sends s s' ∨ (msg.message = msgManagerExitAck ∧
      Sends { s with info := { s.info with
        threadStart := miscClearBit s.info.threadStart msg.sender.toNat } } s') := by
  unfold managerMessage at h
  split_ifs at h with _ hack _ _ hget hset
  · cases h
    unfold sigint
    split_ifs
    · refine .inl (.of_eq rfl rfl rfl rfl ?_)
      rintro ⟨hfunc, -⟩
      cases hfunc
    · exact .inl .refl
  · cases h
    unfold exitAck
    dsimp only
    split_ifs
    · have hdelayed : Ordinary (delayedStartMsg s.config msg.sender) :=
        ordinary_of_id (n := msgManagerTimerAdd) rfl (by decide)
      exact .inr ⟨hack, Sends.send hdelayed .refl⟩
    · exact .inr ⟨hack, .refl⟩
  · cases h
    exact .inl (.of_eq rfl rfl rfl rfl id)
  · cases h
    exact .inl (.of_eq rfl rfl rfl rfl id)
  · cases h
    unfold managerGetProperty
    dsimp only
    split_ifs <;> exact .inl (Sends.send (ordinary_of_propertyAck hget (by decide) rfl) .refl)
  · have hordinary : ∀ {m : Message}, m.message = (propertyAck msg).message → Ordinary m :=
      ordinary_of_propertyAck hset (by decide)
    unfold managerSetProperty at h
    dsimp only at h
    split_ifs at h
    · rw [Option.map_eq_some_iff] at h
      obtain ⟨block, -, rfl⟩ := h
      exact .inl (sends_setSleep.send (hordinary rfl))
    · cases h
      exact .inl (Sends.send (hordinary rfl) (.of_eq rfl rfl rfl rfl id))
    · cases h
      exact .inl (Sends.send (hordinary rfl) .refl)
  · cases h
    exact .inl .refl

/-! ### The tasks -/

/-- What the manager may tell the servers in a step: it starts one, or it sends something outside the exit
protocol, a request to exit that names the running servers, or the acknowledgement handled last. -/
def Announced (s s' : ManagerState) : ManagerOutput → Prop
  | .start t => Before s ∧ ¬ Before s' ∧ s'.info.threadStart.getLsbD t.toNat = true
  | .send _ m => Ordinary m ∨
    (m.message = msgManagerExit ∧ ¬ Before s ∧ m.sender = ServerType.manager.toInt ∧
      m.argIn.cat = s.info.threadStart) ∨
    (m.message = msgManagerExitAck ∧ s.info.task.msg.message = msgManagerExitAck ∧
      m.sender = s.info.task.msg.sender)

/-- What a step outside the tasks of sleep does. -/
structure Announces (s : ManagerState) (a : ManagerAction) (s' : ManagerState) : Prop where
  out : ∃ os, s'.out = s.out ++ os ∧ ∀ o ∈ os, Announced s s' o
  before : Before s' → Before s
  bits : ∀ {P}, AllSlots P s.message → ∀ i, s.info.threadStart.getLsbD i = true →
    s'.info.threadStart.getLsbD i = true ∨ ∃ m, P m ∧ m.message = msgManagerExitAck ∧ m.sender.toNat = i
  slots : ∀ {P}, RingProperty P → (∀ m, a = .arrive m → P m) → AllSlots P s.message →
    AllSlots P s'.message
  msg : ∀ {P}, AllSlots P s.message → P s.info.task.msg → P s'.info.task.msg

theorem Sends.announces (h : Sends s s') : Announces s a s' where
  out := by
    obtain ⟨os, hout, hos⟩ := h.out
    refine ⟨os, hout, fun o ho => ?_⟩
    obtain ⟨receiver, m, rfl, hm⟩ := hos o ho
    exact .inl hm
  before := h.before
  bits _ i hi := .inl (by rwa [h.threadStart])
  slots hP _ hs := h.slots hP hs
  msg _ hm := by rwa [h.msg]

/-- A step that starts and stops nothing, and sends what may be sent. -/
theorem Announces.of_out {os : List ManagerOutput} (hout : s'.out = s.out ++ os)
    (hos : ∀ o ∈ os, Announced s s' o) (hthread : s'.info.threadStart = s.info.threadStart)
    (hmsg : s'.info.task.msg = s.info.task.msg) (hmessage : s'.message = s.message)
    (hbefore : Before s' → Before s) : Announces s a s' where
  out := ⟨os, hout, hos⟩
  before := hbefore
  bits _ i hi := .inl (by rwa [hthread])
  slots _ _ hs := hs.of_buffer (by rw [hmessage])
  msg _ hm := by rwa [hmsg]

theorem getLsbD_threadStart_managerServerStart {server : CInt} {i : ℕ}
    (hi : s.info.threadStart.getLsbD i = true) :
    (managerServerStart input server s).info.threadStart.getLsbD i = true := by
  unfold managerServerStart
  split
  · exact hi
  · exact hi
  · split_ifs
    · dsimp only
      rw [getLsbD_miscSetBit (BitVec.lt_of_getLsbD hi), hi, Bool.or_true]
    · exact hi

/-- The servers that are started have their bits. -/
theorem startServers_spec : ∃ ts : List ServerType,
    (s.startServers input).out = s.out ++ ts.map .start ∧
    (∀ t ∈ ts, (s.startServers input).info.threadStart.getLsbD t.toNat = true) ∧
    ∀ i, s.info.threadStart.getLsbD i = true →
      (s.startServers input).info.threadStart.getLsbD i = true := by
  unfold ManagerState.startServers
  induction ServerType.all generalizing s with
  | nil => exact ⟨[], (List.append_nil _).symm, by simp, fun _ => id⟩
  | cons t ts ih =>
    rw [List.foldl_cons]
    split_ifs
    · obtain ⟨us, hout, hset, hkept⟩ := ih (s := managerServerStart input t.toInt s)
      have hstart : (∃ u : ServerType, (managerServerStart input t.toInt s).out = s.out ++ [.start u] ∧
            (managerServerStart input t.toInt s).info.threadStart.getLsbD u.toNat = true) ∨
          (managerServerStart input t.toInt s).out = s.out := by
        unfold managerServerStart
        split
        · exact .inr rfl
        · exact .inr rfl
        · next u _ _ =>
          split_ifs
          · refine .inl ⟨u, rfl, ?_⟩
            have hu : u.toNat < 32 := by cases u <;> decide
            dsimp only
            rw [getLsbD_miscSetBit hu, decide_eq_true rfl, Bool.true_or]
          · exact .inr rfl
      have hbits : ∀ i, s.info.threadStart.getLsbD i = true → _ :=
        fun i hi => hkept i (getLsbD_threadStart_managerServerStart hi)
      rcases hstart with ⟨u, hu, hbit⟩ | hsame
      · refine ⟨u :: us, ?_, fun v hv => ?_, hbits⟩
        · rw [hout, hu, List.append_assoc]
          rfl
        · rcases List.mem_cons.mp hv with rfl | hv
          · exact hkept _ hbit
          · exact hset v hv
      · exact ⟨us, by rw [hout, hsame], hset, hbits⟩
    · exact ih

/-- A broadcast goes to servers only. -/
theorem out_broadcast (h0 : OnlyServers s.info.threadStart) :
    ∃ os, (s.broadcast msg).out = s.out ++ os ∧ ∀ o ∈ os, ∃ receiver, o = .send receiver msg := by
  unfold ManagerState.broadcast
  induction ServerType.all generalizing s with
  | nil => exact ⟨[], (List.append_nil _).symm, by simp⟩
  | cons t ts ih =>
    rw [List.foldl_cons]
    split_ifs with hrun
    · have hsend : s.send t.toInt msg = { s with out := s.out ++ [.send t.toInt msg] } := by
        rw [ManagerState.send, if_neg (by rw [ServerType.toInt_inj]; exact ne_manager_of_running h0 hrun)]
      obtain ⟨os, hout, hos⟩ := ih (s := s.send t.toInt msg) (by rw [info_send]; exact h0)
      refine ⟨.send t.toInt msg :: os, ?_, fun o ho => ?_⟩
      · rw [hout, hsend, List.append_assoc]
        rfl
      · rcases List.mem_cons.mp ho with rfl | ho
        · exact ⟨_, rfl⟩
        · exact hos o ho
    · exact ih h0

theorem announces_taskDefault (h0 : OnlyServers s.info.threadStart) (hfunc : s.info.task.func = some .taskDefault) :
    Announces s a (taskDefault input s) := by
  have hmove : ∀ {status}, s.info.status ∈ [ServerStatus.none, .wait, .setup] →
      Announces s a (s.setStatus status) := fun hstatus =>
    Sends.announces (.of_eq rfl rfl rfl rfl fun _ => ⟨hfunc, hstatus⟩)
  have hpast : ∀ {status}, status ∉ [ServerStatus.none, .wait, .setup] →
      Announces s a (s.setStatus status) := fun hstatus =>
    Sends.announces (.of_eq rfl rfl rfl rfl fun hbefore => absurd hbefore.2 hstatus)
  unfold taskDefault
  split
  case h_1 hstatus => exact hmove (by simp [hstatus])
  case h_2 hstatus => exact hmove (by simp [hstatus])
  case h_3 hstatus =>
    have hbefore : Before s := ⟨hfunc, by simp [hstatus]⟩
    have hnot : ¬ Before ((s.startServers input).setStatus .idle) := by
      rintro ⟨-, hidle⟩
      simp [ManagerState.setStatus] at hidle
    obtain ⟨ts, hout, hset, hkept⟩ := @startServers_spec s input
    constructor
    case out =>
      refine ⟨_, hout, fun o ho => ?_⟩
      obtain ⟨t, ht, rfl⟩ := List.mem_map.mp ho
      exact ⟨hbefore, hnot, hset t ht⟩
    case before => exact fun _ => hbefore
    case bits => exact fun _ i hi => .inl (hkept i hi)
    case slots => exact fun _ _ hs => hs.of_buffer (congrArg (·.buffer) (message_startServers h0))
    case msg =>
      intro P _ hm
      have htask := (@info_startServers s input).1
      show P (s.startServers input).info.task.msg
      rwa [htask]
  case h_4 => exact hpast (by simp)
  case h_5 => exact hpast (by simp)
  case h_6 =>
    refine Sends.announces (.of_eq rfl rfl rfl rfl ?_)
    rintro ⟨hexit, -⟩
    cases hexit
  case h_7 => exact Sends.refl.announces

theorem announces_taskExit (h0 : OnlyServers s.info.threadStart) (h2 : s.info.status2 = false)
    (hfunc : s.info.task.func = some .taskExit) : Announces s a (taskExit s) := by
  have hnot : ∀ {t : ManagerState}, t.info.task = s.info.task → Before t → Before s := by
    intro t ht hbefore
    rw [Before, ht, hfunc] at hbefore
    cases hbefore.1
  have hquiet : ∀ {t : ManagerState}, t.info.threadStart = s.info.threadStart → t.info.task = s.info.task →
      t.message.buffer = s.message.buffer → t.out = s.out → Announces s a t :=
    fun hthread htask hmessage hout =>
      Sends.announces (.of_eq hthread (by rw [htask]) hmessage hout (hnot htask))
  have hsaid : ∀ {t : ManagerState} {msg}, (∀ receiver, Announced s t (.send receiver msg)) →
      t.info.threadStart = s.info.threadStart ∧ t.info.task = s.info.task →
      t.message = (s.broadcast msg).message → t.out = (s.broadcast msg).out → Announces s a t := by
    intro t msg hmsg hinfo hmessage hout
    obtain ⟨os, hos, hall⟩ := @out_broadcast s msg h0
    refine .of_out (hout.trans hos) (fun o ho => ?_) hinfo.1 (by rw [hinfo.2])
      (hmessage.trans (message_broadcast h0)) (hnot hinfo.2)
    obtain ⟨receiver, rfl⟩ := hall o ho
    exact hmsg receiver
  unfold taskExit
  split
  case h_1 =>
    have hexit : ¬ Before s := fun hbefore => by cases hfunc.symm.trans hbefore.1
    refine hsaid (fun receiver => .inr (.inl ⟨rfl, hexit, rfl, rfl⟩)) ?_ rfl rfl
    have hinfo := @info_broadcast s { managerMsg msgManagerExit with argIn := { cat := s.info.threadStart } }
    exact ⟨congrArg (·.threadStart) hinfo.1, congrArg (·.task) hinfo.1⟩
  case h_2 =>
    split_ifs
    · exact hquiet rfl rfl rfl rfl
    · have hinfo := (@info_announceQuitter s).1
      rw [ManagerState.announceQuitter] at hinfo ⊢
      split_ifs at hinfo ⊢ with hack
      · refine hsaid ?_ (by rw [hinfo]; exact ⟨rfl, rfl⟩) rfl rfl
        exact fun receiver => .inr (.inr ⟨rfl, hack, rfl⟩)
      · exact hquiet rfl rfl rfl rfl
  case h_3 => exact hquiet rfl rfl rfl rfl
  case h_4 =>
    dsimp only
    split_ifs <;> exact hquiet rfl rfl rfl rfl
  case h_5 =>
    have hinfo : (serverRelease2 s).info = s.info := by
      rw [serverRelease2]
      exact info_send
    have hout : (serverRelease2 s).out = s.out := by
      rw [serverRelease2, ManagerState.send, if_pos rfl]
    constructor
    case out => exact ⟨[], by rw [List.append_nil]; exact hout, by simp⟩
    case before => exact hnot (congrArg (·.task) hinfo)
    case bits =>
      intro P _ i hi
      show (serverRelease2 s).info.threadStart.getLsbD i = true ∨ _
      rw [hinfo]
      exact .inl hi
    case slots => exact fun hP _ _ => .of_nil hP.toSlotProperty rfl
    case msg =>
      intro P _ hm
      show P (serverRelease2 s).info.task.msg
      rwa [hinfo]
  case h_6 =>
    rw [if_neg (by rw [h2]; exact Bool.false_ne_true)]
    exact hquiet rfl rfl rfl rfl
  case h_7 => exact hquiet rfl rfl rfl rfl

/-! ### The steps -/

/-- The task in hand is not one of those of sleep. -/
def OnDuty (s : ManagerState) : Prop :=
  s.info.task.func = some .taskDefault ∨ s.info.task.func = some .taskExit

instance : Decidable (OnDuty s) := inferInstanceAs (Decidable (_ ∨ _))

/-- The step lemma. -/
theorem announces_step (h : ExitInv s) (hduty : ∀ input, a = .task input → OnDuty s)
    (hs : s.step a = some s') : Announces s a s' := by
  cases a with
  | task input =>
    obtain ⟨t, ht, rfl⟩ := step_task hs
    have h0 : OnlyServers s.noteStatus.info.threadStart := h.inv.clear.threadStart
    have hstep : Announces s.noteStatus (.task input) t := by
      unfold ManagerState.task at ht
      rcases hduty input rfl with hfunc | hfunc
      · have hnoted : s.noteStatus.info.task.func = some .taskDefault := hfunc
        rw [hnoted] at ht
        cases ht
        exact announces_taskDefault h0 hnoted
      · have hnoted : s.noteStatus.info.task.func = some .taskExit := hfunc
        rw [hnoted] at ht
        cases ht
        exact announces_taskExit h0 h.status2 hnoted
    exact ⟨hstep.out, hstep.before, hstep.bits, hstep.slots, hstep.msg⟩
  | message input =>
    obtain ⟨t, ht, rfl⟩ := step_message hs
    rcases serverMessageProc_cases ht with ⟨rfl, -⟩ | ⟨msg, -, hpop, hmsg⟩
    · exact Sends.announces (.of_eq rfl rfl rfl rfl id)
    have hpopped : ∀ {P}, RingProperty P → AllSlots P s.message → AllSlots P (s.taken msg).message :=
      fun hP hslots => hslots.pop hP.toSlotProperty
    have hof : ∀ {u : ManagerState}, u.message = (s.taken msg).message → u.out = s.out →
        u.info.task = (s.taken msg).info.task → u.info.status = s.info.status →
        (∀ {P}, AllSlots P s.message → ∀ i, s.info.threadStart.getLsbD i = true →
          u.info.threadStart.getLsbD i = true ∨
            ∃ m, P m ∧ m.message = msgManagerExitAck ∧ m.sender.toNat = i) →
        Sends u t → Announces s (.message input) { t with pc := .task } := by
      intro u hmessage hout htask hstatus hbits hsends
      constructor
      case out =>
        obtain ⟨os, hos, hall⟩ := hsends.out
        refine ⟨os, by rw [← hout]; exact hos, fun o ho => ?_⟩
        obtain ⟨receiver, m, rfl, hm⟩ := hall o ho
        exact .inl hm
      case before =>
        intro hbefore
        have hu := hsends.before hbefore
        rw [Before, htask, hstatus] at hu
        exact hu
      case bits =>
        intro P hslots i hi
        show t.info.threadStart.getLsbD i = true ∨ _
        rw [hsends.threadStart]
        exact hbits hslots i hi
      case slots =>
        intro P hP _ hslots
        exact hsends.slots hP (by rw [hmessage]; exact hpopped hP hslots)
      case msg =>
        intro P hslots _
        show P t.info.task.msg
        rw [hsends.msg, htask]
        exact hslots.of_pop hpop
    rcases sends_managerMessage (h.inv.noTimerOn.of_pop hpop) hmsg with hsends | ⟨hack, hsends⟩
    · exact hof rfl rfl rfl rfl (fun _ _ => .inl) hsends
    · refine hof ?_ ?_ ?_ ?_ (fun hslots i hi => ?_) hsends <;> try rfl
      by_cases heq : msg.sender.toNat = i
      · exact .inr ⟨msg, hslots.of_pop hpop, hack, heq⟩
      · refine .inl ?_
        dsimp only [ManagerState.taken]
        rw [getLsbD_miscClearBit (BitVec.lt_of_getLsbD hi), hi, decide_eq_false heq]
        rfl
  | arrive msg =>
    obtain ⟨-, rfl⟩ := step_arrive hs
    refine ⟨⟨[], (List.append_nil _).symm, by simp⟩, id, fun _ i hi => .inl hi, ?_, fun _ => id⟩
    exact fun hP harrive hs => hs.push hP.toSlotProperty (harrive msg rfl)
  | pollBegin =>
    obtain rfl := step_pollBegin hs
    exact Sends.announces (.of_eq rfl rfl rfl rfl id)
  | pollSlot now again =>
    obtain ⟨server, i, hi, hpoll, rfl⟩ := step_pollSlot hs
    rw [ManagerState.pollSlot]
    rcases (timerProcSlot server now again s.table ⟨i, hi⟩).2 with _ | timer
    · exact Sends.announces (.of_eq rfl rfl rfl rfl id)
    · have htimer : Ordinary (timerOn timer) := ordinary_of_id (n := msgManagerTimerOn) rfl (by decide)
      exact Sends.announces (Sends.send htimer (.of_eq rfl rfl rfl rfl id))
  | pollEnd =>
    obtain rfl := step_pollEnd hs
    exact Sends.announces (.of_eq rfl rfl rfl rfl id)
  | timerEnd =>
    obtain rfl := step_timerEnd hs
    have hdummy : Ordinary (managerMsg msgManagerDummy) := by decide
    exact Sends.announces (Sends.send hdummy (.of_eq rfl rfl rfl rfl id))

/-- The exit task goes on from `EXIT_SERVER` when no server is entered as running. -/
theorem threadStart_exitServer (h : ExitInv s) (hs : s.step a = some s')
    (hfunc : s.info.task.func = some .taskExit) (hserver : s.info.status = .exitServer)
    (hnext : s'.info.status = .exitStage1) : s.info.threadStart = 0#32 := by
  rcases (exitKept_step h hs hfunc).2 with hsame | ⟨input, rfl⟩
  · cases hserver.symm.trans (hsame.symm.trans hnext)
  · obtain ⟨t, ht, rfl⟩ := step_task hs
    have hnoted : s.noteStatus.info.task.func = some .taskExit := hfunc
    have hstatus : s.noteStatus.info.status = .exitServer := hserver
    rw [ManagerState.task, hnoted] at ht
    cases ht
    have hnext : (taskExit s.noteStatus).info.status = .exitStage1 := hnext
    rw [taskExit, hstatus] at hnext
    dsimp only at hnext
    split_ifs at hnext with hzero
    · exact hzero
    · rw [info_announceQuitter.1] at hnext
      cases hserver.symm.trans hnext

end GokeWebcam.Manager
