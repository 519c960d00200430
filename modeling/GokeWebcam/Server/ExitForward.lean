import GokeWebcam.Lib.Transition
import GokeWebcam.Server.Frame

/-!
# An exit goes on to its end

Once `MSG_MANAGER_EXIT` is handled, the state machine goes through the exit states in their order.
But the message filter lets requests pass in these states whose handlers write `info.status` or the
task record.

* `ExitForward`: a step from an exit state stays in it, or goes to the next one, or sets `info.exit`
  at the end; the task record stays.
* `ExitKeeper`: what a server's own functions do in the exit states; `disturbs` and `ends` are the
  messages and the thread steps that do not keep to it.
* `exitForward_iff`: every run keeps to it iff no such message is taken and no such thread step
  happens in an exit state.
-/

namespace GokeWebcam.Server

open Lib Common Global Manager

variable {κ : Type}

/-- The state that follows an exit state. -/
def exitNext : ServerStatus → ServerStatus
  | .exitInit => .exitServer
  | .exitServer => .exitStage1
  | .exitStage1 => .exitThread
  | .exitThread => .exitStage2
  | .exitStage2 => .exitFinish
  | status => status

/-- From `s` to `s'` the exit goes on. -/
structure Forward (s s' : ServerState κ) : Prop where
  status : s'.info.status = s.info.status ∨ s'.info.status = exitNext s.info.status ∨
    (s.info.status = .exitFinish ∧ s'.info.exit = true)
  record : s'.info.task.msg = s.info.task.msg

/-- A step from an exit state. -/
def ExitForward (s : ServerState κ) (_ : ServerAction) (s' : ServerState κ) : Prop :=
  s.info.status.isExit = true → Forward s s'

/-- A second exit request. -/
def SecondExit (m : Message) (info : ServerInfo) : Prop :=
  m.message = msgManagerExit ∧ ¬ (info.status = .exitInit ∧ info.task.msg = m)

/-- In an exit state a message that disturbs the exit is taken, or a thread step that does. -/
def Disturbed (c : ServerCode κ) (disturbs : Message → ServerInfo → κ → Prop)
    (ends : ServerInput → ServerState κ → Prop) (s : ServerState κ) : ServerAction → Prop
  | .main _ => s.info.status.isExit = true ∧ s.pc = .messageProc ∧ ∃ m, nextMessage c s = some m ∧
      messageFilter s m = false ∧ (SecondExit m s.info ∨ disturbs m s.info s.own)
  | .thread input => s.info.status.isExit = true ∧ ends input s
  | _ => False

/-- What a server's own functions do in the exit states. -/
structure ExitKeeper (c : ServerCode κ) (disturbs : Message → ServerInfo → κ → Prop)
    (ends : ServerInput → ServerState κ → Prop) : Prop extends Keeper Ordinary c where
  taskExit : ∀ {input s s'}, s.info.status.isExit = true → c.taskProc input s = some s' → s' = s
  release1Info : ∀ {input s}, (c.serverRelease1 input s).info = s.info
  release2Info : ∀ {s}, (c.serverRelease2 s).info = s.info
  handlerExit : ∀ {input f s s'}, c.handler input f s = some s' → s' = s
  handleExit : ∀ {input m s s'}, s.info.status.isExit = true → s.info.exit = false →
    c.handle input m s = some s' → (Forward s s' ↔ ¬ disturbs m s.info s.own)
  threadExit : ∀ {input s s'}, s.info.status.isExit = true → s.info.exit = false →
    c.thread input s = some s' → (Forward s s' ↔ ¬ ends input s)
  ids : ∀ {m info own}, disturbs m info own →
    m.message ≠ msgManagerExit ∧ m.message ≠ msgManagerExitAck ∧ m.message ≠ msgManagerTimerOn

/-! ### The invariant -/

/-- What holds in every state of a run. -/
structure ExitInv (s : ServerState κ) : Prop where
  empty : s.message.init = false → msgBufferIsEmpty s.message = true
  /-- The queue is released at the end of an exit. -/
  finish : s.info.status = .exitFinish ∨ s.info.exit = true → s.message.init = false
  exit : s.info.exit = true → s.info.status.isExit = false
  idle : s.pc = .stopped ∨ s.pc = .boot ∨ (∃ status, s.pc = .drain status) →
    s.info.status.isExit = false ∧ s.info.exit = false

variable {c : ServerCode κ} {config : ManagerConfig} {input : ServerInput} {s s' : ServerState κ}
  {P : Message → Prop} {m : Message} {a : ServerAction}

theorem exitInv_init (own : κ) : ExitInv ({ own := own } : ServerState κ) where
  empty _ := rfl
  finish h := h.elim (by rintro ⟨⟩) (by rintro ⟨⟩)
  exit := by rintro ⟨⟩
  idle _ := ⟨rfl, rfl⟩

/-- A step that frames the exit protocol keeps the invariant wherever the main thread goes on. -/
theorem ExitInv.of_frame (h : ExitInv s) (hmessage : s'.message = s.message)
    (hexit : s'.info.exit = s.info.exit)
    (hstatus : s'.info.status.isExit = true → s'.info.status = s.info.status)
    (hidle : s'.pc = .stopped ∨ s'.pc = .boot ∨ (∃ status, s'.pc = .drain status) →
      s.info.status.isExit = false ∧ s.info.exit = false) : ExitInv s' := by
  have hnot : s.info.status.isExit = false → s'.info.status.isExit = false := by
    intro hno
    by_contra hyes
    have hyes := Bool.eq_true_of_not_eq_false hyes
    rw [hstatus hyes, hno] at hyes
    cases hyes
  refine ⟨?_, ?_, ?_, ?_⟩
  · rw [hmessage]
    exact h.empty
  · rintro (hfinish | hfinish)
    · rw [hmessage]
      exact h.finish (.inl ((hstatus (by rw [hfinish]; rfl)).symm.trans hfinish))
    · rw [hmessage]
      exact h.finish (.inr (hexit.symm.trans hfinish))
  · intro hset
    exact hnot (h.exit (hexit.symm.trans hset))
  · intro hpc
    obtain ⟨hno, hclear⟩ := hidle hpc
    exact ⟨hnot hno, hexit.trans hclear⟩

theorem pop_of_isEmpty {buff : MessageBuffer} (h : msgBufferIsEmpty buff = true) :
    msgBufferPop buff = (buff, none) := by
  rw [msgBufferPop, if_pos h]

/-- What `messageSource` hands out of an empty queue is the queue. -/
theorem messageSource_of_isEmpty {buff : MessageBuffer} (h : msgBufferIsEmpty s.message = true)
    (hsource : messageSource c s = some buff) : buff = s.message := by
  rw [messageSource] at hsource
  split_ifs at hsource
  · rw [messageBlock, msgBufferProbeItem, if_pos h] at hsource
    exact (Option.some.inj hsource).symm
  · exact (Option.some.inj hsource).symm

theorem init_messageSource {buff : MessageBuffer} (hsource : messageSource c s = some buff) :
    buff.init = s.message.init := by
  rw [messageSource] at hsource
  split_ifs at hsource
  · exact init_messageBlock hsource
  · cases hsource
    rfl

/-- A message comes out of a queue that is there, and the exit is not over then. -/
theorem ExitInv.pop (h : ExitInv s) {buff : MessageBuffer} (hsource : messageSource c s = some buff)
    (hpop : (msgBufferPop buff).2 = some m) :
    nextMessage c s = some m ∧ s.info.exit = false ∧ s.info.status ≠ .exitFinish := by
  have hinit : s.message.init = true := by
    by_contra hno
    have hempty := h.empty (Bool.eq_false_iff.mpr hno)
    rw [messageSource_of_isEmpty hempty hsource, pop_of_isEmpty hempty] at hpop
    cases hpop
  have hnot : ¬ (s.info.status = .exitFinish ∨ s.info.exit = true) := fun hfinish =>
    absurd ((h.finish hfinish).symm.trans hinit) Bool.false_ne_true
  refine ⟨?_, ?_, fun hfinish => hnot (.inl hfinish)⟩
  · rw [nextMessage, hsource, Option.bind_some, hpop]
  · exact Bool.eq_false_iff.mpr fun hset => hnot (.inr hset)

theorem ExitInv.popped (h : ExitInv s) {buff : MessageBuffer}
    (hsource : messageSource c s = some buff) : ExitInv (s.popped buff) := by
  have hinit : (s.popped buff).message.init = s.message.init :=
    init_msgBufferPop.trans (init_messageSource hsource)
  refine ⟨fun hno => ?_, fun hfinish => hinit.trans (h.finish hfinish), h.exit, h.idle⟩
  have hempty := h.empty (hinit.symm.trans hno)
  rw [ServerState.popped, messageSource_of_isEmpty hempty hsource, pop_of_isEmpty hempty]
  exact hempty

/-- Where the main thread is in its loop, only the rest of the invariant is asked for. -/
theorem ExitInv.of_pc (hpc : s.pc = .stateMachine ∨ s.pc = .taskProc ∨ s.pc = .messageProc)
    (hempty : s.message.init = false → msgBufferIsEmpty s.message = true)
    (hfinish : s.info.status = .exitFinish ∨ s.info.exit = true → s.message.init = false)
    (hexit : s.info.exit = true → s.info.status.isExit = false) : ExitInv s where
  empty := hempty
  finish := hfinish
  exit := hexit
  idle hor := by
    rcases hpc with hpc | hpc | hpc
    all_goals
      rw [hpc] at hor
      rcases hor with hpc' | hpc' | ⟨_, hpc'⟩
      all_goals cases hpc'

/-! ### The invariant is kept -/

theorem ExitInv.afterStates (h : ExitInv s) : ExitInv (afterStates s) := by
  rw [Server.afterStates]
  split_ifs
  · exact .of_pc (.inr (.inl rfl)) h.empty h.finish h.exit
  · exact h

theorem exitInv_stateMachine (hc : Keeper P c) (hinv : ExitInv s) (hpc : s.pc = .stateMachine)
    (hexit : s.info.exit = false) (h : stateMachine c input s = some s') : ExitInv s' := by
  have hset : ¬ s.info.exit = true := Bool.eq_false_iff.mp hexit
  have hfinish : s.info.exit = true → s.message.init = false := fun h => absurd h hset
  rw [stateMachine] at h
  split at h
  case h_1 =>
    cases h
    exact .of_pc (.inl hpc) hinv.empty (fun hor => hor.elim (by rintro ⟨⟩) hfinish)
      fun h => absurd h hset
  case h_2 =>
    cases h
    exact .of_pc (.inl hpc) hinv.empty (fun hor => hor.elim (by rintro ⟨⟩) hfinish)
      fun h => absurd h hset
  case h_3 =>
    cases h
    split_ifs
    · exact .of_pc (.inl hpc) hinv.empty (fun hor => hor.elim (by rintro ⟨⟩) hfinish)
        fun h => absurd h hset
    · exact hinv
  case h_4 =>
    cases h
    have h1 : Frame _ s (c.serverRelease1 input s) := hc.release1
    refine .of_pc (.inl (h1.pc.trans hpc)) ?_ (fun hor => hor.elim (by rintro ⟨⟩) fun hexit' => ?_)
      fun hexit' => absurd (h1.exit.symm.trans hexit') hset
    · have := hinv.empty
      rwa [← h1.message] at this
    · exact absurd (h1.exit.symm.trans hexit') hset
  case h_5 hstatus =>
    cases h
    split_ifs
    · exact .of_pc (.inl hpc) hinv.empty (fun hor => hor.elim (by rintro ⟨⟩) hfinish)
        fun h => absurd h hset
    · exact .of_pc (.inl hpc) hinv.empty (fun hor => hinv.finish hor) fun h => absurd h hset
  case h_6 =>
    cases h
    have h2 := hc.release2 (s := { s with message := msgBufferRelease s.message })
    have hmessage : ((c.serverRelease2 { s with message := msgBufferRelease s.message }).setStatus
        .exitFinish).message = msgBufferRelease s.message := h2.message
    refine .of_pc (.inl (h2.pc.trans hpc)) (fun _ => ?_) (fun _ => ?_)
      fun hexit' => absurd (h2.exit.symm.trans hexit') hset
    · rw [hmessage]
      exact beq_self_eq_true _
    · rw [hmessage]
      rfl
  case h_7 hstatus =>
    cases h
    exact .of_pc (.inl hpc) hinv.empty (fun _ => hinv.finish (.inl hstatus)) fun _ => rfl
  case h_8 herror hinit hserver hstage1 hthread hstage2 hfinish =>
    obtain ⟨hframe, -⟩ := hc.states h
    have hnot : s.info.status.isExit = false := by
      cases hstatus : s.info.status <;> first | rfl | contradiction
    exact hinv.of_frame hframe.message hframe.exit hframe.status fun _ => ⟨hnot, hexit⟩

theorem exitInv_messageProc (hc : Keeper P c) (hinv : ExitInv s) (hpc : s.pc = .messageProc)
    (h : serverMessageProc c input s = some s') : ExitInv { s' with pc := .stateMachine } := by
  have hloop : ∀ {t : ServerState κ}, ExitInv t → ExitInv { t with pc := .stateMachine } :=
    fun ht => .of_pc (.inl rfl) ht.empty ht.finish ht.exit
  obtain ⟨-, rfl⟩ | ⟨buff, hsource, ⟨-, rfl⟩ | ⟨m, hpop, ⟨-, rfl⟩ | ⟨-, h⟩⟩⟩ :=
    serverMessageProc_cases h
  · exact hloop hinv
  · exact hloop (hinv.popped hsource)
  · exact hloop (hinv.popped hsource)
  have hpopped := hinv.popped hsource
  obtain ⟨-, hexit, -⟩ := hinv.pop hsource hpop
  have of_frame : Frame P (s.popped buff) s' → ExitInv { s' with pc := .stateMachine } :=
    fun hframe => hloop (hpopped.of_frame hframe.message hframe.exit hframe.status fun hor => by
      rw [hframe.pc.trans hpc] at hor
      rcases hor with hpc' | hpc' | ⟨_, hpc'⟩
      all_goals cases hpc')
  rw [handleMessage] at h
  split_ifs at h
  · cases h
    have hset : ¬ s.info.exit = true := Bool.eq_false_iff.mp hexit
    exact .of_pc (.inl rfl) hpopped.empty (fun hor => hor.elim (by rintro ⟨⟩) fun h => absurd h hset)
      fun h => absurd h hset
  · cases h
    exact .of_pc (.inl rfl) hpopped.empty hpopped.finish hpopped.exit
  · rw [Option.bind_eq_some_iff] at h
    obtain ⟨f, -, h⟩ := h
    exact of_frame (hc.handler h)
  · exact of_frame (hc.handle h)

theorem exitInv_step (hc : Keeper P c) (hinv : ExitInv s) (h : c.step config s a = some s') :
    ExitInv s' := by
  cases a with
  | main input =>
      rw [ServerCode.step, mainStep] at h
      split at h
      case h_1 => cases h
      case h_2 hpc =>
        cases h
        obtain ⟨hnot, hexit⟩ := hinv.idle (.inr (.inl hpc))
        refine .of_pc (.inl rfl) (by rintro ⟨⟩) (fun hor => ?_) hinv.exit
        rcases hor with hfinish | hset
        · have hfinish : s.info.status = .exitFinish := hfinish
          rw [hfinish] at hnot
          cases hnot
        · exact absurd (hexit.symm.trans hset) Bool.false_ne_true
      case h_3 hpc =>
        split_ifs at h with hexit
        · cases h
          exact ⟨hinv.empty, fun hor => hor.elim (by rintro ⟨⟩) (by rintro ⟨⟩), by rintro ⟨⟩,
            fun _ => ⟨rfl, rfl⟩⟩
        · rw [Option.map_eq_some_iff] at h
          obtain ⟨t, ht, rfl⟩ := h
          have hnote : ExitInv s.noteStatus := ⟨hinv.empty, hinv.finish, hinv.exit, hinv.idle⟩
          exact (exitInv_stateMachine hc hnote hpc (Bool.eq_false_iff.mpr hexit) ht).afterStates
      case h_4 status hpc =>
        split_ifs at h
        cases h
        obtain ⟨hnot, hexit⟩ := hinv.idle (.inr (.inr ⟨_, hpc⟩))
        obtain ⟨hmessage, -, hset, hkept⟩ := @Keeper.drained _ _ _ hc status s
        have hclear : (c.drained status s).info.exit = s.info.exit := by
          rw [hexit, Bool.eq_false_iff]
          exact fun hyes => absurd (hexit.symm.trans (hset hyes)) Bool.false_ne_true
        have hd := hinv.of_frame hmessage hclear hkept fun _ => ⟨hnot, hexit⟩
        exact .of_pc (.inr (.inl rfl)) hd.empty hd.finish hd.exit
      case h_5 hpc =>
        rw [Option.map_eq_some_iff] at h
        obtain ⟨t, ht, rfl⟩ := h
        have hframe := hc.taskProc ht
        have ht := hinv.of_frame hframe.message hframe.exit hframe.status fun hor => by
          rw [hframe.pc.trans hpc] at hor
          rcases hor with hpc' | hpc' | ⟨_, hpc'⟩
          all_goals cases hpc'
        exact .of_pc (.inr (.inr rfl)) ht.empty ht.finish ht.exit
      case h_6 hpc =>
        rw [Option.map_eq_some_iff] at h
        obtain ⟨t, ht, rfl⟩ := h
        exact exitInv_messageProc hc hinv hpc ht
  | thread input =>
      have hframe := hc.thread h
      refine hinv.of_frame hframe.message hframe.exit hframe.status fun hor => ?_
      rw [hframe.pc] at hor
      exact hinv.idle hor
  | arrive msg =>
      cases h
      rw [serverMessage]
      split_ifs with hinit
      · exact ⟨fun hno => absurd (hno.symm.trans (init_msgBufferPush.trans hinit)) Bool.false_ne_true,
          fun hor => init_msgBufferPush.trans (hinv.finish hor), hinv.exit, hinv.idle⟩
      · exact hinv
  | start =>
      rw [ServerCode.step] at h
      split_ifs at h with hpc
      cases h
      obtain ⟨hnot, hexit⟩ := hinv.idle (.inl hpc)
      rcases hc.serverStart (s := s) with hsame | hclear
      · rw [hsame]
        exact ⟨hinv.empty, hinv.finish, hinv.exit, fun _ => ⟨hnot, hexit⟩⟩
      · rw [hclear]
        exact ⟨hinv.empty, fun hor => hor.elim (by rintro ⟨⟩) (by rintro ⟨⟩), by rintro ⟨⟩,
          fun _ => ⟨rfl, rfl⟩⟩

/-! ### The exit states -/

variable {disturbs : Message → ServerInfo → κ → Prop} {ends : ServerInput → ServerState κ → Prop}

theorem Forward.of_info (hinfo : s'.info = s.info) : Forward s s' :=
  ⟨.inl (by rw [hinfo]), by rw [hinfo]⟩

/-- The exit states follow one another. -/
theorem forward_stateMachine (hc : ExitKeeper c disturbs ends) (hexit : s.info.status.isExit = true)
    (h : stateMachine c input s = some s') : Forward s s' := by
  rw [stateMachine] at h
  split at h
  case h_1 hstatus =>
    rw [hstatus] at hexit
    cases hexit
  case h_2 hstatus =>
    cases h
    exact ⟨.inr (.inl (by rw [hstatus]; rfl)), rfl⟩
  case h_3 hstatus =>
    cases h
    split_ifs
    · exact ⟨.inr (.inl (by rw [hstatus]; rfl)), rfl⟩
    · exact .of_info rfl
  case h_4 hstatus =>
    cases h
    refine ⟨.inr (.inl (by rw [hstatus]; rfl)), ?_⟩
    have hinfo : (c.serverRelease1 input s).info = s.info := hc.release1Info
    exact congrArg (·.task.msg) hinfo
  case h_5 hstatus =>
    cases h
    split_ifs
    · exact ⟨.inr (.inl (by rw [hstatus]; rfl)), rfl⟩
    · exact ⟨.inl rfl, rfl⟩
  case h_6 hstatus =>
    cases h
    refine ⟨.inr (.inl (by rw [hstatus]; rfl)), ?_⟩
    exact congrArg (·.task.msg) (hc.release2Info (s := { s with message := msgBufferRelease s.message }))
  case h_7 hstatus =>
    cases h
    exact ⟨.inr (.inr ⟨hstatus, rfl⟩), rfl⟩
  case h_8 =>
    cases hstatus : s.info.status <;> first | contradiction | (rw [hstatus] at hexit; cases hexit)

/-- A second exit request starts the exit again. -/
theorem forward_exitMessage (hclear : s.info.exit = false) (hnot : s.info.status.isExit = true) :
    Forward s (exitMessage m s) ↔ s.info.status = .exitInit ∧ s.info.task.msg = m := by
  constructor
  · rintro ⟨hstatus, hrecord⟩
    refine ⟨?_, hrecord.symm⟩
    rcases hstatus with hsame | hnext | ⟨-, hset⟩
    · exact hsame.symm
    · -- no exit state is followed by `EXIT_INIT`
      have hnext : ServerStatus.exitInit = exitNext s.info.status := hnext
      revert hnext hnot
      cases s.info.status <;> decide
    · exact absurd (hclear.symm.trans hset) Bool.false_ne_true
  · rintro ⟨hstatus, hrecord⟩
    exact ⟨.inl hstatus.symm, hrecord.symm⟩

theorem forward_messageProc (hc : ExitKeeper c disturbs ends) (hinv : ExitInv s)
    (hexit : s.info.status.isExit = true) (h : serverMessageProc c input s = some s') :
    Forward s s' ↔ ¬ ∃ m, nextMessage c s = some m ∧ messageFilter s m = false ∧
      (SecondExit m s.info ∨ disturbs m s.info s.own) := by
  obtain ⟨hsource, rfl⟩ | ⟨buff, hsource, hpass⟩ := serverMessageProc_cases h
  · refine iff_of_true (.of_info rfl) ?_
    rintro ⟨m, hm, -⟩
    rw [nextMessage, hsource] at hm
    cases hm
  obtain ⟨hpop, rfl⟩ | ⟨m, hpop, hm⟩ := hpass
  · refine iff_of_true (.of_info rfl) ?_
    rintro ⟨m, hm, -⟩
    rw [nextMessage, hsource, Option.bind_some, hpop] at hm
    cases hm
  obtain ⟨hnext, hclear, -⟩ := hinv.pop hsource hpop
  obtain ⟨hfilter, rfl⟩ | ⟨hfilter, h⟩ := hm
  · refine iff_of_true (.of_info rfl) ?_
    rintro ⟨n, hn, hpass, -⟩
    rw [hnext] at hn
    cases hn
    rw [hfilter] at hpass
    cases hpass
  -- the message that is handled is the only candidate
  have honly : (∃ n, nextMessage c s = some n ∧ messageFilter s n = false ∧
      (SecondExit n s.info ∨ disturbs n s.info s.own)) ↔
      (SecondExit m s.info ∨ disturbs m s.info s.own) := by
    constructor
    · rintro ⟨n, hn, -, hor⟩
      rw [hnext] at hn
      cases hn
      exact hor
    · exact fun hor => ⟨m, hnext, hfilter, hor⟩
  rw [honly]
  have hforward : Forward s s' ↔ Forward (s.popped buff) s' :=
    ⟨fun h => ⟨h.status, h.record⟩, fun h => ⟨h.status, h.record⟩⟩
  rw [hforward]
  have hno : ∀ {n}, m.message = n → (n = msgManagerExit ∨ n = msgManagerExitAck ∨
      n = msgManagerTimerOn) → ¬ disturbs m s.info s.own := by
    intro n hn hor hd
    obtain ⟨h1, h2, h3⟩ := hc.ids hd
    rw [hn] at h1 h2 h3
    exact hor.elim h1 (·.elim h2 h3)
  rw [handleMessage] at h
  split_ifs at h with hexitId hackId htimerId
  · cases h
    rw [forward_exitMessage (s := s.popped buff) hclear hexit]
    constructor
    · rintro hsame (⟨-, hnot⟩ | hd)
      · exact hnot hsame
      · exact hno hexitId (.inl rfl) hd
    · intro hnot
      by_contra hsame
      exact hnot (.inl ⟨hexitId, hsame⟩)
  · cases h
    refine iff_of_true ⟨.inl rfl, rfl⟩ ?_
    rintro (⟨hid, -⟩ | hd)
    · exact hexitId hid
    · exact hno hackId (.inr (.inl rfl)) hd
  · rw [Option.bind_eq_some_iff] at h
    obtain ⟨f, -, h⟩ := h
    rw [hc.handlerExit h]
    refine iff_of_true (.of_info rfl) ?_
    rintro (⟨hid, -⟩ | hd)
    · exact hexitId hid
    · exact hno htimerId (.inr (.inr rfl)) hd
  · rw [hc.handleExit (s := s.popped buff) hexit hclear h]
    constructor
    · rintro hnot (⟨hid, -⟩ | hd)
      · exact hexitId hid
      · exact hnot hd
    · exact fun hnot hd => hnot (.inr hd)

/-- A step from an exit state goes forward iff it is not disturbed. -/
theorem exitForward_step (hc : ExitKeeper c disturbs ends) (hinv : ExitInv s)
    (h : c.step config s a = some s') : ExitForward s a s' ↔ ¬ Disturbed c disturbs ends s a := by
  rw [ExitForward]
  by_cases hexit : s.info.status.isExit = true
  swap
  · refine iff_of_true (fun h => absurd h hexit) fun hd => ?_
    cases a with
    | main input => exact hexit hd.1
    | thread input => exact hexit hd.1
    | arrive msg => exact hd
    | start => exact hd
  have hrunning : ¬ (s.pc = .stopped ∨ s.pc = .boot ∨ ∃ status, s.pc = .drain status) := fun hpc =>
    absurd ((hinv.idle hpc).1.symm.trans hexit) Bool.false_ne_true
  have hclear : s.info.exit = false := by
    rw [Bool.eq_false_iff]
    exact fun hset => absurd ((hinv.exit hset).symm.trans hexit) Bool.false_ne_true
  simp only [hexit, forall_const]
  cases a with
  | main input =>
      have hno : s.pc ≠ .messageProc → ¬ Disturbed c disturbs ends s (.main input) :=
        fun hpc hd => hpc hd.2.1
      rw [ServerCode.step, mainStep] at h
      split at h
      case h_1 => cases h
      case h_2 hpc => exact absurd (.inr (.inl hpc)) hrunning
      case h_3 hpc =>
        refine iff_of_true ?_ (hno (by rw [hpc]; rintro ⟨⟩))
        rw [if_neg (Bool.eq_false_iff.mp hclear), Option.map_eq_some_iff] at h
        obtain ⟨t, ht, rfl⟩ := h
        have hforward := forward_stateMachine hc (s := s.noteStatus) hexit ht
        rw [afterStates]
        split_ifs
        · exact ⟨hforward.status, hforward.record⟩
        · exact ⟨hforward.status, hforward.record⟩
      case h_4 status hpc => exact absurd (.inr (.inr ⟨status, hpc⟩)) hrunning
      case h_5 hpc =>
        refine iff_of_true ?_ (hno (by rw [hpc]; rintro ⟨⟩))
        rw [Option.map_eq_some_iff] at h
        obtain ⟨t, ht, rfl⟩ := h
        rw [hc.taskExit hexit ht]
        exact .of_info rfl
      case h_6 hpc =>
        rw [Option.map_eq_some_iff] at h
        obtain ⟨t, ht, rfl⟩ := h
        have hiff := forward_messageProc hc hinv hexit ht
        have hsame : Forward s { t with pc := .stateMachine } ↔ Forward s t :=
          ⟨fun h => ⟨h.status, h.record⟩, fun h => ⟨h.status, h.record⟩⟩
        rw [hsame, hiff, Disturbed]
        simp only [hexit, hpc, true_and]
  | thread input =>
      rw [hc.threadExit hexit hclear h, Disturbed]
      simp only [hexit, true_and]
  | arrive msg =>
      cases h
      refine iff_of_true ?_ id
      rw [serverMessage]
      split_ifs
      · exact .of_info rfl
      · exact .of_info rfl
  | start =>
      rw [ServerCode.step] at h
      split_ifs at h with hpc
      exact absurd (.inl hpc) hrunning

/-- Every run goes forward iff none of its steps is disturbed. -/
theorem exitForward_iff (hc : ExitKeeper c disturbs ends) (config : ManagerConfig) (own : κ)
    (as : List ServerAction) : AllSteps (c.step config) ExitForward { own := own } as ↔
      AllSteps (c.step config) (fun s a _ => ¬ Disturbed c disturbs ends s a) { own := own } as := by
  refine allSteps_iff (I := ExitInv) ?_ ?_ (exitInv_init own) as
  · exact fun s a s' hinv h => exitInv_step hc.toKeeper hinv h
  · exact fun s a s' hinv h => exitForward_step hc hinv h

/-- Leaving the exit states is not going forward. -/
theorem not_forward (hexit : s.info.status.isExit = true) (hclear : s'.info.exit = false)
    (hleft : s'.info.status.isExit = false) : ¬ Forward s s' := by
  have hnext : (exitNext s.info.status).isExit = true := by
    revert hexit
    cases s.info.status <;> decide
  rintro ⟨hsame | hforth | ⟨-, hset⟩, -⟩
  · rw [hsame, hexit] at hleft
    cases hleft
  · rw [hforth, hnext] at hleft
    cases hleft
  · exact absurd (hclear.symm.trans hset) Bool.false_ne_true

theorem forward_of_taskFrame (h : TaskFrame P s s') (hstatus : s'.info.status = s.info.status) :
    Forward s s' := ⟨.inl hstatus, by rw [h.task]⟩

end GokeWebcam.Server
