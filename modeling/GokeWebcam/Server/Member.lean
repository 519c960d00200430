import GokeWebcam.Common.MsgSlots
import GokeWebcam.Server.Frame

/-!
# What a step of a server does to the exit protocol

`info.quit_status` is set once, before the loop. From then on the acknowledgements of the servers that are
waited for take bits out of it, `EXIT_INIT` keeps those that the request names, and a server that initialises
itself again loses it with the rest of `info`.

* `ExitMember`: a server whose own functions leave its exit alone, and send at most its own acknowledgement.
* `Does`: all that a step of such a server can do to its exit.
-/

namespace GokeWebcam.Server

open Common Global Manager

variable {κ : Type} {P : Message → Prop}

/-- The end of the wait in this status leaves `quit_status` as it was, unless it is that of a reinit; or
there is nothing in it. -/
def KeepsQuit (c : ServerCode κ) (status : ServerStatus) : Prop :=
  c.exitCondition = 0#32 ∨ status = .reinit ∨
    ∀ s, (c.drained status s).info.quitStatus = s.info.quitStatus

/-- A server whose own functions leave its exit alone. One without others to wait for may clear `info`. -/
structure ExitMember (c : ServerCode κ) : Prop where
  states : ∀ {input s s'}, c.states input s = some s' →
    (Frame (Signed c.server) { s with pc := s'.pc } s' ∧
      (s'.pc = s.pc ∨ ∃ status, s'.pc = .drain status ∧ KeepsQuit c status)) ∨
    (c.exitCondition = 0#32 ∧ s' = { s with info := {} })
  taskProc : ∀ {input s s'}, c.taskProc input s = some s' → Frame (Signed c.server) s s'
  handle : ∀ {input m s s'}, c.handle input m s = some s' → Frame (Signed c.server) s s'
  handler : ∀ {input f s s'}, c.handler input f s = some s' → Frame (Signed c.server) s s'
  thread : ∀ {input s s'}, c.thread input s = some s' → Frame (Signed c.server) s s' ∧
    (c.exitCondition = 0#32 ∨ s'.info.task = s.info.task)
  release1 : ∀ {input s}, Frame (Signed c.server) s (c.serverRelease1 input s)
  release2 : ∀ {s}, Frame (Signed c.server) s (c.serverRelease2 s)
  drained : ∀ {status s}, (c.drained status s).message = s.message ∧
    (c.drained status s).out = s.out ∧
    ((c.drained status s).info.quitStatus = s.info.quitStatus ∨
      (c.drained status s).info.quitStatus = 0#32) ∧
    ((c.drained status s).info.status.isExit = true →
      (c.drained status s).info.status = s.info.status)
  serverStart : ∀ {s}, c.serverStart s = s ∨ c.serverStart s = { s with info := {} }

/-- A step that leaves the exit alone. -/
structure Plainly (c : ServerCode κ) (s : ServerState κ) (a : ServerAction) (s' : ServerState κ) :
    Prop where
  quitStatus : s'.info.quitStatus = s.info.quitStatus ∨
    (c.exitCondition = 0#32 ∧ s'.info.quitStatus = 0#32)
  exitInit : s'.info.status = .exitInit → s.info.status = .exitInit ∧
    (s.pc = .stateMachine → s'.pc = .stateMachine ∧
      (c.exitCondition = 0#32 ∨ s'.info.task = s.info.task))
  stage1 : s.info.status = .exitServer → s'.info.status = .exitStage1 →
    s.pc = .stateMachine ∧ s.info.quitStatus = 0#32
  pc : s.pc = .stopped ∨ s.pc = .boot → s'.pc = s.pc
  drain : ∀ status, s'.pc = .drain status → s.pc = .drain status ∨ KeepsQuit c status
  out : ∃ ms, s'.out = s.out ++ ms ∧ ∀ m ∈ ms, Signed c.server m.2
  slots : ∀ {P}, SlotProperty P → (∀ m, a = .arrive m → P m) → AllSlots P s.message →
    AllSlots P s'.message

/-- What a step that is no start does to the exit. -/
inductive Does (c : ServerCode κ) (config : ManagerConfig) (s : ServerState κ) :
    ServerAction → ServerState κ → Prop
  | boots {input : ServerInput} (hpc : s.pc = .boot) : Does c config s (.main input) (serverBoot c config s)
  | ends {input : ServerInput} (hpc : s.pc = .stateMachine) (hexit : s.info.exit = true) :
      Does c config s (.main input) (serverRelease3 c s)
  | fails {input : ServerInput} (hpc : s.pc = .stateMachine) (hexit : s.info.exit = false)
      (hstatus : s.info.status = .error) :
      Does c config s (.main input) { s.noteStatus with
        info := { s.noteStatus.info with status := .exitInit, msgLock := false }, pc := .taskProc }
  | begins {input : ServerInput} (hpc : s.pc = .stateMachine) (hexit : s.info.exit = false)
      (hstatus : s.info.status = .exitInit) :
      Does c config s (.main input) { s.noteStatus with
        info := { s.noteStatus.info with
          quitStatus :=
            if s.info.task.msg.sender = ServerType.manager.toInt then
              s.info.quitStatus &&& s.info.task.msg.argIn.cat
            else 0#32
          status := .exitServer }
        pc := .taskProc }
  | drains {input : ServerInput} {status : ServerStatus} (hpc : s.pc = .drain status) :
      Does c config s (.main input) { c.drained status s with pc := .taskProc }
  | takesExit {input : ServerInput} {buff : MessageBuffer} {m : Message} (hpc : s.pc = .messageProc)
      (hsource : messageSource c s = some buff) (hpop : (msgBufferPop buff).2 = some m)
      (hid : m.message = msgManagerExit) :
      Does c config s (.main input) { exitMessage m (s.popped buff) with pc := .stateMachine }
  | takesAck {input : ServerInput} {buff : MessageBuffer} {m : Message} (hpc : s.pc = .messageProc)
      (hsource : messageSource c s = some buff) (hpop : (msgBufferPop buff).2 = some m)
      (hid : m.message = msgManagerExitAck) :
      Does c config s (.main input) { exitAckMessage m (s.popped buff) with pc := .stateMachine }
  | plain {a : ServerAction} {s' : ServerState κ} (h : Plainly c s a s') : Does c config s a s'

variable {c : ServerCode κ} {config : ManagerConfig} {input : ServerInput} {s s' t : ServerState κ}
  {a : ServerAction}

theorem allSlots_messageBlockFrom {buff b : MessageBuffer} {fuel : ℕ} {index : CInt} (h : AllSlots P buff)
    (hb : messageBlockFrom buff fuel index = some b) : AllSlots P b := by
  induction fuel generalizing index with
  | zero => cases hb
  | succ fuel ih =>
    rw [messageBlockFrom] at hb
    split at hb
    · cases hb
    · split_ifs at hb
      · cases hb
        exact h.swap
      · exact ih hb

theorem allSlots_messageBlock {buff b : MessageBuffer} (h : AllSlots P buff)
    (hb : messageBlock buff = some b) : AllSlots P b := by
  rw [messageBlock] at hb
  split at hb
  · cases hb
    exact h
  · split_ifs at hb
    · cases hb
      exact h
    · exact allSlots_messageBlockFrom h hb

/-- The message block only moves messages. -/
theorem allSlots_messageSource {buff : MessageBuffer} (h : AllSlots P s.message)
    (hsource : messageSource c s = some buff) : AllSlots P buff := by
  rw [messageSource] at hsource
  split_ifs at hsource
  · exact allSlots_messageBlock h hsource
  · cases hsource
    exact h

/-- A pass of the state machine that is not the one of `EXIT_INIT`. -/
theorem Plainly.of_pass {ms : List (CInt × Message)} (hpc : s.pc = .stateMachine)
    (hquit : t.info.quitStatus = s.info.quitStatus ∨ (c.exitCondition = 0#32 ∧ t.info.quitStatus = 0#32))
    (hstatus : t.info.status ≠ .exitInit)
    (hstage1 : s.info.status = .exitServer → t.info.status = .exitStage1 → s.info.quitStatus = 0#32)
    (htpc : t.pc = .stateMachine ∨ ∃ status, t.pc = .drain status ∧ KeepsQuit c status)
    (hout : t.out = s.out ++ ms) (hms : ∀ m ∈ ms, Signed c.server m.2)
    (hslots : ∀ {P}, SlotProperty P → AllSlots P s.message → AllSlots P t.message) :
    Plainly c s (.main input) (afterStates t) := by
  have hsame : (afterStates t).info = t.info ∧ (afterStates t).out = t.out ∧
      (afterStates t).message = t.message := by
    rw [afterStates]
    split_ifs <;> exact ⟨rfl, rfl, rfl⟩
  obtain ⟨hinfo, hsent, hmessage⟩ := hsame
  constructor
  case quitStatus =>
    rw [hinfo]
    exact hquit
  case exitInit =>
    rw [hinfo]
    exact fun h => absurd h hstatus
  case stage1 =>
    rw [hinfo]
    exact fun hserver hnext => ⟨hpc, hstage1 hserver hnext⟩
  case pc =>
    rw [hpc]
    rintro (h | h) <;> cases h
  case drain =>
    intro status hdrain
    rw [afterStates] at hdrain
    split_ifs at hdrain with hstay
    obtain ⟨status', hgoes, hkeeps⟩ := htpc.resolve_left hstay
    rw [hgoes] at hdrain
    cases hdrain
    exact .inr hkeeps
  case out => exact ⟨ms, hsent.trans hout, hms⟩
  case slots =>
    intro P hP _ h
    rw [hmessage]
    exact hslots hP h

/-- A function that leaves the exit alone, called in another place of the loop. -/
theorem Plainly.of_frame {pc : ServerPc} (h : Frame (Signed c.server) t s')
    (hinfo : t.info = s.info) (hout : t.out = s.out)
    (hslots : ∀ {P}, SlotProperty P → AllSlots P s.message → AllSlots P t.message)
    (hpc : s.pc = .taskProc ∨ s.pc = .messageProc) (hgoes : pc = .messageProc ∨ pc = .stateMachine) :
    Plainly c s a { s' with pc := pc } := by
  have hloop : s.pc ≠ .stateMachine := by
    rcases hpc with hpc | hpc <;> rw [hpc] <;> rintro ⟨⟩
  have hstatus : s'.info.status.isExit = true → s'.info.status = s.info.status := by
    rw [← hinfo]
    exact h.status
  constructor
  case quitStatus => exact .inl (h.quitStatus.trans (by rw [hinfo]))
  case exitInit =>
    intro hnext
    have hnext : s'.info.status = .exitInit := hnext
    exact ⟨(hstatus (by rw [hnext]; rfl)).symm.trans hnext, fun hstay => absurd hstay hloop⟩
  case stage1 =>
    intro hserver hnext
    have hnext : s'.info.status = .exitStage1 := hnext
    cases hserver.symm.trans ((hstatus (by rw [hnext]; rfl)).symm.trans hnext)
  case pc =>
    rcases hpc with hpc | hpc <;> rw [hpc] <;> rintro (hno | hno) <;> cases hno
  case drain =>
    intro status hdrain
    rcases hgoes with rfl | rfl <;> cases hdrain
  case out =>
    obtain ⟨ms, hms, hsigned⟩ := h.out
    exact ⟨ms, by rw [← hout]; exact hms, hsigned⟩
  case slots =>
    intro P hP _ hok
    have hsame : ({ s' with pc := pc } : ServerState κ).message = t.message := h.message
    rw [hsame]
    exact hslots hP hok

theorem does_stateMachine (hc : ExitMember c) (hpc : s.pc = .stateMachine) (hexit : s.info.exit = false)
    (h : stateMachine c input s.noteStatus = some t) : Does c config s (.main input) (afterStates t) := by
  have hnil : ∀ m ∈ ([] : List (CInt × Message)), Signed c.server m.2 := by simp
  have hloop : ∀ {u : ServerState κ}, u.pc = .stateMachine →
      Does c config s (.main input) { u with pc := .taskProc } →
      Does c config s (.main input) (afterStates u) := by
    intro u hu hdoes
    rw [afterStates, if_pos hu]
    exact hdoes
  have hnone := (List.append_nil s.out).symm
  rw [stateMachine] at h
  split at h
  case h_1 hstatus =>
    cases h
    exact hloop hpc (.fails hpc hexit hstatus)
  case h_2 hstatus =>
    cases h
    exact hloop hpc (.begins hpc hexit hstatus)
  case h_3 hstatus =>
    cases h
    split_ifs with hquit
    · exact .plain (.of_pass hpc (.inl rfl) (by rintro ⟨⟩) (fun _ _ => hquit) (.inl hpc) hnone hnil
        fun _ => id)
    · have hstays : s.noteStatus.info.status = .exitServer := hstatus
      exact .plain (.of_pass hpc (.inl rfl) (by rw [hstays]; rintro ⟨⟩)
        (fun _ hnext => by cases hnext.symm.trans hstays) (.inl hpc) hnone hnil fun _ => id)
  case h_4 =>
    cases h
    have hframe : Frame (Signed c.server) s.noteStatus (c.serverRelease1 input s.noteStatus) := hc.release1
    obtain ⟨ms, hout, hms⟩ := hframe.out
    refine .plain (.of_pass hpc (.inl hframe.quitStatus) (by rintro ⟨⟩) (fun _ hnext => by cases hnext)
      (.inl (hframe.pc.trans hpc)) hout hms ?_)
    intro P _ hok
    have hsame : ((c.serverRelease1 input s.noteStatus).setStatus .exitThread).message = s.message :=
      hframe.message
    rwa [hsame]
  case h_5 hstatus =>
    cases h
    split_ifs
    · exact .plain (.of_pass hpc (.inl rfl) (by rintro ⟨⟩) (fun _ hnext => by cases hnext) (.inl hpc)
        hnone hnil fun _ => id)
    · have hstays : s.noteStatus.info.status = .exitThread := hstatus
      exact .plain (.of_pass hpc (.inl rfl) (fun hno => by cases hno.symm.trans hstays)
        (fun _ hnext => by cases hnext.symm.trans hstays) (.inl hpc) hnone hnil fun _ => id)
  case h_6 =>
    cases h
    have hframe := hc.release2 (s := { s.noteStatus with message := msgBufferRelease s.noteStatus.message })
    obtain ⟨ms, hout, hms⟩ := hframe.out
    refine .plain (.of_pass hpc (.inl hframe.quitStatus) (by rintro ⟨⟩) (fun _ hnext => by cases hnext)
      (.inl (hframe.pc.trans hpc)) hout hms ?_)
    intro P hP _
    have hsame : ((c.serverRelease2 { s.noteStatus with message := msgBufferRelease s.noteStatus.message }
        ).setStatus .exitFinish).message = msgBufferRelease s.noteStatus.message := hframe.message
    rw [hsame]
    exact .release hP
  case h_7 =>
    cases h
    exact .plain (.of_pass hpc (.inl rfl) (by rintro ⟨⟩) (fun _ hnext => by cases hnext) (.inl hpc)
      hnone hnil fun _ => id)
  case h_8 herror hinit hserver hstage1 hthread hstage2 hfinish =>
    rcases hc.states h with ⟨hframe, hgoes⟩ | ⟨hnolist, rfl⟩
    · obtain ⟨ms, hout, hms⟩ := hframe.out
      refine .plain (.of_pass hpc (.inl hframe.quitStatus) ?_ ?_ ?_ hout hms ?_)
      · intro hstatus
        exact hinit ((hframe.status (by rw [hstatus]; rfl)).symm.trans hstatus)
      · intro hno
        exact absurd hno hserver
      · exact hgoes.imp (fun hsame => hsame.trans hpc) id
      · intro P _ hok
        rw [hframe.message]
        exact hok
    · exact .plain (.of_pass hpc (.inr ⟨hnolist, rfl⟩) (by rintro ⟨⟩) (fun _ hnext => by cases hnext)
        (.inl hpc) hnone hnil fun _ => id)

theorem does_messageProc (hc : ExitMember c) (hpc : s.pc = .messageProc)
    (h : serverMessageProc c input s = some t) :
    Does c config s (.main input) { t with pc := .stateMachine } := by
  have hplain : ∀ {u : ServerState κ}, Frame (Signed c.server) u t → u.info = s.info → u.out = s.out →
      (∀ {P}, SlotProperty P → AllSlots P s.message → AllSlots P u.message) →
      Does c config s (.main input) { t with pc := .stateMachine } :=
    fun hframe hinfo hout hslots => .plain (.of_frame hframe hinfo hout hslots (.inr hpc) (.inr rfl))
  rcases serverMessageProc_cases h with ⟨-, rfl⟩ | ⟨buff, hsource, hcases⟩
  · exact hplain TaskFrame.refl.toFrame rfl rfl fun _ => id
  have hslots : ∀ {P}, SlotProperty P → AllSlots P s.message → AllSlots P (s.popped buff).message :=
    fun hP hok => (allSlots_messageSource hok hsource).pop hP
  rcases hcases with ⟨-, rfl⟩ | ⟨m, hpop, ⟨-, rfl⟩ | ⟨-, h⟩⟩
  · exact hplain TaskFrame.refl.toFrame rfl rfl hslots
  · exact hplain TaskFrame.refl.toFrame rfl rfl hslots
  · rw [handleMessage] at h
    split_ifs at h with hexit hack
    · cases h
      exact .takesExit hpc hsource hpop hexit
    · cases h
      exact .takesAck hpc hsource hpop hack
    · obtain ⟨f, -, h⟩ := Option.bind_eq_some_iff.mp h
      exact hplain (hc.handler h) rfl rfl hslots
    · exact hplain (hc.handle h) rfl rfl hslots

/-- A step that is no start does one of these. -/
theorem does_step (hc : ExitMember c) (ha : a ≠ .start) (h : c.step config s a = some s') :
    Does c config s a s' := by
  cases a with
  | main input =>
    have h : mainStep c config input s = some s' := h
    rw [mainStep] at h
    split at h
    case h_1 => cases h
    case h_2 hpc =>
      cases h
      exact .boots hpc
    case h_3 hpc =>
      split_ifs at h with hexit
      · cases h
        exact .ends hpc hexit
      · obtain ⟨t, ht, rfl⟩ := Option.map_eq_some_iff.mp h
        exact does_stateMachine hc hpc (Bool.eq_false_iff.mpr hexit) ht
    case h_4 hpc =>
      split_ifs at h
      cases h
      exact .drains hpc
    case h_5 hpc =>
      obtain ⟨t, ht, rfl⟩ := Option.map_eq_some_iff.mp h
      exact .plain (.of_frame (hc.taskProc ht) rfl rfl (fun _ => id) (.inl hpc) (.inl rfl))
    case h_6 hpc =>
      obtain ⟨t, ht, rfl⟩ := Option.map_eq_some_iff.mp h
      exact does_messageProc hc hpc ht
  | thread input =>
    obtain ⟨hframe, htask⟩ := hc.thread h
    constructor
    constructor
    case quitStatus => exact .inl hframe.quitStatus
    case exitInit =>
      intro hstatus
      have hexit : s'.info.status.isExit = true := by rw [hstatus]; rfl
      exact ⟨(hframe.status hexit).symm.trans hstatus, fun hpc => ⟨hframe.pc.trans hpc, htask⟩⟩
    case stage1 =>
      intro hserver hnext
      cases hserver.symm.trans ((hframe.status (by rw [hnext]; rfl)).symm.trans hnext)
    case pc => exact fun _ => hframe.pc
    case drain => exact fun status hdrain => .inl (hframe.pc.symm.trans hdrain)
    case out => exact hframe.out
    case slots =>
      intro P _ _ hok
      rw [hframe.message]
      exact hok
  | arrive msg =>
    have hsame : s' = { s with message := s'.message } := by
      cases h
      rw [serverMessage]
      split_ifs <;> rfl
    rw [hsame]
    constructor
    constructor
    case quitStatus => exact .inl rfl
    case exitInit => exact fun hstatus => ⟨hstatus, fun hpc => ⟨hpc, .inr rfl⟩⟩
    case stage1 => exact fun hserver hnext => by cases hserver.symm.trans hnext
    case pc => exact fun _ => rfl
    case drain => exact fun _ => .inl
    case out => exact ⟨[], (List.append_nil _).symm, by simp⟩
    case slots =>
      intro P hP harrive hok
      cases h
      show AllSlots P (serverMessage msg s).message
      rw [serverMessage]
      split_ifs
      · exact hok.push hP (harrive msg rfl)
      · exact hok
  | start => exact absurd rfl ha

/-! ### What each step keeps -/

theorem slots_does (hc : ExitMember c) (h : Does c config s a s') (hP : SlotProperty P)
    (harrive : ∀ m, a = .arrive m → P m) (hok : AllSlots P s.message) : AllSlots P s'.message := by
  cases h with
  | boots => exact .init hP
  | ends => exact hok
  | fails => exact hok
  | begins => exact hok
  | @drains _ status hpc =>
    have hsame : (c.drained status s).message = s.message := hc.drained.1
    show AllSlots P (c.drained status s).message
    rw [hsame]
    exact hok
  | takesExit hpc hsource => exact (allSlots_messageSource hok hsource).pop hP
  | takesAck hpc hsource => exact (allSlots_messageSource hok hsource).pop hP
  | plain h => exact h.slots hP harrive hok

/-- Of the exit protocol it sends its own acknowledgement. -/
theorem out_does (hc : ExitMember c) (h : Does c config s a s') :
    ∃ ms, s'.out = s.out ++ ms ∧ ∀ m ∈ ms, Signed c.server m.2 := by
  have hnone : ∃ ms, s.out = s.out ++ ms ∧ ∀ m ∈ ms, Signed c.server m.2 := ⟨[], by simp, by simp⟩
  cases h with
  | ends =>
    refine ⟨[(ServerType.manager.toInt, exitAck c.server)], rfl, fun m hm => ?_⟩
    rw [List.mem_singleton.mp hm]
    have hne : msgManagerExitAck ≠ msgManagerExit := by decide
    exact ⟨hne, fun _ => rfl⟩
  | @drains _ status hpc =>
    have hsame : (c.drained status s).out = s.out := hc.drained.2.1
    show ∃ ms, (c.drained status s).out = s.out ++ ms ∧ _
    rw [hsame]
    exact hnone
  | plain h => exact h.out
  | _ => exact hnone

/-- A server that is not running is started by the manager only, and begins no exit. -/
theorem stopped_does (h : Does c config s a s') (hpc : s.pc = .stopped) :
    s'.pc = .stopped ∧ (s'.info.status = .exitInit → s.info.status = .exitInit) := by
  cases h with
  | plain h => exact ⟨(h.pc (.inl hpc)).trans hpc, fun hstatus => (h.exitInit hstatus).1⟩
  | boots hno => cases hno.symm.trans hpc
  | ends hno => cases hno.symm.trans hpc
  | fails hno => cases hno.symm.trans hpc
  | begins hno => cases hno.symm.trans hpc
  | drains hno => cases hno.symm.trans hpc
  | takesExit hno => cases hno.symm.trans hpc
  | takesAck hno => cases hno.symm.trans hpc

/-- A wait that a step enters keeps `quit_status`, or is that of a reinit. -/
theorem drain_does (h : Does c config s a s') (hkeeps : ∀ status, s.pc = .drain status → KeepsQuit c status)
    (status : ServerStatus) (hdrain : s'.pc = .drain status) : KeepsQuit c status := by
  cases h with
  | plain h => exact (h.drain status hdrain).elim (hkeeps status) id
  | _ => cases hdrain

/-- `EXIT_SERVER` is left by a pass that finds nothing left to wait for. -/
theorem stage1_does (hc : ExitMember c) (h : Does c config s a s') (hserver : s.info.status = .exitServer)
    (hnext : s'.info.status = .exitStage1) : s.pc = .stateMachine ∧ s.info.quitStatus = 0#32 := by
  cases h with
  | @drains _ status hpc =>
    have hnext : (c.drained status s).info.status = .exitStage1 := hnext
    have hsame := (@ExitMember.drained _ _ hc status s).2.2.2 (by rw [hnext]; rfl)
    cases hserver.symm.trans (hsame.symm.trans hnext)
  | plain h => exact h.stage1 hserver hnext
  | boots => cases hserver.symm.trans hnext
  | takesAck => cases hserver.symm.trans hnext
  | _ => cases hnext

/-! ### Waiting for other servers -/

/-- The request of the manager names the server `i`. -/
def Names (m : Message) (i : ℕ) : Prop :=
  m.sender = ServerType.manager.toInt ∧ m.argIn.cat.getLsbD i = true

instance {m : Message} {i : ℕ} : Decidable (Names m i) := inferInstanceAs (Decidable (_ ∧ _))

/-- A request to exit names the servers that are needed, an acknowledgement is not of one of them. -/
structure Harmless (need : ℕ → Prop) (m : Message) : Prop where
  exit : m.message = msgManagerExit → ∀ i, need i → Names m i
  ack : m.message = msgManagerExitAck → ¬ need m.sender.toNat

/-- Once it runs, the server still has to wait for each server that is needed. -/
structure Waiting (need : ℕ → Prop) (s : ServerState κ) : Prop where
  listed : ∀ i, need i → s.pc = .stopped ∨ s.pc = .boot ∨ s.info.quitStatus.getLsbD i = true
  exiting : ∀ i, need i → s.info.status = .exitInit → s.pc = .stateMachine ∧ Names s.info.task.msg i

/-- The step fails, or ends a reinit. -/
def Erases (s : ServerState κ) : ServerAction → Prop
  | .main _ => s.pc = .drain .reinit ∨
      (s.pc = .stateMachine ∧ s.info.exit = false ∧ s.info.status = .error)
  | _ => False

instance {s : ServerState κ} : (a : ServerAction) → Decidable (Erases s a)
  | .main _ => inferInstanceAs (Decidable (_ ∨ _))
  | .thread _ | .arrive _ | .start => inferInstanceAs (Decidable False)

variable {need : ℕ → Prop}

theorem Harmless.of_ordinary {m : Message} (h : Ordinary m) : Harmless need m :=
  ⟨fun hexit => absurd hexit h.1, fun hack => absurd hack h.2⟩

theorem Harmless.mono {need' : ℕ → Prop} (hless : ∀ i, need' i → need i) {m : Message}
    (h : Harmless need m) : Harmless need' m :=
  ⟨fun hexit i hi => h.exit hexit i (hless i hi), fun hack hi => h.ack hack (hless _ hi)⟩

theorem Waiting.mono {need' : ℕ → Prop} (hless : ∀ i, need' i → need i) (h : Waiting need s) :
    Waiting need' s :=
  ⟨fun i hi => h.listed i (hless i hi), fun i hi => h.exiting i (hless i hi)⟩

theorem waiting_does (hc : ExitMember c) (h : Does c config s a s')
    (hneed : ∀ i, need i → c.exitCondition.getLsbD i = true)
    (hslots : AllSlots (Harmless need) s.message)
    (hdrain : ∀ status, s.pc = .drain status → KeepsQuit c status)
    (hkeep : ∀ i, need i → ¬ Erases s a) (hwait : Waiting need s) : Waiting need s' := by
  have hlists : ∀ i, need i → c.exitCondition ≠ 0#32 := by
    intro i hi hzero
    have hbit := hneed i hi
    rw [hzero, BitVec.getLsbD_zero] at hbit
    cases hbit
  have hstays : ∀ i, need i → s.info.status = .exitInit → s.pc = .stateMachine :=
    fun i hi hstatus => (hwait.exiting i hi hstatus).1
  have hbit : ∀ i, need i → s.pc ≠ .stopped → s.pc ≠ .boot → s.info.quitStatus.getLsbD i = true :=
    fun i hi hstopped hboot => ((hwait.listed i hi).resolve_left hstopped).resolve_left hboot
  cases h with
  | boots hpc =>
    refine ⟨fun i hi => .inr (.inr (hneed i hi)), fun i hi hstatus => ?_⟩
    cases hpc.symm.trans (hstays i hi hstatus)
  | ends => exact ⟨fun i _ => .inl rfl, fun i _ hstatus => by cases hstatus⟩
  | fails hpc hexit hstatus =>
    exact ⟨fun i hi => absurd (.inr ⟨hpc, hexit, hstatus⟩) (hkeep i hi),
      fun i hi => absurd (.inr ⟨hpc, hexit, hstatus⟩) (hkeep i hi)⟩
  | begins hpc hexit hstatus =>
    refine ⟨fun i hi => .inr (.inr ?_), fun i _ hno => by cases hno⟩
    obtain ⟨-, hsender, hcat⟩ := hwait.exiting i hi hstatus
    dsimp only
    rw [if_pos hsender, BitVec.getLsbD_and, hcat, Bool.and_true]
    exact hbit i hi (by rw [hpc]; rintro ⟨⟩) (by rw [hpc]; rintro ⟨⟩)
  | @drains _ status hpc =>
    refine ⟨fun i hi => .inr (.inr ?_), fun i hi hstatus => ?_⟩
    · show (c.drained status s).info.quitStatus.getLsbD i = true
      rcases hdrain status hpc with hzero | rfl | hkeeps
      · exact absurd hzero (hlists i hi)
      · exact absurd (.inl hpc) (hkeep i hi)
      · rw [hkeeps]
        exact hbit i hi (by rw [hpc]; rintro ⟨⟩) (by rw [hpc]; rintro ⟨⟩)
    · have hstatus : (c.drained status s).info.status = .exitInit := hstatus
      have hsame := (@ExitMember.drained _ _ hc status s).2.2.2 (by rw [hstatus]; rfl)
      cases hpc.symm.trans (hstays i hi (hsame.symm.trans hstatus))
  | @takesExit _ buff m hpc hsource hpop hid =>
    have hm := (allSlots_messageSource hslots hsource).of_pop hpop
    exact ⟨fun i hi => .inr (.inr (hbit i hi (by rw [hpc]; rintro ⟨⟩) (by rw [hpc]; rintro ⟨⟩))),
      fun i hi _ => ⟨rfl, hm.exit hid i hi⟩⟩
  | @takesAck _ buff m hpc hsource hpop hid =>
    have hm := (allSlots_messageSource hslots hsource).of_pop hpop
    refine ⟨fun i hi => .inr (.inr ?_), fun i hi hstatus => ?_⟩
    · show (miscClearBit s.info.quitStatus m.sender.toNat).getLsbD i = true
      have hset := hbit i hi (by rw [hpc]; rintro ⟨⟩) (by rw [hpc]; rintro ⟨⟩)
      have hne : m.sender.toNat ≠ i := fun heq => hm.ack hid (heq ▸ hi)
      rw [getLsbD_miscClearBit (BitVec.lt_of_getLsbD hset), hset, decide_eq_false hne]
      rfl
    · cases hpc.symm.trans (hstays i hi hstatus)
  | plain h =>
    refine ⟨fun i hi => ?_, fun i hi hstatus => ?_⟩
    · rcases hwait.listed i hi with hstopped | hboot | hset
      · exact .inl ((h.pc (.inl hstopped)).trans hstopped)
      · exact .inr (.inl ((h.pc (.inr hboot)).trans hboot))
      · rcases h.quitStatus with hsame | ⟨hzero, -⟩
        · exact .inr (.inr (hsame ▸ hset))
        · exact absurd hzero (hlists i hi)
    · obtain ⟨hbefore, hgoes⟩ := h.exitInit hstatus
      obtain ⟨hpc, hnames⟩ := hwait.exiting i hi hbefore
      obtain ⟨hpc', htask⟩ := hgoes hpc
      refine ⟨hpc', ?_⟩
      rw [htask.resolve_left (hlists i hi)]
      exact hnames

end GokeWebcam.Server
