import GokeWebcam.Server.Loop

/-!
# What a server's own functions leave alone

Most functions of a server touch neither its queue nor its exit protocol. `Frame P s s'` says so:
the queue, the position of the main thread, `info.exit` and `info.quit_status` are the same, no exit
state is entered, and the messages sent satisfy `P`. `TaskFrame` adds the task record and its lock.

Both are built up along a function's body by `refl`, `send`, `setStatus`, `own`, and `trans` for a
function it calls.
-/

namespace GokeWebcam.Server

open Common Global

variable {κ : Type} {P Q : Message → Prop} {s s' s'' : ServerState κ}

/-- Not a message of the exit protocol. -/
def Ordinary (msg : Message) : Prop :=
  msg.message ≠ msgManagerExit ∧ msg.message ≠ msgManagerExitAck

instance {msg : Message} : Decidable (Ordinary msg) := inferInstanceAs (Decidable (_ ∧ _))

theorem ordinary_of_id {msg : Message} {n : CInt} (hmsg : msg.message = n)
    (hn : n ≠ msgManagerExit ∧ n ≠ msgManagerExitAck) : Ordinary msg := by
  rw [Ordinary, hmsg]
  exact hn

/-- Of the exit protocol at most an acknowledgement, and in the server's own name. -/
def Signed (server : ServerType) (msg : Message) : Prop :=
  msg.message ≠ msgManagerExit ∧ (msg.message = msgManagerExitAck → msg.sender = server.toInt)

theorem Ordinary.signed {msg : Message} {server : ServerType} (h : Ordinary msg) : Signed server msg :=
  ⟨h.1, fun hack => absurd hack h.2⟩

theorem signed_taskAck {server : ServerType} {task : Task} {result : CInt} :
    Signed server (taskAck server task result) := ⟨ackOf_ne (by decide), fun _ => rfl⟩

/-- From `s` to `s'` the queue and the exit protocol stay, and only messages with `P` are sent. -/
structure Frame (P : Message → Prop) (s s' : ServerState κ) : Prop where
  message : s'.message = s.message
  pc : s'.pc = s.pc
  exit : s'.info.exit = s.info.exit
  quitStatus : s'.info.quitStatus = s.info.quitStatus
  status : s'.info.status.isExit = true → s'.info.status = s.info.status
  out : ∃ ms, s'.out = s.out ++ ms ∧ ∀ m ∈ ms, P m.2

/-- The task and its lock stay as well. -/
structure TaskFrame (P : Message → Prop) (s s' : ServerState κ) : Prop extends Frame P s s' where
  task : s'.info.task = s.info.task
  msgLock : s'.info.msgLock = s.info.msgLock

theorem Frame.mono (hPQ : ∀ m, P m → Q m) (h : Frame P s s') : Frame Q s s' where
  message := h.message
  pc := h.pc
  exit := h.exit
  quitStatus := h.quitStatus
  status := h.status
  out := by
    obtain ⟨ms, hout, hms⟩ := h.out
    exact ⟨ms, hout, fun m hm => hPQ _ (hms m hm)⟩

theorem Frame.trans (h : Frame P s s') (h' : Frame P s' s'') : Frame P s s'' where
  message := h'.message.trans h.message
  pc := h'.pc.trans h.pc
  exit := h'.exit.trans h.exit
  quitStatus := h'.quitStatus.trans h.quitStatus
  status hexit := by
    have hsame := h'.status hexit
    rw [hsame] at hexit ⊢
    exact h.status hexit
  out := by
    obtain ⟨ms, hout, hms⟩ := h.out
    obtain ⟨ms', hout', hms'⟩ := h'.out
    refine ⟨ms ++ ms', by rw [hout', hout, List.append_assoc], fun m hm => ?_⟩
    exact (List.mem_append.mp hm).elim (hms m) (hms' m)

namespace TaskFrame

theorem trans (h : TaskFrame P s s') (h' : TaskFrame P s' s'') : TaskFrame P s s'' where
  toFrame := h.toFrame.trans h'.toFrame
  task := h'.task.trans h.task
  msgLock := h'.msgLock.trans h.msgLock

/-- A step that sends nothing and changes other fields only. -/
theorem of_eq (hmessage : s'.message = s.message) (hpc : s'.pc = s.pc)
    (hexit : s'.info.exit = s.info.exit) (hquit : s'.info.quitStatus = s.info.quitStatus)
    (hstatus : s'.info.status = s.info.status) (hout : s'.out = s.out)
    (htask : s'.info.task = s.info.task) (hlock : s'.info.msgLock = s.info.msgLock) :
    TaskFrame P s s' where
  message := hmessage
  pc := hpc
  exit := hexit
  quitStatus := hquit
  status _ := hstatus
  out := ⟨[], by rw [hout, List.append_nil], by simp⟩
  task := htask
  msgLock := hlock

theorem refl : TaskFrame P s s := of_eq rfl rfl rfl rfl rfl rfl rfl rfl

theorem send {receiver : CInt} {msg : Message} (hmsg : P msg) (h : TaskFrame P s s') :
    TaskFrame P s (s'.send receiver msg) :=
  h.trans
    { message := rfl
      pc := rfl
      exit := rfl
      quitStatus := rfl
      status := fun _ => rfl
      out := ⟨[(receiver, msg)], rfl, fun m hm => by rw [List.mem_singleton.mp hm]; exact hmsg⟩
      task := rfl
      msgLock := rfl }

theorem setStatus {status : ServerStatus} (hstatus : status.isExit = false) (h : TaskFrame P s s') :
    TaskFrame P s (s'.setStatus status) :=
  h.trans
    { message := rfl
      pc := rfl
      exit := rfl
      quitStatus := rfl
      status := fun hexit => absurd hexit (Bool.eq_false_iff.mp hstatus)
      out := ⟨[], (List.append_nil _).symm, by simp⟩
      task := rfl
      msgLock := rfl }

theorem ite {p : Prop} [Decidable p] (h : TaskFrame P s s') (h' : TaskFrame P s s'') :
    TaskFrame P s (if p then s' else s'') := by
  split_ifs
  · exact h
  · exact h'

theorem own {own : κ} (h : TaskFrame P s s') : TaskFrame P s { s' with own := own } :=
  h.trans (of_eq rfl rfl rfl rfl rfl rfl rfl rfl)

theorem threadExit {threads : CInt} (h : TaskFrame P s s') :
    TaskFrame P s { s' with info := { s'.info with threadExit := threads } } :=
  h.trans (of_eq rfl rfl rfl rfl rfl rfl rfl rfl)

theorem setInitBit {bit : ℕ} (h : TaskFrame P s s') : TaskFrame P s (s'.setInitBit bit) :=
  h.trans (of_eq rfl rfl rfl rfl rfl rfl rfl rfl)

theorem clearInitBit {bit : ℕ} (h : TaskFrame P s s') : TaskFrame P s (s'.clearInitBit bit) :=
  h.trans (of_eq rfl rfl rfl rfl rfl rfl rfl rfl)

theorem threadBegin {bit : ℕ} (h : TaskFrame P s s') : TaskFrame P s (s'.threadBegin bit) :=
  h.trans (of_eq rfl rfl rfl rfl rfl rfl rfl rfl)

theorem threadEnd {bit : ℕ} (h : TaskFrame P s s') : TaskFrame P s (s'.threadEnd bit) :=
  h.trans (of_eq rfl rfl rfl rfl rfl rfl rfl rfl)

theorem status2 {b : Bool} (h : TaskFrame P s s') :
    TaskFrame P s { s' with info := { s'.info with status2 := b } } :=
  h.trans (of_eq rfl rfl rfl rfl rfl rfl rfl rfl)

end TaskFrame

/-- A thread of a server that has its bit and wakes the main thread. -/
theorem taskFrame_serverThread {server : ServerType} {input : ServerInput}
    (hdummy : P (serverMsg server msgManagerDummy)) :
    TaskFrame P s (serverThread server input s) := by
  rw [serverThread]
  refine TaskFrame.send hdummy ?_
  split_ifs
  · exact TaskFrame.refl.threadEnd
  · exact TaskFrame.refl.threadBegin

theorem taskFrame_cardAndClockInit {server : ServerType} :
    TaskFrame Ordinary s (cardAndClockInit server s) := by
  have hpara : ∀ argIn, Ordinary { serverMsg server msgDeviceGetPara with argIn := argIn } :=
    fun _ => ordinary_of_id (n := msgDeviceGetPara) rfl (by decide)
  have hsync : Ordinary (serverMsg server msgAliyunGetTimeSync) :=
    ordinary_of_id (n := msgAliyunGetTimeSync) rfl (by decide)
  rw [cardAndClockInit]
  refine TaskFrame.ite (TaskFrame.setStatus rfl ?_) ?_ <;>
    refine TaskFrame.ite (TaskFrame.send hsync ?_) ?_ <;>
    exact TaskFrame.ite (TaskFrame.refl.send (hpara _)) .refl

theorem taskFrame_cardAndClockMessage {msg : Message} (h : cardAndClockMessage msg s = some s') :
    TaskFrame P s s' := by
  rw [cardAndClockMessage] at h
  split_ifs at h <;> cases h
  · exact TaskFrame.refl.setInitBit
  · exact .refl
  · exact TaskFrame.refl.setInitBit
  · exact TaskFrame.refl.setInitBit
  · exact TaskFrame.refl.clearInitBit

theorem status_cardAndClockMessage {msg : Message} (h : cardAndClockMessage msg s = some s') :
    s'.info.status = s.info.status := by
  rw [cardAndClockMessage] at h
  split_ifs at h <;> cases h <;> rfl

theorem Frame.setTaskMsg {msg : Message} (h : Frame P s s') : Frame P s (s'.setTaskMsg msg) :=
  h.trans
    { message := rfl
      pc := rfl
      exit := rfl
      quitStatus := rfl
      status := fun _ => rfl
      out := ⟨[], (List.append_nil _).symm, by simp⟩ }

/-- A server none of whose own functions touches the queue or the exit protocol, except that a
restart after the end of its threads may clear `info`. -/
structure Keeper (P : Message → Prop) (c : ServerCode κ) : Prop where
  states : ∀ {input s s'}, c.states input s = some s' →
    Frame P { s with pc := s'.pc } s' ∧ (s'.pc = s.pc ∨ ∃ status, s'.pc = .drain status)
  taskProc : ∀ {input s s'}, c.taskProc input s = some s' → Frame P s s'
  handle : ∀ {input m s s'}, c.handle input m s = some s' → Frame P s s'
  handler : ∀ {input f s s'}, c.handler input f s = some s' → Frame P s s'
  thread : ∀ {input s s'}, c.thread input s = some s' → Frame P s s'
  release1 : ∀ {input s}, Frame P s (c.serverRelease1 input s)
  release2 : ∀ {s}, Frame P s (c.serverRelease2 s)
  drained : ∀ {status s}, (c.drained status s).message = s.message ∧
    (c.drained status s).out = s.out ∧
    ((c.drained status s).info.exit = true → s.info.exit = true) ∧
    ((c.drained status s).info.status.isExit = true →
      (c.drained status s).info.status = s.info.status)
  serverStart : ∀ {s}, c.serverStart s = s ∨ c.serverStart s = { s with info := {} }

theorem Keeper.mono {c : ServerCode κ} (hPQ : ∀ m, P m → Q m) (hc : Keeper P c) : Keeper Q c where
  states h := ⟨(hc.states h).1.mono hPQ, (hc.states h).2⟩
  taskProc h := (hc.taskProc h).mono hPQ
  handle h := (hc.handle h).mono hPQ
  handler h := (hc.handler h).mono hPQ
  thread h := (hc.thread h).mono hPQ
  release1 := hc.release1.mono hPQ
  release2 := hc.release2.mono hPQ
  drained := hc.drained
  serverStart := hc.serverStart

/-! ### The state machine -/

/-- A server whose own states and release functions leave the task alone. -/
structure TaskKeeper (P : Message → Prop) (c : ServerCode κ) : Prop where
  states : ∀ {input s s'}, c.states input s = some s' → TaskFrame P s s'
  release1 : ∀ {input s}, TaskFrame P s (c.serverRelease1 input s)
  release2 : ∀ {s}, TaskFrame P s (c.serverRelease2 s)

/-- What a pass of the state machine of such a server does: it releases the queue when it enters
`EXIT_FINISH`, releases the lock when it enters `EXIT_INIT`, and sets `info.exit` when it leaves
`EXIT_FINISH`. -/
structure StatesKept (P : Message → Prop) (s s' : ServerState κ) : Prop where
  pc : s'.pc = s.pc
  task : s'.info.task = s.info.task
  message : (s'.message = s.message ∧ s'.info.status ≠ .exitFinish) ∨
    (s'.message = msgBufferRelease s.message ∧ s'.info.status = .exitFinish)
  msgLock : s'.info.msgLock = s.info.msgLock ∨
    (s'.info.msgLock = false ∧ s'.info.status = .exitInit)
  exit : s'.info.exit = s.info.exit ∨ s.info.status = .exitFinish
  out : ∃ ms, s'.out = s.out ++ ms ∧ ∀ m ∈ ms, P m.2

theorem StatesKept.of_taskFrame (h : TaskFrame P s s') (hstatus : s'.info.status ≠ .exitFinish) :
    StatesKept P s s' where
  pc := h.pc
  task := h.task
  message := .inl ⟨h.message, hstatus⟩
  msgLock := .inl h.msgLock
  exit := .inl h.exit
  out := h.out

theorem statesKept_stateMachine {c : ServerCode κ} (hc : TaskKeeper P c) {input : ServerInput}
    (h : stateMachine c input s = some s') : StatesKept P s s' := by
  have hnone : ∃ ms, s.out = s.out ++ ms ∧ ∀ m ∈ ms, P m.2 := ⟨[], by simp, by simp⟩
  rw [stateMachine] at h
  split at h
  case h_1 =>
    cases h
    exact ⟨rfl, rfl, .inl ⟨rfl, by rintro ⟨⟩⟩, .inr ⟨rfl, rfl⟩, .inl rfl, hnone⟩
  case h_2 =>
    cases h
    exact ⟨rfl, rfl, .inl ⟨rfl, by rintro ⟨⟩⟩, .inl rfl, .inl rfl, hnone⟩
  case h_3 hstatus =>
    cases h
    split_ifs
    · exact ⟨rfl, rfl, .inl ⟨rfl, by rintro ⟨⟩⟩, .inl rfl, .inl rfl, hnone⟩
    · exact .of_taskFrame .refl (by rw [hstatus]; rintro ⟨⟩)
  case h_4 =>
    cases h
    have h1 : TaskFrame _ s (c.serverRelease1 input s) := hc.release1
    exact ⟨h1.pc, h1.task, .inl ⟨h1.message, by rintro ⟨⟩⟩, .inl h1.msgLock, .inl h1.exit, h1.out⟩
  case h_5 hstatus =>
    cases h
    split_ifs
    · exact ⟨rfl, rfl, .inl ⟨rfl, by rintro ⟨⟩⟩, .inl rfl, .inl rfl, hnone⟩
    · exact ⟨rfl, rfl, .inl ⟨rfl, by rw [hstatus]; rintro ⟨⟩⟩, .inl rfl, .inl rfl, hnone⟩
  case h_6 =>
    cases h
    have h2 := hc.release2 (s := { s with message := msgBufferRelease s.message })
    exact ⟨h2.pc, h2.task, .inr ⟨h2.message, rfl⟩, .inl h2.msgLock, .inl h2.exit, h2.out⟩
  case h_7 hstatus =>
    cases h
    exact ⟨rfl, rfl, .inl ⟨rfl, by rintro ⟨⟩⟩, .inl rfl, .inr hstatus, hnone⟩
  case h_8 hfinish =>
    have hframe := hc.states h
    refine .of_taskFrame hframe fun hstatus => ?_
    exact hfinish ((hframe.status (by rw [hstatus]; rfl)).symm.trans hstatus)

end GokeWebcam.Server
