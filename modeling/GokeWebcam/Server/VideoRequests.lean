import GokeWebcam.Lib.Transition
import GokeWebcam.Server.Video

/-!
# The video server's client requests

`MSG_VIDEO_START`, `MSG_VIDEO_STOP` and `MSG_VIDEO_PROPERTY_SET_EXT` are served one at a time: a
request is recorded in `info.task`, `msg_lock` is set, and the message block is to keep further
requests in the queue until the answer is sent. But the block lets through what `msg_is_system`
accepts, and the ids of the requests end in 2, 3 and 5, which it does.

* `RequestsServed`: what a step of a server that keeps the protocol does.
* `RequestsUndisturbed`: while a request is served, the first system or response message of the
  queue is not a request.
* `requestsServed_of_undisturbed`: every run of such steps keeps the protocol.
* `request_overwritten`: a second start request overwrites the record of the first one.
-/

namespace GokeWebcam.Server.Video

open Lib Common Global Manager

/-- The answers to requests that are sent from `s` to `s'`, with their receivers. -/
def requestAcks (s s' : State) : List (CInt × Message) :=
  (s'.out.drop s.out.length).filter fun m => isRequestAck m.2

/-- The message that the action takes out of the queue. -/
def takes (s : State) : ServerAction → Option Message
  | .main _ => if s.pc = .messageProc then nextMessage server s else none
  | _ => none

/-- What a step does that keeps the protocol. -/
structure RequestsServed (s : State) (a : ServerAction) (s' : State) : Prop where
  /-- While a request is served, no other one is taken. -/
  taken : s.info.msgLock = true → ∀ m, takes s a = some m → isRequest m = false
  /-- A request that is taken is recorded. -/
  begun : ∀ m, takes s a = some m → isRequest m = true →
    s'.info.task.type ≠ .none ∧ s'.info.task.msg = m
  /-- The record stays as long as the task goes on. -/
  kept : s.info.task.type ≠ .none → s'.info.task.type ≠ .none → s'.info.task = s.info.task
  /-- When the task ends, one answer is sent. -/
  answered : s.info.task.type ≠ .none → s'.info.task.type = .none → s'.info.msgLock = false ∧
    ∃ ack, requestAcks s s' = [(s.info.task.msg.receiver, ack)] ∧
      ack.message = ackOf s.info.task.msg.message ∧ ack.argPass = s.info.task.msg.argPass ∧
      (s.info.task.type ≠ .restart → s.info.task.msg.receiver = s.info.task.msg.sender)
  /-- No other answers are sent. -/
  quiet : (s.info.task.type = .none ∨ s'.info.task.type ≠ .none) → requestAcks s s' = []
  /-- The lock is released before the end of the task only by an error, right before it. -/
  lock : s'.info.msgLock = false → s'.info.task.type ≠ .none →
    s'.pc = .taskProc ∧ ServerStatus.error.toNat ≤ s'.info.status.toNat

/-- What the queue may hold: no exit request, and start and stop requests that name their sender as
the receiver of the answer, as all clients write them. -/
def Addressed (m : Message) : Prop :=
  m.message ≠ msgManagerExit ∧
    (m.message = msgVideoStart ∨ m.message = msgVideoStop → m.receiver = m.sender)

instance {m : Message} : Decidable (Addressed m) := inferInstanceAs (Decidable (_ ∧ _))

/-- While a request is served, the first urgent message of the queue is not a request when the
message loop is reached. -/
def RequestsUndisturbed (s : State) : ServerAction → Prop
  | .main _ => s.pc = .messageProc → s.info.msgLock = true →
      ∀ m ∈ s.message.contents.find? urgent, isRequest m = false
  | .arrive m => Addressed m
  | _ => True

instance {s : State} : ∀ a, Decidable (RequestsUndisturbed s a)
  | .main _ => inferInstanceAs (Decidable (_ → _ → _))
  | .arrive _ => inferInstanceAs (Decidable (Addressed _))
  | .thread _ | .start => inferInstanceAs (Decidable True)

/-! ### The invariant -/

/-- What holds in every state of a run of undisturbed steps. -/
structure RequestInv (k : ℕ) (s : State) : Prop where
  ring : RingOk k Addressed s.message
  locked : s.info.msgLock = true → s.info.task.type ≠ .none
  unlocked : s.info.task.type ≠ .none → s.info.msgLock = false →
    s.pc = .taskProc ∧ ServerStatus.error.toNat ≤ s.info.status.toNat
  request : s.info.task.type ≠ .none → isRequest s.info.task.msg = true ∧
    (s.info.task.type ≠ .restart → s.info.task.msg.receiver = s.info.task.msg.sender)
  type : s.info.task.type ≠ .recorderAdd
  /-- Once the queue is released, a pending task is answered before the next pass. -/
  released : s.message.init = false → s.info.task.type ≠ .none →
    s.pc = .taskProc ∧ s.info.status = .exitFinish
  finish : s.info.status = .exitFinish ∨ s.info.exit = true → s.message.init = false
  exit : s.info.exit = true → s.info.task.type = .none
  notRunning : s.pc = .stopped ∨ s.pc = .boot → s.info.task.type = .none ∧ s.info.exit = false ∧
    s.info.status = .none
  notDrain : ∀ status, s.pc ≠ .drain status

variable {k : ℕ} {config : ManagerConfig} {s s' : State} {input : ServerInput}

theorem requestInv_init (own : Statics) : RequestInv k ({ own := own } : State) where
  ring := ⟨fun h => (Bool.false_ne_true h).elim, fun h => (Bool.false_ne_true h).elim, fun _ => rfl⟩
  locked h := (Bool.false_ne_true h).elim
  unlocked h := (h rfl).elim
  request h := (h rfl).elim
  type h := by cases h
  released _ h := (h rfl).elim
  finish h := h.elim (fun h => by cases h) fun h => (Bool.false_ne_true h).elim
  exit h := (Bool.false_ne_true h).elim
  notRunning _ := ⟨rfl, rfl, rfl⟩
  notDrain _ h := by cases h

/-! ### Steps that leave the task alone -/

theorem requestAcks_append {ms : List (CInt × Message)} (h : s'.out = s.out ++ ms) :
    requestAcks s s' = ms.filter fun m => isRequestAck m.2 := by
  rw [requestAcks, h, List.drop_left]

theorem requestAcks_of_out (h : ∃ ms, s'.out = s.out ++ ms ∧ ∀ m ∈ ms, Plain m.2) :
    requestAcks s s' = [] := by
  obtain ⟨ms, hout, hms⟩ := h
  rw [requestAcks_append hout, List.filter_eq_nil_iff]
  intro m hm
  rw [(hms m hm).2]
  exact Bool.false_ne_true

/-- A step that takes no request and leaves the task alone keeps the protocol. -/
theorem served_of_kept {a : ServerAction} (htask : s'.info.task = s.info.task)
    (hacks : requestAcks s s' = []) (hinv : RequestInv k s')
    (hnone : ∀ m, takes s a = some m → isRequest m = false) : RequestsServed s a s' where
  taken _ := hnone
  begun m hm hreq := by
    rw [hnone m hm] at hreq
    cases hreq
  kept _ _ := htask
  answered hs hs' := absurd (htask ▸ hs') hs
  quiet _ := hacks
  lock hlock htype := hinv.unlocked htype hlock

theorem served_of_none {a : ServerAction} (htask : s'.info.task = s.info.task)
    (hacks : requestAcks s s' = []) (hinv : RequestInv k s') (hnone : takes s a = none) :
    RequestsServed s a s' :=
  served_of_kept htask hacks hinv fun m hm => by
    rw [hnone] at hm
    cases hm

/-- Outside the main loop nothing but the queue, the threads and the other variables change. -/
theorem RequestInv.of_frame (h : RequestInv k s) (hpc : s'.pc = s.pc)
    (htask : s'.info.task = s.info.task) (hlock : s'.info.msgLock = s.info.msgLock)
    (hexit : s'.info.exit = s.info.exit) (hstatus : s'.info.status = s.info.status)
    (hinit : s'.message.init = s.message.init) (hring : RingOk k Addressed s'.message) :
    RequestInv k s' where
  ring := hring
  locked := by simpa only [hlock, htask] using h.locked
  unlocked := by simpa only [hlock, htask, hpc, hstatus] using h.unlocked
  request := by simpa only [htask] using h.request
  type := by simpa only [htask] using h.type
  released := by simpa only [hinit, htask, hpc, hstatus] using h.released
  finish := by simpa only [hinit, hexit, hstatus] using h.finish
  exit := by simpa only [htask, hexit] using h.exit
  notRunning := by simpa only [hpc, htask, hexit, hstatus] using h.notRunning
  notDrain := by simpa only [hpc] using h.notDrain

theorem addressed_sequence {m : Message} {n : BitVec 32} (h : Addressed m) :
    Addressed { m with sequence := n } := h

theorem step_arrive {m : Message} (hinv : RequestInv k s) (hm : Addressed m) :
    RequestInv k (serverMessage m s) ∧ RequestsServed s (.arrive m) (serverMessage m s) := by
  rw [serverMessage]
  split_ifs with hinit
  · have h : RequestInv k { s with message := (msgBufferPush s.message (some m)).1 } :=
      hinv.of_frame rfl rfl rfl rfl rfl init_msgBufferPush
        (hinv.ring.push (fun _ _ => addressed_sequence) hinit hm)
    exact ⟨h, served_of_none rfl (requestAcks_append (List.append_nil _).symm) h rfl⟩
  · exact ⟨hinv, served_of_none rfl (requestAcks_append (List.append_nil _).symm) hinv rfl⟩

theorem step_thread (hinv : RequestInv k s) :
    RequestInv k (serverThread .video input s) ∧
      RequestsServed s (.thread input) (serverThread .video input s) := by
  have hframe : TaskFrame Plain s (serverThread .video input s) :=
    taskFrame_serverThread (by decide)
  have hstatus : (serverThread .video input s).info.status = s.info.status := by
    rw [serverThread]
    split_ifs <;> rfl
  have h := hinv.of_frame hframe.pc hframe.task hframe.msgLock hframe.exit hstatus
    (by rw [hframe.message]) (by rw [hframe.message]; exact hinv.ring)
  exact ⟨h, served_of_none hframe.task (requestAcks_of_out hframe.out) h rfl⟩

theorem step_start (hinv : RequestInv k s) (hpc : s.pc = .stopped) :
    RequestInv k { s with pc := .boot } ∧ RequestsServed s .start { s with pc := .boot } := by
  obtain ⟨htype, hexit, hstatus⟩ := hinv.notRunning (.inl hpc)
  have h : RequestInv k { s with pc := .boot } :=
    { ring := hinv.ring
      locked := hinv.locked
      unlocked := fun hne => absurd htype hne
      request := hinv.request
      type := hinv.type
      released := fun _ hne => absurd htype hne
      finish := hinv.finish
      exit := hinv.exit
      notRunning := fun _ => ⟨htype, hexit, hstatus⟩
      notDrain := fun _ => refuted rfl }
  exact ⟨h, served_of_none rfl (requestAcks_append (List.append_nil _).symm) h rfl⟩

/-! ### The steps of the main thread -/

theorem takes_main (hpc : s.pc ≠ .messageProc) : takes s (.main input) = none := if_neg hpc

theorem step_boot (h1 : 1 ≤ k) (hsize : (config.queueSize .video).toNat = 2 ^ k)
    (hinv : RequestInv k s) (hpc : s.pc = .boot) :
    RequestInv k (serverBoot server config s) ∧
      RequestsServed s (.main input) (serverBoot server config s) := by
  obtain ⟨htype, hexit, hstatus⟩ := hinv.notRunning (.inr hpc)
  have h : RequestInv k (serverBoot server config s) :=
    { ring := RingOk.init h1 hsize
      locked := hinv.locked
      unlocked := fun hne => absurd htype hne
      request := hinv.request
      type := hinv.type
      released := fun _ hne => absurd htype hne
      finish := fun hfinish => by
        rcases hfinish with hfinish | hfinish
        · rw [serverBoot, hstatus] at hfinish
          cases hfinish
        · rw [serverBoot, hexit] at hfinish
          cases hfinish
      exit := hinv.exit
      notRunning := fun hnot => hnot.elim (by rintro ⟨⟩) (by rintro ⟨⟩)
      notDrain := fun _ => refuted rfl }
  exact ⟨h, served_of_none rfl (requestAcks_append (List.append_nil _).symm) h
    (takes_main (by rw [hpc]; rintro ⟨⟩))⟩

/-- The thread ends: no task is left. -/
theorem step_release3 (hinv : RequestInv k s) (hpc : s.pc = .stateMachine)
    (hexit : s.info.exit = true) : RequestInv k (serverRelease3 server s) ∧
      RequestsServed s (.main input) (serverRelease3 server s) := by
  have htype := hinv.exit hexit
  have h : RequestInv k (serverRelease3 server s) :=
    { ring := hinv.ring
      locked := by rintro ⟨⟩
      unlocked := fun hne => absurd rfl hne
      request := fun hne => absurd rfl hne
      type := by rintro ⟨⟩
      released := fun _ hne => absurd rfl hne
      finish := fun hfinish => hfinish.elim (by rintro ⟨⟩) (by rintro ⟨⟩)
      exit := by rintro ⟨⟩
      notRunning := fun _ => ⟨rfl, rfl, rfl⟩
      notDrain := fun _ => refuted rfl }
  have hout : (serverRelease3 server s).out =
      s.out ++ [(ServerType.manager.toInt, exitAck .video)] := rfl
  have hacks : requestAcks s (serverRelease3 server s) = [] := by
    rw [requestAcks_append hout]
    decide
  have hnone : takes s (.main input) = none := takes_main (by rw [hpc]; rintro ⟨⟩)
  exact ⟨h,
    { taken := fun _ m hm => by
        rw [hnone] at hm
        cases hm
      begun := fun m hm => by
        rw [hnone] at hm
        cases hm
      kept := fun hne => absurd htype hne
      answered := fun hne => absurd htype hne
      quiet := fun _ => hacks
      lock := fun _ hne => absurd rfl hne }⟩

/-- A pass of the state machine: an error releases the lock of a pending task, and the queue is
released with a task pending only right before the task is answered. -/
theorem step_stateMachine (hinv : RequestInv k s) (hpc : s.pc = .stateMachine)
    (hexit : s.info.exit = false) (h : stateMachine server input s.noteStatus = some s') :
    RequestInv k (afterStates s') ∧ RequestsServed s (.main input) (afterStates s') := by
  have hkept : StatesKept Plain s.noteStatus s' := statesKept_stateMachine taskKeeper_server h
  have hafter : afterStates s' = { s' with pc := .taskProc } := if_pos (hkept.pc.trans hpc)
  -- a pending task holds the lock here, and the queue is still there
  have hlock : s.info.task.type ≠ .none → s.info.msgLock = true := by
    intro hne
    by_contra hlock
    have := (hinv.unlocked hne (Bool.eq_false_iff.mpr hlock)).1
    rw [hpc] at this
    cases this
  have hqueue : s.info.task.type ≠ .none → s.message.init = true := by
    intro hne
    by_contra hnot
    have := (hinv.released (Bool.eq_false_iff.mpr hnot) hne).1
    rw [hpc] at this
    cases this
  have htask : s'.info.task = s.info.task := hkept.task
  rw [hafter]
  have hnew : RequestInv k { s' with pc := .taskProc } :=
    { ring := by
        rcases hkept.message with ⟨hmessage, -⟩ | ⟨hmessage, -⟩
        · rw [hmessage]
          exact hinv.ring
        · rw [hmessage]
          exact .release
      locked := by
        rw [htask]
        rcases hkept.msgLock with hsame | ⟨hfalse, -⟩
        · rw [hsame]
          exact hinv.locked
        · rw [hfalse]
          exact by rintro ⟨⟩
      unlocked := fun hne hunlocked => by
        rw [htask] at hne
        rcases hkept.msgLock with hsame | ⟨-, hstatus⟩
        · exact absurd (hunlocked.symm.trans (hsame.trans (hlock hne))) Bool.false_ne_true
        · exact ⟨rfl, by rw [hstatus]; decide⟩
      request := by
        rw [htask]
        exact hinv.request
      type := by
        rw [htask]
        exact hinv.type
      released := fun hnot hne => by
        rw [htask] at hne
        rcases hkept.message with ⟨hmessage, -⟩ | ⟨-, hstatus⟩
        · rw [hmessage] at hnot
          exact absurd (hnot.symm.trans (hqueue hne)) Bool.false_ne_true
        · exact ⟨rfl, hstatus⟩
      finish := fun hfinish => by
        rcases hkept.message with ⟨hmessage, hstatus⟩ | ⟨hmessage, -⟩
        · rw [hmessage]
          rcases hfinish with hfinish | hfinish
          · exact absurd hfinish hstatus
          · rcases hkept.exit with hsame | hstatus
            · exact hinv.finish (.inr (hsame.symm.trans hfinish))
            · exact hinv.finish (.inl hstatus)
        · rw [hmessage]
          rfl
      exit := fun hfinish => by
        rw [htask]
        by_contra hne
        rcases hkept.exit with hsame | hstatus
        · exact absurd (hexit.symm.trans (hsame.symm.trans hfinish)) Bool.false_ne_true
        · exact absurd ((hinv.finish (.inl hstatus)).symm.trans (hqueue hne)) Bool.false_ne_true
      notRunning := fun hnot => hnot.elim (by rintro ⟨⟩) (by rintro ⟨⟩)
      notDrain := fun _ => refuted rfl }
  exact ⟨hnew, served_of_none htask (requestAcks_of_out hkept.out) hnew
    (takes_main (by rw [hpc]; rintro ⟨⟩))⟩

/-- A pass of `task_proc`: the task goes on with the lock set, or it is answered. -/
theorem step_taskProc (hinv : RequestInv k s) (hpc : s.pc = .taskProc)
    (h : taskProc input s = some s') : RequestInv k { s' with pc := .messageProc } ∧
      RequestsServed s (.main input) { s' with pc := .messageProc } := by
  have hnone : takes s (.main input) = none := takes_main (by rw [hpc]; rintro ⟨⟩)
  obtain ⟨hframe, hlt⟩ | ⟨hne, ack, hfinished⟩ := taskProc_cases h
  · -- from `STATUS_ERROR` on every task is answered
    have hgoes : s.info.task.type ≠ .none → s.info.status.toNat < ServerStatus.error.toNat := by
      intro hne
      rcases hlt with hnone | hadd | hlt
      · exact absurd hnone hne
      · exact absurd hadd hinv.type
      · exact hlt
    have hnew : RequestInv k { s' with pc := .messageProc } :=
      { ring := by
          rw [hframe.message]
          exact hinv.ring
        locked := by
          rw [hframe.msgLock, hframe.task]
          exact hinv.locked
        unlocked := fun hne hlock => by
          rw [hframe.task] at hne
          rw [hframe.msgLock] at hlock
          exact absurd (hgoes hne) (Nat.not_lt.mpr (hinv.unlocked hne hlock).2)
        request := by
          rw [hframe.task]
          exact hinv.request
        type := by
          rw [hframe.task]
          exact hinv.type
        released := fun hnot hne => by
          rw [hframe.message] at hnot
          rw [hframe.task] at hne
          have hstatus := (hinv.released hnot hne).2
          have := hgoes hne
          rw [hstatus] at this
          exact absurd this (by decide)
        finish := fun hfinish => by
          rw [hframe.message]
          rcases hfinish with hfinish | hfinish
          · exact hinv.finish (.inl ((hframe.status (by rw [hfinish]; rfl)).symm.trans hfinish))
          · exact hinv.finish (.inr (hframe.exit.symm.trans hfinish))
        exit := by
          rw [hframe.exit, hframe.task]
          exact hinv.exit
        notRunning := fun hnot => hnot.elim (by rintro ⟨⟩) (by rintro ⟨⟩)
        notDrain := fun _ => refuted rfl }
    exact ⟨hnew, served_of_none hframe.task (requestAcks_of_out hframe.out) hnew hnone⟩
  · obtain ⟨hrequest, hreceiver⟩ := hinv.request hne
    have htype : s'.info.task.type = .none := by
      rw [hfinished.info]
      rfl
    have hlock : s'.info.msgLock = false := by
      rw [hfinished.info]
      rfl
    have hack : isRequestAck ack = true := by
      simp only [isRequest, isRequestAck, decide_eq_true_eq, hfinished.id] at hrequest ⊢
      rcases hrequest with hid | hid | hid
      · exact .inl (by rw [hid])
      · exact .inr (.inl (by rw [hid]))
      · exact .inr (.inr (by rw [hid]))
    have hacks : requestAcks s { s' with pc := .messageProc } = [(s.info.task.msg.receiver, ack)] := by
      refine (requestAcks_append hfinished.out).trans ?_
      simp [hack]
    have hnew : RequestInv k { s' with pc := .messageProc } :=
      { ring := by
          rw [hfinished.message]
          exact hinv.ring
        locked := fun hset => absurd (hlock.symm.trans hset) Bool.false_ne_true
        unlocked := fun hne => absurd htype hne
        request := fun hne => absurd htype hne
        type := by
          rw [htype]
          rintro ⟨⟩
        released := fun _ hne => absurd htype hne
        finish := by
          rw [hfinished.message, hfinished.info]
          exact hinv.finish
        exit := fun _ => htype
        notRunning := fun hnot => hnot.elim (by rintro ⟨⟩) (by rintro ⟨⟩)
        notDrain := fun _ => refuted rfl }
    exact ⟨hnew,
      { taken := fun _ m hm => by
          rw [hnone] at hm
          cases hm
        begun := fun m hm => by
          rw [hnone] at hm
          cases hm
        kept := fun _ hne' => absurd htype hne'
        answered := fun _ _ => ⟨hlock, ack, hacks, hfinished.id, hfinished.argPass, hreceiver⟩
        quiet := fun hor => hor.elim (fun hnone => absurd hnone hne) fun hne' => absurd htype hne'
        lock := fun _ hne' => absurd htype hne' }⟩

theorem urgent_of_isRequest {m : Message} (h : isRequest m = true) : urgent m = true := by
  simp only [isRequest, decide_eq_true_eq] at h
  rw [urgent]
  rcases h with h | h | h <;> rw [h] <;> decide

/-- A request is taken up with the lock set. -/
theorem handle_of_isRequest {m : Message} (hm : isRequest m = true)
    (h : handleMessage server input m s = some s') : s'.message = s.message ∧ s'.out = s.out ∧
      s'.info.status = s.info.status ∧ s'.info.exit = s.info.exit ∧ s'.info.msgLock = true ∧
      s'.info.task.msg = m ∧ s'.info.task.type ≠ .none ∧ s'.info.task.type ≠ .recorderAdd ∧
      (s'.info.task.type ≠ .restart → m.message = msgVideoStart ∨ m.message = msgVideoStop) := by
  simp only [isRequest, decide_eq_true_eq] at hm
  rcases hm with hm | hm | hm
  · have : handleMessage server input m s = some (beginTask .start m s) := by
      simp only [handleMessage, server, handle, hm]
      rfl
    rw [this] at h
    cases h
    exact ⟨rfl, rfl, rfl, rfl, rfl, rfl, by rintro ⟨⟩, by rintro ⟨⟩, fun _ => .inl hm⟩
  · have : handleMessage server input m s = some (beginTask .stop m s) := by
      simp only [handleMessage, server, handle, hm]
      rfl
    rw [this] at h
    cases h
    exact ⟨rfl, rfl, rfl, rfl, rfl, rfl, by rintro ⟨⟩, by rintro ⟨⟩, fun _ => .inr hm⟩
  · have : handleMessage server input m s = some ((beginTask .restart m s).setTask
        { (beginTask .restart m s).info.task with startStatus := s.info.status }) := by
      simp only [handleMessage, server, handle, hm]
      rfl
    rw [this] at h
    cases h
    exact ⟨rfl, rfl, rfl, rfl, rfl, rfl, by rintro ⟨⟩, by rintro ⟨⟩, fun hne => absurd rfl hne⟩

/-- Other messages leave the task alone. -/
theorem handle_of_not_isRequest {m : Message} (hm : isRequest m = false)
    (hexit : m.message ≠ msgManagerExit) (h : handleMessage server input m s = some s') :
    s'.message = s.message ∧ requestAcks s s' = [] ∧
      (s'.info.status.isExit = true → s'.info.status = s.info.status) ∧
      s'.info.exit = s.info.exit ∧ s'.info.msgLock = s.info.msgLock ∧
      s'.info.task = s.info.task := by
  have of_frame : TaskFrame Plain s s' → s'.message = s.message ∧ requestAcks s s' = [] ∧
      (s'.info.status.isExit = true → s'.info.status = s.info.status) ∧
      s'.info.exit = s.info.exit ∧ s'.info.msgLock = s.info.msgLock ∧
      s'.info.task = s.info.task := fun hframe =>
    ⟨hframe.message, requestAcks_of_out hframe.out, hframe.status, hframe.exit, hframe.msgLock,
      hframe.task⟩
  rw [handleMessage, if_neg hexit] at h
  split_ifs at h
  · cases h
    exact ⟨rfl, requestAcks_append (List.append_nil _).symm, fun _ => rfl, rfl, rfl, rfl⟩
  · rw [Option.bind_eq_some_iff] at h
    obtain ⟨f, -, h⟩ := h
    cases h
    exact of_frame .refl
  · exact of_frame (taskFrame_handle hm h)

/-- A pass that handles no request. -/
theorem step_other (hinv : RequestInv k s) (hpc : s.pc = .messageProc)
    (hring : RingOk k Addressed s'.message) (hinit : s'.message.init = s.message.init)
    (hacks : requestAcks s s' = [])
    (hstatus : s'.info.status.isExit = true → s'.info.status = s.info.status)
    (hexit : s'.info.exit = s.info.exit) (hlock : s'.info.msgLock = s.info.msgLock)
    (htask : s'.info.task = s.info.task)
    (htakes : ∀ m, takes s (.main input) = some m → isRequest m = false) :
    RequestInv k { s' with pc := .stateMachine } ∧
      RequestsServed s (.main input) { s' with pc := .stateMachine } := by
  have hnot : s.pc ≠ .taskProc := by
    rw [hpc]
    rintro ⟨⟩
  have hnew : RequestInv k { s' with pc := .stateMachine } :=
    { ring := hring
      locked := by simpa only [hlock, htask] using hinv.locked
      unlocked := fun hne hfalse => by
        rw [htask] at hne
        exact absurd (hinv.unlocked hne (hlock.symm.trans hfalse)).1 hnot
      request := by simpa only [htask] using hinv.request
      type := by simpa only [htask] using hinv.type
      released := fun hfalse hne => by
        rw [htask] at hne
        exact absurd (hinv.released (hinit.symm.trans hfalse) hne).1 hnot
      finish := fun hfinish => by
        rw [hinit]
        rcases hfinish with hfinish | hfinish
        · exact hinv.finish (.inl ((hstatus (by rw [hfinish]; rfl)).symm.trans hfinish))
        · exact hinv.finish (.inr (hexit.symm.trans hfinish))
      exit := by simpa only [htask, hexit] using hinv.exit
      notRunning := fun h => h.elim (by rintro ⟨⟩) (by rintro ⟨⟩)
      notDrain := fun _ => refuted rfl }
  exact ⟨hnew, served_of_kept htask hacks hnew htakes⟩

/-- A pass of `server_message_proc`: a request is taken only while no other one is served. -/
theorem step_messageProc (hinv : RequestInv k s) (hpc : s.pc = .messageProc)
    (hok : RequestsUndisturbed s (.main input)) (h : serverMessageProc server input s = some s') :
    RequestInv k { s' with pc := .stateMachine } ∧
      RequestsServed s (.main input) { s' with pc := .stateMachine } := by
  have htakes : takes s (.main input) = nextMessage server s := if_pos hpc
  have hsame : requestAcks s s = [] := requestAcks_append (List.append_nil _).symm
  obtain ⟨hsource, rfl⟩ | ⟨buff, hsource, hpass⟩ := serverMessageProc_cases h
  · refine step_other hinv hpc hinv.ring rfl hsame (fun _ => rfl) rfl rfl rfl fun m hm => ?_
    rw [htakes, nextMessage, hsource] at hm
    cases hm
  obtain ⟨hring, hnext⟩ := nextMessage_spec hinv.ring hsource
  have hinit : (s.popped buff).message.init = s.message.init := by
    rw [ServerState.popped]
    dsimp only
    rw [init_msgBufferPop]
    rw [messageSource] at hsource
    split_ifs at hsource
    · exact init_messageBlock hsource
    · cases hsource
      rfl
  obtain ⟨hpop, rfl⟩ | ⟨m, hpop, hm⟩ := hpass
  · refine step_other hinv hpc hring hinit hsame (fun _ => rfl) rfl rfl rfl fun m hm => ?_
    rw [htakes, nextMessage, hsource, Option.bind_some, hpop] at hm
    cases hm
  obtain ⟨hmsg, hqueue, haddressed, hfirst⟩ := hnext m hpop
  have hmine : ∀ n, takes s (.main input) = some n → n = m := by
    intro n hn
    rw [htakes, hmsg] at hn
    exact (Option.some.inj hn).symm
  obtain ⟨hfilter, rfl⟩ | ⟨-, h⟩ := hm
  · refine step_other hinv hpc hring hinit hsame (fun _ => rfl) rfl rfl rfl fun n hn => ?_
    rw [hmine n hn]
    -- the filter lets requests pass
    by_contra hreq
    rw [messageFilter, urgent_of_isRequest (Bool.eq_true_of_not_eq_false hreq)] at hfilter
    simp at hfilter
  rcases hreq : isRequest m with _ | _
  · obtain ⟨hmessage, hacks, hstatus, hexit, hlock, htask⟩ :=
      handle_of_not_isRequest hreq haddressed.1 h
    exact step_other hinv hpc (by rw [hmessage]; exact hring) (by rw [hmessage]; exact hinit) hacks
      hstatus hexit hlock htask fun n hn => by rw [hmine n hn, hreq]
  · obtain ⟨hmessage, hout, hstatus, hexit, hlock, htaskMsg, hne, hadd, htype⟩ :=
      handle_of_isRequest hreq h
    -- the lock is not set, otherwise the first urgent message would be this request
    have hunlocked : s.info.msgLock = false := by
      by_contra hset
      have := hok hpc (Bool.eq_true_of_not_eq_false hset) m (hfirst (Bool.eq_true_of_not_eq_false hset))
      exact absurd (this.symm.trans hreq) Bool.false_ne_true
    have hidle : s.info.task.type = .none := by
      by_contra hne
      have := (hinv.unlocked hne hunlocked).1
      rw [hpc] at this
      cases this
    have hready : s'.message.init = true := by
      rw [hmessage, hinit, hqueue]
    have hnew : RequestInv k { s' with pc := .stateMachine } :=
      { ring := by
          rw [hmessage]
          exact hring
        locked := fun _ => hne
        unlocked := fun _ hfalse => absurd (hfalse.symm.trans hlock) Bool.false_ne_true
        request := fun _ => by
          rw [htaskMsg]
          exact ⟨hreq, fun hrestart => haddressed.2 (htype hrestart)⟩
        type := hadd
        released := fun hfalse _ => absurd (hfalse.symm.trans hready) Bool.false_ne_true
        finish := fun hfinish => by
          rw [hstatus, hexit] at hfinish
          exact absurd ((hinv.finish hfinish).symm.trans hqueue) Bool.false_ne_true
        exit := fun hfinish => by
          rw [hexit] at hfinish
          exact absurd ((hinv.finish (.inr hfinish)).symm.trans hqueue) Bool.false_ne_true
        notRunning := fun h => h.elim (by rintro ⟨⟩) (by rintro ⟨⟩)
        notDrain := fun _ => refuted rfl }
    exact ⟨hnew,
      { taken := fun hset => absurd (hunlocked.symm.trans hset) Bool.false_ne_true
        begun := fun n hn _ => by
          rw [hmine n hn]
          exact ⟨hne, htaskMsg⟩
        kept := fun hbusy => absurd hidle hbusy
        answered := fun hbusy => absurd hidle hbusy
        quiet := fun _ => requestAcks_append (hout.trans (List.append_nil _).symm)
        lock := fun hfalse _ => absurd (hfalse.symm.trans hlock) Bool.false_ne_true }⟩

/-! ### Runs -/

theorem step_served (h1 : 1 ≤ k) (hsize : (config.queueSize .video).toNat = 2 ^ k)
    {a : ServerAction} (hinv : RequestInv k s) (hok : RequestsUndisturbed s a)
    (h : server.step config s a = some s') : RequestInv k s' ∧ RequestsServed s a s' := by
  cases a with
  | main input =>
      rw [ServerCode.step, mainStep] at h
      split at h
      case h_1 => cases h
      case h_2 hpc =>
        cases h
        exact step_boot h1 hsize hinv hpc
      case h_3 hpc =>
        split_ifs at h with hexit
        · cases h
          exact step_release3 hinv hpc hexit
        · rw [Option.map_eq_some_iff] at h
          obtain ⟨s₁, hs₁, rfl⟩ := h
          exact step_stateMachine hinv hpc (Bool.eq_false_iff.mpr hexit) hs₁
      case h_4 hpc => exact absurd hpc (hinv.notDrain _)
      case h_5 hpc =>
        rw [Option.map_eq_some_iff] at h
        obtain ⟨s₁, hs₁, rfl⟩ := h
        exact step_taskProc hinv hpc hs₁
      case h_6 hpc =>
        rw [Option.map_eq_some_iff] at h
        obtain ⟨s₁, hs₁, rfl⟩ := h
        exact step_messageProc hinv hpc hok hs₁
  | thread input =>
      cases h
      exact step_thread hinv
  | arrive m =>
      cases h
      exact step_arrive hinv hok
  | start =>
      rw [ServerCode.step] at h
      split_ifs at h with hpc
      cases h
      exact step_start hinv hpc

/-- In every run of undisturbed steps of the video server its client requests are served one at a
time and answered once each. -/
theorem requestsServed_of_undisturbed (h1 : 1 ≤ k)
    (hsize : (config.queueSize .video).toNat = 2 ^ k) (own : Statics) (as : List ServerAction)
    (hok : AllSteps (server.step config) (fun s a _ => RequestsUndisturbed s a) { own := own } as) :
    AllSteps (server.step config) RequestsServed { own := own } as := by
  refine AllSteps.imp ?_ (requestInv_init (k := k) own) hok
  intro s a s' hinv h hundisturbed
  exact step_served h1 hsize hinv hundisturbed h

/-- A request as a client writes it. -/
def clientRequest (id : CInt) (client : ServerType) : Message where
  message := id
  sender := client.toInt
  receiver := client.toInt
  argPass := { cat := client.toInt }

/-- The server starts and takes a first request. -/
def firstRequest (msg : Message) : List ServerAction :=
  [.start, .main {}, .main {}, .main {}, .arrive msg, .main {}]

/-- A stop request is answered before a start request is taken. -/
theorem requestsServed_example :
    AllSteps (server.step managerConfig) RequestsServed { own := {} }
      (firstRequest (clientRequest msgVideoStop .aliyun) ++
        [.main {}, .arrive (clientRequest msgVideoStart .player), .main {}, .main {}]) :=
  requestsServed_of_undisturbed (k := 4) (by decide) (by decide) {} _ (by decide)

/-- A message that arrives names its server. -/
def arrivesAddressed : ServerAction → Bool
  | .arrive m => decide (Addressed m)
  | _ => true

/-- While the request of the aliyun server is served, the one of the player is taken, because its id
0x30002 passes for a system message; the record of the first request is lost. -/
theorem request_overwritten :
    ∃ s s', Reach (server.step managerConfig) (fun _ a => ∀ m, a = .arrive m → Addressed m)
        { own := {} } s ∧
      server.step managerConfig s (.main {}) = some s' ∧ s.info.msgLock = true ∧
      s.info.task.msg.sender = ServerType.aliyun.toInt ∧
      (takes s (.main {})).any isRequest = true ∧
      s'.info.task.msg.sender = ServerType.player.toInt ∧ requestAcks s s' = [] := by
  have hrun : (exec (server.step managerConfig) (fun _ a => arrivesAddressed a) { own := {} }
      (firstRequest (clientRequest msgVideoStart .aliyun) ++
        [.main {}, .main {}, .arrive (clientRequest msgVideoStart .player)])).any
      (fun s => (server.step managerConfig s (.main {})).any fun s' => decide
        (s.info.msgLock = true ∧ s.info.task.msg.sender = ServerType.aliyun.toInt ∧
          (takes s (.main {})).any isRequest = true ∧
          s'.info.task.msg.sender = ServerType.player.toInt ∧ requestAcks s s' = [])) = true := by
    decide
  refine Reach.exists_step_of_exec (fun s a h m ha => ?_) hrun
  rw [ha] at h
  exact of_decide_eq_true h

end GokeWebcam.Server.Video
