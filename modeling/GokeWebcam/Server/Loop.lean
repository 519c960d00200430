import GokeWebcam.Manager.Config
import GokeWebcam.Server.Info
import GokeWebcam.Server.MessageBlock

/-!
# The loop all servers run

The seven servers besides the manager have the same main loop, `state_machine`, `task_proc` and
`server_message_proc` in turn, the same exit states, the same handling of the exit messages and the
same release. `ServerCode` collects what is a server's own; the rest is written once.

* `ServerState`: the static variables of a server's file and the position of its main thread.
* `stateMachine`, `serverMessageProc`, `serverRelease3`: the shared functions.
* `ServerCode.step`: one step of the main thread or of another thread, an arriving message, or the
  start by the manager.
* `RingOk`: what a server's queue holds; `serverMessageProc_cases`, `nextMessage_spec`: what a pass of
  the message loop takes out of it.

`cond_wait` may return at any time. Messages a server sends are appended to `out`, those to itself
included; they arrive by later steps. A call through a null function pointer and a read through a
null payload have no successor.
-/

namespace GokeWebcam.Server

open Common Global Manager

/-- Where the main thread is: not running, before `msg_buffer_init2`, before one of the three
functions of the loop, or waiting inside `state_machine` for the other threads to end. -/
inductive ServerPc
  | stopped | boot | stateMachine | drain (status : ServerStatus) | taskProc | messageProc
  deriving DecidableEq, Repr

/-- The static variables `info` and `message` of a server's file, its other ones, and what it has
sent to whom, oldest first. -/
structure ServerState (κ : Type) where
  info : ServerInfo := {}
  message : MessageBuffer := {}
  pc : ServerPc := .stopped
  out : List (CInt × Message) := []
  own : κ
  deriving DecidableEq

/-- What the environment decides in a step of a server. `ok` and `uninitOk` are the results of the
calls to the hardware or the cloud client, `createOk` that of `pthread_create`, `threads` the
threads told to end by a call into the hardware layer, `temp` the value of an uninitialised local
variable, `found` and `finished` what a search for files and a playback step report, `changed`
whether a stored setting differs from the requested one. A step of another thread is one of the
thread `tid`, its last one if `finished`. -/
structure ServerInput where
  ok : Bool := true
  uninitOk : Bool := true
  createOk : Bool := true
  found : Bool := true
  configOk : Bool := true
  finished : Bool := false
  changed : Bool := false
  threads : CInt := 0#32
  temp : CInt := 0#32
  tid : ℕ := 0
  deriving DecidableEq, Repr

/-- What is a server's own: the states of `state_machine` below `STATUS_ERROR`, `task_proc`, the
cases of `server_message_proc` that are not shared, the functions it may be asked to call back, the
steps of its other threads, its parts of the release functions, and what follows in
`state_machine` once all its other threads have ended. -/
structure ServerCode (κ : Type) where
  server : ServerType
  exitCondition : CInt
  /-- It has a `*_message_block`; otherwise it takes no message while `msg_lock` is set. -/
  hasMessageBlock : Bool
  states : ServerInput → ServerState κ → Option (ServerState κ)
  taskProc : ServerInput → ServerState κ → Option (ServerState κ)
  handle : ServerInput → Message → ServerState κ → Option (ServerState κ)
  handler : ServerInput → Handler → ServerState κ → Option (ServerState κ)
  thread : ServerInput → ServerState κ → Option (ServerState κ)
  drained : ServerStatus → ServerState κ → ServerState κ
  serverRelease1 : ServerInput → ServerState κ → ServerState κ
  serverRelease2 : ServerState κ → ServerState κ
  serverStart : ServerState κ → ServerState κ

variable {κ : Type}

/-! ### Helpers -/

/-- A message a server sends in its own name. -/
def serverMsg (server : ServerType) (id : CInt) : Message where
  message := id
  sender := server.toInt
  receiver := server.toInt

namespace ServerState

/-- Source: `global/common.c` `global_common_send_message` -/
def send (receiver : CInt) (msg : Message) (s : ServerState κ) : ServerState κ :=
  { s with out := s.out ++ [(receiver, msg)] }

def setStatus (status : ServerStatus) (s : ServerState κ) : ServerState κ :=
  { s with info := { s.info with status := status } }

def setTask (task : Task) (s : ServerState κ) : ServerState κ :=
  { s with info := { s.info with task := task } }

/-- `info.task.msg = msg`. -/
def setTaskMsg (msg : Message) (s : ServerState κ) : ServerState κ :=
  s.setTask { s.info.task with msg := msg }

def setInitBit (bit : ℕ) (s : ServerState κ) : ServerState κ :=
  { s with info := { s.info with initStatus := miscSetBit s.info.initStatus bit } }

def clearInitBit (bit : ℕ) (s : ServerState κ) : ServerState κ :=
  { s with info := { s.info with initStatus := miscClearBit s.info.initStatus bit } }

/-- The thread `bit` has begun. -/
def threadBegin (bit : ℕ) (s : ServerState κ) : ServerState κ :=
  { s with info := { s.info with threadStart := miscSetBit s.info.threadStart bit } }

/-- The thread `bit` ends. -/
def threadEnd (bit : ℕ) (s : ServerState κ) : ServerState κ :=
  { s with info := { s.info with threadStart := miscClearBit s.info.threadStart bit } }

/-- `info.old_status = info.status`. -/
def noteStatus (s : ServerState κ) : ServerState κ :=
  { s with info := { s.info with oldStatus := s.info.status } }

end ServerState

/-! ### The shared functions -/

/-- The main part of `state_machine`, with the states every server has.
Source: `server/*/*.c` `state_machine` -/
def stateMachine (c : ServerCode κ) (input : ServerInput) (s : ServerState κ) :
    Option (ServerState κ) :=
  match s.info.status with
  | .error => some { s with info := { s.info with status := .exitInit, msgLock := false } }
  | .exitInit =>
    let quitStatus :=
      if s.info.task.msg.sender = ServerType.manager.toInt then
        s.info.quitStatus &&& s.info.task.msg.argIn.cat
      else 0#32
    some { s with info := { s.info with quitStatus := quitStatus, status := .exitServer } }
  | .exitServer => some (if s.info.quitStatus = 0#32 then s.setStatus .exitStage1 else s)
  | .exitStage1 => some ((c.serverRelease1 input s).setStatus .exitThread)
  | .exitThread =>
    let s := { s with info := { s.info with threadExit := s.info.threadStart } }
    some (if s.info.threadStart = 0#32 then s.setStatus .exitStage2 else s)
  | .exitStage2 =>
    let s := { s with message := msgBufferRelease s.message }
    some ((c.serverRelease2 s).setStatus .exitFinish)
  | .exitFinish => some { s with info := { s.info with exit := true, status := .none } }
  | _ => c.states input s

/-- The message is dropped.
Source: `server/*/*.c` `*_message_filter` -/
def messageFilter (s : ServerState κ) (msg : Message) : Bool :=
  ServerStatus.error.toNat ≤ s.info.status.toNat && !urgent msg

/-- Source: `server/*/*.c` `server_message_proc`, `MSG_MANAGER_EXIT` -/
def exitMessage (msg : Message) (s : ServerState κ) : ServerState κ :=
  { s with info := { s.info with
      task := { s.info.task with msg := msg }, status := .exitInit, msgLock := false } }

/-- Source: `server/*/*.c` `server_message_proc`, `MSG_MANAGER_EXIT_ACK` -/
def exitAckMessage (msg : Message) (s : ServerState κ) : ServerState κ :=
  { s with info := { s.info with
      quitStatus := miscClearBit s.info.quitStatus msg.sender.toNat } }

/-- What is done with a popped message.
Source: `server/*/*.c` `server_message_proc`, the `switch` -/
def handleMessage (c : ServerCode κ) (input : ServerInput) (msg : Message) (s : ServerState κ) :
    Option (ServerState κ) :=
  if msg.message = msgManagerExit then some (exitMessage msg s)
  else if msg.message = msgManagerExitAck then some (exitAckMessage msg s)
  else if msg.message = msgManagerTimerOn then
    msg.argIn.handler.bind fun handler => c.handler input handler s
  else c.handle input msg s

/-- The ring to pop from, if a message may be taken.
Source: `server/*/*.c` `server_message_proc`, before `msg_buffer_pop` -/
def messageSource (c : ServerCode κ) (s : ServerState κ) : Option MessageBuffer :=
  if s.info.msgLock then if c.hasMessageBlock then messageBlock s.message else none
  else some s.message

/-- The message that the next pass takes out of the queue. -/
def nextMessage (c : ServerCode κ) (s : ServerState κ) : Option Message :=
  (messageSource c s).bind fun buff => (msgBufferPop buff).2

/-- Source: `server/*/*.c` `server_message_proc` -/
def serverMessageProc (c : ServerCode κ) (input : ServerInput) (s : ServerState κ) :
    Option (ServerState κ) :=
  match messageSource c s with
  | none => some s
  | some buff =>
    let s := { s with message := (msgBufferPop buff).1 }
    match (msgBufferPop buff).2 with
    | none => some s
    | some msg => if messageFilter s msg then some s else handleMessage c input msg s

/-- The acknowledgement a server sends when it has ended. -/
def exitAck (server : ServerType) : Message where
  message := msgManagerExitAck
  sender := server.toInt

/-- The thread ends.
Source: `server/*/*.c` `server_release_3` -/
def serverRelease3 (c : ServerCode κ) (s : ServerState κ) : ServerState κ :=
  ({ s with info := {}, pc := .stopped } : ServerState κ).send ServerType.manager.toInt
    (exitAck c.server)

/-- Source: `server/*/*.c` `server_func`, before the loop -/
def serverBoot (c : ServerCode κ) (config : ManagerConfig) (s : ServerState κ) : ServerState κ :=
  { s with
    message := config.queue c.server
    info := { s.info with quitStatus := c.exitCondition, init := true }
    pc := .stateMachine }

/-- Source: `server/*/*.c` `server_*_message` -/
def serverMessage (msg : Message) (s : ServerState κ) : ServerState κ :=
  if s.message.init then { s with message := (msgBufferPush s.message (some msg)).1 } else s

/-! ### Pieces several servers use -/

/-- The answer to the request the task was started by.
Source: `server/video/video.c`, `server/audio/audio.c` `task_proc`, `if (finished)` -/
def taskAck (server : ServerType) (task : Task) (result : CInt) : Message :=
  { serverMsg server (ackOf task.msg.message) with argPass := task.msg.argPass, result := result }

/-- The task ends with an answer.
Source: `server/video/video.c`, `server/audio/audio.c` `task_proc`, `if (finished)` -/
def finishTask (ack : Message) (s : ServerState κ) : ServerState κ :=
  let task := s.info.task
  let s := s.send task.msg.receiver ack
  { s with info := { s.info with
      task := { task with msg := msgFree task.msg, type := .none }, msgLock := false } }

/-- A request is taken up as a task.
Source: `server/video/video.c`, `server/audio/audio.c` `server_message_proc`, the client requests -/
def beginTask (type : TaskType) (msg : Message) (s : ServerState κ) : ServerState κ :=
  { s with info := { s.info with task := { s.info.task with msg := msg, type := type }, msgLock := true } }

/-- A thread begins or ends, and wakes the main thread.
Source: `server/video/video.c`, `server/audio/audio.c`, `server/device/device.c` `*_func` -/
def serverThread (server : ServerType) (input : ServerInput) (s : ServerState κ) : ServerState κ :=
  ((if input.finished then s.threadEnd input.tid else s.threadBegin input.tid).send server.toInt
    (serverMsg server msgManagerDummy))

/-- What the recorder and the player wait for before they leave `STATUS_INIT`.
Source: `server/recorder/recorder.h` `recorder_init_condition_t`, `server/player/player.h`
`player_init_condition_t` -/
def initConditionDeviceSd : ℕ := 0
def initConditionTimeSychronized : ℕ := 1
def initConditionNum : ℕ := 2

/-- Source: `server/device/device_interface.h` `device_param_type_t` -/
def deviceParamSdInfo : CInt := 0#32

/-- The card and the clock are asked for until both are ready.
Source: `server/recorder/recorder.c`, `server/player/player.c` `server_init` -/
def cardAndClockInit (server : ServerType) (s : ServerState κ) : ServerState κ :=
  let s :=
    if miscGetBit s.info.initStatus initConditionDeviceSd = 0#32 then
      s.send ServerType.device.toInt { serverMsg server msgDeviceGetPara with
        argIn := { cat := deviceParamSdInfo } }
    else s
  let s :=
    if miscGetBit s.info.initStatus initConditionTimeSychronized = 0#32 then
      s.send ServerType.aliyun.toInt (serverMsg server msgAliyunGetTimeSync)
    else s
  if miscFullBit s.info.initStatus initConditionNum then s.setStatus .wait else s

/-- The messages about the card and the clock.
Source: `server/recorder/recorder.c`, `server/player/player.c` `server_message_proc` -/
def cardAndClockMessage (msg : Message) (s : ServerState κ) : Option (ServerState κ) :=
  if msg.message = ackOf msgDeviceGetPara then
    some (if msg.argIn.cat = deviceParamSdInfo ∧ msg.argIn.dog ≠ 0#32 then
      s.setInitBit initConditionDeviceSd else s)
  else if msg.message = msgAliyunTimeSynchronized then
    some (s.setInitBit initConditionTimeSychronized)
  else if msg.message = ackOf msgAliyunGetTimeSync then
    some (if msg.argIn.cat = 1#32 then s.setInitBit initConditionTimeSychronized
      else s.clearInitBit initConditionTimeSychronized)
  else none

/-! ### Steps -/

/-- A step of a server: of its main thread, of another of its threads, a message pushed into its
queue, its start by the manager. -/
inductive ServerAction
  | main (input : ServerInput)
  | thread (input : ServerInput)
  | arrive (msg : Message)
  | start
  deriving DecidableEq, Repr

/-- Where the main thread goes after `state_machine`, unless it waits there. -/
def afterStates (s : ServerState κ) : ServerState κ :=
  if s.pc = .stateMachine then { s with pc := .taskProc } else s

/-- A step of the main thread.
Source: `server/*/*.c` `server_func` -/
def mainStep (c : ServerCode κ) (config : ManagerConfig) (input : ServerInput) (s : ServerState κ) :
    Option (ServerState κ) :=
  match s.pc with
  | .stopped => none
  | .boot => some (serverBoot c config s)
  | .stateMachine =>
    if s.info.exit then some (serverRelease3 c s)
    else (stateMachine c input s.noteStatus).map afterStates
  | .drain status =>
    if s.info.threadStart = 0#32 then some { c.drained status s with pc := .taskProc } else none
  | .taskProc => (c.taskProc input s).map fun s => { s with pc := .messageProc }
  | .messageProc => (serverMessageProc c input s).map fun s => { s with pc := .stateMachine }

/-- One step; `none` where the action is not enabled. -/
def ServerCode.step (c : ServerCode κ) (config : ManagerConfig) (s : ServerState κ) :
    ServerAction → Option (ServerState κ)
  | .main input => mainStep c config input s
  | .thread input => c.thread input s
  | .arrive msg => some (serverMessage msg s)
  | .start => if s.pc = .stopped then some { c.serverStart s with pc := .boot } else none

/-! ### The queue -/

/-- The queue of a server: a well-formed ring whose messages all satisfy `P`, or, before the thread
has initialised it and after it was released, nothing. -/
structure RingOk (k : ℕ) (P : Message → Prop) (buff : MessageBuffer) : Prop where
  wf : buff.init = true → buff.Wf k
  all : buff.init = true → ∀ m ∈ buff.contents, P m
  empty : buff.init = false → msgBufferIsEmpty buff = true

@[simp] theorem init_msgBufferPop {buff : MessageBuffer} : (msgBufferPop buff).1.init = buff.init := by
  unfold msgBufferPop
  split_ifs <;> rfl

@[simp] theorem init_msgBufferPush {buff : MessageBuffer} {data : Option Message} :
    (msgBufferPush buff data).1.init = buff.init := by
  unfold msgBufferPush
  cases data
  · rfl
  · dsimp only
    split_ifs <;> rfl

theorem init_msgBufferSwapLoop {org : CInt} (fuel : ℕ) (last : CInt) (buff : MessageBuffer) :
    (msgBufferSwapLoop org fuel last buff).init = buff.init := by
  induction fuel generalizing last buff with
  | zero => rfl
  | succ fuel ih =>
      rw [msgBufferSwapLoop]
      split_ifs
      · rfl
      · rw [ih]
        rfl

@[simp] theorem init_msgBufferSwap {buff : MessageBuffer} {org dest : CInt} :
    (msgBufferSwap buff org dest).init = buff.init := by
  unfold msgBufferSwap
  dsimp only
  split_ifs
  · rfl
  · rw [init_msgBufferSwapLoop]
    rfl

theorem init_messageBlockFrom {buff b : MessageBuffer} {fuel : ℕ} {index : CInt}
    (h : messageBlockFrom buff fuel index = some b) : b.init = buff.init := by
  induction fuel generalizing index with
  | zero => cases h
  | succ fuel ih =>
      rw [messageBlockFrom] at h
      split at h
      · cases h
      · split_ifs at h
        · cases h
          exact init_msgBufferSwap
        · exact ih h

theorem init_messageBlock {buff b : MessageBuffer} (h : messageBlock buff = some b) :
    b.init = buff.init := by
  rw [messageBlock] at h
  split at h
  · cases h
    rfl
  · split_ifs at h
    · cases h
      rfl
    · exact init_messageBlockFrom h

namespace RingOk

variable {k : ℕ} {P : Message → Prop} {buff b : MessageBuffer} {m : Message}

theorem init {overflow : MsgBufferOverflow} {size : CInt} (h1 : 1 ≤ k) (hsize : size.toNat = 2 ^ k) :
    RingOk k P (msgBufferInit overflow size) where
  wf _ := wf_msgBufferInit h1 hsize
  all _ m hm := by
    rw [contents_msgBufferInit] at hm
    cases hm
  empty h := by cases h

theorem release : RingOk k P (msgBufferRelease buff) where
  wf h := by cases h
  all h := by cases h
  empty _ := beq_self_eq_true _

theorem push (hP : ∀ m n, P m → P { m with sequence := n }) (h : RingOk k P buff)
    (hinit : buff.init = true) (hm : P m) : RingOk k P (msgBufferPush buff (some m)).1 := by
  obtain ⟨hpush, -⟩ := represents_push (m := m) (represents_self (h.wf hinit))
  refine ⟨fun _ => hpush.wf, fun _ m' hm' => ?_, fun hnot => ?_⟩
  · rw [hpush.contents_eq] at hm'
    simp only [MessageQueue.step] at hm'
    have hstamp : P (MessageQueue.stamp ⟨buff.contents, buff.sequence⟩ m) := hP m _ hm
    have hold := h.all hinit
    split_ifs at hm'
    · rcases List.mem_append.mp hm' with hm' | hm'
      · exact hold m' hm'
      · exact List.mem_singleton.mp hm' ▸ hstamp
    · rcases List.mem_append.mp hm' with hm' | hm'
      · exact hold m' (List.mem_of_mem_tail hm')
      · exact List.mem_singleton.mp hm' ▸ hstamp
    · exact hold m' hm'
  · rw [init_msgBufferPush, hinit] at hnot
    cases hnot

/-- A pop takes the oldest message. -/
theorem pop (h : RingOk k P buff) :
    RingOk k P (msgBufferPop buff).1 ∧ ∀ m, (msgBufferPop buff).2 = some m →
      buff.init = true ∧ buff.contents.head? = some m ∧ P m := by
  rcases hinit : buff.init with _ | _
  · have hpop : msgBufferPop buff = (buff, none) := by rw [msgBufferPop, if_pos (h.empty hinit)]
    rw [hpop]
    exact ⟨h, fun m hm => by cases hm⟩
  · obtain ⟨hpop, hhead⟩ := represents_pop (represents_self (h.wf hinit))
    refine ⟨⟨fun _ => hpop.wf, fun _ m hm => ?_, fun hnot => ?_⟩, fun m hm => ⟨rfl, ?_, ?_⟩⟩
    · rw [hpop.contents_eq] at hm
      exact h.all hinit m (List.mem_of_mem_tail hm)
    · rw [init_msgBufferPop, hinit] at hnot
      cases hnot
    · rw [← hhead, hm]
    · rw [hhead] at hm
      exact h.all hinit m (List.mem_of_head? hm)

/-- The message block moves the first urgent message to the front. -/
theorem block (h : RingOk k P buff) (hb : messageBlock buff = some b) :
    RingOk k P b ∧ (buff.init = true → b.contents.head? = buff.contents.find? urgent) := by
  have hinit := init_messageBlock hb
  rcases hcase : buff.init with _ | _
  · have hsame : b = buff := by
      rw [messageBlock, msgBufferProbeItem, if_pos (h.empty hcase)] at hb
      cases hb
      rfl
    rw [hsame]
    exact ⟨h, fun hc => by cases hc⟩
  · have hspec := messageBlock_spec (h.wf hcase)
    rw [hb] at hspec
    obtain ⟨hwf, ⟨hnil, rfl⟩ | ⟨pre, m, post, hsplit, hpre, hm, hcontents⟩⟩ := hspec
    · exact ⟨h, fun _ => by rw [hnil]; rfl⟩
    · refine ⟨⟨fun _ => hwf, fun _ x hx => ?_, fun hc => ?_⟩, fun _ => ?_⟩
      · apply h.all hcase
        rw [hsplit]
        rw [hcontents] at hx
        simp only [List.mem_cons, List.mem_append] at hx ⊢
        tauto
      · rw [hinit, hcase] at hc
        cases hc
      · have hnone : pre.find? urgent = none := by
          rw [List.find?_eq_none]
          intro x hx
          rw [hpre x hx]
          exact Bool.false_ne_true
        rw [hcontents, hsplit, List.find?_append, hnone, List.find?_cons_of_pos hm]
        rfl

end RingOk

/-! ### What each step can do -/

variable {c : ServerCode κ} {config : ManagerConfig} {input : ServerInput} {s s' : ServerState κ}

/-- The state with the queue after a pop. -/
def ServerState.popped (buff : MessageBuffer) (s : ServerState κ) : ServerState κ :=
  { s with message := (msgBufferPop buff).1 }

/-- A pass of the message loop takes nothing, drops a message, or handles one. -/
theorem serverMessageProc_cases (h : serverMessageProc c input s = some s') :
    (messageSource c s = none ∧ s' = s) ∨ ∃ buff, messageSource c s = some buff ∧
      (((msgBufferPop buff).2 = none ∧ s' = s.popped buff) ∨
        ∃ msg, (msgBufferPop buff).2 = some msg ∧
          ((messageFilter s msg = true ∧ s' = s.popped buff) ∨
            (messageFilter s msg = false ∧ handleMessage c input msg (s.popped buff) = some s'))) := by
  rw [serverMessageProc] at h
  rcases hsource : messageSource c s with _ | buff
  · rw [hsource] at h
    cases h
    exact .inl ⟨rfl, rfl⟩
  · rw [hsource] at h
    refine .inr ⟨buff, rfl, ?_⟩
    rcases hpop : (msgBufferPop buff).2 with _ | msg
    · simp only [hpop] at h
      cases h
      exact .inl ⟨rfl, rfl⟩
    · simp only [hpop] at h
      refine .inr ⟨msg, rfl, ?_⟩
      split_ifs at h with hfilter
      · cases h
        exact .inl ⟨hfilter, rfl⟩
      · exact .inr ⟨Bool.eq_false_iff.mpr hfilter, h⟩

/-- The message taken is the next one; while the lock is set it is the first urgent one. -/
theorem nextMessage_spec {k : ℕ} {P : Message → Prop} (h : RingOk k P s.message)
    {buff : MessageBuffer} (hsource : messageSource c s = some buff) :
    RingOk k P (s.popped buff).message ∧ ∀ msg, (msgBufferPop buff).2 = some msg →
      nextMessage c s = some msg ∧ s.message.init = true ∧ P msg ∧
        (s.info.msgLock = true → s.message.contents.find? urgent = some msg) := by
  have hnext : ∀ msg, (msgBufferPop buff).2 = some msg → nextMessage c s = some msg := by
    intro msg hmsg
    rw [nextMessage, hsource, Option.bind_some, hmsg]
  rw [messageSource] at hsource
  split_ifs at hsource with hlock hblock
  · obtain ⟨hok, hfirst⟩ := h.block hsource
    obtain ⟨hpopped, hmsg⟩ := hok.pop
    refine ⟨hpopped, fun msg hm => ?_⟩
    obtain ⟨hinit, hhead, hP⟩ := hmsg msg hm
    rw [init_messageBlock hsource] at hinit
    exact ⟨hnext msg hm, hinit, hP, fun _ => (hfirst hinit).symm.trans hhead⟩
  · cases hsource
    obtain ⟨hpopped, hmsg⟩ := h.pop
    refine ⟨hpopped, fun msg hm => ?_⟩
    obtain ⟨hinit, -, hP⟩ := hmsg msg hm
    exact ⟨hnext msg hm, hinit, hP, fun hl => absurd hl hlock⟩

end GokeWebcam.Server
