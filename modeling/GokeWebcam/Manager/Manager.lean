import GokeWebcam.Manager.Config
import GokeWebcam.Manager.Timer
import GokeWebcam.Server.Info

/-!
# The manager

`server/manager/manager.c`, with the part of `sleep.c` its timers run. Two threads act on the
manager's state: the main thread, which alternates `task.func()` and `server_message_proc()`, and
the timer thread, which polls the timer table.

* `taskDefault`, `taskSleep`, `taskDeepSleep`, `taskTesting`, `taskExit`: the tasks.
* `managerMessage`: what `server_message_proc` does with a popped message.
* `ManagerState.step`: one action of a thread, or a message pushed by another server.
* `managerInit`: the state the main loop starts in.

What the manager sends to other servers, and the threads it creates, are appended to `out`; what it
sends to itself goes into its own ring. `cond_wait` may return at any time. A call through a null
function pointer, a read through a null payload and `exit(0)` have no successor.
-/

namespace GokeWebcam.Manager

open Common Global Server

/-- What the manager does to the other servers: send a message, create the server's thread. -/
inductive ManagerOutput
  | send (receiver : CInt) (msg : Message)
  | start (server : ServerType)
  deriving DecidableEq, Repr

/-- Where the main thread is in `manager_proc`. -/
inductive ManagerPc
  | task | message
  deriving DecidableEq, Repr

/-- Where the timer thread is: outside `timer_proc`, before the iteration `i` of a call that was
given the word `server`, or ended. -/
inductive Poll
  | idle
  | polling (server : CInt) (i : ℕ)
  | ended
  deriving DecidableEq, Repr

/-- The static variables of the manager's files and the positions of its threads. -/
structure ManagerState where
  config : ManagerConfig := managerConfig
  info : ServerInfo := {}
  message : MessageBuffer := {}
  table : TimerTable := {}
  sleepEnable : CInt := 0#32
  pc : ManagerPc := .task
  poll : Poll := .idle
  out : List ManagerOutput := []

/-- What the environment decides in a step of the main thread: which threads can be created, what
`sleep_check_scheduler_time` finds, what the clock shows. -/
structure ManagerInput where
  startOk : ServerType → Bool := fun _ => true
  schedulerTime : CInt := 0#32
  now : BitVec 32 := 0#32

variable (input : ManagerInput)

/-! ### Helpers -/

/-- Source: `global/common.c` `global_common_send_message`, called by the manager -/
def ManagerState.send (receiver : CInt) (msg : Message) (s : ManagerState) : ManagerState :=
  if receiver = ServerType.manager.toInt then
    { s with message := (msgBufferPush s.message (some msg)).1 }
  else { s with out := s.out ++ [.send receiver msg] }

def ManagerState.setStatus (status : ServerStatus) (s : ManagerState) : ManagerState :=
  { s with info := { s.info with status := status } }

def ManagerState.setFunc (func : TaskFunc) (s : ManagerState) : ManagerState :=
  { s with info := { s.info with task := { s.info.task with func := some func } } }

def ManagerState.setRunningMode (mode : RunningMode) (s : ManagerState) : ManagerState :=
  { s with config := { s.config with runningMode := mode } }

def ManagerState.setSleepEnable (enable : CInt) (s : ManagerState) : ManagerState :=
  { s with config := { s.config with sleepEnable := enable } }

def ManagerState.setTimezone (timezone : CInt) (s : ManagerState) : ManagerState :=
  { s with config := { s.config with timezone := timezone } }

/-- Whether the server's bit is set in `info.thread_start`. -/
def ManagerState.running (s : ManagerState) (t : ServerType) : Bool :=
  miscGetBit s.info.threadStart t.toNat ≠ 0#32

/-- A message from the manager to itself or to the server it is sent to. -/
def managerMsg (id : CInt) : Message where
  message := id
  sender := ServerType.manager.toInt
  receiver := ServerType.manager.toInt

/-- Send one message to every server that is running.
Source: `server/manager/manager.c` `for (i = 0; i < SERVER_BUTT; i++)` over `thread_start` -/
def ManagerState.broadcast (msg : Message) (s : ManagerState) : ManagerState :=
  ServerType.all.foldl (fun s t => if s.running t then s.send t.toInt msg else s) s

/-- Tell every running server who has quitted, if that is the message handled last.
Source: `server/manager/manager.c` `task_sleep`, `task_testing`, `task_exit`, the `else` branch of
the waiting status -/
def ManagerState.announceQuitter (s : ManagerState) : ManagerState :=
  if s.info.task.msg.message = msgManagerExitAck then
    s.broadcast { message := msgManagerExitAck, sender := s.info.task.msg.sender
                  receiver := s.info.task.msg.sender }
  else s

/-- Source: `server/manager/manager.c` `manager_server_start` -/
def managerServerStart (server : CInt) (s : ManagerState) : ManagerState :=
  match ServerType.ofNat? server.toNat with
  | none | some .manager => s
  | some t =>
    if input.startOk t then
      { s with
        info := { s.info with threadStart := miscSetBit s.info.threadStart t.toNat }
        out := s.out ++ [.start t] }
    else s

/-- Source: `server/manager/manager.c` `manager_server_stop` -/
def managerServerStop (server : ServerType) (s : ManagerState) : ManagerState :=
  s.send server.toInt { managerMsg msgManagerExit with
    argIn := { cat := s.info.threadStart &&& s.config.serverSleep } }

/-- Start every server of the start mask that is not running.
Source: `server/manager/manager.c` `task_default`, `task_testing`, `STATUS_SETUP` -/
def ManagerState.startServers (s : ManagerState) : ManagerState :=
  ServerType.all.foldl (fun s t =>
    if miscGetBit s.config.serverStart t.toNat ≠ 0#32 ∧ miscGetBit s.info.threadStart t.toNat ≠ 1#32
    then managerServerStart input t.toInt s else s) s

/-- Stop every running server of the sleep mask that `select` admits.
Source: `server/manager/manager.c` `task_sleep`, `task_testing` -/
def ManagerState.stopServers (select : ServerType → Bool) (s : ManagerState) : ManagerState :=
  ServerType.all.foldl (fun s t =>
    if s.running t ∧ miscGetBit s.config.serverSleep t.toNat ≠ 0#32 ∧ select t
    then managerServerStop t s else s) s

/-- Source: `server/manager/manager.c` `manager_sleep` -/
def managerSleep (s : ManagerState) : ManagerState := (s.setStatus .none).setFunc .taskSleep

/-- Source: `server/manager/manager.c` `manager_wakeup`, `manager_send_wakeup` -/
def managerWakeup (s : ManagerState) : ManagerState :=
  ((s.setStatus .none).setFunc .taskTesting).send ServerType.aliyun.toInt
    (managerMsg msgManagerWakeup)

/-- Source: `server/manager/manager.c` `manager_deep_sleep` -/
def managerDeepSleep (s : ManagerState) : ManagerState :=
  (((s.setStatus .none).setFunc .taskDeepSleep).setRunningMode .deepSleep).setSleepEnable 2#32

/-- Source: `server/manager/sleep.c` `sleep_check_scheduler` -/
def sleepCheckScheduler (s : ManagerState) : ManagerState :=
  if s.sleepEnable = 2#32 then
    if input.schedulerTime = 1#32 then managerDeepSleep s else managerWakeup s
  else s

/-- Source: `server/manager/manager.c` `test_func` -/
def testFunc (s : ManagerState) : ManagerState :=
  if s.info.task.func = some .taskTesting then s.setStatus .stop else s

/-- Source: `server/manager/manager.c` `manager_delayed_start` -/
def managerDelayedStart (arg : MessageArg) (s : ManagerState) : ManagerState :=
  managerServerStart input arg.cat s

/-- Call a handler; the handlers of other servers are never sent to the manager.
Source: `server/manager/manager.c` `server_message_proc`, `MSG_MANAGER_TIMER_ON` -/
def callHandler (handler : Option Handler) (arg : MessageArg) (s : ManagerState) : Option ManagerState :=
  match handler with
  | some .managerRoutineProc => some s
  | some .sleepCheckScheduler => some (sleepCheckScheduler input s)
  | some .testFunc => some (testFunc s)
  | some .managerDelayedStart => some (managerDelayedStart input arg s)
  | _ => none

/-! ### The tasks -/

/-- Source: `server/manager/manager.c` `task_default`, `task_testing`, `STATUS_ERROR` -/
def ManagerState.toExit (s : ManagerState) : ManagerState :=
  ((s.setFunc .taskExit).setStatus .exitInit).setRunningMode .exit

/-- Source: `server/manager/manager.c` `task_default` -/
def taskDefault (s : ManagerState) : ManagerState :=
  match s.info.status with
  | .none => s.setStatus .wait
  | .wait => s.setStatus .setup
  | .setup => (s.startServers input).setStatus .idle
  | .idle => s.setStatus .start
  | .start => s.setStatus .run
  | .error => s.toExit
  | _ => s

/-- The word the waiting statuses of `task_sleep` and `task_testing` compare `thread_start` with. -/
def sleepMask (config : ManagerConfig) : CInt := ~~~config.serverSleep &&& 0x7FFF#32

/-- Source: `server/manager/manager.c` `task_sleep` -/
def taskSleep (s : ManagerState) : ManagerState :=
  match s.info.status with
  | .none => s.setStatus .wait
  | .wait => s.setStatus .setup
  | .setup => (s.stopServers fun t => t ≠ .aliyun).setStatus .idle
  | .idle =>
    if s.info.threadStart = sleepMask s.config then s.setStatus .start else s.announceQuitter
  | .start => s.setStatus .run
  | _ => s

/-- Source: `server/manager/manager.c` `task_deep_sleep` -/
def taskDeepSleep (s : ManagerState) : ManagerState :=
  match s.info.status with
  | .none => s.setStatus .wait
  | .wait => s.setStatus .setup
  | .setup =>
    (ServerType.all.foldl (fun s t => if s.running t then managerServerStop t s else s) s).setStatus
      .idle
  | .idle => if s.info.threadStart = 0#32 then s.setStatus .start else s.announceQuitter
  | .start => s.setStatus .run
  | _ => s

/-- The request to call `test_func` in twenty seconds. -/
def testTimer : Message where
  message := msgManagerTimerAdd
  sender := ServerType.manager.toInt
  argIn := { cat := 20000#32, dog := 0#32, duck := 1#32, handler := some .testFunc }

/-- Source: `server/manager/manager.c` `task_testing` -/
def taskTesting (s : ManagerState) : ManagerState :=
  match s.info.status with
  | .none => s.setStatus .wait
  | .wait => s.setStatus .setup
  | .setup => (s.startServers input).setStatus .idle
  | .idle => s.setStatus .start
  | .start => (s.send ServerType.manager.toInt testTimer).setStatus .run
  | .stop => (s.stopServers fun _ => true).setStatus .restart
  | .restart =>
    if s.info.threadStart = sleepMask s.config then s.setStatus .none else s.announceQuitter
  | .error => s.toExit
  | _ => s

/-- The request to remove the scheduler's timer.
Source: `server/manager/sleep.c` `sleep_release` -/
def sleepReleaseMsg : Message where
  message := msgManagerTimerRemove
  sender := ServerType.manager.toInt
  receiver := ServerType.manager.toInt
  argIn := { handler := some .sleepCheckScheduler }

/-- Source: `server/manager/manager.c` `server_release_2` -/
def serverRelease2 (s : ManagerState) : ManagerState :=
  let s := s.send ServerType.manager.toInt sleepReleaseMsg
  { s with message := msgBufferRelease s.message }

/-- Source: `server/manager/manager.c` `task_exit` -/
def taskExit (s : ManagerState) : ManagerState :=
  match s.info.status with
  | .exitInit =>
    (s.broadcast { managerMsg msgManagerExit with
      argIn := { cat := s.info.threadStart } }).setStatus .exitServer
  | .exitServer =>
    if s.info.threadStart = 0#32 then s.setStatus .exitStage1 else s.announceQuitter
  | .exitStage1 => s.setStatus .exitThread
  | .exitThread =>
    let s := { s with info := { s.info with threadExit := s.info.threadStart } }
    if s.info.threadStart = 0#32 then s.setStatus .exitStage2 else s
  | .exitStage2 => (serverRelease2 s).setStatus .exitFinish
  | .exitFinish =>
    if s.info.status2 then
      let s := { s with info := { s.info with status2 := false, msgLock := false } }
      ((s.setFunc .taskDefault).setRunningMode .normal).setStatus .none
    else
      ManagerState.setStatus .none { s with info := { s.info with exit := true } }
  | _ => s

/-- `info.task.func()`. -/
def ManagerState.task (s : ManagerState) : Option ManagerState :=
  match s.info.task.func with
  | none => none
  | some .taskDefault => some (taskDefault input s)
  | some .taskSleep => some (taskSleep s)
  | some .taskDeepSleep => some (taskDeepSleep s)
  | some .taskTesting => some (taskTesting input s)
  | some .taskExit => some (taskExit s)

/-! ### The message loop -/

/-- The answer to a property message.
Source: `server/manager/manager.c` `manager_get_property`, `manager_set_property` -/
def propertyAck (msg : Message) : Message where
  argPass := msg.argPass
  message := ackOf msg.message
  sender := ServerType.manager.toInt
  receiver := ServerType.manager.toInt
  argIn := { cat := msg.argIn.cat }

/-- `MANAGER_PROPERTY_SLEEP`, `MANAGER_PROPERTY_TIMEZONE`.
Source: `server/manager/manager_interface.h` `manager_property_t` -/
def managerPropertySleep : CInt := 0#32
def managerPropertyTimezone : CInt := 5#32

/-- The value reported for the sleep property; for another `enable` the source leaves it
uninitialised. -/
def sleepProperty (enable : CInt) : CInt :=
  if enable = 0#32 then 1#32 else if enable = 1#32 then 0#32 else enable

/-- Source: `server/manager/manager.c` `manager_get_property` -/
def managerGetProperty (msg : Message) (s : ManagerState) : ManagerState :=
  let ack := propertyAck msg
  if msg.argIn.cat = managerPropertySleep then
    s.send msg.receiver { ack with
      arg := some (intBytes (sleepProperty s.config.sleepEnable)), argSize := 4#32 }
  else s.send msg.receiver ack

/-- Whether a sleep request asks for what is set already.
Source: `server/manager/manager.c` `manager_set_property` -/
def sleepUnchanged (temp enable : CInt) : Bool :=
  (temp = 1#32 && enable = 0#32) || (temp = 0#32 && enable = 1#32) ||
    (temp = 2#32 && enable = 2#32)

/-- The effect of a sleep request, and the flag `wolf` of the answer.
Source: `server/manager/manager.c` `manager_set_property` -/
def setSleep (temp : CInt) (s : ManagerState) : ManagerState × CInt :=
  if sleepUnchanged temp s.config.sleepEnable then (s, 0#32)
  else if temp = 1#32 ∧ s.info.status = .run then
    (managerWakeup ((s.setRunningMode .normal).setSleepEnable 0#32), 1#32)
  else if temp = 0#32 ∧ s.info.status = .run then
    (managerSleep ((s.setRunningMode .sleep).setSleepEnable 1#32), 1#32)
  else (s, 0#32)

/-- Source: `server/manager/manager.c` `manager_set_property` -/
def managerSetProperty (msg : Message) (s : ManagerState) : Option ManagerState :=
  let ack := propertyAck msg
  if msg.argIn.cat = managerPropertySleep then
    msg.arg.map fun block =>
      let temp := readInt block
      let (s, wolf) := setSleep temp s
      s.send msg.receiver { ack with
        argIn := { ack.argIn with wolf := wolf }, arg := some (intBytes temp), argSize := 4#32 }
  else if msg.argIn.cat = managerPropertyTimezone then
    some ((s.setTimezone msg.argIn.cat).send msg.receiver ack)
  else some (s.send msg.receiver ack)

/-- The request to start a failed server again after the restart interval.
Source: `server/manager/manager.c` `server_message_proc`, `MSG_MANAGER_EXIT_ACK` -/
def delayedStartMsg (config : ManagerConfig) (server : CInt) : Message where
  message := msgManagerTimerAdd
  sender := ServerType.manager.toInt
  argIn := { cat := config.failRestartInterval * 1000#32, dog := 0#32, duck := 1#32
             handler := some .managerDelayedStart }
  argPass := { cat := server }

/-- Source: `server/manager/manager.c` `server_message_proc`, `MSG_MANAGER_EXIT_ACK` -/
def exitAck (msg : Message) (s : ManagerState) : ManagerState :=
  let s := { s with
    info := { s.info with threadStart := miscClearBit s.info.threadStart msg.sender.toNat } }
  if s.config.runningMode = .normal ∧ s.config.failRestart then
    s.send ServerType.manager.toInt (delayedStartMsg s.config msg.sender)
  else s

/-- The termination requests of all servers. -/
def isSigint (id : CInt) : Bool := ServerType.all.any fun t => id = msgId t 1

/-- Source: `server/manager/manager.c` `server_message_proc`, `MSG_*_SIGINT` -/
def sigint (s : ManagerState) : ManagerState :=
  if s.info.task.func ≠ some .taskExit then s.toExit else s

/-- What is done with a popped message; an id that is not listed is only logged.
Source: `server/manager/manager.c` `server_message_proc`, the `switch` -/
def managerMessage (msg : Message) (s : ManagerState) : Option ManagerState :=
  if isSigint msg.message then some (sigint s)
  else if msg.message = msgManagerExitAck then some (exitAck msg s)
  else if msg.message = msgManagerTimerAdd then
    some { s with table := (timerAdd s.table input.now msg.argIn.handler msg.argIn.cat
      msg.argIn.dog msg.argIn.duck msg.sender msg.argPass).1 }
  else if msg.message = msgManagerTimerOn then
    callHandler input msg.argIn.handler msg.argPass s
  else if msg.message = msgManagerTimerRemove then
    some { s with table := (timerRemove s.table msg.argIn.handler).1 }
  else if msg.message = msgManagerPropertyGet then some (managerGetProperty msg s)
  else if msg.message = msgManagerPropertySet then managerSetProperty msg s
  else some s

/-- The oldest message is taken out of the ring and recorded in the task. -/
def ManagerState.taken (msg : Message) (s : ManagerState) : ManagerState :=
  { s with
    message := (msgBufferPop s.message).1
    info := { s.info with task := { s.info.task with msg := msg } } }

/-- Source: `server/manager/manager.c` `server_message_proc` -/
def serverMessageProc (s : ManagerState) : Option ManagerState :=
  if s.info.msgLock then some s
  else
    match (msgBufferPop s.message).2 with
    | none => some s
    | some msg => managerMessage input msg (s.taken msg)

/-- A pass of the message loop does nothing, or it handles the oldest message. -/
theorem serverMessageProc_cases {input : ManagerInput} {s s' : ManagerState}
    (h : serverMessageProc input s = some s') :
    (s' = s ∧ (s.info.msgLock = false → (msgBufferPop s.message).2 = none)) ∨
      ∃ msg, s.info.msgLock = false ∧ (msgBufferPop s.message).2 = some msg ∧
        managerMessage input msg (s.taken msg) = some s' := by
  rw [serverMessageProc] at h
  split_ifs at h with hlock
  · cases h
    exact .inl ⟨rfl, fun hfree => by rw [hlock] at hfree; cases hfree⟩
  · rcases hpop : (msgBufferPop s.message).2 with _ | msg
    · rw [hpop] at h
      cases h
      exact .inl ⟨rfl, fun _ => rfl⟩
    · rw [hpop] at h
      exact .inr ⟨msg, by simpa using hlock, rfl, h⟩

/-! ### The threads -/

/-- A step of the manager: the main thread runs its task or handles a message, another server
pushes a message, the timer thread enters `timer_proc`, examines a slot, leaves, or ends. -/
inductive ManagerAction
  | task (input : ManagerInput)
  | message (input : ManagerInput)
  | arrive (msg : Message)
  | pollBegin
  | pollSlot (now again : BitVec 32)
  | pollEnd
  | timerEnd

/-- `info.old_status = info.status`. -/
def ManagerState.noteStatus (s : ManagerState) : ManagerState :=
  { s with info := { s.info with oldStatus := s.info.status } }

/-- The timer thread's loop ends.
Source: `server/manager/manager.c` `manager_timer_func` -/
def ManagerState.timerStop (s : ManagerState) : Bool :=
  s.info.exit || miscGetBit s.info.threadExit 0 ≠ 0#32

/-- The iteration `i` of a call of `timer_proc`.
Source: `server/manager/timer.c` `timer_proc` -/
def ManagerState.pollSlot (s : ManagerState) (now again : BitVec 32) (server : CInt)
    (i : Fin timerNumber) : ManagerState :=
  let r := timerProcSlot server now again s.table i
  let s := { s with table := r.1, poll := .polling server (i + 1) }
  match r.2 with
  | none => s
  | some timer => s.send timer.sender (timerOn timer)

/-- One step; `none` where the action is not enabled. Only `timer_proc` sends
`MSG_MANAGER_TIMER_ON`, so no other thread pushes one.
Source: `server/manager/manager.c` `manager_proc`, `manager_timer_func`, `manager_message` -/
def ManagerState.step (s : ManagerState) : ManagerAction → Option ManagerState
  | .task input =>
    if s.pc = .task ∧ s.info.exit = false then
      (s.noteStatus.task input).map fun s => { s with pc := .message }
    else none
  | .message input =>
    if s.pc = .message then
      (serverMessageProc input s).map fun s => { s with pc := .task }
    else none
  | .arrive msg =>
    if msg.message = msgManagerTimerOn then none
    else some { s with message := (msgBufferPush s.message (some msg)).1 }
  | .pollBegin =>
    if s.poll = .idle ∧ s.timerStop = false then
      some { s with poll := .polling s.info.threadStart 0 }
    else none
  | .pollSlot now again =>
    match s.poll with
    | .polling server i =>
      if h : i < timerNumber then some (s.pollSlot now again server ⟨i, h⟩) else none
    | _ => none
  | .pollEnd =>
    match s.poll with
    | .polling _ i => if i < timerNumber then none else some { s with poll := .idle }
    | _ => none
  | .timerEnd =>
    if s.poll = .idle ∧ s.timerStop = true then
      let s := { s with table := timerRelease s.table, poll := .ended }
      some (s.send ServerType.manager.toInt (managerMsg msgManagerDummy))
    else none

/-- The request for the scheduler's timer.
Source: `server/manager/sleep.c` `sleep_init` -/
def sleepInitMsg : Message where
  message := msgManagerTimerAdd
  sender := ServerType.manager.toInt
  argIn := { cat := 60000#32, dog := 0#32, duck := 0#32, handler := some .sleepCheckScheduler }

/-- The request for the routine timer.
Source: `server/manager/manager.c` `manager_routine_init` -/
def routineInitMsg : Message where
  message := msgManagerTimerAdd
  sender := ServerType.manager.toInt
  argIn := { cat := 60000#32, dog := 0#32, duck := 0#32, handler := some .managerRoutineProc }

/-- The task the running mode selects.
Source: `server/manager/manager.c` `manager_init` -/
def initialFunc : RunningMode → Option TaskFunc
  | .sleep => some .taskSleep
  | .normal => some .taskDefault
  | .testing => some .taskTesting
  | _ => none

/-- Before the requests for timers.
Source: `server/manager/manager.c` `manager_init`, up to `sleep_init` -/
def managerBoot (config : ManagerConfig) : ManagerState where
  config := config
  info := { init := true, task := { func := initialFunc config.runningMode } }
  message := config.queue .manager
  table := timerInit {}
  sleepEnable := config.sleepEnable

/-- Source: `server/manager/manager.c` `manager_init` -/
def managerInit (config : ManagerConfig) : ManagerState :=
  ((managerBoot config).send ServerType.manager.toInt sleepInitMsg).send
    ServerType.manager.toInt routineInitMsg

/-! ### What each action does -/

variable {input} {s s' : ManagerState}

theorem step_task (h : s.step (.task input) = some s') :
    ∃ t, s.noteStatus.task input = some t ∧ s' = { t with pc := .message } := by
  rw [ManagerState.step] at h
  split_ifs at h
  rw [Option.map_eq_some_iff] at h
  obtain ⟨t, ht, rfl⟩ := h
  exact ⟨t, ht, rfl⟩

theorem step_message (h : s.step (.message input) = some s') :
    ∃ t, serverMessageProc input s = some t ∧ s' = { t with pc := .task } := by
  rw [ManagerState.step] at h
  split_ifs at h
  rw [Option.map_eq_some_iff] at h
  obtain ⟨t, ht, rfl⟩ := h
  exact ⟨t, ht, rfl⟩

theorem step_arrive {msg : Message} (h : s.step (.arrive msg) = some s') :
    msg.message ≠ msgManagerTimerOn ∧
      s' = { s with message := (msgBufferPush s.message (some msg)).1 } := by
  rw [ManagerState.step] at h
  split_ifs at h with hid
  cases h
  exact ⟨hid, rfl⟩

theorem step_pollBegin (h : s.step .pollBegin = some s') :
    s' = { s with poll := .polling s.info.threadStart 0 } := by
  rw [ManagerState.step] at h
  split_ifs at h
  cases h
  rfl

theorem step_pollSlot {now again : BitVec 32} (h : s.step (.pollSlot now again) = some s') :
    ∃ server i, ∃ hi : i < timerNumber, s.poll = .polling server i ∧
      s' = s.pollSlot now again server ⟨i, hi⟩ := by
  rw [ManagerState.step] at h
  split at h
  · next server i hpoll =>
    split_ifs at h with hi
    cases h
    exact ⟨server, i, hi, hpoll, rfl⟩
  · cases h

theorem step_pollEnd (h : s.step .pollEnd = some s') : s' = { s with poll := .idle } := by
  rw [ManagerState.step] at h
  split at h
  · split_ifs at h
    cases h
    rfl
  · cases h

/-- The state in which the ending timer thread leaves the manager. -/
def ManagerState.timerEnded (s : ManagerState) : ManagerState :=
  ({ s with table := timerRelease s.table, poll := .ended } : ManagerState).send
    ServerType.manager.toInt (managerMsg msgManagerDummy)

theorem step_timerEnd (h : s.step .timerEnd = some s') : s' = s.timerEnded := by
  rw [ManagerState.step] at h
  split_ifs at h
  cases h
  rfl

end GokeWebcam.Manager
