import GokeWebcam.Global.Interface

/-!
# A server's bookkeeping record

`server_info_t` of `server/manager/manager_interface.h`, which the manager and all servers keep:
the state of the state machine, the task in progress and the sets of servers and threads as words
of bits. The thread id and the tick of the unused heart beat are left out.
-/

namespace GokeWebcam.Server

open Common Global

/-- The functions stored in `task.func`; only the manager uses the field.
Source: `server/manager/manager.c` -/
inductive TaskFunc
  | taskDefault | taskSleep | taskDeepSleep | taskTesting | taskExit
  deriving DecidableEq, Repr

/-- Source: `server/manager/manager_interface.h` `task_t` -/
structure Task where
  func : Option TaskFunc := none
  msg : Message := msgInit
  startStatus : ServerStatus := .none
  endStatus : ServerStatus := .none
  type : TaskType := .none
  deriving DecidableEq, Repr

/-- Source: `server/manager/manager_interface.h` `server_info_t` -/
structure ServerInfo where
  status : ServerStatus := .none
  oldStatus : ServerStatus := .none
  init : Bool := false
  error : CInt := 0#32
  msgLock : Bool := false
  status2 : Bool := false
  exit : Bool := false
  task : Task := {}
  threadStart : CInt := 0#32
  threadExit : CInt := 0#32
  initStatus : CInt := 0#32
  quitStatus : CInt := 0#32
  deriving DecidableEq, Repr

end GokeWebcam.Server
