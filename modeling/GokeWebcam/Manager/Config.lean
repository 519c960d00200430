import GokeWebcam.Common.MsgBuffer
import GokeWebcam.Global.Interface

/-!
# The manager's configuration

`manager_config` of `server/manager/config.c`: the start and sleep masks, the fail-restart switch
and the size and overflow mode of every server's queue. The fields are the ones a modelled function
reads; `managerConfig` has the values the program ships with.
-/

namespace GokeWebcam.Manager

open Common Global

/-- Source: `global/config.h` `global_running_mode_t` -/
inductive RunningMode
  | none | sleep | normal | testing | deepSleep | exit
  deriving DecidableEq, Repr

/-- Source: `server/manager/config.h` `manager_config_t` -/
structure ManagerConfig where
  runningMode : RunningMode := .normal
  sleepEnable : CInt := 0#32
  timezone : CInt := 80#32
  serverStart : CInt := 254#32
  serverSleep : CInt := 254#32
  msgOverrun : MsgBufferOverflow := .yes
  failRestart : Bool := true
  failRestartInterval : CInt := 3#32
  msgBufferSizeSmall : CInt := 8#32
  msgBufferSizeNormal : CInt := 16#32
  msgBufferSizeLarge : CInt := 16#32
  msgBufferSizeMedia : CInt := 16#32
  deriving DecidableEq, Repr

/-- Source: `server/manager/config.c` `manager_config` -/
def managerConfig : ManagerConfig := {}

/-- The size each server passes to `msg_buffer_init2` for its own queue.
Source: `server/*/*.c` `server_*_func`, `server/manager/manager.c` `manager_init` -/
def ManagerConfig.queueSize (config : ManagerConfig) : ServerType → CInt
  | .manager | .video | .audio => config.msgBufferSizeNormal
  | .device => config.msgBufferSizeLarge
  | .goke | .recorder | .player => config.msgBufferSizeSmall
  | .aliyun => config.msgBufferSizeMedia

/-- A server's queue as it is initialised. -/
def ManagerConfig.queue (config : ManagerConfig) (s : ServerType) : MessageBuffer :=
  msgBufferInit config.msgOverrun (config.queueSize s)

/-- The shipped queue sizes are powers of two. -/
theorem exists_queueSize_eq (s : ServerType) :
    ∃ k, 1 ≤ k ∧ k < 32 ∧ managerConfig.queueSize s = BitVec.ofNat 32 (2 ^ k) := by
  cases s
  case goke | recorder | player => exact ⟨3, by decide, by decide, rfl⟩
  all_goals exact ⟨4, by decide, by decide, rfl⟩

end GokeWebcam.Manager
