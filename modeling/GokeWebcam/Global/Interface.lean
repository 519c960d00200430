import GokeWebcam.Common.Message

/-!
# Servers and message ids

The enumerations of `global/global_interface.h` and `server/manager/manager_interface.h` that all
servers share.

* `ServerType`: the eight servers in the order of their numbers; number 8 is `SERVER_BUTT`.
* `msgId s n`: the `n`-th message of the server `s`, `(s << 16) | n`; the acknowledgement of a
  message is its id with the bit `0x1000`.
* `ServerStatus`: the states of a server's state machine, with their numbers, which the message
  filters compare.
-/

namespace GokeWebcam.Global

open Common

/-- Source: `global/global_interface.h` `server_type_t` -/
inductive ServerType
  | manager | device | goke | video | audio | recorder | player | aliyun
  deriving DecidableEq, Repr

namespace ServerType

/-- The number of a server. -/
def toNat : ServerType → ℕ
  | manager => 0
  | device => 1
  | goke => 2
  | video => 3
  | audio => 4
  | recorder => 5
  | player => 6
  | aliyun => 7

/-- `SERVER_BUTT`. -/
def butt : ℕ := 8

/-- All servers, in the order of the loops `for (i = 0; i < SERVER_BUTT; i++)`. -/
def all : List ServerType := [manager, device, goke, video, audio, recorder, player, aliyun]

/-- The server of a number, if it is one. -/
def ofNat? (n : ℕ) : Option ServerType := all.find? fun s => s.toNat == n

/-- The number of a server as an `int`. -/
def toInt (s : ServerType) : CInt := BitVec.ofNat 32 s.toNat

variable {s t : ServerType}

theorem toNat_lt : s.toNat < butt := by cases s <;> decide

theorem toNat_lt_32 : s.toNat < 32 := by cases s <;> decide

theorem toNat_inj : s.toNat = t.toNat ↔ s = t := by
  cases s <;> cases t <;> decide

theorem toNat_toInt : s.toInt.toNat = s.toNat := by cases s <;> rfl

theorem toInt_inj : s.toInt = t.toInt ↔ s = t := by
  cases s <;> cases t <;> decide

theorem mem_all : s ∈ all := by cases s <;> decide

instance : Fintype ServerType := ⟨⟨all, by decide⟩, fun _ => mem_all⟩

theorem ofNat?_toNat : ofNat? s.toNat = some s := by cases s <;> rfl

end ServerType

/-- Source: `server/manager/manager_interface.h` `server_status_t` -/
inductive ServerStatus
  | none | init | wait | setup | idle | start | run | stop | restart | reinit | error
  | exitInit | exitServer | exitStage1 | exitThread | exitStage2 | exitFinish
  deriving DecidableEq, Repr

/-- The number of a status. -/
def ServerStatus.toNat : ServerStatus → ℕ
  | none => 0
  | init => 1
  | wait => 2
  | setup => 3
  | idle => 4
  | start => 5
  | run => 6
  | stop => 7
  | restart => 8
  | reinit => 9
  | error => 10
  | exitInit => 1000
  | exitServer => 1001
  | exitStage1 => 1002
  | exitThread => 1003
  | exitStage2 => 1004
  | exitFinish => 1005

/-- The states from `EXIT_INIT` on. -/
def ServerStatus.isExit (s : ServerStatus) : Bool := 1000 ≤ s.toNat

/-- Source: `server/manager/manager_interface.h` `task_type_enum` -/
inductive TaskType
  | none | start | stop | restart | recorderAdd
  deriving DecidableEq, Repr

/-! ### Message ids -/

/-- The `n`-th message of a server.
Source: `global/global_interface.h` `message_type_t` -/
def msgId (s : ServerType) (n : ℕ) : CInt := BitVec.ofNat 32 (s.toNat * 0x10000 + n)

/-- The id of the answer to a message. -/
def ackOf (id : CInt) : CInt := id ||| 0x1000#32

/-- A word without the bit is not the id of an answer. -/
theorem ackOf_ne {id n : CInt} (h : n.getLsbD 12 = false) : ackOf id ≠ n := by
  rintro rfl
  rw [ackOf, BitVec.getLsbD_or, show (0x1000#32 : CInt).getLsbD 12 = true by decide, Bool.or_true] at h
  cases h

def msgManagerSigint : CInt := msgId .manager 1
def msgManagerExit : CInt := msgId .manager 2
def msgManagerDummy : CInt := msgId .manager 3
def msgManagerWakeup : CInt := msgId .manager 4
def msgManagerHeartbeat : CInt := msgId .manager 5
def msgManagerTimerAdd : CInt := msgId .manager 6
def msgManagerTimerRemove : CInt := msgId .manager 7
def msgManagerTimerOn : CInt := msgId .manager 8
def msgManagerPropertyGet : CInt := msgId .manager 0x11
def msgManagerPropertySet : CInt := msgId .manager 0x12
def msgManagerExitAck : CInt := msgId .manager 0x1002
def msgManagerPropertyGetAck : CInt := msgId .manager 0x1011
def msgManagerPropertySetAck : CInt := msgId .manager 0x1012

def msgDeviceSigint : CInt := msgId .device 1
def msgDeviceGetPara : CInt := msgId .device 2
def msgDeviceSdFormatStart : CInt := msgId .device 5

def msgGokePropertyGet : CInt := msgId .goke 2
def msgGokePropertyNotify : CInt := msgId .goke 3

def msgVideoStart : CInt := msgId .video 2
def msgVideoStop : CInt := msgId .video 3
def msgVideoPropertySetExt : CInt := msgId .video 5
def msgVideoPropertySetDirect : CInt := msgId .video 6

def msgAudioStart : CInt := msgId .audio 2
def msgAudioStop : CInt := msgId .audio 3
def msgAudioPlaySound : CInt := msgId .audio 9

def msgRecorderPropertySet : CInt := msgId .recorder 5
def msgRecorderAdd : CInt := msgId .recorder 7

def msgPlayerStart : CInt := msgId .player 2
def msgPlayerStop : CInt := msgId .player 3
def msgPlayerPause : CInt := msgId .player 4
def msgPlayerUnpause : CInt := msgId .player 5
def msgPlayerSetParam : CInt := msgId .player 6
def msgPlayerAudioStart : CInt := msgId .player 10
def msgPlayerAudioStop : CInt := msgId .player 11
def msgPlayerRequest : CInt := msgId .player 12
def msgPlayerRelay : CInt := msgId .player 13
def msgPlayerSeek : CInt := msgId .player 17
def msgPlayerRequestSync : CInt := msgId .player 18

def msgAliyunQrcodeResult : CInt := msgId .aliyun 2
def msgAliyunConnect : CInt := msgId .aliyun 3
def msgAliyunYield : CInt := msgId .aliyun 7
def msgAliyunTimeSynchronized : CInt := msgId .aliyun 8
def msgAliyunRestart : CInt := msgId .aliyun 11
def msgAliyunGetTimeSync : CInt := msgId .aliyun 12

end GokeWebcam.Global
