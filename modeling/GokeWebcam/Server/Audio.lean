import GokeWebcam.Server.ChannelTable

/-!
# The audio server

`server/audio/audio.c`: the states of its state machine, its two tasks and its messages. The
hardware layer, the sounds it plays and the speaker's data are left out; so is `running_info`, which
only records how far the hardware was brought up. The table of its clients is in
`Server/AudioChannel.lean`.
-/

namespace GokeWebcam.Server.Audio

open Common Global

/-- The state of the audio server; it keeps no other static variables of those modelled. -/
abbrev State := ServerState Unit

/-- Source: `server/audio/audio.h` `audio_init_condition_e` -/
def audioInitConditionGoke : ℕ := 0
def audioInitConditionNum : ℕ := 1

/-- Source: `server/audio/audio.h` `audio_thread_id_enum` -/
def audioThreadEncoder : ℕ := 0

/-- Source: `server/audio/audio_interface.h` -/
def audioPropertySpeaker : CInt := 0x002#32

/-- Source: `server/goke/goke_interface.h` `goke_status_t` -/
def gokePropertyStatus : CInt := 0#32

/-- Source: `global/global_interface.h` `message_type_t` -/
def msgAudioPropertySet : CInt := msgId .audio 5

/-- Source: `server/audio/audio.h` `AUDIO_EXIT_CONDITION` -/
def audioExitCondition : CInt :=
  (1#32 <<< ServerType.aliyun.toNat) ||| (1#32 <<< ServerType.recorder.toNat)

variable (input : ServerInput) (s : State)

/-! ### The state machine -/

/-- Source: `server/audio/audio.c` `server_init` -/
def serverInit : State :=
  let s :=
    if miscGetBit s.info.initStatus audioInitConditionGoke = 0#32 then
      s.send ServerType.goke.toInt (serverMsg .audio msgGokePropertyGet)
    else s
  if miscFullBit s.info.initStatus audioInitConditionNum then s.setStatus .wait else s

/-- Source: `server/audio/audio.c` `server_setup` -/
def serverSetup : State := s.setStatus (if input.ok then .idle else .error)

/-- Source: `server/audio/audio.c` `server_start` -/
def serverStart : State :=
  if input.ok then
    if miscGetBit s.info.threadStart audioThreadEncoder ≠ 0#32 then s.setStatus .run else s
  else s.setStatus .error

/-- Source: `server/audio/audio.c` `server_stop` -/
def serverStop : State :=
  if input.ok then if s.info.threadStart = 0#32 then s.setStatus .idle else s
  else s.setStatus .error

/-- Source: `server/audio/audio.c` `server_restart` -/
def serverRestart : State :=
  if input.ok then
    if input.uninitOk then if s.info.status2 then s else s.setStatus .idle
    else s.setStatus .error
  else s.setStatus .error

/-- Source: `server/audio/audio.c` `state_machine` -/
def states : Option State :=
  match s.info.status with
  | .init => some (serverInit s)
  | .setup => some (serverSetup input s)
  | .start => some (serverStart input s)
  | .stop => some (serverStop input s)
  | .restart => some (serverRestart input s)
  | _ => some s

/-! ### The task -/

/-- Source: `server/audio/audio.c` `task_proc`, `TASK_TYPE_NONE` -/
def taskNone : State :=
  match s.info.status with
  | .none => s.setStatus .init
  | .wait => s.setStatus .setup
  | .idle => s.setStatus .start
  | _ => s

/-- Source: `server/audio/audio.c` `task_proc` -/
def taskProc : Option State :=
  match s.info.task.type with
  | .none => some (taskNone s)
  | .start => some (startTask .audio s)
  | .stop => some (stopTask .audio s)
  | .restart | .recorderAdd => some s

/-! ### The messages -/

/-- Source: `server/audio/audio.c` `server_message_proc`, `MSG_PLAYER_REQUEST_SYNC` -/
def requestSyncAck (msg : Message) : Message :=
  { serverMsg .audio (ackOf msgPlayerRequestSync) with
    argIn := { cat := msg.argIn.cat, dog := msg.argIn.dog } }

/-- Whether a message reports that the goke server runs.
Source: `server/audio/audio.c` `server_message_proc`, `MSG_GOKE_PROPERTY_NOTIFY` -/
def gokeRuns (msg : Message) : Bool :=
  msg.argIn.cat = gokePropertyStatus ∧ msg.argIn.dog = BitVec.ofNat 32 ServerStatus.run.toNat

/-- Source: `server/audio/audio.c` `server_message_proc` -/
def handle (msg : Message) : Option State :=
  if msg.message = msgAudioStart then some (beginTask .start msg s)
  else if msg.message = msgAudioStop then some (beginTask .stop msg s)
  else if msg.message = msgGokePropertyNotify ∨ msg.message = ackOf msgGokePropertyGet then
    if gokeRuns msg then some (s.setInitBit audioInitConditionGoke) else some s
  else if msg.message = msgAudioPropertySet ∧ msg.argIn.cat = audioPropertySpeaker ∧ msg.arg = none then
    none
  else if msg.message = msgPlayerRequestSync then
    some (s.send ServerType.player.toInt (requestSyncAck msg))
  else some s

/-! ### The server -/

/-- No timer calls back into it, and its release functions touch none of the variables kept here.
Source: `server/audio/audio.c` -/
def server : ServerCode Unit where
  server := .audio
  exitCondition := audioExitCondition
  hasMessageBlock := true
  states := states
  taskProc := fun _ s => taskProc s
  handle := fun _ msg s => handle s msg
  handler := fun _ _ s => some s
  thread := fun input s => some (serverThread .audio { input with tid := audioThreadEncoder } s)
  drained := fun _ s => s
  serverRelease1 := fun _ s => s
  serverRelease2 := id
  serverStart := id

theorem servesClients_server : ServesClients server where
  start htype := by
    show taskProc _ = _
    rw [taskProc, htype]
    rfl
  stop htype := by
    show taskProc _ = _
    rw [taskProc, htype]
    rfl
  thread h := by
    cases h
    unfold serverThread
    split_ifs <;> rfl
  serverStart _ := rfl

end GokeWebcam.Server.Audio
