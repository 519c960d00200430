import GokeWebcam.Server.Audio

/-!
# The channels of the audio server

`server/audio/audio.c`: the table `channel[MAX_AV_CHANNEL]` of the clients that are sent sound, for
live listening and for the intercom. An intercom channel has the type `SERVER_AUDIO`, whoever asked
for it.

* `AudioSlot`: a channel with the sender of the request that opened it, which the source forgets.
* `ChannelStep`: what a step that keeps the table in order does; `StepCareful`: its condition.
* `audioChannels_iff`: a run keeps the table in order exactly if all its steps meet the condition.
* `stale_counter`: a listener gets the QoS counter of the channel that had its slot before.
-/

namespace GokeWebcam.Server.Audio

open Lib Common Global Manager

/-- Source: `server/audio/audio.h` `audio_channel_t` -/
structure AudioChannel where
  status : ChannelStatus := .empty
  channelType : CInt := 0#32
  serviceId : CInt := 0#32
  requireKey : Bool := false
  qosSuccess : CInt := 0#32
  deriving DecidableEq, Repr

/-- A slot of the table. `openedBy` is not in the source: the sender of the start request that the
slot was taken for. -/
structure AudioSlot extends AudioChannel where
  openedBy : CInt := 0#32
  deriving DecidableEq, Repr

/-- The memory that holds the table: `channel[i]` for every `i`. -/
abbrev Channels := ℤ → AudioSlot

/-- The type of an intercom channel. -/
def serverAudio : CInt := ServerType.audio.toInt

/-- The value of `arg_in.cat` that asks for the intercom.
Source: `server/audio/audio.c` `task_proc` -/
def intercom : CInt := 2#32

/-! ### The table -/

namespace AudioSlot

/-- The channel is in use, for the type under the service id.
Source: `server/audio/audio.c` `get_new_channel`, the first loop -/
def serves (id type : CInt) (ch : AudioSlot) : Bool :=
  ch.serviceId = id ∧ ch.channelType = type ∧ ch.status = .valid

/-- The channel is in use under the service id, for the intercom or for the type.
Source: `server/audio/audio.c` `get_old_channel` -/
def answers (id type : CInt) (ch : AudioSlot) : Bool :=
  ch.serviceId = id ∧ ch.status = .valid ∧ (ch.channelType = serverAudio ∨ ch.channelType = type)

/-- The slot is not in use. -/
def free (ch : AudioSlot) : Bool := ch.status ≠ .valid

/-- `channel[id].status = CHANNEL_EMPTY`. -/
def close (ch : AudioSlot) : AudioSlot := { ch with status := .empty }

end AudioSlot

/-- Source: `server/audio/audio.c` `get_old_channel` -/
def getOldChannel (id type : CInt) (channel : Channels) : ℤ :=
  firstSlot maxAvChannel (AudioSlot.answers id type) channel

/-- A free slot is filled; it is called with the sender of the request as the type.
Source: `server/audio/audio.c` `get_new_channel`, the second loop -/
def fillChannel (id type : CInt) (ch : AudioSlot) : AudioSlot :=
  { ch with serviceId := id, channelType := type, status := .valid, openedBy := type }

/-- Source: `server/audio/audio.c` `get_new_channel` -/
def getNewChannel (id type : CInt) (channel : Channels) : Channels × ℤ :=
  takeSlot maxAvChannel (AudioSlot.serves id type) AudioSlot.free (fillChannel id type) channel

/-- The slot becomes an intercom channel.
Source: `server/audio/audio.c` `task_proc`, `TASK_TYPE_START`, `//intercom` -/
def intercomChannel (ch : AudioSlot) : AudioSlot :=
  { ch with requireKey := true, channelType := serverAudio, qosSuccess := 0#32 }

/-- A start request in `STATUS_RUN`. The index is not tested.
Source: `server/audio/audio.c` `task_proc`, `TASK_TYPE_START`, `if (msg.result == 0)` -/
def taskStartChannel (msg : Message) (channel : Channels) : Channels :=
  let new := getNewChannel msg.argIn.wolf msg.sender channel
  if msg.argIn.cat = intercom then Function.update new.1 new.2 (intercomChannel (new.1 new.2))
  else new.1

/-- A stop request in `STATUS_RUN`.
Source: `server/audio/audio.c` `task_proc`, `TASK_TYPE_STOP` -/
def taskStopChannel (msg : Message) (channel : Channels) : Channels :=
  modifySlot (getOldChannel msg.argIn.wolf msg.sender channel) AudioSlot.close channel

/-- Source: `server/audio/audio.c` `task_proc` -/
def taskChannels (info : ServerInfo) (channel : Channels) : Channels :=
  match info.task.type with
  | .start => if info.status = .run then taskStartChannel info.task.msg channel else channel
  | .stop => if info.status = .run then taskStopChannel info.task.msg channel else channel
  | _ => channel

/-- The message that touches the table.
Source: `server/audio/audio.c` `server_message_proc`, `MSG_PLAYER_REQUEST_SYNC` -/
def messageChannels (msg : Message) (channel : Channels) : Channels :=
  if msg.message = msgPlayerRequestSync then
    modifySlot (getOldChannel msg.argIn.cat ServerType.aliyun.toInt channel) AudioSlot.close channel
  else channel

/-- What the encoder thread has when it decides: the slot as it saw it, without the lock, the time of
the frame, whether the video of the service id has begun, and what the cloud client answered when
the frame was sent. -/
structure SentFrame where
  seen : AudioChannel := {}
  timestamp : CInt := 0#32
  synchronized : Bool := false
  ret : CInt := 0#32
  deriving DecidableEq, Repr

/-- A frame is sent to the cloud client: a failure closes a channel whose last success is too old.
Source: `server/audio/audio.c` `aduio_stream_func`, after `lv_stream_send_media` -/
def qosWritten (frame : SentFrame) (ch : AudioSlot) : AudioSlot :=
  if frame.ret ≠ 0#32 then
    if frame.seen.qosSuccess ≠ 0#32 ∧
        BitVec.slt qosMaxLatency (frame.timestamp - frame.seen.qosSuccess) then ch.close
    else ch
  else { ch with qosSuccess := frame.timestamp }

/-- What the encoder thread writes to a slot.
Source: `server/audio/audio.c` `aduio_stream_func` -/
def frameSent (frame : SentFrame) (ch : AudioSlot) : AudioSlot :=
  if frame.seen.status = .valid then
    if frame.seen.channelType = ServerType.aliyun.toInt then
      if frame.synchronized then qosWritten frame ch else ch
    else if frame.seen.channelType = serverAudio then
      qosWritten frame (if frame.seen.requireKey then { ch with requireKey := false } else ch)
    else ch
  else ch

/-- The table of the audio server, which no release function clears. -/
def channelTable : TableCode AudioSlot SentFrame where
  task := taskChannels
  message := fun _ => messageChannels
  release := id
  write := frameSent

/-- The server with its table. -/
abbrev AudioState := ChannelState Unit AudioSlot

/-- A step of the server with its table. -/
abbrev AudioAction := ChannelAction SentFrame

/-- One step. -/
abbrev audioStep (config : ManagerConfig) : AudioState → AudioAction → Option AudioState :=
  channelStep server channelTable config

/-- The program begins with a zeroed table. -/
def channelInit (memory : Channels) : AudioState where
  server := { own := () }
  channel := fun i => if InTable maxAvChannel i then {} else memory i

/-! ### What a step is to do -/

/-- The table has one channel for each service id and kind. -/
abbrev Unique (channel : Channels) : Prop :=
  AtMostOne maxAvChannel (fun ch => ch.status = .valid)
    (fun ch => (ch.serviceId, ch.channelType)) channel

/-- The channel was opened by the sender of the request, under its service id. -/
def AudioSlot.isFor (msg : Message) (ch : AudioSlot) : Bool :=
  ch.status = .valid ∧ ch.serviceId = msg.argIn.wolf ∧ ch.openedBy = msg.sender

/-- The channel is the same one as before. -/
def SameChannel (ch ch' : AudioSlot) : Prop :=
  ch.status = .valid ∧ ch'.serviceId = ch.serviceId ∧ ch'.channelType = ch.channelType

/-- The channels the sender of the stop request opened under its service id are empty, and all
others are unchanged. -/
def StopDone (msg : Message) (channel channel' : Channels) : Prop :=
  ∀ i, InTable maxAvChannel i →
    channel' i = if (channel i).isFor msg then (channel i).close else channel i

/-- The channels that were not there before begin with the QoS counter at 0. -/
def Fresh (channel channel' : Channels) : Prop :=
  ∀ i, InTable maxAvChannel i → (channel' i).status = .valid →
    ¬ SameChannel (channel i) (channel' i) → (channel' i).qosSuccess = 0#32

/-- What a step does that keeps the table in order. -/
structure ChannelStep (s s' : AudioState) : Prop where
  unique : Unique s'.channel
  stopped : ∀ result, Acknowledged .stop result s s' →
    StopDone s.server.info.task.msg s.channel s'.channel
  fresh : Fresh s.channel s'.channel

/-- A start finds its channel or a free slot. -/
def HasRoom (msg : Message) (channel : Channels) : Prop :=
  ∃ i, InTable maxAvChannel i ∧
    ((channel i).serves msg.argIn.wolf msg.sender = true ∨ (channel i).free = true)

/-- The condition on a start: the intercom is not open under the service id, and a listener without
a channel gets a slot whose counter is 0. -/
def StartCareful (msg : Message) (channel : Channels) : Prop :=
  (msg.argIn.cat = intercom → msg.sender ≠ serverAudio → HasRoom msg channel →
    ∀ i, InTable maxAvChannel i → (channel i).serves msg.argIn.wolf serverAudio = false) ∧
  (msg.argIn.cat ≠ intercom →
    (∀ i, InTable maxAvChannel i → (channel i).serves msg.argIn.wolf msg.sender = false) →
    ∀ i, InTable maxAvChannel i → (channel i).free = true →
      (∀ j, InTable maxAvChannel j → j < i → (channel j).free = false) →
      (channel i).qosSuccess = 0#32)

/-- The condition on a stop: no intercom or channel of the sender's type stands under the service id
before one the sender opened, or where it opened none. -/
def StopCareful (msg : Message) (channel : Channels) : Prop :=
  (∀ i, InTable maxAvChannel i → (channel i).isFor msg = true →
    ∀ j, InTable maxAvChannel j → j < i →
      (channel j).answers msg.argIn.wolf msg.sender = false) ∧
  (∀ j, InTable maxAvChannel j → (channel j).answers msg.argIn.wolf msg.sender = true →
    ∃ i, InTable maxAvChannel i ∧ (channel i).isFor msg = true)

/-- The condition on a step. -/
def StepCareful (s : AudioState) : AudioAction → Prop
  | .server (.main _) => s.server.pc = .taskProc →
      (s.server.info.task.type = .start → s.server.info.status = .run →
        StartCareful s.server.info.task.msg s.channel) ∧
      (s.server.info.task.type = .stop → s.server.info.status = .run →
        StopCareful s.server.info.task.msg s.channel) ∧
      (s.server.info.task.type = .stop → s.server.info.status ≠ .run →
        ∀ i, InTable maxAvChannel i → (s.channel i).isFor s.server.info.task.msg = false)
  | _ => True

/-! ### Slots -/

variable {id type : CInt} {channel channel' : Channels} {msg : Message} {ch : AudioSlot}

theorem serves_iff :
    ch.serves id type = true ↔ ch.serviceId = id ∧ ch.channelType = type ∧ ch.status = .valid := by
  simp [AudioSlot.serves]

theorem answers_iff : ch.answers id type = true ↔
    ch.serviceId = id ∧ ch.status = .valid ∧ (ch.channelType = serverAudio ∨ ch.channelType = type) := by
  simp [AudioSlot.answers]

theorem free_iff : ch.free = true ↔ ch.status ≠ .valid := by
  simp [AudioSlot.free]

theorem isFor_iff : ch.isFor msg = true ↔
    ch.status = .valid ∧ ch.serviceId = msg.argIn.wolf ∧ ch.openedBy = msg.sender := by
  simp [AudioSlot.isFor]

theorem close_ne (h : ch.status = .valid) : ch.close ≠ ch := by
  intro heq
  have hstatus : ch.close.status = ch.status := by rw [heq]
  rw [h] at hstatus
  cases hstatus

/-- A channel with the type of a client was opened by this client. -/
def Opened (channel : Channels) : Prop :=
  ∀ i, InTable maxAvChannel i → (channel i).status = .valid → (channel i).channelType ≠ serverAudio →
    (channel i).openedBy = (channel i).channelType

/-- A stop finds all channels its sender opened under the service id. -/
theorem Opened.answers_of_isFor {i : ℤ} (h : Opened channel) (hi : InTable maxAvChannel i)
    (hfor : (channel i).isFor msg = true) :
    (channel i).answers msg.argIn.wolf msg.sender = true := by
  obtain ⟨hvalid, hid, hby⟩ := isFor_iff.mp hfor
  apply answers_iff.mpr
  refine ⟨hid, hvalid, ?_⟩
  by_cases htype : (channel i).channelType = serverAudio
  · exact .inl htype
  · right
    rw [← hby, h i hi hvalid htype]

/-! ### Writes that only empty slots -/

/-- The slots in use afterwards were in use before, for the same client. -/
def Shrinks (channel channel' : Channels) : Prop :=
  ∀ i, InTable maxAvChannel i → (channel' i).status = .valid →
    SameChannel (channel i) (channel' i) ∧ (channel' i).openedBy = (channel i).openedBy

theorem Shrinks.refl : Shrinks channel channel := by
  intro i _ hvalid
  exact ⟨⟨hvalid, rfl, rfl⟩, rfl⟩

theorem shrinks_update {i : ℤ} {s : AudioSlot}
    (h : s.status = .valid → SameChannel (channel i) s ∧ s.openedBy = (channel i).openedBy) :
    Shrinks channel (Function.update channel i s) := by
  intro j _ hvalid
  by_cases hji : j = i
  · rw [hji, Function.update_self] at hvalid ⊢
    exact h hvalid
  · rw [Function.update_of_ne hji] at hvalid ⊢
    exact ⟨⟨hvalid, rfl, rfl⟩, rfl⟩

theorem shrinks_close {i : ℤ} : Shrinks channel (modifySlot i AudioSlot.close channel) := by
  unfold modifySlot
  split_ifs
  · apply shrinks_update
    intro hvalid
    cases hvalid
  · exact Shrinks.refl

theorem shrinks_messageChannels : Shrinks channel (messageChannels msg channel) := by
  unfold messageChannels
  split_ifs
  · exact shrinks_close
  · exact Shrinks.refl

/-- A frame that was sent leaves a slot to its client. -/
theorem frameSent_valid {frame : SentFrame} (h : (frameSent frame ch).status = .valid) :
    SameChannel ch (frameSent frame ch) ∧ (frameSent frame ch).openedBy = ch.openedBy := by
  unfold frameSent qosWritten at h ⊢
  split_ifs at h ⊢ <;> simp_all [AudioSlot.close, SameChannel]

theorem Unique.of_shrinks (h : Unique channel) (hs : Shrinks channel channel') :
    Unique channel' := by
  apply h.mono
  intro i hi hvalid
  obtain ⟨⟨hold, hid, htype⟩, -⟩ := hs i hi hvalid
  exact ⟨hold, Prod.ext hid htype⟩

theorem Opened.of_shrinks (h : Opened channel) (hs : Shrinks channel channel') :
    Opened channel' := by
  intro i hi hvalid htype
  obtain ⟨⟨hold, -, hsame⟩, hby⟩ := hs i hi hvalid
  rw [hsame] at htype ⊢
  rw [hby, h i hi hold htype]

/-! ### A start request -/

/-- What a start request does to the table: it takes the slot `i`, the sender's channel or the first
free one, or finds no room. -/
theorem taskStartChannel_cases (msg : Message) (channel : Channels) :
    (∃ i, InTable maxAvChannel i ∧ (channel i).serves msg.argIn.wolf msg.sender = true ∧
        taskStartChannel msg channel =
          if msg.argIn.cat = intercom then Function.update channel i (intercomChannel (channel i))
          else channel) ∨
      ((∀ i, InTable maxAvChannel i → (channel i).serves msg.argIn.wolf msg.sender = false) ∧
        ((∃ i, InTable maxAvChannel i ∧ (channel i).free = true ∧
            (∀ j, InTable maxAvChannel j → j < i → (channel j).free = false) ∧
            taskStartChannel msg channel = Function.update channel i
              (if msg.argIn.cat = intercom then
                intercomChannel (fillChannel msg.argIn.wolf msg.sender (channel i))
              else fillChannel msg.argIn.wolf msg.sender (channel i))) ∨
          (¬ HasRoom msg channel ∧
            ∀ i, InTable maxAvChannel i → taskStartChannel msg channel i = channel i))) := by
  unfold taskStartChannel getNewChannel
  obtain ⟨i, hi, hserves, hnew⟩ | ⟨hnone, ⟨i, hi, hfree, hfirst, hnew⟩ | ⟨hfull, hnew⟩⟩ :=
    takeSlot_cases maxAvChannel (AudioSlot.serves msg.argIn.wolf msg.sender) AudioSlot.free
      (fillChannel msg.argIn.wolf msg.sender) channel
  · rw [hnew]
    exact .inl ⟨i, hi, hserves, rfl⟩
  · rw [hnew]
    refine .inr ⟨hnone, .inl ⟨i, hi, hfree, hfirst, ?_⟩⟩
    dsimp only
    split_ifs
    · rw [Function.update_idem, Function.update_self]
    · rfl
  · rw [hnew]
    refine .inr ⟨hnone, .inr ⟨?_, ?_⟩⟩
    · rintro ⟨i, hi, hserves | hfree⟩
      · rw [hnone i hi] at hserves
        cases hserves
      · rw [hfull i hi] at hfree
        cases hfree
    · intro i hi
      dsimp only
      split_ifs
      · apply Function.update_of_ne
        intro heq
        rw [heq] at hi
        exact not_inTable_neg_one hi
      · rfl

/-- A slot may be filled for a service id and kind that no channel has. -/
theorem unique_update {i : ℤ} {s : AudioSlot} (h : Unique channel)
    (hnone : ∀ j, InTable maxAvChannel j → j ≠ i →
      (channel j).serves s.serviceId s.channelType = false) :
    Unique (Function.update channel i s) := by
  apply h.update
  intro _ j hj hne hvalid hkey
  have hserves : (channel j).serves s.serviceId s.channelType = true :=
    serves_iff.mpr ⟨congrArg Prod.fst hkey, congrArg Prod.snd hkey, hvalid⟩
  rw [hnone j hj hne] at hserves
  cases hserves

/-- A careful start keeps the channels unique. -/
theorem unique_taskStartChannel (h : Unique channel) (hok : StartCareful msg channel) :
    Unique (taskStartChannel msg channel) := by
  obtain ⟨i, hi, hserves, hnew⟩ | ⟨hnone, ⟨i, hi, hfree, hfirst, hnew⟩ | ⟨-, hsame⟩⟩ :=
    taskStartChannel_cases msg channel
  · rw [hnew]
    obtain ⟨hid, htype, hvalid⟩ := serves_iff.mp hserves
    split_ifs with hcat
    · by_cases hsender : msg.sender = serverAudio
      · apply h.update_of_imp
        intro _
        refine ⟨hvalid, Prod.ext rfl ?_⟩
        simp [intercomChannel, htype, hsender]
      · apply unique_update h
        intro j hj _
        show (channel j).serves (channel i).serviceId serverAudio = false
        rw [hid]
        exact hok.1 hcat hsender ⟨i, hi, .inl hserves⟩ j hj
    · exact h
  · rw [hnew]
    apply unique_update h
    intro j hj _
    split_ifs with hcat
    · show (channel j).serves msg.argIn.wolf serverAudio = false
      by_cases hsender : msg.sender = serverAudio
      · rw [← hsender]
        exact hnone j hj
      · exact hok.1 hcat hsender ⟨i, hi, .inr hfree⟩ j hj
    · exact hnone j hj
  · apply h.mono
    intro i hi hvalid
    rw [hsame i hi] at hvalid ⊢
    exact ⟨hvalid, rfl⟩

theorem opened_taskStartChannel (h : Opened channel) : Opened (taskStartChannel msg channel) := by
  obtain ⟨i, hi, -, hnew⟩ | ⟨-, ⟨i, hi, -, -, hnew⟩ | ⟨-, hsame⟩⟩ := taskStartChannel_cases msg channel
  · rw [hnew]
    split_ifs
    · intro j hj hvalid htype
      by_cases hji : j = i
      · rw [hji, Function.update_self] at htype
        exact absurd rfl htype
      · rw [Function.update_of_ne hji] at hvalid htype ⊢
        exact h j hj hvalid htype
    · exact h
  · rw [hnew]
    intro j hj hvalid htype
    by_cases hji : j = i
    · rw [hji, Function.update_self] at htype ⊢
      split_ifs at htype ⊢
      · exact absurd rfl htype
      · rfl
    · rw [Function.update_of_ne hji] at hvalid htype ⊢
      exact h j hj hvalid htype
  · intro i hi hvalid htype
    rw [hsame i hi] at hvalid htype ⊢
    exact h i hi hvalid htype

theorem Fresh.of_shrinks (hs : Shrinks channel channel') : Fresh channel channel' := by
  intro i hi hvalid hnot
  exact absurd (hs i hi hvalid).1 hnot

/-- A careful start begins with the counter at 0. -/
theorem fresh_taskStartChannel (hok : StartCareful msg channel) :
    Fresh channel (taskStartChannel msg channel) := by
  obtain ⟨i, hi, -, hnew⟩ | ⟨hnone, ⟨i, hi, hfree, hfirst, hnew⟩ | ⟨-, hsame⟩⟩ :=
    taskStartChannel_cases msg channel
  · rw [hnew]
    split_ifs
    · intro j hj hvalid hnot
      by_cases hji : j = i
      · rw [hji, Function.update_self]
        rfl
      · rw [Function.update_of_ne hji] at hvalid hnot
        exact absurd ⟨hvalid, rfl, rfl⟩ hnot
    · exact Fresh.of_shrinks Shrinks.refl
  · rw [hnew]
    intro j hj hvalid hnot
    by_cases hji : j = i
    · rw [hji, Function.update_self]
      split_ifs with hcat
      · rfl
      · exact hok.2 hcat hnone i hi hfree hfirst
    · rw [Function.update_of_ne hji] at hvalid hnot
      exact absurd ⟨hvalid, rfl, rfl⟩ hnot
  · intro i hi hvalid hnot
    rw [hsame i hi] at hvalid hnot
    exact absurd ⟨hvalid, rfl, rfl⟩ hnot

/-- An intercom that is opened twice has two channels. -/
theorem not_open_of_unique {i j : ℤ} (hi : InTable maxAvChannel i) (hj : InTable maxAvChannel j)
    (hne : j ≠ i) (s : AudioSlot) (hvalid : s.status = .valid) (hid : s.serviceId = id)
    (h : Unique (Function.update channel i (intercomChannel s))) :
    (channel j).serves id serverAudio = false := by
  apply Bool.eq_false_iff.mpr
  intro hserves
  obtain ⟨hidj, htypej, hvalidj⟩ := serves_iff.mp hserves
  apply hne
  apply h j i hj hi
  · simpa [Function.update_of_ne hne] using hvalidj
  · simpa [intercomChannel] using hvalid
  · simp [Function.update_of_ne hne, intercomChannel, hidj, htypej, hid]

/-- A start that keeps the table in order was careful. -/
theorem startCareful_of (hunique : Unique (taskStartChannel msg channel))
    (hfresh : Fresh channel (taskStartChannel msg channel)) : StartCareful msg channel := by
  constructor
  · intro hcat hsender hroom j hj
    obtain ⟨i, hi, hserves, hnew⟩ | ⟨hnone, ⟨i, hi, hfree, hfirst, hnew⟩ | ⟨hnot, -⟩⟩ :=
      taskStartChannel_cases msg channel
    · rw [hnew, if_pos hcat] at hunique
      obtain ⟨hid, htype, hvalid⟩ := serves_iff.mp hserves
      by_cases hji : j = i
      · apply Bool.eq_false_iff.mpr
        intro hopen
        rw [hji] at hopen
        exact hsender (htype.symm.trans (serves_iff.mp hopen).2.1)
      · exact not_open_of_unique hi hj hji _ hvalid hid hunique
    · rw [hnew, if_pos hcat] at hunique
      by_cases hji : j = i
      · apply Bool.eq_false_iff.mpr
        intro hopen
        rw [hji] at hopen
        exact free_iff.mp hfree (serves_iff.mp hopen).2.2
      · exact not_open_of_unique hi hj hji _ rfl rfl hunique
    · exact absurd hroom hnot
  · intro hcat hnone i hi hfree hfirst
    obtain ⟨k, hk, hserves, -⟩ | ⟨-, ⟨k, hk, hfreek, hfirstk, hnew⟩ | ⟨hnot, -⟩⟩ :=
      taskStartChannel_cases msg channel
    · rw [hnone k hk] at hserves
      cases hserves
    · have hki : k = i := by
        rcases lt_trichotomy k i with hlt | heq | hgt
        · rw [hfirst k hk hlt] at hfreek
          cases hfreek
        · exact heq
        · rw [hfirstk i hi hgt] at hfree
          cases hfree
      rw [hnew, if_neg hcat, hki] at hfresh
      have hqos := hfresh i hi
      rw [Function.update_self] at hqos
      apply hqos rfl
      intro hsame
      exact free_iff.mp hfree hsame.1
    · exact absurd ⟨i, hi, .inr hfree⟩ hnot

/-! ### A stop request -/

/-- A stop that leaves the table alone is right if its sender has no channel. -/
theorem stopDone_same : StopDone msg channel channel ↔
    ∀ i, InTable maxAvChannel i → (channel i).isFor msg = false := by
  constructor
  · intro h i hi
    apply Bool.eq_false_iff.mpr
    intro hfor
    have heq := h i hi
    rw [if_pos hfor] at heq
    exact close_ne (isFor_iff.mp hfor).1 heq.symm
  · intro h i hi
    rw [h i hi]
    rfl

/-- A stop that runs is right exactly if it is careful. -/
theorem stopDone_taskStopChannel (hopened : Opened channel) :
    StopDone msg channel (taskStopChannel msg channel) ↔ StopCareful msg channel := by
  unfold taskStopChannel getOldChannel
  obtain ⟨hf, hanswers, hfirst⟩ | ⟨hnone, hall⟩ :=
    firstSlot_cases maxAvChannel (AudioSlot.answers msg.argIn.wolf msg.sender) channel
  · have hne := firstSlot_ne_iff.mpr ⟨_, hf, hanswers⟩
    generalize firstSlot maxAvChannel (AudioSlot.answers msg.argIn.wolf msg.sender) channel = f at *
    have hvalid := (answers_iff.mp hanswers).2.1
    rw [modifySlot, if_pos hne]
    constructor
    · intro h
      have hfor : (channel f).isFor msg = true := by
        by_contra hnot
        have heq := h f hf
        rw [if_neg hnot, Function.update_self] at heq
        exact close_ne hvalid heq
      refine ⟨?_, fun j _ _ => ⟨f, hf, hfor⟩⟩
      intro i hi hfori j hj hlt
      have hif : i = f := by
        by_contra hif
        have heq := h i hi
        rw [if_pos hfori, Function.update_of_ne hif] at heq
        exact close_ne (isFor_iff.mp hfori).1 heq.symm
      rw [hif] at hlt
      exact hfirst j hj hlt
    · rintro ⟨hbefore, hopen⟩
      have honly : ∀ i, InTable maxAvChannel i → (channel i).isFor msg = true → i = f := by
        intro i hi hfor
        rcases lt_trichotomy i f with hlt | heq | hgt
        · have hi' := hfirst i hi hlt
          rw [hopened.answers_of_isFor hi hfor] at hi'
          cases hi'
        · exact heq
        · rw [hbefore i hi hfor f hf hgt] at hanswers
          cases hanswers
      obtain ⟨k, hk, hfork⟩ := hopen f hf hanswers
      rw [honly k hk hfork] at hfork
      intro i hi
      by_cases hif : i = f
      · rw [hif, Function.update_self, if_pos hfork]
      · rw [Function.update_of_ne hif, if_neg]
        intro hfor
        exact hif (honly i hi hfor)
  · rw [modifySlot, if_neg (not_not.mpr hnone), stopDone_same]
    constructor
    · intro h
      constructor
      · intro i hi hfor
        rw [h i hi] at hfor
        cases hfor
      · intro j hj hanswers
        rw [hall j hj] at hanswers
        cases hanswers
    · intro _ i hi
      apply Bool.eq_false_iff.mpr
      intro hfor
      have hanswers := hopened.answers_of_isFor hi hfor
      rw [hall i hi] at hanswers
      cases hanswers

/-! ### Steps -/

variable {config : ManagerConfig} {s s' : AudioState} {a : AudioAction}

theorem taskChannels_start (htype : s.server.info.task.type = .start)
    (hrun : s.server.info.status = .run) :
    taskChannels s.server.info s.channel = taskStartChannel s.server.info.task.msg s.channel := by
  simp only [taskChannels, htype, hrun, if_true]

theorem taskChannels_stop (htype : s.server.info.task.type = .stop)
    (hrun : s.server.info.status = .run) :
    taskChannels s.server.info s.channel = taskStopChannel s.server.info.task.msg s.channel := by
  simp only [taskChannels, htype, hrun, if_true]

theorem taskChannels_stop_not_run (htype : s.server.info.task.type = .stop)
    (hrun : s.server.info.status ≠ .run) :
    taskChannels s.server.info s.channel = s.channel := by
  simp only [taskChannels, htype, if_neg hrun]

/-- The tasks of clients take a slot, empty one, or leave the table alone. -/
theorem taskChannels_cases (info : ServerInfo) (channel : Channels) :
    (info.task.type = .start ∧ info.status = .run ∧
        taskChannels info channel = taskStartChannel info.task.msg channel) ∨
      Shrinks channel (taskChannels info channel) := by
  unfold taskChannels
  split
  case h_1 htype =>
    split_ifs with hrun
    · exact .inl ⟨htype, hrun, rfl⟩
    · exact .inr Shrinks.refl
  case h_2 =>
    split_ifs
    · exact .inr shrinks_close
    · exact .inr Shrinks.refl
  case h_3 => exact .inr Shrinks.refl

/-- A step starts a client, or empties slots at most. -/
theorem step_cases (h : audioStep config s a = some s') :
    ((∃ input, a = .server (.main input)) ∧ s.server.pc = .taskProc ∧
        s.server.info.task.type = .start ∧ s.server.info.status = .run ∧
        s'.channel = taskStartChannel s.server.info.task.msg s.channel) ∨
      Shrinks s.channel s'.channel := by
  apply channelStep_of (P := fun channel' =>
    ((∃ input, a = .server (.main input)) ∧ s.server.pc = .taskProc ∧
        s.server.info.task.type = .start ∧ s.server.info.status = .run ∧
        channel' = taskStartChannel s.server.info.task.msg s.channel) ∨ Shrinks s.channel channel') h
  · exact .inr Shrinks.refl
  · intro hmain hpc
    obtain ⟨htype, hrun, hstart⟩ | hshrinks := taskChannels_cases s.server.info s.channel
    · exact .inl ⟨hmain, hpc, htype, hrun, hstart⟩
    · exact .inr hshrinks
  · intro input msg
    exact .inr shrinks_messageChannels
  · exact .inr Shrinks.refl
  · intro i frame
    exact .inr (shrinks_update frameSent_valid)

theorem opened_step (hopened : Opened s.channel) (h : audioStep config s a = some s') :
    Opened s'.channel := by
  obtain ⟨-, -, -, -, hstart⟩ | hshrinks := step_cases h
  · rw [hstart]
    exact opened_taskStartChannel hopened
  · exact hopened.of_shrinks hshrinks

/-- A step that meets the condition keeps the table in order. -/
theorem channelStep_of_stepCareful (hunique : Unique s.channel) (hopened : Opened s.channel)
    (h : audioStep config s a = some s') (hok : StepCareful s a) : ChannelStep s s' where
  unique := by
    obtain ⟨⟨input, rfl⟩, hpc, htype, hrun, hstart⟩ | hshrinks := step_cases h
    · rw [hstart]
      exact unique_taskStartChannel hunique ((hok hpc).1 htype hrun)
    · exact hunique.of_shrinks hshrinks
  stopped result hack := by
    obtain ⟨input, t, rfl, -, rfl⟩ := servesClients_server.task_of_acknowledged (by decide) h hack
    obtain ⟨hpc, htype, -⟩ := hack
    show StopDone _ _ (taskChannels s.server.info s.channel)
    by_cases hrun : s.server.info.status = .run
    · rw [taskChannels_stop htype hrun, stopDone_taskStopChannel hopened]
      exact (hok hpc).2.1 htype hrun
    · rw [taskChannels_stop_not_run htype hrun, stopDone_same]
      exact (hok hpc).2.2 htype hrun
  fresh := by
    obtain ⟨⟨input, rfl⟩, hpc, htype, hrun, hstart⟩ | hshrinks := step_cases h
    · rw [hstart]
      exact fresh_taskStartChannel ((hok hpc).1 htype hrun)
    · exact Fresh.of_shrinks hshrinks

/-- A step that keeps the table in order meets the condition. -/
theorem stepCareful_of_channelStep (hopened : Opened s.channel)
    (h : audioStep config s a = some s') (hstep : ChannelStep s s') : StepCareful s a := by
  cases a with
  | encoder i frame => trivial
  | server b =>
      cases b with
      | thread input => trivial
      | arrive msg => trivial
      | start => trivial
      | main input =>
          intro hpc
          have hchannel : s'.channel = taskChannels s.server.info s.channel := channel_taskProc h hpc
          have hdone : s.server.info.task.type = .stop →
              StopDone s.server.info.task.msg s.channel (taskChannels s.server.info s.channel) := by
            intro htype
            obtain ⟨result, hack, -⟩ := servesClients_server.acknowledged_of_stop h hpc htype
            rw [← hchannel]
            exact hstep.stopped result hack
          refine ⟨?_, ?_, ?_⟩
          · intro htype hrun
            rw [taskChannels_start htype hrun] at hchannel
            exact startCareful_of (hchannel ▸ hstep.unique) (hchannel ▸ hstep.fresh)
          · intro htype hrun
            have hstop := hdone htype
            rw [taskChannels_stop htype hrun, stopDone_taskStopChannel hopened] at hstop
            exact hstop
          · intro htype hrun
            have hstop := hdone htype
            rw [taskChannels_stop_not_run htype hrun, stopDone_same] at hstop
            exact hstop

/-- A run of the audio server keeps its channels unique, stops the channels the stopping client
opened and no others, and begins every channel with the counter at 0, exactly if all its starts and
stops are careful. -/
theorem audioChannels_iff (config : ManagerConfig) (memory : Channels) (as : List AudioAction) :
    AllSteps (audioStep config) (fun s _ s' => ChannelStep s s') (channelInit memory) as ↔
      AllSteps (audioStep config) (fun s a _ => StepCareful s a) (channelInit memory) as := by
  have hzero : ∀ i, InTable maxAvChannel i → ((channelInit memory).channel i).status ≠ .valid := by
    intro i hi
    simp [channelInit, hi]
  have h0 : Unique (channelInit memory).channel ∧ Opened (channelInit memory).channel := by
    constructor
    · intro i j hi _ hvalid
      exact absurd hvalid (hzero i hi)
    · intro i hi hvalid
      exact absurd hvalid (hzero i hi)
  constructor
  · intro hkept
    refine AllSteps.imp (I := fun s : AudioState => Unique s.channel ∧ Opened s.channel) ?_ h0 hkept
    intro s a s' hinv h hstep
    exact ⟨⟨hstep.unique, opened_step hinv.2 h⟩, stepCareful_of_channelStep hinv.2 h hstep⟩
  · intro hok
    refine AllSteps.imp (I := fun s : AudioState => Unique s.channel ∧ Opened s.channel) ?_ h0 hok
    intro s a s' hinv h hcareful
    have hstep := channelStep_of_stepCareful hinv.1 hinv.2 h hcareful
    exact ⟨⟨hstep.unique, opened_step hinv.2 h⟩, hstep⟩

/-! ### A stale counter -/

/-- The server comes up; a viewer listens, is sent a frame and leaves; another one listens. -/
def twoListeners : List AudioAction :=
  [.server .start, .server (.main {})] ++ pass [gokeRunning] ++ pass [] ++ pass [] ++
    [.server (.thread {})] ++ pass [streamRequest msgAudioStart .aliyun 1#32] ++ pass [] ++
    [.encoder ⟨0, by decide⟩ { seen := { status := .valid, channelType := ServerType.aliyun.toInt }
                               timestamp := 5000#32, synchronized := true }] ++
    pass [streamRequest msgAudioStop .aliyun 1#32] ++
    pass [streamRequest msgAudioStart .aliyun 2#32] ++ [.server (.main {})]

/-- The second viewer's channel begins with the counter of the first one's, so a single frame that
fails later closes it. -/
theorem stale_counter :
    ∃ s s', Reach (audioStep managerConfig) AllRuns (channelInit fun _ => {}) s ∧
      audioStep managerConfig s (.server (.main {})) = some s' ∧ ¬ ChannelStep s s' ∧
      (s'.channel 0).status = .valid ∧ (s'.channel 0).serviceId = 2#32 ∧
      (s'.channel 0).qosSuccess = 5000#32 := by
  have hrun : (exec (audioStep managerConfig) (fun _ _ => true) (channelInit fun _ => {})
      twoListeners).any (fun s => (audioStep managerConfig s (.server (.main {}))).any fun s' =>
        decide ((s.channel 0).status ≠ .valid ∧ (s'.channel 0).status = .valid ∧
          (s'.channel 0).serviceId = 2#32 ∧ (s'.channel 0).qosSuccess = 5000#32)) = true := by
    decide
  obtain ⟨s, s', hreach, hstep, hbefore, hafter⟩ :=
    Reach.exists_step_of_exec (fun s a _ => show AllRuns s a from trivial) hrun
  refine ⟨s, s', hreach, hstep, ?_, hafter⟩
  intro hkept
  have hzero := hkept.fresh 0 (by decide) hafter.1 (fun hsame => hbefore hsame.1)
  rw [hafter.2.2] at hzero
  cases hzero

end GokeWebcam.Server.Audio
