import GokeWebcam.Server.ChannelTable
import GokeWebcam.Server.Video

/-!
# The channels of the video server

`server/video/video.c`: the table `channel[MAX_AV_CHANNEL]` of the clients that are sent a stream,
beside the server of `Server/Video.lean`. A start request takes a slot, a stop request, the
player's synchronisation and a failing connection empty one.

* `taskStartChannel`: on a full table it writes through the index `-1`, because the test after the
  search compares the table and not the index.
* `ChannelStep`: what a step that keeps the table does; `StepCareful`: its condition.
* `videoChannels_iff`: a run keeps the table in order exactly if all its steps meet the condition.
* `start_on_full_table`: a fifth client is promised a stream, and the memory before the table is
  written.
-/

namespace GokeWebcam.Server.Video

open Lib Common Global Manager

/-- Source: `server/video/video.h` `video_channel_t` -/
structure VideoChannel where
  status : ChannelStatus := .empty
  channelType : CInt := 0#32
  streamType : CInt := 0#32
  serviceId : CInt := 0#32
  requireKey : Bool := false
  qosSucess : CInt := 0#32
  deriving DecidableEq, Repr

/-- The memory that holds the table: `channel[i]` for every `i`. -/
abbrev Channels := ℤ → VideoChannel

/-- Source: `server/video/video_interface.h` `video_stream_type_t` -/
def videoStreamHigh : CInt := 0#32
def videoStreamLow : CInt := 1#32

/-- Source: `server/video/video_interface.h` -/
def videoPropertyQuality : CInt := 0x0020#32

/-- Source: `global/global_interface.h` `message_type_t` -/
def msgVideoKeyFrameRequire : CInt := msgId .video 10

/-- Source: `library_goke/aliyun/linkvisual/link_visual_enum.h` -/
def lvErrorDefault : CInt := -1#32
def lvErrorIllegalInput : CInt := -2#32

/-! ### The table -/

/-- The channel is in use, for the client `type` under the service id `id`. -/
def VideoChannel.serves (id type : CInt) (ch : VideoChannel) : Bool :=
  ch.serviceId = id ∧ ch.channelType = type ∧ ch.status = .valid

/-- The slot is not in use. -/
def VideoChannel.free (ch : VideoChannel) : Bool := ch.status ≠ .valid

/-- `channel[id].status = CHANNEL_EMPTY`. -/
def VideoChannel.close (ch : VideoChannel) : VideoChannel := { ch with status := .empty }

/-- Source: `server/video/video.c` `get_old_channel` -/
def getOldChannel (id type : CInt) (channel : Channels) : ℤ :=
  firstSlot maxAvChannel (VideoChannel.serves id type) channel

/-- Source: `server/video/video.c` `get_new_channel` -/
def getNewChannel (id type : CInt) (channel : Channels) : Channels × ℤ :=
  takeSlot maxAvChannel (VideoChannel.serves id type) VideoChannel.free
    (fun ch => { ch with serviceId := id, channelType := type, status := .valid }) channel

/-- A start request in `STATUS_RUN`. The test `if (channel != -1)` is true whatever the search
returned.
Source: `server/video/video.c` `task_proc`, `TASK_TYPE_START`, `if (msg.result == 0)` -/
def taskStartChannel (msg : Message) (channel : Channels) : Channels :=
  let new := getNewChannel msg.argIn.wolf msg.sender channel
  Function.update new.1 new.2
    { new.1 new.2 with streamType := msg.argIn.cat, requireKey := true, qosSucess := 0#32 }

/-- A stop request in `STATUS_RUN`.
Source: `server/video/video.c` `task_proc`, `TASK_TYPE_STOP` -/
def taskStopChannel (msg : Message) (channel : Channels) : Channels :=
  modifySlot (getOldChannel msg.argIn.wolf msg.sender channel) VideoChannel.close channel

/-- Source: `server/video/video.c` `task_proc` -/
def taskChannels (info : ServerInfo) (channel : Channels) : Channels :=
  match info.task.type with
  | .start => if info.status = .run then taskStartChannel info.task.msg channel else channel
  | .stop => if info.status = .run then taskStopChannel info.task.msg channel else channel
  | _ => channel

/-- The running cloud channels change to the new quality. `changed` says whether it differs from the
stored one.
Source: `server/video/video.c` `video_set_property`, `VIDEO_PROPERTY_QUALITY` -/
def videoSetQuality (input : ServerInput) (msg : Message) (channel : Channels) : Channels :=
  match msg.arg with
  | none => channel
  | some block =>
    if input.changed then
      let val := if BitVec.slt 0#32 (readInt block) then videoStreamHigh else videoStreamLow
      fun i =>
        let ch := channel i
        if InTable maxAvChannel i ∧ ch.status = .valid ∧ ch.channelType = ServerType.aliyun.toInt ∧
            val ≠ ch.streamType then
          { ch with streamType := val, requireKey := true }
        else ch
    else channel

/-- The messages that touch the table.
Source: `server/video/video.c` `server_message_proc` -/
def messageChannels (input : ServerInput) (msg : Message) (channel : Channels) : Channels :=
  if msg.message = msgVideoKeyFrameRequire then
    modifySlot (getOldChannel msg.argIn.wolf msg.sender channel)
      (fun ch => { ch with requireKey := true }) channel
  else if msg.message = msgVideoPropertySetDirect ∧ msg.argIn.cat = videoPropertyQuality then
    videoSetQuality input msg channel
  else if msg.message = msgPlayerRequestSync then
    modifySlot (getOldChannel msg.argIn.cat ServerType.aliyun.toInt channel) VideoChannel.close channel
  else channel

/-- `memset(&channel, 0, sizeof(channel))`.
Source: `server/video/video.c` `server_release_2` -/
def clearChannels (channel : Channels) : Channels := fun i =>
  if InTable maxAvChannel i then {} else channel i

/-- What an encoder thread has when it decides: the slot as it saw it, without the lock, the time of
the frame, the stream it belongs to, whether it is a key frame, and what the cloud client answered
when it was sent. -/
structure SentFrame where
  seen : VideoChannel := {}
  timestamp : CInt := 0#32
  channel : CInt := 0#32
  keyFrame : Bool := false
  ret : CInt := 0#32
  deriving DecidableEq, Repr

/-- What an encoder thread writes to a slot after it has sent a frame to the cloud client.
Source: `server/video/video.c` `video_stream_func`, `SERVER_ALIYUN` -/
def frameSent (frame : SentFrame) (ch : VideoChannel) : VideoChannel :=
  let seen := frame.seen
  if seen.status = .valid ∧ seen.streamType = frame.channel ∧
      seen.channelType = ServerType.aliyun.toInt ∧ (seen.requireKey = true → frame.keyFrame = true) then
    if frame.ret ≠ 0#32 then
      if frame.ret = lvErrorDefault ∨ frame.ret = lvErrorIllegalInput ∨
          (seen.qosSucess ≠ 0#32 ∧ BitVec.slt qosMaxLatency (frame.timestamp - seen.qosSucess)) then
        ch.close
      else ch
    else
      let ch := { ch with qosSucess := frame.timestamp }
      if seen.requireKey then { ch with requireKey := false } else ch
  else ch

/-- The table of the video server. -/
def channelTable : TableCode VideoChannel SentFrame where
  task := taskChannels
  message := messageChannels
  release := clearChannels
  write := frameSent

/-- The server with its table. -/
abbrev VideoState := ChannelState Statics VideoChannel

/-- A step of the server with its table. -/
abbrev VideoAction := ChannelAction SentFrame

/-- One step. -/
abbrev videoStep (config : ManagerConfig) : VideoState → VideoAction → Option VideoState :=
  channelStep server channelTable config

/-- The program begins with a zeroed table. -/
def channelInit (own : Statics) (memory : Channels) : VideoState where
  server := { own := own }
  channel := clearChannels memory

/-! ### What a step is to do -/

/-- The table has one channel for each client and service id. -/
abbrev Unique (channel : Channels) : Prop :=
  AtMostOne maxAvChannel (fun ch => ch.status = .valid)
    (fun ch => (ch.serviceId, ch.channelType)) channel

/-- The channel has the key of a request: its service id and its sender. -/
def VideoChannel.isFor (msg : Message) (ch : VideoChannel) : Bool :=
  ch.serves msg.argIn.wolf msg.sender

/-- What a step does that keeps the table in order. -/
structure ChannelStep (s s' : VideoState) : Prop where
  /-- No client has two channels under one service id. -/
  unique : Unique s'.channel
  /-- A start that is answered with success has a channel. -/
  started : Acknowledged .start 0#32 s s' →
    ∃ i, InTable maxAvChannel i ∧ (s'.channel i).isFor s.server.info.task.msg = true
  /-- A stop that is answered with success has none. -/
  stopped : Acknowledged .stop 0#32 s s' →
    ∀ i, InTable maxAvChannel i → (s'.channel i).isFor s.server.info.task.msg = false
  /-- A start for a new key on a full table is answered with a failure. -/
  refused : ∀ result, Acknowledged .start result s s' →
    (∀ i, InTable maxAvChannel i → (s.channel i).status = .valid ∧
      (s.channel i).isFor s.server.info.task.msg = false) → result ≠ 0#32
  /-- Nothing outside the table is written. -/
  outside : SameOutside maxAvChannel s.channel s'.channel

/-- A start finds its channel or a free slot. -/
def HasRoom (msg : Message) (channel : Channels) : Prop :=
  ∃ i, InTable maxAvChannel i ∧ ((channel i).isFor msg = true ∨ (channel i).status ≠ .valid)

/-- The condition on a step: a start that is about to succeed finds its channel or a free slot, and
a stop that is served while the server neither runs nor ends finds no channel of its key. -/
def StepCareful (s : VideoState) : VideoAction → Prop
  | .server (.main _) => s.server.pc = .taskProc →
      (s.server.info.task.type = .start → s.server.info.status = .run →
        HasRoom s.server.info.task.msg s.channel) ∧
      (s.server.info.task.type = .stop → s.server.info.status ≠ .run →
        s.server.info.status.toNat < ServerStatus.error.toNat →
        ∀ i, InTable maxAvChannel i → (s.channel i).isFor s.server.info.task.msg = false)
  | _ => True

/-! ### The table operations -/

variable {id type : CInt} {channel : Channels} {msg : Message} {input : ServerInput}

theorem serves_iff {ch : VideoChannel} :
    ch.serves id type = true ↔ ch.serviceId = id ∧ ch.channelType = type ∧ ch.status = .valid := by
  simp [VideoChannel.serves]

theorem free_iff {ch : VideoChannel} : ch.free = true ↔ ch.status ≠ .valid := by
  simp [VideoChannel.free]

theorem Unique.eq_of_serves {i j : ℤ} (h : Unique channel) (hi : InTable maxAvChannel i)
    (hj : InTable maxAvChannel j) (hkeyi : (channel i).serves id type = true)
    (hkeyj : (channel j).serves id type = true) : i = j := by
  obtain ⟨hidi, htypei, hvalidi⟩ := serves_iff.mp hkeyi
  obtain ⟨hidj, htypej, hvalidj⟩ := serves_iff.mp hkeyj
  apply h i j hi hj hvalidi hvalidj
  simp [hidi, hidj, htypei, htypej]

/-- Emptying a slot keeps the channels unique. -/
theorem unique_close {i : ℤ} (h : Unique channel) :
    Unique (modifySlot i VideoChannel.close channel) := by
  apply h.modifySlot
  intro ch hvalid
  cases hvalid

/-! ### A start request -/

/-- With room for it, a start has a channel afterwards, and writes only there. -/
theorem taskStartChannel_room (h : HasRoom msg channel) :
    ∃ i, InTable maxAvChannel i ∧ (taskStartChannel msg channel i).isFor msg = true ∧
      SameOutside maxAvChannel channel (taskStartChannel msg channel) := by
  unfold taskStartChannel getNewChannel
  obtain ⟨i, hi, hserves, hnew⟩ | ⟨hnone, ⟨i, hi, -, -, hnew⟩ | ⟨hfull, -⟩⟩ :=
    takeSlot_cases maxAvChannel (VideoChannel.serves msg.argIn.wolf msg.sender) VideoChannel.free
      (fun ch => { ch with serviceId := msg.argIn.wolf, channelType := msg.sender, status := .valid })
      channel
  · rw [hnew]
    refine ⟨i, hi, ?_, sameOutside_update hi⟩
    rw [Function.update_self]
    exact hserves
  · rw [hnew]
    dsimp only
    rw [Function.update_idem, Function.update_self]
    refine ⟨i, hi, ?_, sameOutside_update hi⟩
    rw [Function.update_self]
    simp [VideoChannel.isFor, VideoChannel.serves]
  · exfalso
    obtain ⟨i, hi, hfor | hfree⟩ := h
    · rw [VideoChannel.isFor, hnone i hi] at hfor
      cases hfor
    · rw [← free_iff, hfull i hi] at hfree
      cases hfree

/-- Without room it leaves the table alone. -/
theorem taskStartChannel_full (h : ¬ HasRoom msg channel) {i : ℤ} (hi : InTable maxAvChannel i) :
    taskStartChannel msg channel i = channel i := by
  have hnew : getNewChannel msg.argIn.wolf msg.sender channel = (channel, -1) := by
    unfold getNewChannel
    obtain ⟨j, hj, hserves, -⟩ | ⟨-, ⟨j, hj, hfree, -⟩ | ⟨-, hnew⟩⟩ :=
      takeSlot_cases maxAvChannel (VideoChannel.serves msg.argIn.wolf msg.sender) VideoChannel.free
        (fun ch => { ch with serviceId := msg.argIn.wolf, channelType := msg.sender, status := .valid })
        channel
    · exact absurd ⟨j, hj, .inl hserves⟩ h
    · exact absurd ⟨j, hj, .inr (free_iff.mp hfree)⟩ h
    · exact hnew
  unfold taskStartChannel
  rw [hnew]
  apply Function.update_of_ne
  intro heq
  rw [heq] at hi
  exact not_inTable_neg_one hi

theorem unique_taskStartChannel (h : Unique channel) : Unique (taskStartChannel msg channel) := by
  unfold taskStartChannel getNewChannel
  obtain ⟨i, hi, -, hnew⟩ | ⟨hnone, ⟨i, hi, -, -, hnew⟩ | ⟨-, hnew⟩⟩ :=
    takeSlot_cases maxAvChannel (VideoChannel.serves msg.argIn.wolf msg.sender) VideoChannel.free
      (fun ch => { ch with serviceId := msg.argIn.wolf, channelType := msg.sender, status := .valid })
      channel
  · rw [hnew]
    apply h.update_of_imp
    intro hvalid
    exact ⟨hvalid, rfl⟩
  · rw [hnew]
    dsimp only
    rw [Function.update_idem, Function.update_self]
    apply h.update
    intro _ j hj _ hvalid hkey
    have hserves : (channel j).serves msg.argIn.wolf msg.sender = true :=
      serves_iff.mpr ⟨congrArg Prod.fst hkey, congrArg Prod.snd hkey, hvalid⟩
    rw [hnone j hj] at hserves
    cases hserves
  · rw [hnew]
    apply h.update_of_imp
    intro hvalid
    exact ⟨hvalid, rfl⟩

/-! ### A stop request -/

/-- After a stop no channel of the key is left. -/
theorem taskStopChannel_empty (h : Unique channel) {i : ℤ} (hi : InTable maxAvChannel i) :
    (taskStopChannel msg channel i).isFor msg = false := by
  unfold taskStopChannel getOldChannel modifySlot
  obtain ⟨hold, hserves, -⟩ | ⟨hnone, hall⟩ :=
    firstSlot_cases maxAvChannel (VideoChannel.serves msg.argIn.wolf msg.sender) channel
  · rw [if_pos (firstSlot_ne_iff.mpr ⟨_, hold, hserves⟩)]
    by_cases heq : i = firstSlot maxAvChannel (VideoChannel.serves msg.argIn.wolf msg.sender) channel
    · rw [heq, Function.update_self]
      simp [VideoChannel.isFor, VideoChannel.serves, VideoChannel.close]
    · rw [Function.update_of_ne heq]
      apply Bool.eq_false_iff.mpr
      intro hfor
      exact heq (h.eq_of_serves hi hold hfor hserves)
  · rw [if_neg (not_not.mpr hnone)]
    exact hall i hi

/-! ### The other writes -/

theorem unique_videoSetQuality (h : Unique channel) : Unique (videoSetQuality input msg channel) := by
  unfold videoSetQuality
  split
  · exact h
  · by_cases hchanged : input.changed = true
    · rw [if_pos hchanged]
      apply h.mono
      intro i _ hvalid
      dsimp only at hvalid ⊢
      split_ifs at hvalid ⊢ <;> exact ⟨hvalid, rfl⟩
    · rw [if_neg hchanged]
      exact h

theorem sameOutside_videoSetQuality :
    SameOutside maxAvChannel channel (videoSetQuality input msg channel) := by
  unfold videoSetQuality
  split
  · exact SameOutside.refl
  · by_cases hchanged : input.changed = true
    · rw [if_pos hchanged]
      intro i hi
      exact if_neg fun hc => hi hc.1
    · rw [if_neg hchanged]
      exact SameOutside.refl

theorem unique_messageChannels (h : Unique channel) : Unique (messageChannels input msg channel) := by
  unfold messageChannels
  split_ifs
  · apply h.modifySlot
    intro ch hvalid
    exact ⟨hvalid, rfl⟩
  · exact unique_videoSetQuality h
  · exact unique_close h
  · exact h

theorem sameOutside_messageChannels :
    SameOutside maxAvChannel channel (messageChannels input msg channel) := by
  unfold messageChannels
  split_ifs
  · exact sameOutside_modifySlot firstSlot_inTable
  · exact sameOutside_videoSetQuality
  · exact sameOutside_modifySlot firstSlot_inTable
  · exact SameOutside.refl

theorem unique_clearChannels : Unique (clearChannels channel) := by
  intro i j hi _ hvalid
  unfold clearChannels at hvalid
  rw [if_pos hi] at hvalid
  cases hvalid

theorem frameSent_valid {ch : VideoChannel} {frame : SentFrame}
    (h : (frameSent frame ch).status = .valid) :
    ch.status = .valid ∧ (frameSent frame ch).serviceId = ch.serviceId ∧
      (frameSent frame ch).channelType = ch.channelType := by
  unfold frameSent at h ⊢
  dsimp only at h ⊢
  split_ifs at h ⊢ <;> simp_all [VideoChannel.close]

/-! ### Steps -/

variable {config : ManagerConfig} {s s' : VideoState} {a : VideoAction}

theorem servesClients_server : ServesClients server where
  start htype := by
    show taskProc _ _ = _
    rw [taskProc, htype]
    rfl
  stop htype := by
    show taskProc _ _ = _
    rw [taskProc, htype]
    rfl
  thread h := by
    cases h
    unfold serverThread
    split_ifs <;> rfl
  serverStart _ := rfl

theorem taskChannels_start (htype : s.server.info.task.type = .start)
    (hrun : s.server.info.status = .run) :
    taskChannels s.server.info s.channel = taskStartChannel s.server.info.task.msg s.channel := by
  simp only [taskChannels, htype, hrun, if_true]

theorem taskChannels_stop (htype : s.server.info.task.type = .stop)
    (hrun : s.server.info.status = .run) :
    taskChannels s.server.info s.channel = taskStopChannel s.server.info.task.msg s.channel := by
  simp only [taskChannels, htype, hrun, if_true]

theorem taskChannels_stop_not_run (htype : s.server.info.task.type = .stop)
    (hrun : s.server.info.status ≠ .run) :
    taskChannels s.server.info s.channel = s.channel := by
  simp only [taskChannels, htype, if_neg hrun]

theorem unique_taskChannels {info : ServerInfo} (h : Unique channel) :
    Unique (taskChannels info channel) := by
  unfold taskChannels
  split
  · split_ifs
    · exact unique_taskStartChannel h
    · exact h
  · split_ifs
    · exact unique_close h
    · exact h
  · exact h

/-- Every step keeps the channels unique. -/
theorem unique_step (hunique : Unique s.channel) (h : videoStep config s a = some s') :
    Unique s'.channel := by
  apply channelStep_of (P := Unique) h hunique
  · intro _ _
    exact unique_taskChannels hunique
  · intro input msg
    exact unique_messageChannels hunique
  · exact unique_clearChannels
  · intro i frame
    apply hunique.update_of_imp
    intro hvalid
    obtain ⟨hold, hid, htype⟩ := frameSent_valid hvalid
    exact ⟨hold, Prod.ext hid htype⟩

/-- A step that does not start a client on a full table writes nothing outside it. -/
theorem sameOutside_step (h : videoStep config s a = some s') (hok : StepCareful s a) :
    SameOutside maxAvChannel s.channel s'.channel := by
  apply channelStep_of (P := SameOutside maxAvChannel s.channel) h SameOutside.refl
  · rintro ⟨input, rfl⟩ hpc
    show SameOutside maxAvChannel s.channel (taskChannels s.server.info s.channel)
    unfold taskChannels
    split
    case h_1 htype =>
      split_ifs with hrun
      · obtain ⟨i, -, -, hout⟩ := taskStartChannel_room ((hok hpc).1 htype hrun)
        exact hout
      · exact SameOutside.refl
    case h_2 =>
      split_ifs
      · exact sameOutside_modifySlot firstSlot_inTable
      · exact SameOutside.refl
    case h_3 => exact SameOutside.refl
  · intro input msg
    exact sameOutside_messageChannels
  · intro i hi
    exact if_neg hi
  · intro i frame
    exact sameOutside_update ⟨by omega, by exact_mod_cast i.isLt⟩

/-- A step that keeps the table in order meets the condition. -/
theorem stepCareful_of_channelStep (h : videoStep config s a = some s') (hstep : ChannelStep s s') :
    StepCareful s a := by
  cases a with
  | encoder i frame => trivial
  | server b =>
      cases b with
      | thread input => trivial
      | arrive msg => trivial
      | start => trivial
      | main input =>
          intro hpc
          have hchannel : s'.channel = taskChannels s.server.info s.channel := channel_taskProc h hpc
          constructor
          · intro htype hrun
            have hack := servesClients_server.acknowledged_of_start h hpc htype hrun
            obtain ⟨i, hi, hfor⟩ := hstep.started hack
            rw [hchannel, taskChannels_start htype hrun] at hfor
            by_contra hfull
            rw [taskStartChannel_full hfull hi] at hfor
            exact hfull ⟨i, hi, .inl hfor⟩
          · intro htype hrun hlt i hi
            obtain ⟨result, hack, hresult⟩ := servesClients_server.acknowledged_of_stop h hpc htype
            have hnone := hstep.stopped (hresult hlt ▸ hack) i hi
            rw [hchannel, taskChannels_stop_not_run htype hrun] at hnone
            exact hnone

/-- A step that meets the condition keeps the table in order. -/
theorem channelStep_of_stepCareful (hunique : Unique s.channel)
    (h : videoStep config s a = some s') (hok : StepCareful s a) : ChannelStep s s' where
  unique := unique_step hunique h
  started hack := by
    obtain ⟨⟨input, rfl⟩, hchannel, ⟨hrun, -⟩ | ⟨-, hne⟩⟩ :=
      servesClients_server.start_acknowledged h hack
    · have hroom := (hok hack.1).1 hack.2.1 hrun
      obtain ⟨i, hi, hfor, -⟩ := taskStartChannel_room hroom
      have hstart : s'.channel = _ := hchannel.trans (taskChannels_start hack.2.1 hrun)
      rw [hstart]
      exact ⟨i, hi, hfor⟩
    · exact absurd rfl hne
  stopped hack := by
    intro i hi
    obtain ⟨⟨input, rfl⟩, hchannel, hlt⟩ := servesClients_server.stop_acknowledged h hack
    by_cases hrun : s.server.info.status = .run
    · have hstop : s'.channel = _ := hchannel.trans (taskChannels_stop hack.2.1 hrun)
      rw [hstop]
      exact taskStopChannel_empty hunique hi
    · have hsame : s'.channel = _ := hchannel.trans (taskChannels_stop_not_run hack.2.1 hrun)
      rw [hsame]
      exact (hok hack.1).2 hack.2.1 hrun hlt i hi
  refused result hack hfull := by
    obtain ⟨⟨input, rfl⟩, -, ⟨hrun, -⟩ | ⟨-, hne⟩⟩ :=
      servesClients_server.start_acknowledged h hack
    · exfalso
      obtain ⟨i, hi, hfor | hfree⟩ := (hok hack.1).1 hack.2.1 hrun
      · rw [(hfull i hi).2] at hfor
        cases hfor
      · exact hfree (hfull i hi).1
    · exact hne
  outside := sameOutside_step h hok

/-- A run of the video server keeps its channels unique, its answers true and the memory outside the
table alone exactly if every start that succeeds finds its channel or a free slot, and every stop
served before the server runs again finds no channel of its key. -/
theorem videoChannels_iff (config : ManagerConfig) (own : Statics) (memory : Channels)
    (as : List VideoAction) :
    AllSteps (videoStep config) (fun s _ s' => ChannelStep s s') (channelInit own memory) as ↔
      AllSteps (videoStep config) (fun s a _ => StepCareful s a) (channelInit own memory) as := by
  apply allSteps_iff (I := fun s : VideoState => Unique s.channel)
  · intro s a s' hunique h
    exact unique_step hunique h
  · intro s a s' hunique h
    exact ⟨stepCareful_of_channelStep h, channelStep_of_stepCareful hunique h⟩
  · exact unique_clearChannels

/-! ### A fifth client -/

/-- The server comes up, and the recorder and four viewers ask for a stream, one after the other. -/
def fiveClients : List VideoAction :=
  [.server .start, .server (.main {})] ++ pass [gokeRunning] ++ pass [] ++ pass [] ++
    ([3, 4, 5, 6, 0, 1, 2].map fun tid => .server (.thread { tid := tid })) ++
    pass [streamRequest msgVideoStart .recorder 0#32] ++ pass [streamRequest msgVideoStart .aliyun 1#32] ++
    pass [streamRequest msgVideoStart .aliyun 2#32] ++ pass [streamRequest msgVideoStart .aliyun 3#32] ++
    pass [streamRequest msgVideoStart .aliyun 4#32] ++ [.server (.main {})]

/-- The request of the fifth client is answered with success although the table is full, and the
memory before the table is written. -/
theorem start_on_full_table :
    ∃ s s', Reach (videoStep managerConfig) AllRuns (channelInit {} fun _ => {}) s ∧
      videoStep managerConfig s (.server (.main {})) = some s' ∧ ¬ ChannelStep s s' ∧
      s'.channel (-1) ≠ s.channel (-1) := by
  have hrun : (exec (videoStep managerConfig) (fun _ _ => true) (channelInit {} fun _ => {})
      fiveClients).any (fun s => (videoStep managerConfig s (.server (.main {}))).any fun s' =>
        decide (s.server.pc = .taskProc ∧ s.server.info.task.type = .start ∧
          s.server.info.status = .run ∧
          (∀ i, InTable maxAvChannel i → (s.channel i).status = .valid ∧
            (s.channel i).isFor s.server.info.task.msg = false) ∧
          s'.channel (-1) ≠ s.channel (-1))) = true := by
    decide
  obtain ⟨s, s', hreach, hstep, hpc, htype, hstatus, hfull, hwritten⟩ :=
    Reach.exists_step_of_exec (fun s a _ => show AllRuns s a from trivial) hrun
  refine ⟨s, s', hreach, hstep, ?_, hwritten⟩
  intro hkept
  exact hkept.refused 0#32 (servesClients_server.acknowledged_of_start hstep hpc htype hstatus) hfull rfl

end GokeWebcam.Server.Video
