import GokeWebcam.Server.AudioChannel
import GokeWebcam.Server.VideoChannel

/-!
# Live sound waits for the picture

The encoder thread of the audio server holds back the sound of a cloud channel until the video server
has sent a key frame under the same service id. For this it asks the table of the video server, through
`audio_video_synchronize`, which the recorder's channels are in as well.

* `sendFrame`: the loop of the encoder thread over the audio channels, for one frame.
* `Ready`: the cloud channel of a service has sent a key frame; `GateSound`: the sound is released then.
* `gateSound_iff`: this is so iff no other channel that stands first under a service id gives another
  answer.
* `recorder_in_front`: the recorder's channel is asked in place of a listener's.
-/

namespace GokeWebcam.Server

open Lib Common Global Manager

/-! ### The gate -/

namespace Video

/-- The channel is in use under the service id. -/
def VideoChannel.uses (id : CInt) (ch : VideoChannel) : Bool := ch.serviceId = id ∧ ch.status = .valid

/-- Source: `server/video/video.c` `audio_video_synchronize` -/
def audioVideoSynchronize (id : CInt) (channel : Channels) : CInt :=
  let i := firstSlot maxAvChannel (VideoChannel.uses id) channel
  if i ≠ -1 then if (channel i).requireKey then 1#32 else 0#32 else 1#32

/-- The cloud channel of a service. -/
def cloudChannel (id : CInt) (channel : Channels) : ℤ :=
  getOldChannel id ServerType.aliyun.toInt channel

/-- The service has a cloud channel, and this has sent a key frame. -/
def Ready (id : CInt) (channel : Channels) : Prop :=
  cloudChannel id channel ≠ -1 ∧ (channel (cloudChannel id channel)).requireKey = false

/-- A channel that is not the cloud's and stands first under the service id gives the answer of the
cloud channel. -/
def Undisturbed (id : CInt) (channel : Channels) : Prop :=
  ∀ j, InTable maxAvChannel j → (channel j).uses id = true →
    (∀ k, InTable maxAvChannel k → k < j → (channel k).uses id = false) →
    (channel j).channelType ≠ ServerType.aliyun.toInt →
    ((channel j).requireKey = false ↔ Ready id channel)

end Video

namespace Audio

/-- What is sent with a frame: to a job of the recorder, to a listener, to the intercom, and there
before the first one the parameters of the stream. -/
inductive Delivery
  | recorder (id : CInt)
  | live (id : CInt)
  | intercomConfig (id : CInt)
  | intercom (id : CInt)
  deriving DecidableEq, Repr

/-- What is sent for a channel.
Source: `server/audio/audio.c` `aduio_stream_func`, `for (i = 0; i < MAX_AV_CHANNEL; i++)` -/
def deliver (video : Video.Channels) (ch : AudioChannel) : List Delivery :=
  if ch.status = .valid then
    if ch.channelType = ServerType.recorder.toInt then [.recorder ch.serviceId]
    else if ch.channelType = ServerType.aliyun.toInt then
      if Video.audioVideoSynchronize ch.serviceId video = 0#32 then [.live ch.serviceId] else []
    else if ch.channelType = serverAudio then
      (if ch.requireKey then [.intercomConfig ch.serviceId] else []) ++ [.intercom ch.serviceId]
    else []
  else []

/-- The decision for a channel, with the answer of the cloud client. -/
def decision (video : Video.Channels) (timestamp ret : CInt) (ch : AudioChannel) : SentFrame where
  seen := ch
  timestamp := timestamp
  synchronized := Video.audioVideoSynchronize ch.serviceId video = 0#32
  ret := ret

/-- One frame: the table after it, and what was sent. `ret i` is the answer of the cloud client when
it is given the frame for the channel `i`.
Source: `server/audio/audio.c` `aduio_stream_func` -/
def sendFrame (video : Video.Channels) (timestamp : CInt) (ret : ℕ → CInt) (audio : Channels) :
    ℕ → Channels × List Delivery
  | 0 => (audio, [])
  | i + 1 =>
    let before := sendFrame video timestamp ret audio i
    let ch := before.1 i
    (Function.update before.1 i (frameSent (decision video timestamp (ret i) ch.toAudioChannel) ch),
      before.2 ++ deliver video ch.toAudioChannel)

/-- The channel is that of a listener. -/
def AudioSlot.listens (id : CInt) (ch : AudioSlot) : Bool := ch.serves id ServerType.aliyun.toInt

/-- The sound is released to a listener iff the picture is on its way. -/
def GateSound (video : Video.Channels) (timestamp : CInt) (ret : ℕ → CInt) (audio : Channels) : Prop :=
  ∀ id, (∃ i, InTable maxAvChannel i ∧ (audio i).listens id = true) →
    (.live id ∈ (sendFrame video timestamp ret audio maxAvChannel).2 ↔ Video.Ready id video)

end Audio

/-! ### The answer of the video server -/

namespace Video

variable {id : CInt} {channel : Channels} {ch : VideoChannel}

theorem uses_iff : ch.uses id = true ↔ ch.serviceId = id ∧ ch.status = .valid := by
  simp [VideoChannel.uses]

theorem uses_of_serves {type : CInt} (h : ch.serves id type = true) : ch.uses id = true := by
  obtain ⟨hid, -, hvalid⟩ := serves_iff.mp h
  exact uses_iff.mpr ⟨hid, hvalid⟩

/-- In a table with one channel for each client and service id any cloud channel is the one. -/
theorem ready_iff_of_unique (h : Unique channel) : Ready id channel ↔
    ∃ i, InTable maxAvChannel i ∧ (channel i).serves id ServerType.aliyun.toInt = true ∧
      (channel i).requireKey = false := by
  rcases firstSlot_cases maxAvChannel (VideoChannel.serves id ServerType.aliyun.toInt) channel with
    ⟨hin, hserves, -⟩ | ⟨hnone, hall⟩
  · constructor
    · rintro ⟨-, hkey⟩
      exact ⟨_, hin, hserves, hkey⟩
    · rintro ⟨i, hi, hserves', hkey⟩
      have hsame : i = cloudChannel id channel := h.eq_of_serves hi hin hserves' hserves
      refine ⟨firstSlot_ne_iff.mpr ⟨i, hi, hserves'⟩, ?_⟩
      rw [← hsame]
      exact hkey
  · constructor
    · rintro ⟨hne, -⟩
      exact absurd hnone hne
    · rintro ⟨i, hi, hserves, -⟩
      rw [hall i hi] at hserves
      cases hserves

/-- Without a channel in use under the service id nothing is released. -/
theorem synchronize_of_unused (h : ∀ i, InTable maxAvChannel i → (channel i).uses id = false) :
    audioVideoSynchronize id channel ≠ 0#32 ∧ ¬ Ready id channel := by
  constructor
  · have hnone : ¬ firstSlot maxAvChannel (VideoChannel.uses id) channel ≠ -1 := by
      intro hne
      obtain ⟨i, hi, huses⟩ := firstSlot_ne_iff.mp hne
      rw [h i hi] at huses
      cases huses
    rw [audioVideoSynchronize, if_neg hnone]
    decide
  · rintro ⟨hne, -⟩
    obtain ⟨i, hi, hserves⟩ := firstSlot_ne_iff.mp hne
    have huses := uses_of_serves hserves
    rw [h i hi] at huses
    cases huses

/-- The first channel in use under the service id is asked. -/
theorem synchronize_of_first {j : ℤ} (hj : InTable maxAvChannel j) (huses : (channel j).uses id = true)
    (hfirst : ∀ k, InTable maxAvChannel k → k < j → (channel k).uses id = false) :
    audioVideoSynchronize id channel = 0#32 ↔ (channel j).requireKey = false := by
  have hfound : firstSlot maxAvChannel (VideoChannel.uses id) channel = j := firstSlot_eq hj huses hfirst
  have hne : firstSlot maxAvChannel (VideoChannel.uses id) channel ≠ -1 :=
    firstSlot_ne_iff.mpr ⟨j, hj, huses⟩
  rw [audioVideoSynchronize, if_pos hne, hfound]
  rcases (channel j).requireKey with _ | _
  · simp
  · simp

/-- If this is the cloud channel, the answer is the right one. -/
theorem ready_of_first {j : ℤ} (hj : InTable maxAvChannel j) (huses : (channel j).uses id = true)
    (hfirst : ∀ k, InTable maxAvChannel k → k < j → (channel k).uses id = false)
    (htype : (channel j).channelType = ServerType.aliyun.toInt) :
    Ready id channel ↔ (channel j).requireKey = false := by
  obtain ⟨hid, hvalid⟩ := uses_iff.mp huses
  have hserves : (channel j).serves id ServerType.aliyun.toInt = true :=
    serves_iff.mpr ⟨hid, htype, hvalid⟩
  have hfound : cloudChannel id channel = j := by
    refine firstSlot_eq hj hserves fun k hk hlt => ?_
    by_contra hnot
    rw [Bool.not_eq_false] at hnot
    have huses' := uses_of_serves hnot
    rw [hfirst k hk hlt] at huses'
    cases huses'
  have hne : cloudChannel id channel ≠ -1 := firstSlot_ne_iff.mpr ⟨j, hj, hserves⟩
  rw [Ready, hfound]
  rw [hfound] at hne
  exact and_iff_right hne

/-- The answer is the right one iff no other channel stands before the cloud channel with another. -/
theorem synchronize_iff :
    (audioVideoSynchronize id channel = 0#32 ↔ Ready id channel) ↔ Undisturbed id channel := by
  rcases firstSlot_cases maxAvChannel (VideoChannel.uses id) channel with
    ⟨hin, huses, hfirst⟩ | ⟨-, hall⟩
  · rw [synchronize_of_first hin huses hfirst]
    constructor
    · intro hright j hj huses' hfirst' _
      rw [← firstSlot_eq hj huses' hfirst']
      exact hright
    · intro hundisturbed
      by_cases htype :
          (channel (firstSlot maxAvChannel (VideoChannel.uses id) channel)).channelType =
            ServerType.aliyun.toInt
      · exact (ready_of_first hin huses hfirst htype).symm
      · exact hundisturbed _ hin huses hfirst htype
  · obtain ⟨hheld, hnot⟩ := synchronize_of_unused hall
    refine iff_of_true (iff_of_false hheld hnot) fun j hj huses => ?_
    rw [hall j hj] at huses
    cases huses

end Video

/-! ### A frame -/

namespace Audio

variable {id timestamp : CInt} {video : Video.Channels} {audio : Channels} {ret : ℕ → CInt}
  {ch : AudioChannel}

/-- Live sound goes to a listener, if the video server lets it. -/
theorem live_mem_deliver : .live id ∈ deliver video ch ↔
    (ch.serviceId = id ∧ ch.channelType = ServerType.aliyun.toInt ∧ ch.status = .valid) ∧
      Video.audioVideoSynchronize id video = 0#32 := by
  have hrecorder : ServerType.aliyun.toInt ≠ ServerType.recorder.toInt := by decide
  rw [deliver]
  constructor
  · intro h
    split_ifs at h with hvalid hrec hcloud hsync hint hkey
    case pos =>
      simp at h
    case pos =>
      obtain rfl : id = ch.serviceId := by simpa using h
      exact ⟨⟨rfl, hcloud, hvalid⟩, hsync⟩
    all_goals simp at h
  · rintro ⟨⟨rfl, htype, hvalid⟩, hsync⟩
    rw [if_pos hvalid, htype, if_neg hrecorder, if_pos rfl, if_pos hsync]
    exact List.mem_singleton_self _

/-- The part of the loop that is still to come finds the table as it was, and what was sent is what
is sent for each channel. -/
theorem sendFrame_spec (n : ℕ) :
    (∀ i : ℕ, n ≤ i → (sendFrame video timestamp ret audio n).1 i = audio i) ∧
      ∀ d, d ∈ (sendFrame video timestamp ret audio n).2 ↔
        ∃ i : ℕ, i < n ∧ d ∈ deliver video (audio i).toAudioChannel := by
  induction n with
  | zero => exact ⟨fun _ _ => rfl, fun d => by simp [sendFrame]⟩
  | succ n ih =>
    obtain ⟨htable, hsent⟩ := ih
    constructor
    · intro i hi
      have hne : (i : ℤ) ≠ n := by omega
      rw [sendFrame]
      exact (Function.update_of_ne hne _ _).trans (htable i (by omega))
    · intro d
      have hlast : (sendFrame video timestamp ret audio (n + 1)).2 =
          (sendFrame video timestamp ret audio n).2 ++ deliver video (audio n).toAudioChannel := by
        rw [sendFrame, htable n le_rfl]
      rw [hlast, List.mem_append, hsent]
      constructor
      · rintro (⟨i, hi, hd⟩ | hd)
        · exact ⟨i, by omega, hd⟩
        · exact ⟨n, by omega, hd⟩
      · rintro ⟨i, hi, hd⟩
        rcases Nat.lt_succ_iff_lt_or_eq.mp hi with hlt | rfl
        · exact .inl ⟨i, hlt, hd⟩
        · exact .inr hd

/-- A listener is sent the frame iff the video server lets it. -/
theorem live_mem_sendFrame (h : ∃ i, InTable maxAvChannel i ∧ (audio i).listens id = true) :
    .live id ∈ (sendFrame video timestamp ret audio maxAvChannel).2 ↔
      Video.audioVideoSynchronize id video = 0#32 := by
  rw [(sendFrame_spec maxAvChannel).2]
  constructor
  · rintro ⟨i, -, hd⟩
    exact (live_mem_deliver.mp hd).2
  · intro hsync
    obtain ⟨i, hi, hlistens⟩ := h
    obtain ⟨k, hk, rfl⟩ := inTable_iff.mp hi
    exact ⟨k, hk, live_mem_deliver.mpr ⟨serves_iff.mp hlistens, hsync⟩⟩

/-- With each frame the sound is released to the listeners whose picture is on its way iff under the
service id of none of them another channel of the video server stands first with another answer. -/
theorem gateSound_iff (video : Video.Channels) (timestamp : CInt) (ret : ℕ → CInt) (audio : Channels) :
    GateSound video timestamp ret audio ↔
      ∀ i, InTable maxAvChannel i → (audio i).status = .valid →
        (audio i).channelType = ServerType.aliyun.toInt →
        Video.Undisturbed (audio i).serviceId video := by
  constructor
  · intro hgate i hi hvalid htype
    have hlistens : ∃ j, InTable maxAvChannel j ∧ (audio j).listens (audio i).serviceId = true :=
      ⟨i, hi, serves_iff.mpr ⟨rfl, htype, hvalid⟩⟩
    rw [← Video.synchronize_iff, ← live_mem_sendFrame hlistens]
    exact hgate (audio i).serviceId hlistens
  · rintro hundisturbed id ⟨i, hi, hlistens⟩
    obtain ⟨rfl, htype, hvalid⟩ := serves_iff.mp hlistens
    rw [live_mem_sendFrame ⟨i, hi, hlistens⟩, Video.synchronize_iff]
    exact hundisturbed i hi hvalid htype

/-! ### The recorder's channel -/

/-- The video server comes up; the recorder asks for a stream, then a listener under the same service
id, and the first key frame is sent to the listener. -/
def sameServiceId : List Video.VideoAction :=
  [.server .start, .server (.main {})] ++ pass [gokeRunning] ++ pass [] ++ pass [] ++
    ([3, 4, 5, 6, 0, 1, 2].map fun tid => .server (.thread { tid := tid })) ++
    pass [streamRequest msgVideoStart .recorder 1#32] ++ pass [streamRequest msgVideoStart .aliyun 1#32] ++
    pass [] ++
    [.encoder ⟨1, by decide⟩ {
      seen := { status := .valid, channelType := ServerType.aliyun.toInt, serviceId := 1#32,
                requireKey := true }
      keyFrame := true }]

/-- One listener, under the service id. -/
def oneListener : Channels := fun i =>
  if i = 0 then { status := .valid, channelType := ServerType.aliyun.toInt, serviceId := 1#32 } else {}

/-- The picture is on its way, but the recorder's channel is asked, which waits for a key frame. -/
theorem recorder_in_front :
    ∃ s : Video.VideoState, Reach (Video.videoStep managerConfig) AllRuns
      (Video.channelInit {} fun _ => {}) s ∧ ¬ GateSound s.channel 0#32 (fun _ => 0#32) oneListener := by
  have hrun : (exec (Video.videoStep managerConfig) (fun _ _ => true) (Video.channelInit {} fun _ => {})
      sameServiceId).any (fun s => decide (Video.cloudChannel 1#32 s.channel = 1 ∧
        (s.channel 1).requireKey = false ∧
        Delivery.live 1#32 ∉ (sendFrame s.channel 0#32 (fun _ => 0#32) oneListener maxAvChannel).2)) =
      true := by
    decide
  obtain ⟨s, hreach, hcloud, hkey, hheld⟩ :=
    Reach.exists_of_exec (fun s a _ => show AllRuns s a from trivial) hrun
  refine ⟨s, hreach, fun hgate => hheld ((hgate 1#32 ⟨0, by decide, by decide⟩).mpr ?_)⟩
  rw [Video.Ready, hcloud]
  exact ⟨by decide, hkey⟩

end Audio

end GokeWebcam.Server
