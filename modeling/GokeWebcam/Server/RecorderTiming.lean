import GokeWebcam.Server.RecorderSamples

/-!
# The times of the samples

The MP4 library places a sample at the sum of the durations of the earlier samples of its track. A
video sample is written with the time since the last one, an audio sample with its size.

* `Recording`: a recording with the frames its samples were taken from.
* `Aligned`: the time of each sample is near the time of its frame since the first key frame.
* `Matches`: the durations follow from the frames; `matches_recording`.
* `unrecorded`: the audio time before a frame that was not recorded; `unrecorded_eq_lost`: of a
  source without breaks it is what was lost.
* `aligned_iff`: the tracks are aligned within a bound iff that time stays within it.
* `not_exists_bound`: so no bound works for every recording with losses.
-/

namespace GokeWebcam.Server.Recorder.Sample

open Lib Common Device

/-! ### The frames of the samples -/

def audioSamples (run : SampleRun) : List Mp4Sample := (run.audioTrack.map Mp4Track.samples).getD []

def videoSamples (run : SampleRun) : List Mp4Sample := (run.videoTrack.map Mp4Track.samples).getD []

/-- A recording, with what is known of the frame that each sample of a track was taken from. -/
structure Recording where
  run : SampleRun
  audio : List AvDataInfo := []
  video : List AvDataInfo := []
  deriving DecidableEq

/-- The samples that a round adds are taken from the frame that it has popped. -/
def Recording.note (input : RunInput) (run : SampleRun) (r : Recording) : Recording where
  run := run
  audio := r.audio ++ List.replicate ((audioSamples run).length - (audioSamples r.run).length)
    ((input.audio.map AudioMessage.info).getD {})
  video := r.video ++ List.replicate ((videoSamples run).length - (videoSamples r.run).length)
    ((input.video.map VideoMessage.info).getD {})

/-- A round. -/
def recordRound (input : RunInput) (r : Recording) : Option (Bool × Recording) :=
  (recorderThreadRun input r.run).map fun x => (x.1, r.note input x.2)

/-- The rounds of a recording, until the file is closed. -/
def recording : List RunInput → Recording → Option Recording
  | [], r => some r
  | input :: inputs, r =>
    (recordRound input r).bind fun x => if x.1 then some x.2 else recording inputs x.2

/-- The frames are kept beside what the rounds do. -/
theorem run_recording (inputs : List RunInput) (r : Recording) :
    (recording inputs r).map Recording.run = recordRounds inputs r.run := by
  induction inputs generalizing r with
  | nil => rfl
  | cons input inputs ih =>
      rw [recording, recordRounds, recordRound]
      rcases recorderThreadRun input r.run with _ | ⟨closing, run⟩
      · rfl
      · cases closing
        · exact ih (r.note input run)
        · rfl

/-- A recording that begins. -/
def beginRecording (audio : Bool) (stop : CLong) : Recording where
  run := initMp4 audio stop

/-! ### Times -/

/-- Where the library places the sample `j`, in the time scale of the track. -/
def sampleTime (samples : List Mp4Sample) (j : ℕ) : ℕ :=
  ((samples.take j).map Mp4Sample.duration).sum

/-- Each sample is at most `bound` milliseconds away from the time of its frame since `first`. -/
def OnTime (bound first : ℕ) (track : Mp4Track) (infos : List AvDataInfo) : Prop :=
  ∀ j info, infos[j]? = some info →
    |1000 * (sampleTime track.samples j : ℤ) - track.timeScale * (info.timestamp - first)| ≤
      track.timeScale * bound

/-- The tracks are aligned with the stamps of the frames, which count from the first key frame. -/
structure Aligned (bound : ℕ) (r : Recording) : Prop where
  video : ∀ first ∈ r.video.head?, ∀ track ∈ r.run.videoTrack,
    OnTime bound first.timestamp track r.video
  audio : ∀ first ∈ r.video.head?, ∀ track ∈ r.run.audioTrack,
    OnTime bound first.timestamp track r.audio

/-- The stamps do not go back, and are less than 47 seconds apart. -/
def Close (infos : List AvDataInfo) : Prop :=
  infos.IsChain fun a b => a.timestamp ≤ b.timestamp ∧ b.timestamp < a.timestamp + 47000

/-- The audio time before the last of the frames that was not recorded: from `time` on to the first
of them, and from the end of each of them to the next one. It counts in eighths of a millisecond, in
which a frame takes as long as it has bytes. -/
def unrecorded (time : ℤ) : List AvDataInfo → ℤ
  | [] => 0
  | info :: infos =>
    8 * info.timestamp - time + unrecorded (8 * info.timestamp + info.size) infos

/-! ### The durations of the video -/

/-- The duration of a frame that follows another one. -/
def nextDuration (a b : AvDataInfo) : ℕ :=
  (stampDuration b.timestamp (BitVec.ofNat 64 a.timestamp)).toNat

/-- The durations that the frames are written with: the first one by its rate. -/
def videoDurations : List AvDataInfo → List ℕ
  | [] => []
  | first :: rest =>
    (90000#32 / first.fps).toNat :: List.zipWith nextDuration (first :: rest) rest

theorem zipWith_tail_concat {α β : Type} (f : α → α → β) (l : List α) (a b : α) :
    List.zipWith f (l ++ [a, b]) (l ++ [a, b]).tail =
      List.zipWith f (l ++ [a]) (l ++ [a]).tail ++ [f a b] := by
  induction l with
  | nil => rfl
  | cons c l ih =>
      rcases l with _ | ⟨d, l⟩
      · rfl
      · simpa using ih

theorem videoDurations_concat {infos : List AvDataInfo} {last info : AvDataInfo}
    (h : infos.getLast? = some last) :
    videoDurations (infos ++ [info]) = videoDurations infos ++ [nextDuration last info] := by
  obtain ⟨l, rfl⟩ := List.getLast?_eq_some_iff.1 h
  have hzip := zipWith_tail_concat nextDuration l last info
  rcases l with _ | ⟨first, l⟩
  · rfl
  · simp only [List.cons_append, List.tail_cons, List.append_assoc, List.nil_append,
      videoDurations] at hzip ⊢
    rw [hzip]

/-- A time between stamps that are close is not cut off. -/
theorem nextDuration_eq {a b : AvDataInfo} (hle : a.timestamp ≤ b.timestamp)
    (hlt : b.timestamp < a.timestamp + 47000) :
    nextDuration a b = 90 * (b.timestamp - a.timestamp) := by
  obtain ⟨d, hd⟩ := Nat.exists_eq_add_of_le hle
  have hsub : BitVec.ofNat 64 b.timestamp - BitVec.ofNat 64 a.timestamp = BitVec.ofNat 64 d := by
    rw [hd, BitVec.ofNat_add, BitVec.add_comm, BitVec.add_sub_cancel]
  rw [hd] at hlt ⊢
  rw [nextDuration, stampDuration, hsub, BitVec.toNat_udiv, BitVec.toNat_mul, BitVec.toNat_ofNat,
    Nat.add_sub_cancel_left]
  have hscale : (90000#64).toNat = 90000 := rfl
  have hmul : d % 2 ^ 64 * 90000 % 2 ^ 64 = 90000 * d := by omega
  have hms : (1000#64).toNat = 1000 := rfl
  rw [hscale, hmul, hms]
  omega

/-- The times between the stamps add up. -/
theorem sum_nextDuration {first info : AvDataInfo} {rest : List AvDataInfo} {j : ℕ}
    (hclose : Close (first :: rest)) (hj : (first :: rest)[j]? = some info) :
    ((List.zipWith nextDuration (first :: rest) rest).take j).sum + 90 * first.timestamp =
      90 * info.timestamp := by
  induction rest generalizing first j with
  | nil =>
      rcases j with _ | j
      · cases hj
        simp
      · simp at hj
  | cons next rest ih =>
      rcases j with _ | j
      · cases hj
        simp
      · obtain ⟨⟨hle, hlt⟩, hrest⟩ := List.isChain_cons_cons.1 hclose
        have hsum := ih hrest (by simpa using hj)
        rw [List.zipWith_cons_cons, List.take_succ_cons, List.sum_cons, nextDuration_eq hle hlt]
        omega

/-- The video is on time. -/
theorem onTime_video {track : Mp4Track} {infos : List AvDataInfo} {first : AvDataInfo} {bound : ℕ}
    (hscale : track.timeScale = 90000)
    (hdurations : track.samples.map Mp4Sample.duration = videoDurations infos)
    (hclose : Close infos) (hfirst : infos.head? = some first) (hbound : 47000 ≤ bound) :
    OnTime bound first.timestamp track infos := by
  intro j info hj
  obtain ⟨rest, rfl⟩ : ∃ rest, infos = first :: rest := List.head?_eq_some_iff.1 hfirst
  have hrate : (90000#32 / first.fps).toNat ≤ 90000 := by
    rw [BitVec.toNat_udiv]
    exact Nat.div_le_self ..
  rw [sampleTime, List.map_take, hdurations, hscale, abs_le]
  rcases j with _ | j
  · cases hj
    simp
  · have hlt : j < (first :: rest).length := by
      have := (List.getElem?_eq_some_iff.1 hj).1
      omega
    have hprev : (first :: rest)[j]? = some (first :: rest)[j] := List.getElem?_eq_getElem hlt
    have hsum := sum_nextDuration hclose hprev
    have hnext : (first :: rest)[j].timestamp ≤ info.timestamp ∧
        info.timestamp < (first :: rest)[j].timestamp + 47000 := by
      obtain ⟨hj', rfl⟩ := List.getElem?_eq_some_iff.1 hj
      exact List.IsChain.getElem hclose j hj'
    rw [videoDurations, List.take_succ_cons, List.sum_cons]
    omega

/-! ### The audio -/

/-- The time of a sample is that of its frame, less what was not recorded before it. -/
theorem sum_size_take {infos : List AvDataInfo} {info : AvDataInfo} {j : ℕ} (time : ℤ)
    (hj : infos[j]? = some info) :
    ((((infos.map AvDataInfo.size).take j).sum : ℕ) : ℤ) =
      8 * info.timestamp - time - unrecorded time (infos.take (j + 1)) := by
  induction infos generalizing j time with
  | nil => simp at hj
  | cons a infos ih =>
      rcases j with _ | j
      · cases hj
        simp [unrecorded]
      · have hrest := ih (8 * a.timestamp + a.size) (by simpa using hj)
        rw [List.map_cons, List.take_succ_cons, List.sum_cons, List.take_succ_cons, unrecorded]
        omega

/-- The audio is on time iff what was not recorded stays within the bound. -/
theorem onTime_audio_iff {track : Mp4Track} {infos : List AvDataInfo} {first bound : ℕ}
    (hscale : track.timeScale = 8000)
    (hdurations : track.samples.map Mp4Sample.duration = infos.map AvDataInfo.size) :
    OnTime bound first track infos ↔
      ∀ j < infos.length, |unrecorded (8 * first) (infos.take (j + 1))| ≤ 8 * bound := by
  have hsample : ∀ j info, infos[j]? = some info →
      (|1000 * (sampleTime track.samples j : ℤ) - track.timeScale * (info.timestamp - first)| ≤
        track.timeScale * bound ↔ |unrecorded (8 * first) (infos.take (j + 1))| ≤ 8 * bound) := by
    intro j info hj
    rw [sampleTime, List.map_take, hdurations, hscale, sum_size_take (8 * first) hj, abs_le, abs_le]
    push_cast
    constructor <;> rintro ⟨h1, h2⟩ <;> constructor <;> linarith
  constructor
  · intro h j hj
    exact (hsample j _ (List.getElem?_eq_getElem hj)).1 (h j _ (List.getElem?_eq_getElem hj))
  · intro h j info hj
    exact (hsample j info hj).2 (h j (List.getElem?_eq_some_iff.1 hj).1)

/-- A source without breaks: each frame begins where the last one ended. Beside each frame stands
whether it was recorded. -/
def Unbroken (time : ℤ) : List (AvDataInfo × Bool) → Prop
  | [] => True
  | (info, _) :: frames => 8 * info.timestamp = time ∧ Unbroken (time + info.size) frames

/-- The frames that were recorded, and those that were lost. -/
def recordedFrames (frames : List (AvDataInfo × Bool)) : List AvDataInfo :=
  (frames.filter Prod.snd).map Prod.fst

def lostFrames (frames : List (AvDataInfo × Bool)) : List AvDataInfo :=
  (frames.filter fun frame => !frame.2).map Prod.fst

theorem unrecorded_later {infos : List AvDataInfo} (hne : infos ≠ []) (time size : ℤ) :
    unrecorded time infos = unrecorded (time + size) infos + size := by
  rcases infos with _ | ⟨info, infos⟩
  · exact absurd rfl hne
  · rw [unrecorded, unrecorded]
    omega

/-- Of a source without breaks what was not recorded before a frame is what was lost. -/
theorem unrecorded_eq_lost {frames : List (AvDataInfo × Bool)} {info : AvDataInfo} {time : ℤ}
    (h : Unbroken time (frames ++ [(info, true)])) :
    unrecorded time (recordedFrames (frames ++ [(info, true)])) =
      ((lostFrames frames).map AvDataInfo.size).sum := by
  induction frames generalizing time with
  | nil =>
      have htime : 8 * (info.timestamp : ℤ) = time := h.1
      simp [recordedFrames, lostFrames, unrecorded, htime]
  | cons frame frames ih =>
      obtain ⟨a, recorded⟩ := frame
      obtain ⟨htime, hrest⟩ := h
      have hsum := ih hrest
      cases recorded with
      | true =>
          have hkept : recordedFrames ((a, true) :: frames ++ [(info, true)]) =
              a :: recordedFrames (frames ++ [(info, true)]) := by simp [recordedFrames]
          have hlost : lostFrames ((a, true) :: frames) = lostFrames frames := by simp [lostFrames]
          rw [hkept, hlost, unrecorded, htime, hsum, sub_self, zero_add]
      | false =>
          have hkept : recordedFrames ((a, false) :: frames ++ [(info, true)]) =
              recordedFrames (frames ++ [(info, true)]) := by simp [recordedFrames]
          have hlost : lostFrames ((a, false) :: frames) = a :: lostFrames frames := by
            simp [lostFrames]
          have hne : recordedFrames (frames ++ [(info, true)]) ≠ [] := by simp [recordedFrames]
          rw [hkept, hlost, unrecorded_later hne time a.size, hsum, List.map_cons, List.sum_cons]
          push_cast
          ring

/-! ### The durations follow from the frames -/

/-- The frames that the samples of the tracks were taken from. -/
structure Matches (run : SampleRun) (audio video : List AvDataInfo) : Prop where
  begun : run.firstFrame = true ↔ video ≠ []
  sps : video ≠ [] → run.spsRead = true
  track : run.spsRead = true → run.videoTrack.isSome = true
  videoScale : ∀ track ∈ run.videoTrack, track.timeScale = 90000
  videoTimes : (videoSamples run).map Mp4Sample.duration = videoDurations video
  last : ∀ info ∈ video.getLast?, run.lastVframeStamp = BitVec.ofNat 64 info.timestamp
  audioScale : ∀ track ∈ run.audioTrack, track.timeScale = 8000
  audioTimes : (audioSamples run).map Mp4Sample.duration = audio.map AvDataInfo.size

variable {run run' : SampleRun} {audio video : List AvDataInfo} {msg : VideoMessage}
  {nalu : NaluUnit} {input : RunInput} {r r' : Recording}

theorem length_videoDurations {infos : List AvDataInfo} :
    (videoDurations infos).length = infos.length := by
  rcases infos with _ | ⟨first, rest⟩
  · rfl
  · simp [videoDurations]

theorem Matches.length_video (h : Matches run audio video) :
    (videoSamples run).length = video.length := by
  rw [← length_videoDurations, ← h.videoTimes, List.length_map]

theorem Matches.length_audio (h : Matches run audio video) :
    (audioSamples run).length = audio.length := by
  have hlength := congrArg List.length h.audioTimes
  simpa using hlength

theorem matches_begin (audio : Bool) (stop : CLong) : Matches (initMp4 audio stop) [] [] := by
  constructor <;> cases audio <;> simp [initMp4, videoSamples, audioSamples, videoDurations]

/-- The duration of a slice is that of a frame that follows the last one. -/
theorem Matches.videoDurations_slice (h : Matches run audio video) {info : AvDataInfo} {duration : ℕ}
    (hduration : sliceDuration info run = some duration) :
    videoDurations (video ++ [info]) = videoDurations video ++ [duration] := by
  rw [sliceDuration] at hduration
  rcases hlast : video.getLast? with _ | last
  · rw [List.getLast?_eq_none_iff] at hlast
    have hfirst : ¬ run.firstFrame = true := fun hbegun => h.begun.1 hbegun hlast
    rw [if_neg hfirst] at hduration
    split_ifs at hduration
    cases hduration
    rw [hlast]
    rfl
  · have hfirst : run.firstFrame = true := by
      apply h.begun.2
      rintro rfl
      cases hlast
    rw [if_pos hfirst, h.last last hlast] at hduration
    cases hduration
    exact videoDurations_concat hlast

/-- A slice is written with the time since the last one. -/
theorem matches_writeSlice {answer : NaluAnswer} {sample : Mp4Sample} {info : AvDataInfo}
    (h : Matches run audio video) (hsps : run.spsRead = true)
    (hkey : run.firstFrame = true ∨ sample.sync = true)
    (hduration : sliceDuration info run = some sample.duration) :
    Matches (writeSlice info answer sample run) audio (video ++ [info]) := by
  obtain ⟨⟨-, haudio, hsps', -⟩, htrack, hfirst⟩ := @writeSlice_spec run _ info answer sample rfl
  have hbegun : (writeSlice info answer sample run).firstFrame = true := by
    split_ifs at hfirst with hold
    · rw [hfirst.1]
      exact hold.elim id fun hsync => hkey.resolve_right (by simp [hsync])
    · exact hfirst.1
  obtain ⟨track, hsome⟩ := Option.isSome_iff_exists.1 (h.track hsps)
  rw [hsome, Option.map_some] at htrack
  have hsamples : videoSamples (writeSlice info answer sample run) = videoSamples run ++ [sample] := by
    rw [videoSamples, htrack, videoSamples, hsome]
    rfl
  refine ⟨?_, ?_, ?_, ?_, ?_, ?_, ?_, ?_⟩
  · simp [hbegun]
  · intro _
    rw [hsps', hsps]
  · intro _
    rw [htrack]
    rfl
  · rw [htrack]
    rintro _ ⟨⟩
    exact h.videoScale track hsome
  · rw [hsamples, List.map_append, h.videoTimes, h.videoDurations_slice hduration]
    rfl
  · intro last hlast
    rw [List.getLast?_concat] at hlast
    cases hlast
    rfl
  · rw [haudio]
    exact h.audioScale
  · rw [audioSamples, haudio]
    exact h.audioTimes

/-- Without the set no sample was written. -/
theorem Matches.video_eq_nil (h : Matches run audio video) (hsps : ¬ run.spsRead = true) :
    video = [] := by
  by_contra hne
  exact hsps (h.sps hne)

/-- A unit of a frame adds a sample at most. -/
theorem matches_writeNalu (h : Matches run audio video) :
    (∀ run', writeNalu msg run nalu = .ok run' →
        ∃ n, Matches run' audio (video ++ List.replicate n msg.info)) ∧
      ∀ ret run', writeNalu msg run nalu = .error (some (ret, run')) → Matches run' audio video := by
  have hnone : ∃ n, Matches run audio (video ++ List.replicate n msg.info) :=
    ⟨0, by simpa using h⟩
  rw [writeNalu]
  by_cases hseven : nalu.type = 7#8
  · rw [if_pos hseven]
    by_cases hsps : run.spsRead = true
    · rw [if_pos hsps]
      exact ⟨by rintro _ ⟨⟩; exact hnone, by simp⟩
    · rw [if_neg hsps]
      obtain rfl := h.video_eq_nil hsps
      split_ifs
      · refine ⟨by simp, ?_⟩
        rintro _ _ ⟨⟩
        exact { h with
          track := fun hread => absurd hread hsps
          videoScale := by simp
          videoTimes := rfl }
      · refine ⟨?_, by simp⟩
        rintro _ ⟨⟩
        refine ⟨0, ?_⟩
        exact { h with
          sps := fun _ => rfl
          track := fun _ => rfl
          videoScale := by rintro _ ⟨⟩; rfl
          videoTimes := rfl }
  rw [if_neg hseven]
  by_cases height : nalu.type = 8#8
  · rw [if_pos height]
    split_ifs
    · exact ⟨by rintro _ ⟨⟩; exact hnone, by simp⟩
    · exact ⟨by rintro _ ⟨⟩; exact hnone, by simp⟩
    · refine ⟨?_, by simp⟩
      rintro _ ⟨⟩
      refine ⟨0, ?_⟩
      rw [List.replicate_zero, List.append_nil]
      have htrack : ∀ track ∈ run.videoTrack, track.timeScale = 90000 := h.videoScale
      have htimes := h.videoTimes
      have hread := h.track
      rcases hsome : run.videoTrack with _ | track
      · rw [hsome] at hread
        rw [videoSamples, hsome] at htimes
        exact { h with track := hread, videoScale := by simp, videoTimes := htimes }
      · rw [videoSamples, hsome] at htimes
        refine { h with track := fun _ => rfl, videoScale := ?_, videoTimes := htimes }
        rintro _ ⟨⟩
        exact htrack track hsome
  rw [if_neg height]
  by_cases hslice : nalu.type = 1#8 ∨ nalu.type = 5#8
  · rw [if_pos hslice]
    by_cases hready : (!run.spsRead) = true ∨ (!run.ppsRead) = true
    · rw [if_pos hready]
      exact ⟨by simp, by rintro _ _ ⟨⟩; exact h⟩
    rw [if_neg hready]
    by_cases hmalloc : (!(msg.answer nalu.data).mallocOk) = true
    · rw [if_pos hmalloc]
      exact ⟨by simp, by rintro _ _ ⟨⟩; exact h⟩
    rw [if_neg hmalloc]
    by_cases hbefore : nalu.type ≠ 5#8 ∧ (!run.firstFrame) = true
    · rw [if_pos hbefore]
      exact ⟨by simp, by rintro _ _ ⟨⟩; exact h⟩
    rw [if_neg hbefore]
    rcases hduration : sliceDuration msg.info run with _ | duration
    · exact ⟨by simp, by simp⟩
    dsimp only
    by_cases hsample : (!(msg.answer nalu.data).sampleOk) = true
    · rw [if_pos hsample]
      exact ⟨by simp, by rintro _ _ ⟨⟩; exact h⟩
    rw [if_neg hsample]
    refine ⟨?_, by simp⟩
    rintro _ ⟨⟩
    refine ⟨1, matches_writeSlice h ?_ ?_ hduration⟩
    · simpa using fun hsps => hready (.inl hsps)
    · simpa [or_comm, imp_iff_not_or] using hbefore
  · rw [if_neg hslice]
    exact ⟨by rintro _ ⟨⟩; exact hnone, by simp⟩

/-- A frame adds samples with its stamp. -/
theorem matches_writeMp4Video {ret : CInt} (h : Matches run audio video)
    (hwrite : recorderThreadWriteMp4Video msg run = some (ret, run')) :
    ∃ n, Matches run' audio (video ++ List.replicate n msg.info) := by
  rw [recorderThreadWriteMp4Video, Option.bind_eq_some_iff] at hwrite
  obtain ⟨result, hloop, hresult⟩ := hwrite
  have hunit : ∀ run nalu, (∃ n, Matches run audio (video ++ List.replicate n msg.info)) →
      (∀ run', writeNalu msg run nalu = .ok run' →
        ∃ n, Matches run' audio (video ++ List.replicate n msg.info)) ∧
      ∀ e, writeNalu msg run nalu = .error e → ∀ ret run', e = some (ret, run') →
        ∃ n, Matches run' audio (video ++ List.replicate n msg.info) := by
    rintro run nalu ⟨n, hrun⟩
    obtain ⟨hok, herror⟩ := @matches_writeNalu run _ _ msg nalu hrun
    refine ⟨fun run' hwrite => ?_, fun e hwrite ret run' heq => ?_⟩
    · obtain ⟨m, hrun'⟩ := hok run' hwrite
      rw [List.append_assoc, List.replicate_append_replicate] at hrun'
      exact ⟨n + m, hrun'⟩
    · subst heq
      exact ⟨n, herror ret run' hwrite⟩
  obtain ⟨hok, herror⟩ := naluLoop_inv hunit ⟨0, by simpa using h⟩ hloop
  rcases result with e | ⟨run'', n⟩
  · exact herror e rfl ret run' hresult
  · cases hresult
    exact hok _ _ rfl

/-- An audio frame adds a sample with its size at most. -/
theorem matches_runAudio (h : Matches run audio video) :
    ∃ n, Matches (runAudio input run).2
      (audio ++ List.replicate n ((input.audio.map AudioMessage.info).getD {})) video := by
  rw [runAudio]
  rcases input.audio with _ | msg
  · exact ⟨0, by simpa using h⟩
  dsimp only
  rw [writeAudio]
  split_ifs with hbefore hsample
  · exact ⟨0, by simpa using h⟩
  · exact ⟨0, by simpa using { h with }⟩
  rcases hsome : run.audioTrack with _ | track
  · refine ⟨0, ?_⟩
    rw [List.replicate_zero, List.append_nil]
    have htimes := h.audioTimes
    rw [audioSamples, hsome] at htimes
    exact { h with audioScale := by simp, audioTimes := htimes }
  · refine ⟨1, { h with audioScale := ?_, audioTimes := ?_ }⟩
    · rintro _ ⟨⟩
      exact h.audioScale track hsome
    · have htimes := h.audioTimes
      rw [audioSamples, hsome, Option.map_some, Option.getD_some] at htimes
      simp [audioSamples, Mp4Track.write, htimes]

theorem matches_runVideo {closing : Bool} (h : Matches run audio video)
    (hvideo : runVideo input run = some (closing, run')) :
    ∃ n, Matches run' audio
      (video ++ List.replicate n ((input.video.map VideoMessage.info).getD {})) := by
  have hsame : ∀ info, ∃ n, Matches run audio (video ++ List.replicate n info) :=
    fun info => ⟨0, by simpa using h⟩
  rw [runVideo] at hvideo
  rcases hmsg : input.video with _ | msg
  · rw [hmsg] at hvideo
    cases hvideo
    exact hsame _
  rw [hmsg] at hvideo
  dsimp only at hvideo
  split_ifs at hvideo
  · cases hvideo
    exact hsame _
  · cases hvideo
    exact hsame _
  · rw [Option.map_eq_some_iff] at hvideo
    obtain ⟨⟨ret, run''⟩, hwrite, heq⟩ := hvideo
    cases heq
    exact matches_writeMp4Video h hwrite

theorem matches_recordRound {closing : Bool} (h : Matches r.run r.audio r.video)
    (hround : recordRound input r = some (closing, r')) : Matches r'.run r'.audio r'.video := by
  rw [recordRound, Option.map_eq_some_iff] at hround
  obtain ⟨⟨closing', run⟩, hrun, heq⟩ := hround
  cases heq
  obtain ⟨n, haudio⟩ := @matches_runAudio r.run r.audio r.video input h
  have hboth : ∃ m, Matches run
      (r.audio ++ List.replicate n ((input.audio.map AudioMessage.info).getD {}))
      (r.video ++ List.replicate m ((input.video.map VideoMessage.info).getD {})) := by
    rw [recorderThreadRun] at hrun
    split_ifs at hrun
    · exact matches_runVideo haudio hrun
    · cases hrun
      exact ⟨0, by simpa using haudio⟩
  obtain ⟨m, hboth⟩ := hboth
  have hn : (audioSamples run).length - (audioSamples r.run).length = n := by
    rw [hboth.length_audio, h.length_audio, List.length_append, List.length_replicate,
      Nat.add_sub_cancel_left]
  have hm : (videoSamples run).length - (videoSamples r.run).length = m := by
    rw [hboth.length_video, h.length_video, List.length_append, List.length_replicate,
      Nat.add_sub_cancel_left]
  rw [Recording.note, hn, hm]
  exact hboth

theorem matches_recording {inputs : List RunInput} (h : Matches r.run r.audio r.video)
    (hrun : recording inputs r = some r') : Matches r'.run r'.audio r'.video := by
  induction inputs generalizing r with
  | nil =>
      cases hrun
      exact h
  | cons input inputs ih =>
      rw [recording, Option.bind_eq_some_iff] at hrun
      obtain ⟨⟨closing, next⟩, hround, hrun⟩ := hrun
      have hnext := matches_recordRound h hround
      dsimp only at hrun
      split_ifs at hrun
      · cases hrun
        exact hnext
      · exact ih hnext hrun

/-! ### When the tracks are aligned -/

/-- In an aligned recording the audio time that was not recorded stays within the bound. -/
theorem Aligned.unrecorded_le {bound : ℕ} (haligned : Aligned bound r)
    (h : Matches r.run r.audio r.video) {first : AvDataInfo} (hfirst : first ∈ r.video.head?) {j : ℕ}
    (hj : j < r.audio.length) :
    |unrecorded (8 * first.timestamp) (r.audio.take (j + 1))| ≤ 8 * bound := by
  have htimes := h.audioTimes
  rw [audioSamples] at htimes
  rcases hsome : r.run.audioTrack with _ | track
  · rw [hsome] at htimes
    have hnil : r.audio = [] := by simpa using htimes.symm
    simp [hnil] at hj
  · rw [hsome] at htimes
    have honTime := haligned.audio first hfirst track hsome
    exact (onTime_audio_iff (h.audioScale track hsome) htimes).1 honTime j hj

/-- The tracks of a recording are aligned within a bound iff the audio time that was not recorded, from
the first key frame to each audio frame that was, stays within it. -/
theorem aligned_iff {audio : Bool} {stop : CLong} {inputs : List RunInput} {bound : ℕ}
    (hrun : recording inputs (beginRecording audio stop) = some r) (hclose : Close r.video)
    (hbound : 47000 ≤ bound) :
    Aligned bound r ↔ ∀ first ∈ r.video.head?, ∀ j < r.audio.length,
      |unrecorded (8 * first.timestamp) (r.audio.take (j + 1))| ≤ 8 * bound := by
  have h := matches_recording (matches_begin audio stop) hrun
  constructor
  · intro haligned first hfirst j hj
    exact haligned.unrecorded_le h hfirst hj
  · intro hwithin
    constructor
    · intro first hfirst track hsome
      have htimes := h.videoTimes
      rw [videoSamples, hsome] at htimes
      exact onTime_video (h.videoScale track hsome) htimes hclose hfirst hbound
    · intro first hfirst track hsome
      have htimes := h.audioTimes
      rw [audioSamples, hsome] at htimes
      exact (onTime_audio_iff (h.audioScale track hsome) htimes).2 (hwithin first hfirst)

/-! ### A recording with losses -/

/-- What is known of the key frame. -/
def keyInfo : AvDataInfo where
  fps := 20#32
  width := 1920#32
  height := 1080#32

/-- A key frame with its parameter sets. -/
def keyRound : RunInput where
  video := some {
    pack := [0#8, 0#8, 0#8, 1#8, 0x67#8, 0x64#8, 0#8, 0#8, 0#8, 1#8, 0x68#8, 0xEE#8,
      0#8, 0#8, 0#8, 1#8, 0x65#8, 0x88#8]
    info := keyInfo }

/-- An audio frame of 40 milliseconds. -/
def audioMessage (timestamp : ℕ) : AudioMessage where
  data := List.replicate 320 0xD5#8
  info := { timestamp := timestamp, size := 320 }

/-- Audio frames of which each second one was lost. -/
def lossyAudio (n : ℕ) : List AudioMessage := (List.range n).map fun i => audioMessage (80 * (i + 1))

theorem info_lossyAudio {n : ℕ} : (lossyAudio n).map AudioMessage.info =
    (List.range n).map fun i => { timestamp := 80 * (i + 1), size := 320 } := by
  rw [lossyAudio, List.map_map]
  rfl

theorem sampleOk_lossyAudio {n : ℕ} : ∀ msg ∈ lossyAudio n, msg.sampleOk = true := by
  intro msg hmsg
  rw [lossyAudio, List.mem_map] at hmsg
  obtain ⟨i, -, rfl⟩ := hmsg
  rfl

theorem recordRound_key : ∃ r, recordRound keyRound (beginRecording true 0x7FFFFFFF#64) =
    some (false, r) ∧ r.run.firstFrame = true ∧ r.run.audioTrack.isSome = true ∧ r.audio = [] ∧
      r.video = [keyInfo] := by
  have hrun : (recordRound keyRound (beginRecording true 0x7FFFFFFF#64)).any (fun x => decide
      (x.1 = false ∧ x.2.run.firstFrame = true ∧ x.2.run.audioTrack.isSome = true ∧ x.2.audio = [] ∧
        x.2.video = [keyInfo])) = true := by
    decide
  rw [Option.any_eq_true] at hrun
  obtain ⟨⟨closing, r⟩, hround, hr⟩ := hrun
  obtain ⟨hclosing, hr⟩ := of_decide_eq_true hr
  dsimp only at hclosing
  rw [hclosing] at hround
  exact ⟨r, hround, hr⟩

/-- Once the key frame is written every audio frame that is popped is. -/
theorem recording_audio (msgs : List AudioMessage) (hok : ∀ msg ∈ msgs, msg.sampleOk = true)
    (hfirst : r.run.firstFrame = true) (htrack : r.run.audioTrack.isSome = true) :
    ∃ r', recording (msgs.map fun msg => { audio := some msg }) r = some r' ∧
      r'.audio = r.audio ++ msgs.map AudioMessage.info ∧ r'.video = r.video := by
  induction msgs generalizing r with
  | nil => exact ⟨r, rfl, by simp, rfl⟩
  | cons msg msgs ih =>
      rw [List.forall_mem_cons] at hok
      obtain ⟨track, hsome⟩ := Option.isSome_iff_exists.1 htrack
      obtain ⟨r₁, hround, haudio, hvideo, hfirst₁, htrack₁⟩ : ∃ r₁,
          recordRound { audio := some msg } r = some (false, r₁) ∧
          r₁.audio = r.audio ++ [msg.info] ∧ r₁.video = r.video ∧ r₁.run.firstFrame = true ∧
          r₁.run.audioTrack.isSome = true := by
        have haudio : runAudio { audio := some msg } r.run = (true, { r.run with
            firstAudio := true
            audioTrack := some (track.write
              { data := msg.data.take msg.info.size, duration := msg.info.size, sync := true })
            lastAframeStamp := BitVec.ofNat 64 msg.info.timestamp }) := by
          simp [runAudio, writeAudio, hfirst, hok.1, hsome]
        rw [recordRound, recorderThreadRun, haudio]
        refine ⟨_, rfl, ?_, ?_, hfirst, rfl⟩
        · simp [Recording.note, audioSamples, hsome, Mp4Track.write]
        · simp [Recording.note, videoSamples]
      obtain ⟨r', hrun, haudio', hvideo'⟩ := ih hok.2 hfirst₁ htrack₁
      refine ⟨r', ?_, ?_, ?_⟩
      · rw [List.map_cons, recording, hround]
        exact hrun
      · rw [haudio', haudio]
        simp
      · rw [hvideo', hvideo]

theorem recording_lossy (n : ℕ) : ∃ r,
    recording (keyRound :: (lossyAudio n).map fun msg => { audio := some msg })
      (beginRecording true 0x7FFFFFFF#64) = some r ∧
    r.video = [keyInfo] ∧ r.audio = (lossyAudio n).map AudioMessage.info := by
  obtain ⟨r, hround, hfirst, htrack, haudio, hvideo⟩ := recordRound_key
  obtain ⟨r', hrun, haudio', hvideo'⟩ :=
    recording_audio (lossyAudio n) sampleOk_lossyAudio hfirst htrack
  refine ⟨r', ?_, hvideo'.trans hvideo, ?_⟩
  · rw [recording, hround]
    exact hrun
  · rw [haudio', haudio, List.nil_append]

/-- As much audio as was recorded was lost. -/
theorem unrecorded_lossy {n j : ℕ} (hj : j < n) :
    unrecorded 0 (((lossyAudio n).map AudioMessage.info).take (j + 1)) = 320 * j + 640 := by
  rw [info_lossyAudio]
  have hinfo : ((List.range n).map fun i => ({ timestamp := 80 * (i + 1), size := 320 } : AvDataInfo))[j]? =
      some { timestamp := 80 * (j + 1), size := 320 } := by
    simp [hj]
  have hsizes : ((List.range n).map fun i => ({ timestamp := 80 * (i + 1), size := 320 } : AvDataInfo)).map
      AvDataInfo.size = List.replicate n 320 := by
    simp [Function.comp_def]
  have hsum := sum_size_take 0 hinfo
  rw [hsizes, List.take_replicate, Nat.min_eq_left hj.le, List.sum_replicate, smul_eq_mul] at hsum
  push_cast at hsum
  linarith

/-- The condition of the theorem holds of a recording with one audio frame. -/
theorem aligned_once : ∃ inputs r,
    recording inputs (beginRecording true 0x7FFFFFFF#64) = some r ∧ r.audio ≠ [] ∧
      Aligned 47000 r := by
  obtain ⟨r, hrun, hvideo, haudio⟩ := recording_lossy 1
  refine ⟨_, r, hrun, by simp [haudio, info_lossyAudio], ?_⟩
  have hclose : Close r.video := by
    rw [hvideo]
    exact .singleton _
  apply (aligned_iff hrun hclose le_rfl).2
  intro first hfirst j hj
  rw [hvideo] at hfirst
  cases hfirst
  have hj : j < 1 := by simpa [haudio, info_lossyAudio] using hj
  have hunrecorded := unrecorded_lossy hj
  rw [haudio]
  have htime : (8 * (keyInfo.timestamp : ℤ)) = 0 := rfl
  rw [htime, hunrecorded]
  obtain rfl : j = 0 := by omega
  decide

/-- No bound works for every recording: when each second audio frame is lost the audio is written
earlier and earlier. -/
theorem not_exists_bound :
    ¬ ∃ bound, ∀ inputs r, recording inputs (beginRecording true 0x7FFFFFFF#64) = some r →
      Close r.video → Close r.audio → Aligned bound r := by
  rintro ⟨bound, hbound⟩
  obtain ⟨r, hrun, hvideo, haudio⟩ := recording_lossy (bound + 1)
  have hcloseVideo : Close r.video := by
    rw [hvideo]
    exact .singleton _
  have hcloseAudio : Close r.audio := by
    rw [haudio, info_lossyAudio, Close, List.isChain_iff_getElem]
    intro i hi
    simp only [List.getElem_map, List.getElem_range]
    omega
  have haligned := hbound _ r hrun hcloseVideo hcloseAudio
  have hfirst : keyInfo ∈ r.video.head? := by simp [hvideo]
  have hwithin := haligned.unrecorded_le (matches_recording (matches_begin _ _) hrun) hfirst
    (j := bound) (by simp [haudio, info_lossyAudio])
  have htime : (8 * (keyInfo.timestamp : ℤ)) = 0 := rfl
  rw [htime, haudio, unrecorded_lossy (Nat.lt_succ_self bound), abs_le] at hwithin
  omega

end GokeWebcam.Server.Recorder.Sample
