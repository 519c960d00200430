import GokeWebcam.Common.H264
import GokeWebcam.Server.RecorderFile

/-!
# The samples of a recording

What `recorder_thread_write_mp4_video` and `recorder_thread_run` write: the bytes of a frame, and
the tracks of the MP4 file with their samples. The library keeps what it is given; whether a call
succeeds is an input. The profile, the level and the size that a track is created with are left out.

* `recorderThreadWriteMp4Video`, `recorderThreadRun`: a frame, and a round of the thread.
* `recorderThreadRun_refines`: seen without the bytes they are the functions of
  `Server/RecorderFile.lean`.
-/

namespace GokeWebcam.Server.Recorder.Sample

open Lib Common Device

/-! ### Tracks -/

/-- A sample of a track; the times count in the time scale of the track. -/
structure Mp4Sample where
  data : List Byte
  duration : ℕ
  sync : Bool
  deriving DecidableEq, Repr

/-- A track, with the parameter sets that were added to a video track. -/
structure Mp4Track where
  video : Bool
  timeScale : ℕ
  samples : List Mp4Sample := []
  sps : List (List Byte) := []
  pps : List (List Byte) := []
  deriving DecidableEq, Repr

/-- `MP4WriteSample` -/
def Mp4Track.write (track : Mp4Track) (sample : Mp4Sample) : Mp4Track :=
  { track with samples := track.samples ++ [sample] }

/-! ### Frames -/

/-- What is known of a frame; the milliseconds are counted from the start of the device.
Source: `server/goke/goke_interface.h` `av_data_info_t` -/
structure AvDataInfo where
  timestamp : ℕ := 0
  fps : CInt := 0#32
  width : CInt := 0#32
  height : CInt := 0#32
  size : ℕ := 0
  deriving DecidableEq, Repr

/-- What is answered when the unit at a place of a frame is written: whether its track, its memory
and its sample are got, and the times that are read. -/
structure NaluAnswer where
  trackOk : Bool := true
  mallocOk : Bool := true
  sampleOk : Bool := true
  startNow : CLong := 0#64
  writeNow : CLong := 0#64
  deriving DecidableEq, Repr

/-- A message with a video frame. -/
structure VideoMessage where
  pack : List Byte
  info : AvDataInfo
  answer : ℕ → NaluAnswer := fun _ => {}

/-- A message with an audio frame, and whether its sample is written. -/
structure AudioMessage where
  data : List Byte
  info : AvDataInfo
  sampleOk : Bool := true

/-- The record of the thread, with the two tracks of its file.
Source: `server/recorder/recorder_interface.h` `recorder_run_t` -/
structure SampleRun extends RecorderRun where
  audioTrack : Option Mp4Track := none
  videoTrack : Option Mp4Track := none
  firstAudio : Bool := false
  firstFrameStamp : CLong := 0#64
  lastVframeStamp : CLong := 0#64
  lastAframeStamp : CLong := 0#64
  deriving DecidableEq, Repr

/-! ### Writing -/

/-- The length in front of a unit.
Source: `server/recorder/recorder.c` `recorder_thread_write_mp4_video`, `data[0] = nalu.size >> 24` -/
def lengthBytes (size : ℕ) : List Byte :=
  [BitVec.ofNat 8 (size >>> 24), BitVec.ofNat 8 (size >>> 16), BitVec.ofNat 8 (size >>> 8),
    BitVec.ofNat 8 size]

/-- Source: `server/recorder/recorder.c` `recorder_thread_write_mp4_video`,
`(avinfo->timestamp - ctrl->run.last_vframe_stamp) * 90000 / 1000` -/
def stampDuration (timestamp : ℕ) (last : CLong) : CLong :=
  (BitVec.ofNat 64 timestamp - last) * 90000#64 / 1000#64

/-- The duration of a slice; there is none for the first one of a frame without a rate.
Source: `server/recorder/recorder.c` `recorder_thread_write_mp4_video` -/
def sliceDuration (info : AvDataInfo) (run : SampleRun) : Option ℕ :=
  if run.firstFrame then some (stampDuration info.timestamp run.lastVframeStamp).toNat
  else if info.fps = 0#32 then none
  else some (90000#32 / info.fps).toNat

/-- What is kept of the first frame, the times, and the sample.
Source: `server/recorder/recorder.c` `recorder_thread_write_mp4_video`, after `MP4WriteSample` -/
def writeSlice (info : AvDataInfo) (answer : NaluAnswer) (sample : Mp4Sample) (run : SampleRun) :
    SampleRun :=
  let run : SampleRun :=
    { run with videoTrack := run.videoTrack.map fun track => track.write sample }
  let run :=
    if !run.firstFrame ∧ sample.sync then
      { run with
        realStart := answer.startNow, firstFrame := true
        fps := info.fps, width := info.width, height := info.height
        firstFrameStamp := BitVec.ofNat 64 info.timestamp }
    else run
  { run with lastWrite := answer.writeNow, lastVframeStamp := BitVec.ofNat 64 info.timestamp }

/-- One unit; `error` returns from the function, without a value where a division by zero ends the
program.
Source: `server/recorder/recorder.c` `recorder_thread_write_mp4_video`, `switch (nalu.type)` -/
def writeNalu (msg : VideoMessage) (run : SampleRun) (nalu : NaluUnit) :
    Except (Option (CInt × SampleRun)) SampleRun :=
  let answer := msg.answer nalu.data
  let data := (msg.pack.drop nalu.data).take nalu.size
  if nalu.type = 7#8 then
    if run.spsRead then .ok run
    else if !answer.trackOk then .error (some (-1#32, { run with videoTrack := none }))
    else .ok { run with
      spsRead := true, videoTrack := some { video := true, timeScale := 90000, sps := [data] } }
  else if nalu.type = 8#8 then
    if run.ppsRead then .ok run
    else if !run.spsRead then .ok run
    else .ok { run with
      ppsRead := true
      videoTrack := run.videoTrack.map fun track => { track with pps := track.pps ++ [data] } }
  else if nalu.type = 1#8 ∨ nalu.type = 5#8 then
    if !run.spsRead ∨ !run.ppsRead then .error (some (-2#32, run))
    else if !answer.mallocOk then .error (some (-1#32, run))
    else if nalu.type ≠ 5#8 ∧ !run.firstFrame then .error (some (-2#32, run))
    else
      match sliceDuration msg.info run with
      | none => .error none
      | some duration =>
        if !answer.sampleOk then .error (some (-1#32, run))
        else .ok (writeSlice msg.info answer
          { data := lengthBytes nalu.size ++ data, duration := duration, sync := nalu.type = 5#8 }
          run)
  else .ok run

/-- Source: `server/recorder/recorder.c` `recorder_thread_write_mp4_video` -/
def recorderThreadWriteMp4Video (msg : VideoMessage) (run : SampleRun) : Option (CInt × SampleRun) :=
  (naluLoop msg.pack (writeNalu msg) (msg.pack.length + 1) 0 {} run).bind fun
    | .ok r => some (0#32, r.1)
    | .error r => r

/-- Source: `server/recorder/recorder.c` `recorder_thread_run`, `if (!ret_audio)` -/
def writeAudio (msg : AudioMessage) (run : SampleRun) : Bool × SampleRun :=
  if !run.firstFrame then (true, run)
  else
    let run := { run with firstAudio := true }
    if !msg.sampleOk then (false, run)
    else
      let sample := { data := msg.data.take msg.info.size, duration := msg.info.size, sync := true }
      (true, { run with
        audioTrack := run.audioTrack.map fun track => track.write sample
        lastAframeStamp := BitVec.ofNat 64 msg.info.timestamp })

/-- What a round of `recorder_thread_run` meets: the time, and the frames that are popped. -/
structure RunInput where
  now : CLong := 0#64
  audio : Option AudioMessage := none
  video : Option VideoMessage := none

/-- The audio frame of a round; `false` goes to `close_exit`. -/
def runAudio (input : RunInput) (run : SampleRun) : Bool × SampleRun :=
  match input.audio with
  | none => (true, run)
  | some msg => writeAudio msg run

/-- The video frame of a round: whether it goes to `close_exit`, and the record then.
Source: `server/recorder/recorder.c` `recorder_thread_run`, `if (!ret_video)` -/
def runVideo (input : RunInput) (run : SampleRun) : Option (Bool × SampleRun) :=
  match input.video with
  | none => some (false, run)
  | some msg =>
    if run.firstFrame ∧ msg.info.fps ≠ run.fps then some (true, run)
    else if run.firstFrame ∧ (msg.info.width ≠ run.width ∨ msg.info.height ≠ run.height) then
      some (true, run)
    else
      (recorderThreadWriteMp4Video msg run).map fun r =>
        (decide (r.1 ≠ -1#32 ∧ r.2.stop.sle input.now), r.2)

/-- Source: `server/recorder/recorder.c` `recorder_thread_run` -/
def recorderThreadRun (input : RunInput) (run : SampleRun) : Option (Bool × SampleRun) :=
  if (runAudio input run).1 then runVideo input (runAudio input run).2
  else some (true, (runAudio input run).2)

/-- The rounds of a recording, until the file is closed. -/
def recordRounds : List RunInput → SampleRun → Option SampleRun
  | [], run => some run
  | input :: inputs, run =>
    (recorderThreadRun input run).bind fun r =>
      if r.1 then some r.2 else recordRounds inputs r.2

/-- The file with its tracks, in the order in which they are added.
Source: `server/recorder/recorder.c` `recorder_thread_init_mp4v2`, `recorder_thread_write_mp4_video` -/
def tracks (run : SampleRun) : List Mp4Track := run.audioTrack.toList ++ run.videoTrack.toList

/-- A file that has just been created.
Source: `server/recorder/recorder.c` `recorder_thread_init_mp4v2` -/
def initMp4 (audio : Bool) (stop : CLong) : SampleRun where
  mp4File := true
  stop := stop
  audioTrack := if audio then some { video := false, timeScale := 8000 } else none

/-! ### Without the bytes -/

/-- A unit without its bytes. -/
def toNalu (answer : ℕ → NaluAnswer) (nalu : NaluUnit) : Nalu where
  type := nalu.type.toNat
  trackOk := (answer nalu.data).trackOk
  mallocOk := (answer nalu.data).mallocOk
  sampleOk := (answer nalu.data).sampleOk
  startNow := (answer nalu.data).startNow
  writeNow := (answer nalu.data).writeNow

/-- A frame without its bytes, from the units that are read of it. -/
def toFrame (msg : VideoMessage) (nalus : List NaluUnit) : VideoFrame where
  nalus := nalus.map (toNalu msg.answer)
  fps := msg.info.fps
  width := msg.info.width
  height := msg.info.height

variable {msg : VideoMessage} {run run' : SampleRun} {nalu : NaluUnit} {nalus : List NaluUnit}
  {ret : CInt}

theorem toNat_type_eq {n : ℕ} {b : Byte} (hb : b.toNat = n) :
    (toNalu msg.answer nalu).type = n ↔ nalu.type = b := by
  rw [← hb]
  exact BitVec.toNat_inj

/-- What a unit does to the record without the bytes, and to what the function returns. -/
theorem writeNalu_refines {frame : VideoFrame} (hfps : frame.fps = msg.info.fps)
    (hwidth : frame.width = msg.info.width) (hheight : frame.height = msg.info.height)
    (rest : List Nalu) :
    match writeNalu msg run nalu with
    | .ok run' =>
      Recorder.recorderThreadWriteMp4Video frame (toNalu msg.answer nalu :: rest)
        run.toRecorderRun = Recorder.recorderThreadWriteMp4Video frame rest run'.toRecorderRun
    | .error (some (ret, run')) =>
      Recorder.recorderThreadWriteMp4Video frame (toNalu msg.answer nalu :: rest)
        run.toRecorderRun = (ret, run'.toRecorderRun)
    | .error none => True := by
  have h7 : (toNalu msg.answer nalu).type = 7 ↔ nalu.type = 7#8 := toNat_type_eq rfl
  have h8 : (toNalu msg.answer nalu).type = 8 ↔ nalu.type = 8#8 := toNat_type_eq rfl
  have h1 : (toNalu msg.answer nalu).type = 1 ↔ nalu.type = 1#8 := toNat_type_eq rfl
  have h5 : (toNalu msg.answer nalu).type = 5 ↔ nalu.type = 5#8 := toNat_type_eq rfl
  rw [writeNalu, Recorder.recorderThreadWriteMp4Video]
  simp only [h7, h8, h1, h5, ne_eq]
  by_cases hsps : nalu.type = 7#8
  · simp only [if_pos hsps]
    by_cases hread : run.spsRead = true
    · simp only [if_pos hread]
    · simp only [if_neg hread]
      by_cases htrack : (!(msg.answer nalu.data).trackOk) = true
      · simp only [if_pos htrack]
        exact if_pos htrack
      · simp only [if_neg htrack]
        exact if_neg htrack
  simp only [if_neg hsps]
  by_cases hpps : nalu.type = 8#8
  · simp only [if_pos hpps]
    by_cases hread : run.ppsRead = true
    · simp only [if_pos hread]
    · simp only [if_neg hread]
      by_cases hnone : (!run.spsRead) = true
      · simp only [if_pos hnone]
      · simp only [if_neg hnone]
  simp only [if_neg hpps]
  by_cases hslice : nalu.type = 1#8 ∨ nalu.type = 5#8
  · simp only [if_pos hslice]
    by_cases hready : (!run.spsRead) = true ∨ (!run.ppsRead) = true
    · simp only [if_pos hready]
    simp only [if_neg hready]
    by_cases hmalloc : (!(msg.answer nalu.data).mallocOk) = true
    · simp only [if_pos hmalloc]
      exact if_pos hmalloc
    simp only [if_neg hmalloc]
    by_cases hbefore : ¬ nalu.type = 5#8 ∧ (!run.firstFrame) = true
    · simp only [if_pos hbefore]
      exact if_neg hmalloc
    simp only [if_neg hbefore]
    rcases sliceDuration msg.info run with _ | duration
    · trivial
    by_cases hsample : (!(msg.answer nalu.data).sampleOk) = true
    · simp only [if_pos hsample]
      exact (if_neg hmalloc).trans (if_pos hsample)
    simp only [if_neg hsample]
    refine (if_neg hmalloc).trans ((if_neg hsample).trans ?_)
    simp only [writeSlice, toNalu, decide_eq_true_eq, hfps, hwidth, hheight]
    split_ifs
    · rfl
    · rfl
  · simp only [if_neg hslice]

/-- The fold over the units, without the bytes. -/
theorem foldlM_writeNalu_refines {frame : VideoFrame} (hfps : frame.fps = msg.info.fps)
    (hwidth : frame.width = msg.info.width) (hheight : frame.height = msg.info.height) :
    match nalus.foldlM (writeNalu msg) run with
    | .ok run' => Recorder.recorderThreadWriteMp4Video frame (nalus.map (toNalu msg.answer))
        run.toRecorderRun = (0#32, run'.toRecorderRun)
    | .error (some (ret, run')) => Recorder.recorderThreadWriteMp4Video frame
        (nalus.map (toNalu msg.answer)) run.toRecorderRun = (ret, run'.toRecorderRun)
    | .error none => True := by
  induction nalus generalizing run with
  | nil => rfl
  | cons nalu nalus ih =>
      have hunit := @writeNalu_refines msg run nalu frame hfps hwidth hheight
        (nalus.map (toNalu msg.answer))
      rw [List.foldlM_cons, List.map_cons]
      rcases hwrite : writeNalu msg run nalu with (_ | ⟨ret, run'⟩) | run'
      · trivial
      · rw [hwrite] at hunit
        exact hunit
      · rw [hwrite] at hunit
        have hrest := @ih run'
        change match nalus.foldlM (writeNalu msg) run' with
          | .ok run'' => _ | .error (some (ret, run'')) => _ | .error none => True
        rcases hfold : nalus.foldlM (writeNalu msg) run' with (_ | ⟨ret, run''⟩) | run''
        · trivial
        · rw [hfold] at hrest
          exact hunit.trans hrest
        · rw [hfold] at hrest
          exact hunit.trans hrest

/-- A frame, without the bytes. -/
theorem recorderThreadWriteMp4Video_refines {n : ℕ}
    (hread : readNalus msg.pack = some (.ok (nalus, n)))
    (h : recorderThreadWriteMp4Video msg run = some (ret, run')) :
    Recorder.recorderThreadWriteMp4Video (toFrame msg nalus) (toFrame msg nalus).nalus
      run.toRecorderRun = (ret, run'.toRecorderRun) := by
  obtain ⟨_, hall, hbody⟩ := naluLoop_eq_foldlM hread
  rw [List.nil_append] at hall
  subst hall
  rw [recorderThreadWriteMp4Video, hbody, Option.bind_some] at h
  have hfold := @foldlM_writeNalu_refines msg run nalus (toFrame msg nalus) rfl rfl rfl
  rcases hresult : nalus.foldlM (writeNalu msg) run with (_ | ⟨ret', run''⟩) | run''
  · rw [hresult] at h
    cases h
  · rw [hresult] at h hfold
    cases h
    exact hfold
  · rw [hresult] at h hfold
    cases h
    exact hfold

/-- What a round of the thread meets, without the bytes. -/
def toInput (input : RunInput) (nalus : List NaluUnit) : FileInput where
  now := input.now
  audio := input.audio.map AudioMessage.sampleOk
  video := input.video.map fun msg => toFrame msg nalus

/-- The audio frame of a round changes nothing that is seen without the bytes. -/
theorem runAudio_refines {input : RunInput} :
    (runAudio input run).2.toRecorderRun = run.toRecorderRun ∧
      ((runAudio input run).1 = false ↔
        (toInput input nalus).audio = some false ∧ run.firstFrame = true) := by
  rw [runAudio, toInput]
  rcases input.audio with _ | msg
  · simp
  · dsimp only [Option.map_some]
    rw [writeAudio]
    split_ifs with hbefore hsample
    · rw [Bool.not_eq_true'] at hbefore
      simp [hbefore]
    · simp_all
    · simp_all

/-- A round of the thread, without the bytes. -/
theorem recorderThreadRun_refines {input : RunInput} {ctrl : RecorderCtrl} {closing : Bool} {n : ℕ}
    (hctrl : ctrl.run = run.toRecorderRun)
    (hread : ∀ msg ∈ input.video, readNalus msg.pack = some (.ok (nalus, n)))
    (h : recorderThreadRun input run = some (closing, run')) :
    Recorder.recorderThreadRun (toInput input nalus) ctrl =
      { ctrl with run := run'.toRecorderRun, pc := if closing then .closeExit else ctrl.pc } := by
  obtain ⟨hsame, haudio⟩ := @runAudio_refines run nalus input
  rw [recorderThreadRun] at h
  rw [Recorder.recorderThreadRun, hctrl, ← hsame]
  rcases hok : (runAudio input run).1
  · rw [hok, if_neg (by decide)] at h
    cases h
    rw [hsame, if_pos (haudio.mp hok), if_pos rfl, ← hctrl]
  have hgo : ¬ ((toInput input nalus).audio = some false ∧
      (runAudio input run).2.toRecorderRun.firstFrame = true) := by
    rw [hsame]
    exact fun hstop => absurd (haudio.mpr hstop) (by rw [hok]; decide)
  rw [hok, if_pos rfl, runVideo] at h
  rw [if_neg hgo]
  rcases hvideo : input.video with _ | msg
  · rw [hvideo] at h
    cases h
    have hnone : (toInput input nalus).video = none := by rw [toInput, hvideo]; rfl
    rw [hnone, hsame, ← hctrl]
    rfl
  · have hsome : (toInput input nalus).video = some (toFrame msg nalus) := by
      rw [toInput, hvideo]
      rfl
    rw [hvideo] at h
    rw [hsome]
    dsimp only at h ⊢
    by_cases hfps : (runAudio input run).2.firstFrame = true ∧
        msg.info.fps ≠ (runAudio input run).2.fps
    · rw [if_pos hfps] at h
      cases h
      exact if_pos hfps
    by_cases hsize : (runAudio input run).2.firstFrame = true ∧
        (msg.info.width ≠ (runAudio input run).2.width ∨
          msg.info.height ≠ (runAudio input run).2.height)
    · rw [if_neg hfps, if_pos hsize] at h
      cases h
      exact (if_neg hfps).trans (if_pos hsize)
    rw [if_neg hfps, if_neg hsize, Option.map_eq_some_iff] at h
    obtain ⟨⟨ret, run''⟩, hwrite, hr⟩ := h
    cases hr
    refine (if_neg hfps).trans ((if_neg hsize).trans ?_)
    rw [recorderThreadWriteMp4Video_refines (hread msg hvideo) hwrite]
    dsimp only
    by_cases hret : ret = -1#32
    · simp [hret]
    · rw [if_neg hret]
      by_cases hstop : run''.stop.sle input.now
      · rw [decide_eq_true ⟨hret, hstop⟩, if_pos rfl]
        exact if_pos hstop
      · rw [decide_eq_false fun h => hstop h.2]
        exact if_neg hstop

/-! ### Recordings -/

/-- A frame as a coder makes it: parameter sets, then slices of one kind. -/
structure CodedFrame where
  params : List NalUnit
  slices : List NalUnit
  idr : Bool
  params_type : ∀ unit ∈ params, unit.type = 7#8 ∨ unit.type = 8#8
  slices_type : ∀ unit ∈ slices, unit.type = if idr then 5#8 else 1#8

/-- The bytes of a frame. -/
def CodedFrame.pack (frame : CodedFrame) : List Byte := annexB (frame.params ++ frame.slices)

/-- There is a slice to begin a recording with. -/
def CodedFrame.Key (frame : CodedFrame) : Prop :=
  frame.idr = true ∧ frame.slices.isEmpty = false

instance (frame : CodedFrame) : Decidable frame.Key := inferInstanceAs (Decidable (_ ∧ _))

/-- The rate and the size of the frames of a camera. -/
structure Camera where
  fps : CInt
  width : CInt
  height : CInt
  fps_ne : fps ≠ 0#32

/-- A round of a recording in which every call succeeds. -/
structure CodedRound where
  now : CLong
  audio : Option AudioMessage
  frame : Option CodedFrame
  timestamp : ℕ
  startNow : ℕ → CLong
  writeNow : ℕ → CLong

/-- The message with the frame of a round. -/
def CodedRound.message (camera : Camera) (round : CodedRound) (frame : CodedFrame) :
    VideoMessage where
  pack := frame.pack
  info := { timestamp := round.timestamp, fps := camera.fps, width := camera.width
            height := camera.height, size := frame.pack.length }
  answer := fun i => { startNow := round.startNow i, writeNow := round.writeNow i }

/-- What a round meets with the frames of a camera. -/
def CodedRound.input (camera : Camera) (round : CodedRound) : RunInput where
  now := round.now
  audio := round.audio.map fun msg => { msg with sampleOk := true }
  video := round.frame.map (round.message camera)

/-- The frames of a recording, the last one of which is the first to be written after its end. -/
def framesOf (stop : CLong) : List CodedRound → List CodedFrame
  | [] => []
  | round :: rounds =>
    match round.frame with
    | none => framesOf stop rounds
    | some frame => frame :: if stop.sle round.now then [] else framesOf stop rounds

/-- The sample of a slice. -/
def sampleBytes (unit : NalUnit) : List Byte × Bool :=
  (lengthBytes unit.bytes.length ++ unit.bytes, unit.type = 5#8)

/-- What is in a file: its parameter sets, and the slices that have a sample. -/
structure Recorded where
  sps : Option NalUnit := none
  pps : Option NalUnit := none
  slices : List NalUnit := []

/-- The first parameter set of a kind is kept, the second kind once there is one of the first. -/
def Recorded.param (file : Recorded) (unit : NalUnit) : Recorded :=
  if unit.type = 7#8 then { file with sps := file.sps.or (some unit) }
  else if file.sps.isSome then { file with pps := file.pps.or (some unit) }
  else file

/-- Whether slices are kept: when the parameter sets are there, from a key frame on. -/
def Recorded.Keeps (file : Recorded) (idr : Bool) : Prop :=
  file.pps.isSome = true ∧ (idr = true ∨ file.slices ≠ [])

instance (file : Recorded) (idr : Bool) : Decidable (file.Keeps idr) :=
  match h : file.slices with
  | [] => decidable_of_iff (file.pps.isSome = true ∧ idr = true) (by simp [Recorded.Keeps, h])
  | _ :: _ => decidable_of_iff (file.pps.isSome = true) (by simp [Recorded.Keeps, h])

def Recorded.keep (file : Recorded) (frame : CodedFrame) : Recorded :=
  if file.Keeps frame.idr then { file with slices := file.slices ++ frame.slices } else file

/-- What is kept of a frame. -/
def Recorded.frame (file : Recorded) (frame : CodedFrame) : Recorded :=
  (frame.params.foldl Recorded.param file).keep frame

/-- What the thread's record says about the file. -/
structure Holds (camera : Camera) (stop : CLong) (file : Recorded) (run : SampleRun) : Prop where
  stop : run.stop = stop
  audio : ∀ track ∈ run.audioTrack, track.video = false
  spsRead : run.spsRead = file.sps.isSome
  ppsRead : run.ppsRead = file.pps.isSome
  order : file.pps.isSome = true → file.sps.isSome = true
  begun : file.slices ≠ [] → file.pps.isSome = true
  firstFrame : run.firstFrame = true ↔ file.slices ≠ []
  camera : run.firstFrame = true →
    run.fps = camera.fps ∧ run.width = camera.width ∧ run.height = camera.height
  track : run.videoTrack.map (fun track =>
      (track.video, track.timeScale, track.sps, track.pps,
        track.samples.map fun sample => (sample.data, sample.sync))) =
    file.sps.map fun unit =>
      (true, 90000, [unit.bytes], (file.pps.map NalUnit.bytes).toList, file.slices.map sampleBytes)

/-- A frame of the camera for which every call succeeds. -/
structure Camera.Sees (camera : Camera) (msg : VideoMessage) : Prop where
  fps : msg.info.fps = camera.fps
  width : msg.info.width = camera.width
  height : msg.info.height = camera.height
  trackOk : ∀ i, (msg.answer i).trackOk = true
  mallocOk : ∀ i, (msg.answer i).mallocOk = true
  sampleOk : ∀ i, (msg.answer i).sampleOk = true

variable {camera : Camera} {stop : CLong} {file : Recorded} {unit : NalUnit}

/-- A parameter set. -/
theorem holds_param (hsees : camera.Sees msg) (hplaced : Placed msg.pack nalu unit)
    (htype : unit.type = 7#8 ∨ unit.type = 8#8) (h : Holds camera stop file run) :
    ∃ run', writeNalu msg run nalu = .ok run' ∧ Holds camera stop (file.param unit) run' := by
  rw [writeNalu, hplaced.type, hplaced.bytes, Recorded.param]
  by_cases hsps : unit.type = 7#8
  · rw [if_pos hsps, if_pos hsps]
    rcases hfile : file.sps with _ | sps
    · have hread : ¬ run.spsRead = true := by rw [h.spsRead, hfile]; decide
      have hpps : file.pps = none := by
        rw [← Option.not_isSome_iff_eq_none]
        intro hsome
        exact absurd (h.order hsome) (by rw [hfile]; decide)
      have hnew : file.slices = [] := by
        by_contra hslices
        exact absurd (h.begun hslices) (by rw [hpps]; decide)
      rw [if_neg hread, hsees.trackOk]
      exact ⟨_, rfl, h.stop, h.audio, rfl, h.ppsRead, fun _ => rfl, h.begun, h.firstFrame, h.camera,
        by simp [hpps, hnew]⟩
    · have hread : run.spsRead = true := by rw [h.spsRead, hfile]; rfl
      rw [if_pos hread, Option.some_or, ← hfile]
      exact ⟨run, rfl, h⟩
  · have hpps : unit.type = 8#8 := htype.resolve_left hsps
    rw [if_neg hsps, if_neg hsps, if_pos hpps]
    rcases hfile : file.sps with _ | sps
    · have hread : ¬ run.ppsRead = true := by
        rw [h.ppsRead]
        exact fun hsome => absurd (h.order hsome) (by rw [hfile]; decide)
      have hnone : (!run.spsRead) = true := by rw [h.spsRead, hfile]; rfl
      rw [if_neg hread, if_pos hnone, Option.isSome_none, if_neg (by decide)]
      exact ⟨run, rfl, h⟩
    rw [Option.isSome_some, if_pos rfl]
    rcases hold : file.pps with _ | pps
    · have hread : ¬ run.ppsRead = true := by rw [h.ppsRead, hold]; decide
      have hsome : ¬ (!run.spsRead) = true := by rw [h.spsRead, hfile]; simp
      have hnew : file.slices = [] := by
        by_contra hslices
        exact absurd (h.begun hslices) (by rw [hold]; decide)
      have htrack := h.track
      rw [hfile, hold, hnew] at htrack
      obtain ⟨track, htrack, heq⟩ := Option.map_eq_some_iff.mp htrack
      simp only [Prod.mk.injEq] at heq
      rw [if_neg hread, if_neg hsome]
      refine ⟨_, rfl, h.stop, h.audio, h.spsRead.trans (by rw [hfile]), rfl, fun _ => rfl,
        fun _ => rfl, h.firstFrame, h.camera, ?_⟩
      simp [htrack, heq, hnew]
    · have hread : run.ppsRead = true := by rw [h.ppsRead, hold]; rfl
      rw [if_pos hread, Option.some_or, ← hold, ← hfile]
      exact ⟨run, rfl, h⟩

/-- What writing a slice leaves alone, and what it adds. -/
theorem writeSlice_spec {info : AvDataInfo} {answer : NaluAnswer} {sample : Mp4Sample}
    (h : writeSlice info answer sample run = run') :
    (run'.stop = run.stop ∧ run'.audioTrack = run.audioTrack ∧ run'.spsRead = run.spsRead ∧
      run'.ppsRead = run.ppsRead) ∧
    run'.videoTrack = run.videoTrack.map (Mp4Track.write · sample) ∧
    if run.firstFrame ∨ sample.sync = false then
      run'.firstFrame = run.firstFrame ∧ run'.fps = run.fps ∧ run'.width = run.width ∧
        run'.height = run.height
    else
      run'.firstFrame = true ∧ run'.fps = info.fps ∧ run'.width = info.width ∧
        run'.height = info.height := by
  rw [← h, writeSlice]
  rcases hfirst : run.firstFrame <;> rcases hsync : sample.sync <;> simp [hfirst]

theorem slice_type {idr : Bool} (htype : unit.type = if idr then 5#8 else 1#8) :
    unit.type ≠ 7#8 ∧ unit.type ≠ 8#8 ∧ (unit.type = 1#8 ∨ unit.type = 5#8) ∧
      (unit.type = 5#8 ↔ idr = true) := by
  rcases idr <;> rw [htype] <;> decide

/-- A slice that is kept. -/
theorem holds_slice {idr : Bool} (hsees : camera.Sees msg) (hplaced : Placed msg.pack nalu unit)
    (htype : unit.type = if idr then 5#8 else 1#8) (hkeeps : file.Keeps idr)
    (h : Holds camera stop file run) :
    ∃ run', writeNalu msg run nalu = .ok run' ∧
      Holds camera stop { file with slices := file.slices ++ [unit] } run' := by
  obtain ⟨h7, h8, hslice, h5⟩ := slice_type htype
  obtain ⟨hready, hbegun⟩ := hkeeps
  have hsps := h.order hready
  have hsets : ¬ ((!run.spsRead) = true ∨ (!run.ppsRead) = true) := by
    rw [h.spsRead, h.ppsRead, hsps, hready]
    decide
  have hbefore : ¬ (unit.type ≠ 5#8 ∧ (!run.firstFrame) = true) := by
    rintro ⟨hkey, hfirst⟩
    rcases hbegun with hidr | hbegun
    · exact hkey (h5.mpr hidr)
    · simp [h.firstFrame.mpr hbegun] at hfirst
  obtain ⟨duration, hduration⟩ : ∃ d, sliceDuration msg.info run = some d := by
    rw [sliceDuration, hsees.fps, if_neg camera.fps_ne]
    split_ifs
    · exact ⟨_, rfl⟩
    · exact ⟨_, rfl⟩
  rw [writeNalu, hplaced.type, hplaced.bytes, hplaced.size, if_neg h7, if_neg h8, if_pos hslice,
    if_neg hsets, hsees.mallocOk, if_neg (by decide), if_neg hbefore, hduration]
  dsimp only
  rw [hsees.sampleOk, if_neg (by decide)]
  refine ⟨_, rfl, ?_⟩
  generalize hrun' : writeSlice _ _ _ run = run'
  obtain ⟨⟨hstop, haudio, hspsRead, hppsRead⟩, htrack, hfirst⟩ := writeSlice_spec hrun'
  have hnow : run'.firstFrame = true ∧ run'.fps = camera.fps ∧ run'.width = camera.width ∧
      run'.height = camera.height := by
    by_cases hold : run.firstFrame = true
    · rw [if_pos (.inl hold)] at hfirst
      obtain ⟨h1, h2, h3, h4⟩ := hfirst
      obtain ⟨hfps, hwidth, hheight⟩ := h.camera hold
      exact ⟨h1.trans hold, h2.trans hfps, h3.trans hwidth, h4.trans hheight⟩
    · have hkey : unit.type = 5#8 := by
        by_contra hkey
        exact hbefore ⟨hkey, by simpa using hold⟩
      rw [if_neg (by simp [hold, hkey])] at hfirst
      obtain ⟨h1, h2, h3, h4⟩ := hfirst
      exact ⟨h1, h2.trans hsees.fps, h3.trans hsees.width, h4.trans hsees.height⟩
  refine ⟨hstop.trans h.stop, by rw [haudio]; exact h.audio, hspsRead.trans h.spsRead, hppsRead.trans h.ppsRead, h.order,
    fun _ => hready, ⟨fun _ => by simp, fun _ => hnow.1⟩, fun _ => hnow.2, ?_⟩
  obtain ⟨sps, hsps⟩ := Option.isSome_iff_exists.mp hsps
  have hold := h.track
  rw [hsps] at hold
  obtain ⟨track, hrun, heq⟩ := Option.map_eq_some_iff.mp hold
  simp only [Prod.mk.injEq] at heq
  rw [htrack, hrun]
  simp [Mp4Track.write, heq, hsps, sampleBytes]

/-- A slice that is not kept ends the frame. -/
theorem writeNalu_refused {idr : Bool} (hsees : camera.Sees msg)
    (hplaced : Placed msg.pack nalu unit) (htype : unit.type = if idr then 5#8 else 1#8)
    (hrefused : ¬ file.Keeps idr) (h : Holds camera stop file run) :
    writeNalu msg run nalu = .error (some (-2#32, run)) := by
  obtain ⟨h7, h8, hslice, h5⟩ := slice_type htype
  rw [writeNalu, hplaced.type, if_neg h7, if_neg h8, if_pos hslice]
  by_cases hsets : (!run.spsRead) = true ∨ (!run.ppsRead) = true
  · rw [if_pos hsets]
  · have hready : file.pps.isSome = true := by
      rw [← h.ppsRead]
      simpa using (not_or.mp hsets).2
    have hidr : idr ≠ true := fun hidr => hrefused ⟨hready, .inl hidr⟩
    have hfirst : run.firstFrame ≠ true := fun hfirst =>
      hrefused ⟨hready, .inr (h.firstFrame.mp hfirst)⟩
    rw [if_neg hsets, hsees.mallocOk, if_neg (by decide),
      if_pos ⟨fun hkey => hidr (h5.mp hkey), by simpa using hfirst⟩]

/-! ### The run of a recording -/

/-- The slices of a frame that are kept. -/
theorem holds_slices {idr : Bool} {slices : List NalUnit} (hsees : camera.Sees msg)
    (hplaced : List.Forall₂ (Placed msg.pack) nalus slices)
    (htype : ∀ unit ∈ slices, unit.type = if idr then 5#8 else 1#8)
    (hkeeps : file.Keeps idr) (h : Holds camera stop file run) :
    ∃ run', nalus.foldlM (writeNalu msg) run = .ok run' ∧
      Holds camera stop { file with slices := file.slices ++ slices } run' := by
  induction hplaced generalizing file run with
  | nil => exact ⟨run, rfl, by simpa using h⟩
  | @cons nalu unit nalus units hfirst _ ih =>
      obtain ⟨run₁, hwrite, h₁⟩ :=
        holds_slice hsees hfirst (htype _ List.mem_cons_self) hkeeps h
      obtain ⟨run₂, hrest, h₂⟩ := @ih run₁ { file with slices := file.slices ++ [unit] }
        (fun unit hmem => htype unit (List.mem_cons_of_mem _ hmem)) ⟨hkeeps.1, .inr (by simp)⟩ h₁
      refine ⟨run₂, ?_, by simpa using h₂⟩
      rw [List.foldlM_cons, hwrite]
      exact hrest

/-- A frame leaves what is kept of it, and no call fails. -/
theorem holds_units {frame : CodedFrame} {params : List NalUnit} (hsees : camera.Sees msg)
    (hplaced : List.Forall₂ (Placed msg.pack) nalus (params ++ frame.slices))
    (htype : ∀ unit ∈ params, unit.type = 7#8 ∨ unit.type = 8#8)
    (h : Holds camera stop file run) :
    ∃ run', Holds camera stop ((params.foldl Recorded.param file).keep frame) run' ∧
      (nalus.foldlM (writeNalu msg) run = .ok run' ∨
        nalus.foldlM (writeNalu msg) run = .error (some (-2#32, run'))) := by
  induction params generalizing nalus run file with
  | nil =>
      rw [List.foldl_nil, Recorded.keep]
      by_cases hkeeps : file.Keeps frame.idr
      · rw [if_pos hkeeps]
        obtain ⟨run', hfold, hrun'⟩ := holds_slices hsees hplaced frame.slices_type hkeeps h
        exact ⟨run', hrun', .inl hfold⟩
      rw [if_neg hkeeps]
      refine ⟨run, h, ?_⟩
      have hslices := frame.slices_type
      rw [List.nil_append] at hplaced
      generalize frame.slices = slices at hplaced hslices
      rcases hplaced with _ | ⟨hfirst, -⟩
      · exact .inl rfl
      · right
        rw [List.foldlM_cons,
          writeNalu_refused hsees hfirst (hslices _ List.mem_cons_self) hkeeps h]
        rfl
  | cons unit params ih =>
      rcases hplaced with _ | ⟨hfirst, hrest⟩
      obtain ⟨run₁, hwrite, h₁⟩ := holds_param hsees hfirst (htype _ List.mem_cons_self) h
      obtain ⟨run', hrun', hfold⟩ :=
        ih hrest (fun unit hmem => htype unit (List.mem_cons_of_mem _ hmem)) h₁
      refine ⟨run', hrun', ?_⟩
      rw [List.foldlM_cons, hwrite]
      exact hfold

/-- A frame of the camera. -/
theorem holds_frame {frame : CodedFrame} (hsees : camera.Sees msg) (hpack : msg.pack = frame.pack)
    (h : Holds camera stop file run) :
    ∃ ret run', recorderThreadWriteMp4Video msg run = some (ret, run') ∧ ret ≠ -1#32 ∧
      Holds camera stop (file.frame frame) run' := by
  have hplaced := placed_unitsAt [] (frame.params ++ frame.slices)
  obtain ⟨run', hrun', hfold⟩ := holds_units hsees
    (by rw [hpack]; exact hplaced) frame.params_type h
  have hloop := naluLoop_annexB [] (writeNalu msg) {} run
    (@length_lt_annexB (frame.params ++ frame.slices))
  rw [recorderThreadWriteMp4Video, hpack]
  rcases hfold with hfold | hfold
  · refine ⟨0#32, run', ?_, by decide, hrun'⟩
    rw [hfold] at hloop
    exact (congrArg (Option.bind · _) hloop).trans rfl
  · refine ⟨-2#32, run', ?_, by decide, hrun'⟩
    rw [hfold] at hloop
    exact (congrArg (Option.bind · _) hloop).trans rfl

/-- The audio frame of a round leaves the video track. -/
theorem holds_runAudio (round : CodedRound) (h : Holds camera stop file run) :
    (runAudio (round.input camera) run).1 = true ∧
      Holds camera stop file (runAudio (round.input camera) run).2 := by
  rw [runAudio, CodedRound.input]
  rcases round.audio with _ | audio
  · exact ⟨rfl, h⟩
  · dsimp only [Option.map_some]
    rw [writeAudio]
    split_ifs with hbefore hsample
    · exact ⟨rfl, h⟩
    · exact absurd hsample (by simp)
    · refine ⟨rfl, h.stop, ?_, h.spsRead, h.ppsRead, h.order, h.begun, h.firstFrame, h.camera,
        h.track⟩
      intro track hmem
      obtain ⟨old, hold, rfl⟩ := Option.map_eq_some_iff.mp hmem
      exact h.audio old hold

/-- A round of a recording. -/
theorem holds_round (round : CodedRound) (h : Holds camera stop file run) :
    ∃ run', recorderThreadRun (round.input camera) run =
        some (decide (round.frame.isSome ∧ stop.sle round.now), run') ∧
      Holds camera stop (round.frame.elim file file.frame) run' := by
  obtain ⟨hok, haudio⟩ := holds_runAudio round h
  rw [recorderThreadRun, hok, if_pos rfl, runVideo]
  rcases hframe : round.frame with _ | frame
  · refine ⟨_, ?_, haudio⟩
    rw [CodedRound.input, hframe]
    simp
  · have hvideo : (round.input camera).video = some (round.message camera frame) := by
      rw [CodedRound.input, hframe]
      rfl
    have hsees : camera.Sees (round.message camera frame) :=
      ⟨rfl, rfl, rfl, fun _ => rfl, fun _ => rfl, fun _ => rfl⟩
    obtain ⟨ret, run', hwrite, hret, hrun'⟩ := holds_frame hsees rfl haudio
    generalize (runAudio (round.input camera) run).2 = run₁ at haudio hwrite
    have hsame : ¬ (run₁.firstFrame = true ∧ camera.fps ≠ run₁.fps) :=
      fun hne => hne.2 (haudio.camera hne.1).1.symm
    have hsize : ¬ (run₁.firstFrame = true ∧
        (camera.width ≠ run₁.width ∨ camera.height ≠ run₁.height)) := by
      rintro ⟨hfirst, hne⟩
      obtain ⟨-, hwidth, hheight⟩ := haudio.camera hfirst
      exact hne.elim (· hwidth.symm) (· hheight.symm)
    refine ⟨run', ?_, hrun'⟩
    rw [hvideo]
    refine (if_neg hsame).trans ((if_neg hsize).trans ?_)
    have hclosing : (ret ≠ -1#32 ∧ run'.stop.sle (round.input camera).now) ↔
        ((some frame).isSome = true ∧ stop.sle round.now) := by
      rw [hrun'.stop]
      exact ⟨fun h => ⟨rfl, h.2⟩, fun h => ⟨hret, h.2⟩⟩
    rw [hwrite, Option.map_some]
    exact congrArg (fun b => some (b, run')) (decide_eq_decide.mpr hclosing)

/-- What a recording holds: frame by frame what is kept. -/
theorem holds_recordRounds {rounds : List CodedRound} (h : Holds camera stop file run) :
    ∃ run', recordRounds (rounds.map (CodedRound.input camera)) run = some run' ∧
      Holds camera stop ((framesOf stop rounds).foldl Recorded.frame file) run' := by
  induction rounds generalizing file run with
  | nil => exact ⟨run, rfl, h⟩
  | cons round rounds ih =>
      obtain ⟨run₁, hround, h₁⟩ := holds_round round h
      rw [List.map_cons, recordRounds, hround, Option.bind_some, framesOf]
      rcases hframe : round.frame with _ | frame
      · rw [hframe] at h₁
        simpa using ih h₁
      · rw [hframe] at h₁
        by_cases hstop : stop.sle round.now
        · exact ⟨run₁, by simp [hstop], by simpa [hstop] using h₁⟩
        · simpa [hstop] using ih h₁

/-- A file that has just been created holds nothing. -/
theorem holds_initMp4 {audio : Bool} : Holds camera stop {} (initMp4 audio stop) where
  stop := rfl
  audio := by
    rw [initMp4]
    rcases audio <;> simp
  spsRead := rfl
  ppsRead := rfl
  order := refuted rfl
  begun h := absurd rfl h
  firstFrame := ⟨refuted rfl, fun h => absurd rfl h⟩
  camera := refuted rfl
  track := rfl

/-! ### From the first key frame on -/

/-- The slices from the first key frame on. -/
def fromFirstKey (frames : List CodedFrame) : List NalUnit :=
  (frames.dropWhile fun frame => !decide frame.Key).flatMap CodedFrame.slices

/-- The frames up to the first key frame, the key frame with them, if there is one. -/
def untilFirstKey : List CodedFrame → Option (List CodedFrame)
  | [] => none
  | frame :: frames => if frame.Key then some [frame] else (untilFirstKey frames).map (frame :: ·)

/-- The parameter sets that are in the file when a frame after these is written. -/
def Recorded.params (file : Recorded) (frames : List CodedFrame) : Recorded :=
  (frames.flatMap CodedFrame.params).foldl Recorded.param file

/-- Both parameter sets are in the file when the first key frame is written. -/
def Recorded.Ready (file : Recorded) (frames : List CodedFrame) : Prop :=
  ∀ first ∈ untilFirstKey frames, (file.params first).pps.isSome = true

variable {frame : CodedFrame} {frames : List CodedFrame} {params : List NalUnit}

@[simp] theorem slices_foldl_param : (params.foldl Recorded.param file).slices = file.slices := by
  induction params generalizing file with
  | nil => rfl
  | cons unit params ih =>
      rw [List.foldl_cons, ih, Recorded.param]
      split_ifs <;> rfl

/-- Parameter sets that are there stay. -/
theorem sets_foldl_param (hsps : file.sps.isSome = true) (hpps : file.pps.isSome = true) :
    params.foldl Recorded.param file = file := by
  induction params with
  | nil => rfl
  | cons unit params ih =>
      have hsame : file.param unit = file := by
        rcases file with ⟨_ | sps, _ | pps, slices⟩ <;> cases hsps <;> cases hpps
        rw [Recorded.param]
        split_ifs <;> rfl
      rw [List.foldl_cons, hsame, ih]

/-- There is no second parameter set without a first one. -/
theorem order_foldl_param (h : file.pps.isSome = true → file.sps.isSome = true) :
    (params.foldl Recorded.param file).pps.isSome = true →
      (params.foldl Recorded.param file).sps.isSome = true := by
  induction params generalizing file with
  | nil => exact h
  | cons unit params ih =>
      refine ih ?_
      rw [Recorded.param]
      split_ifs with htype hsome
      · exact fun _ => by simp
      · exact fun _ => hsome
      · exact h

/-- Once a recording has begun every slice is kept, and the parameter sets stay. -/
theorem foldl_frame_begun (hsps : file.sps.isSome = true) (hpps : file.pps.isSome = true)
    (hbegun : file.slices ≠ []) : frames.foldl Recorded.frame file =
      { file with slices := file.slices ++ frames.flatMap CodedFrame.slices } := by
  induction frames generalizing file with
  | nil => simp
  | cons frame frames ih =>
      have hframe : file.frame frame = { file with slices := file.slices ++ frame.slices } := by
        rw [Recorded.frame, sets_foldl_param hsps hpps, Recorded.keep, if_pos ⟨hpps, .inr hbegun⟩]
      rw [List.foldl_cons, hframe,
        @ih { file with slices := file.slices ++ frame.slices } hsps hpps (by simp [hbegun])]
      simp

/-- No more is kept than there is. -/
theorem length_foldl_frame : ((frames.foldl Recorded.frame file).slices).length ≤
    file.slices.length + (frames.flatMap CodedFrame.slices).length := by
  induction frames generalizing file with
  | nil => simp
  | cons frame frames ih =>
      refine (@ih (file.frame frame)).trans ?_
      have hframe : (file.frame frame).slices.length ≤ file.slices.length + frame.slices.length := by
        rw [Recorded.frame, Recorded.keep]
        split_ifs <;> simp
      simp only [List.flatMap_cons, List.length_append]
      omega

/-- A frame that is no key frame leaves its parameter sets only, before a recording begins. -/
theorem frame_of_not_key (hkey : ¬ frame.Key) (hnew : file.slices = []) :
    file.frame frame = frame.params.foldl Recorded.param file := by
  rw [Recorded.frame, Recorded.keep]
  split_ifs with hkeeps
  · have hidr : frame.idr = true := by
      rcases hkeeps.2 with hidr | hbegun
      · exact hidr
      · exact absurd (slices_foldl_param.trans hnew) hbegun
    have hslices : frame.slices = [] := by
      by_contra hne
      exact hkey ⟨hidr, by simpa using hne⟩
    rw [hslices, List.append_nil]
  · rfl

/-- All from the first key frame on is kept if and only if the parameter sets are there then. -/
theorem slices_foldl_frame_iff (horder : file.pps.isSome = true → file.sps.isSome = true)
    (hnew : file.slices = []) :
    (frames.foldl Recorded.frame file).slices = fromFirstKey frames ↔ file.Ready frames := by
  induction frames generalizing file with
  | nil => simp [fromFirstKey, Recorded.Ready, untilFirstKey, hnew]
  | cons frame frames ih =>
      rw [List.foldl_cons]
      by_cases hkey : frame.Key
      · have hall : fromFirstKey (frame :: frames) =
            frame.slices ++ frames.flatMap CodedFrame.slices := by
          rw [fromFirstKey, List.dropWhile_cons_of_neg (by simp [hkey]), List.flatMap_cons]
        have hready : file.Ready (frame :: frames) ↔
            (frame.params.foldl Recorded.param file).pps.isSome = true := by
          rw [Recorded.Ready, untilFirstKey, if_pos hkey]
          simp [Recorded.params]
        have hne : frame.slices ≠ [] := by simpa using hkey.2
        rw [hall, hready]
        constructor
        · intro hslices
          by_contra hpps
          have hframe : (file.frame frame).slices = [] := by
            rw [Recorded.frame, Recorded.keep, if_neg fun hkeeps => hpps hkeeps.1,
              slices_foldl_param, hnew]
          have hle := @length_foldl_frame (file.frame frame) frames
          have hpos := List.length_pos_iff.mpr hne
          rw [hslices, hframe] at hle
          simp only [List.length_append, List.length_nil] at hle
          omega
        · intro hpps
          have hframe : file.frame frame =
              { frame.params.foldl Recorded.param file with slices := frame.slices } := by
            rw [Recorded.frame, Recorded.keep, if_pos ⟨hpps, .inl hkey.1⟩, slices_foldl_param, hnew,
              List.nil_append]
          rw [hframe]
          exact congrArg Recorded.slices
            (@foldl_frame_begun
              { frame.params.foldl Recorded.param file with slices := frame.slices } frames
              (order_foldl_param horder hpps) hpps hne)
      · have hall : fromFirstKey (frame :: frames) = fromFirstKey frames := by
          rw [fromFirstKey, List.dropWhile_cons_of_pos (by simp [hkey]), fromFirstKey]
        have hready : file.Ready (frame :: frames) ↔
            (frame.params.foldl Recorded.param file).Ready frames := by
          rw [Recorded.Ready, Recorded.Ready, untilFirstKey, if_neg hkey]
          rcases untilFirstKey frames with _ | first
          · simp
          · simp [Recorded.params]
        rw [hall, hready, frame_of_not_key hkey hnew]
        exact ih (order_foldl_param horder) (slices_foldl_param.trans hnew)

/-- The parameter sets at the first key frame are those of the whole file. -/
theorem sets_foldl_frame {first : List CodedFrame} (hfirst : first ∈ untilFirstKey frames)
    (horder : file.pps.isSome = true → file.sps.isSome = true) (hnew : file.slices = [])
    (hpps : (file.params first).pps.isSome = true) :
    (frames.foldl Recorded.frame file).sps = (file.params first).sps ∧
      (frames.foldl Recorded.frame file).pps = (file.params first).pps ∧
      fromFirstKey frames ≠ [] := by
  induction frames generalizing file first with
  | nil => cases hfirst
  | cons frame frames ih =>
      rw [untilFirstKey] at hfirst
      by_cases hkey : frame.Key
      · rw [if_pos hkey] at hfirst
        cases hfirst
        have hparams : file.params [frame] = frame.params.foldl Recorded.param file := by
          simp [Recorded.params]
        rw [hparams] at hpps ⊢
        have hne : frame.slices ≠ [] := by simpa using hkey.2
        have hframe : file.frame frame =
            { frame.params.foldl Recorded.param file with slices := frame.slices } := by
          rw [Recorded.frame, Recorded.keep, if_pos ⟨hpps, .inl hkey.1⟩, slices_foldl_param, hnew,
            List.nil_append]
        rw [List.foldl_cons, hframe, @foldl_frame_begun
          { frame.params.foldl Recorded.param file with slices := frame.slices } frames
          (order_foldl_param horder hpps) hpps hne]
        refine ⟨rfl, rfl, ?_⟩
        rw [fromFirstKey, List.dropWhile_cons_of_neg (by simp [hkey]), List.flatMap_cons]
        simp [hne]
      · rw [if_neg hkey] at hfirst
        obtain ⟨rest, hrest, rfl⟩ := Option.map_eq_some_iff.mp hfirst
        have hparams : file.params (frame :: rest) =
            (frame.params.foldl Recorded.param file).params rest := by
          simp [Recorded.params]
        rw [hparams] at hpps ⊢
        rw [List.foldl_cons, frame_of_not_key hkey hnew, fromFirstKey,
          List.dropWhile_cons_of_pos (by simp [hkey])]
        exact ih hrest (order_foldl_param horder) (slices_foldl_param.trans hnew) hpps

/-- Without a key frame nothing is there to be kept. -/
theorem fromFirstKey_eq_nil (h : untilFirstKey frames = none) : fromFirstKey frames = [] := by
  induction frames with
  | nil => rfl
  | cons frame frames ih =>
      rw [untilFirstKey] at h
      split_ifs at h with hkey
      rw [fromFirstKey, List.dropWhile_cons_of_pos (by simp [hkey])]
      exact ih (Option.map_eq_none_iff.mp h)

end GokeWebcam.Server.Recorder.Sample
