import GokeWebcam.Device.FileList
import GokeWebcam.Server.RecorderSamples

/-!
# The samples that a playback sends

`server/player/player.c`: `player_open_mp4`, `player_get_video_frame`, `player_get_audio_frame`,
`player_close_mp4` and `player_main`. The library gives back what was written: the samples of a
track in order, and the time of a sample as the sum of the durations before it. What the cloud
client answers is not used; the description of the stream that is sent to it is left out.

A copy past the end of an array, a sample that is asked for without a track, and a loop that does not
end have no result.
-/

namespace GokeWebcam.Server.Player.Sample

open Lib Common Device Recorder.Sample

/-- A file with its tracks. -/
abbrev Mp4File := List Mp4Track

/-- When a sample begins, in the time scale of the track; the samples are counted from 1.
Source: `mp4v2/mp4v2.h` `MP4GetSampleTime` -/
def sampleTime (track : Mp4Track) (index : ℕ) : ℕ :=
  ((track.samples.take (index - 1)).map Mp4Sample.duration).sum

/-- The same in milliseconds. -/
def sampleMs (track : Mp4Track) (index : ℕ) : ℕ := sampleTime track index * 1000 / track.timeScale

/-- What to play, with the fields that are read here.
Source: `server/player/player_interface.h` `player_init_t` -/
structure MediaInit where
  start : ℕ := 0
  stop : ℕ := 0
  offset : ℕ := 0
  type : ℕ := 0
  deriving DecidableEq, Repr

/-- Source: `server/player/player.h` `sps`, `pps` -/
def headerSize : ℕ := 256

/-- Source: `server/player/player.h` `DEFAULT_SYNC_DURATION` -/
def defaultSyncDuration : ℕ := 67

/-- The record of a playback. `current` is the rest of the list of files from the current one on.
Source: `server/player/player.h` `player_run_t` -/
structure PlayerRun where
  current : List FileListNode := []
  mp4File : Option Mp4File := none
  videoTrack : Option Mp4Track := none
  audioTrack : Option Mp4Track := none
  videoFrameNum : ℕ := 0
  audioFrameNum : ℕ := 0
  videoIndex : ℕ := 0
  audioIndex : ℕ := 0
  sps : List Byte := []
  pps : List Byte := []
  vstreamWait : Bool := false
  astreamWait : Bool := false
  videoSync : ℕ := 0
  audioSync : ℕ := 0
  start : ℕ := 0
  stop : ℕ := 0
  iFrameRead : Bool := false
  deriving DecidableEq, Repr

/-- What is handed to the cloud client.
Source: `server/player/player.c` `lv_stream_send_media` -/
structure SentMedia where
  video : Bool
  data : List Byte
  timestampMs : BitVec 32
  keyFrame : Bool
  deriving DecidableEq, Repr

/-- Whether a sample is read, and memory got for it. -/
structure MediaInput where
  readOk : Bool := true
  callocOk : Bool := true
  deriving DecidableEq, Repr

/-! ### The file -/

/-- The path of a file of the list, below the media directory.
Source: `server/player/player.c` `player_open_mp4` -/
def playerFilePath (type : ℕ) (node : FileListNode) : List Char :=
  Recorder.folderPrefix type ++ '/' :: (showInt node.start.toInt ++
    '_' :: (showInt node.stop.toInt ++ ".mp4".toList))

/-- The headers up to the first empty one; the first one that does not begin with a zero is kept.
Source: `server/player/player.c` `player_open_mp4`, `for (i = 0; sps_size[i] != 0; i++)` -/
def copyHeaders : List (List Byte) → List Byte → Option (List Byte)
  | [], kept => some kept
  | header :: headers, kept =>
    if header = [] then some kept
    else if kept.headD 0#8 = 0#8 then
      if headerSize < header.length then none else copyHeaders headers header
    else copyHeaders headers kept

/-- How many headers there are up to the first empty one. -/
def headerCount (headers : List (List Byte)) : ℕ := (headers.takeWhile (· ≠ [])).length

/-- The tracks from one number on. The loops over the headers use the same counter.
Source: `server/player/player.c` `player_open_mp4`, `for (i = 0; i < num_tracks; i++)` -/
def openTracks (file : Mp4File) : ℕ → ℕ → PlayerRun → Option PlayerRun
  | 0, _, _ => none
  | fuel + 1, i, run =>
    match file[i]? with
    | none => some run
    | some track =>
      if track.video then
        (copyHeaders track.sps []).bind fun sps => (copyHeaders track.pps []).bind fun pps =>
          openTracks file fuel (headerCount track.pps + 1) { run with
            videoTrack := some track, videoFrameNum := track.samples.length, videoIndex := 1
            sps := sps, pps := pps }
      else openTracks file fuel (i + 1) { run with
        audioTrack := some track, audioFrameNum := track.samples.length, audioIndex := 1 }

/-- `(int) (diff + sample_time) >= 0`, where `diff` is the distance of the file from the wanted time.
Source: `server/player/player.c` `player_open_mp4`, `//seek` -/
def reached (node : FileListNode) (init : MediaInit) (start ms : ℕ) : Bool :=
  0 ≤ (BitVec.ofInt 32 (((node.start.toNat : ℤ) - (start + init.offset)) * 1000 + ms)).toInt

/-- The first sample that is reached, or the first one.
Source: `server/player/player.c` `player_open_mp4`, `//seek` -/
def seek (reach : ℕ → Bool) (num : ℕ) : ℕ :=
  ((List.range num).map (· + 1)).find? (fun i => reach i) |>.getD 1

/-- The sample that a track begins with.
Source: `server/player/player.c` `player_open_mp4`, `//seek` -/
def seekTrack (node : FileListNode) (init : MediaInit) (start num index : ℕ) :
    Option Mp4Track → Option ℕ
  | none => if num = 0 then some index else none
  | some track =>
    some (if num = 0 then index else seek (fun i => reached node init start (sampleMs track i)) num)

/-- Source: `server/player/player.c` `player_open_mp4`, `//seek` -/
def seekFile (node : FileListNode) (init : MediaInit) (run : PlayerRun) : Option PlayerRun :=
  (seekTrack node init run.start run.videoFrameNum run.videoIndex run.videoTrack).bind fun video =>
    (seekTrack node init run.start run.audioFrameNum run.audioIndex run.audioTrack).map fun audio =>
      { run with videoIndex := video, audioIndex := audio }

/-- What it returns, with the record then.
Source: `server/player/player.c` `player_open_mp4` -/
def playerOpenMp4 (read : List Char → Option Mp4File) (init : MediaInit) (fhead : List FileListNode)
    (run : PlayerRun) : Option (Bool × PlayerRun) :=
  let run := { run with current := if run.current = [] then fhead else run.current.tail }
  match run.mp4File, run.current with
  | some _, _ => some (true, run)
  | none, [] => none
  | none, node :: next =>
    match read (playerFilePath init.type node) with
    | none => some (false, run)
    | some file =>
      let run := { run with
        mp4File := some file
        start := if run.current.length = fhead.length then init.start else node.start.toNat
        stop := if next = [] then init.stop else 0
        videoTrack := none }
      (openTracks file (file.length + 1) 0 run).bind fun run =>
        (seekFile node init run).map fun run => (true, run)

/-- The end of a frame or of a file: nothing but the number of the file is kept.
Source: `server/player/player.c` `player_close_mp4` -/
def playerCloseMp4 (run : PlayerRun) : PlayerRun :=
  if run.mp4File.isSome then { current := run.current } else run

/-! ### The frames -/

/-- The time that a sample is sent with.
Source: `server/player/player.c` `player_get_video_frame`, `param.common.timestamp_ms` -/
def timestampMs (run : PlayerRun) (ms : ℕ) : BitVec 32 := BitVec.ofNat 32 (ms + run.start * 1000 + 1000)

/-- The sample is behind the end of what is to be played.
Source: `server/player/player.c` `player_get_video_frame`, `if (run->stop)` -/
def pastStop (run : PlayerRun) (ms : ℕ) : Bool := run.stop ≠ 0 && run.stop < ms / 1000 + run.start

/-- The bytes of a key sample, with the parameter sets in front.
Source: `server/player/player.c` `player_get_video_frame`, `mdata` -/
def keyData (run : PlayerRun) (data : List Byte) : List Byte :=
  startCode ++ run.sps ++ startCode ++ run.pps ++ (startCode ++ data.drop 4)

/-- `run->video_index++`, in the speeds that are known.
Source: `server/player/player.c` `player_get_video_frame` -/
def nextVideo (speed : ℕ) (run : PlayerRun) : PlayerRun :=
  if speed ∈ [0, 1, 2, 4, 16] then { run with videoIndex := run.videoIndex + 1 } else run

/-- Source: `server/player/player.c` `player_get_audio_frame` -/
def nextAudio (speed : ℕ) (run : PlayerRun) : PlayerRun :=
  if speed ∈ [0, 1, 2, 4] then { run with audioIndex := run.audioIndex + 1 }
  else if speed = 16 then { run with audioIndex := run.audioIndex + 30 }
  else run

/-- A step over a sample that is not sent. -/
def skipVideo (run : PlayerRun) : PlayerRun := { run with videoIndex := run.videoIndex + 1 }
def skipAudio (run : PlayerRun) : PlayerRun := { run with audioIndex := run.audioIndex + 1 }

/-- A sample that is read: whether it returns 0, the record then, and what is sent.
Source: `server/player/player.c` `player_get_video_frame`, `if (data)` -/
def playVideo (input : MediaInput) (speed : ℕ) (track : Mp4Track) (sample : Mp4Sample)
    (run : PlayerRun) : Bool × PlayerRun × Option SentMedia :=
  let ms := sampleMs track run.videoIndex
  if pastStop run ms then (false, run, none)
  else if sample.sync then
    if !input.callocOk then (false, run, none)
    else (true, nextVideo speed { run with iFrameRead := true }, some {
      video := true, data := keyData run sample.data, timestampMs := timestampMs run ms
      keyFrame := true })
  else
    let kind := sample.data.getD 4 0#8 &&& 0x1f#8
    if kind = 7#8 ∨ kind = 8#8 then (true, skipVideo run, none)
    else if speed = 16 then (true, skipVideo run, none)
    else (true, nextVideo speed { run with iFrameRead := true, videoSync := ms }, some {
      video := true, data := startCode ++ sample.data.drop 4, timestampMs := timestampMs run ms
      keyFrame := false })

/-- Source: `server/player/player.c` `player_get_video_frame`, after `MP4ReadSample` -/
def readVideo (input : MediaInput) (speed : ℕ) (track : Mp4Track) (sample : Mp4Sample)
    (run : PlayerRun) : Bool × PlayerRun × Option SentMedia :=
  if !input.readOk then (false, skipVideo run, none)
  else if !run.iFrameRead ∧ !sample.sync then (true, skipVideo run, none)
  else playVideo input speed track sample run

/-- Source: `server/player/player.c` `player_get_audio_frame`, after `MP4ReadSample` -/
def readAudio (input : MediaInput) (speed : ℕ) (track : Mp4Track) (sample : Mp4Sample)
    (run : PlayerRun) : Bool × PlayerRun × Option SentMedia :=
  let ms := sampleMs track run.audioIndex
  if !input.readOk then (false, skipAudio run, none)
  else if !run.iFrameRead then (true, skipAudio run, none)
  else if pastStop run ms then (false, run, none)
  else (true, nextAudio speed { run with audioSync := ms }, some {
    video := false, data := sample.data, timestampMs := timestampMs run ms, keyFrame := false })

/-- Whether it returns 0, the record then, and what is sent.
Source: `server/player/player.c` `player_get_video_frame` -/
def playerGetVideoFrame (input : MediaInput) (speed : ℕ) (run : PlayerRun) :
    Option (Bool × PlayerRun × Option SentMedia) :=
  if run.mp4File = none then some (false, run, none)
  else if run.videoFrameNum ≤ run.videoIndex then some (false, run, none)
  else
    run.videoTrack.bind fun track => track.samples[run.videoIndex - 1]?.map fun sample =>
      readVideo input speed track sample run

/-- Source: `server/player/player.c` `player_get_audio_frame` -/
def playerGetAudioFrame (input : MediaInput) (speed : ℕ) (run : PlayerRun) :
    Option (Bool × PlayerRun × Option SentMedia) :=
  if run.mp4File = none then some (false, run, none)
  else if run.audioFrameNum ≤ run.audioIndex then some (false, run, none)
  else
    run.audioTrack.bind fun track => track.samples[run.audioIndex - 1]?.map fun sample =>
      readAudio input speed track sample run

/-- A call for a frame. -/
inductive MediaCall
  | video (input : MediaInput) (speed : ℕ)
  | audio (input : MediaInput) (speed : ℕ)
  deriving DecidableEq, Repr

def getFrame (run : PlayerRun) : MediaCall → Option (Bool × PlayerRun × Option SentMedia)
  | .video input speed => playerGetVideoFrame input speed run
  | .audio input speed => playerGetAudioFrame input speed run

/-- The record after a call, and what the call sends. -/
def mediaStep (run : PlayerRun) (call : MediaCall) : Option PlayerRun :=
  (getFrame run call).map fun r => r.2.1

def mediaSent (run : PlayerRun) (call : MediaCall) : Option SentMedia :=
  (getFrame run call).bind fun r => r.2.2

variable {run run' : PlayerRun} {input : MediaInput} {speed : ℕ} {media : SentMedia}
  {track : Mp4Track} {sample : Mp4Sample} {call : MediaCall}

/-! ### What a call does -/

/-- What is sent for a video sample. -/
def videoMedia (run : PlayerRun) (track : Mp4Track) (sample : Mp4Sample) : SentMedia where
  video := true
  data := if sample.sync then keyData run sample.data else startCode ++ sample.data.drop 4
  timestampMs := timestampMs run (sampleMs track run.videoIndex)
  keyFrame := sample.sync

/-- What is sent for an audio sample. -/
def audioMedia (run : PlayerRun) (track : Mp4Track) (sample : Mp4Sample) : SentMedia where
  video := false
  data := sample.data
  timestampMs := timestampMs run (sampleMs track run.audioIndex)
  keyFrame := false

/-- What is read of a sample that is sent, from a key frame on and not behind the end. -/
theorem playVideo_sent (h : (playVideo input speed track sample run).2.2 = some media) :
    pastStop run (sampleMs track run.videoIndex) = false ∧ media = videoMedia run track sample := by
  unfold playVideo at h
  dsimp only at h
  split_ifs at h with hpast hsync hcalloc hkind hspeed
  · cases h
    exact ⟨by simpa using hpast, by simp [videoMedia, hsync]⟩
  · cases h
    exact ⟨by simpa using hpast, by simp [videoMedia, hsync]⟩

/-- The fields that only opening and closing change. -/
structure SameFile (run run' : PlayerRun) : Prop where
  current : run'.current = run.current
  mp4File : run'.mp4File = run.mp4File
  videoTrack : run'.videoTrack = run.videoTrack
  audioTrack : run'.audioTrack = run.audioTrack
  videoFrameNum : run'.videoFrameNum = run.videoFrameNum
  audioFrameNum : run'.audioFrameNum = run.audioFrameNum
  sps : run'.sps = run.sps
  pps : run'.pps = run.pps
  start : run'.start = run.start
  stop : run'.stop = run.stop

theorem SameFile.refl : SameFile run run := ⟨rfl, rfl, rfl, rfl, rfl, rfl, rfl, rfl, rfl, rfl⟩

theorem sameFile_playVideo : SameFile run (playVideo input speed track sample run).2.1 := by
  unfold playVideo nextVideo skipVideo
  dsimp only
  split_ifs <;> exact ⟨rfl, rfl, rfl, rfl, rfl, rfl, rfl, rfl, rfl, rfl⟩

theorem sameFile_readAudio : SameFile run (readAudio input speed track sample run).2.1 := by
  unfold readAudio nextAudio skipAudio
  dsimp only
  split_ifs <;> exact ⟨rfl, rfl, rfl, rfl, rfl, rfl, rfl, rfl, rfl, rfl⟩

/-- Nothing is done, or the sample at the place of the playback is read. -/
theorem playerGetVideoFrame_cases {r : Bool × PlayerRun × Option SentMedia}
    (h : playerGetVideoFrame input speed run = some r) : r = (false, run, none) ∨
      ∃ track sample, run.videoTrack = some track ∧
        track.samples[run.videoIndex - 1]? = some sample ∧ run.videoIndex < run.videoFrameNum ∧
        r = readVideo input speed track sample run := by
  rw [playerGetVideoFrame] at h
  by_cases hfile : run.mp4File = none
  · rw [if_pos hfile] at h
    cases h
    exact .inl rfl
  by_cases hend : run.videoFrameNum ≤ run.videoIndex
  · rw [if_neg hfile, if_pos hend] at h
    cases h
    exact .inl rfl
  rw [if_neg hfile, if_neg hend] at h
  obtain ⟨track, htrack, h⟩ := Option.bind_eq_some_iff.mp h
  obtain ⟨sample, hsample, rfl⟩ := Option.map_eq_some_iff.mp h
  exact .inr ⟨track, sample, htrack, hsample, by omega, rfl⟩

theorem playerGetAudioFrame_cases {r : Bool × PlayerRun × Option SentMedia}
    (h : playerGetAudioFrame input speed run = some r) : r = (false, run, none) ∨
      ∃ track sample, run.audioTrack = some track ∧
        track.samples[run.audioIndex - 1]? = some sample ∧ run.audioIndex < run.audioFrameNum ∧
        r = readAudio input speed track sample run := by
  rw [playerGetAudioFrame] at h
  by_cases hfile : run.mp4File = none
  · rw [if_pos hfile] at h
    cases h
    exact .inl rfl
  by_cases hend : run.audioFrameNum ≤ run.audioIndex
  · rw [if_neg hfile, if_pos hend] at h
    cases h
    exact .inl rfl
  rw [if_neg hfile, if_neg hend] at h
  obtain ⟨track, htrack, h⟩ := Option.bind_eq_some_iff.mp h
  obtain ⟨sample, hsample, rfl⟩ := Option.map_eq_some_iff.mp h
  exact .inr ⟨track, sample, htrack, hsample, by omega, rfl⟩

/-- A video frame that is sent is the sample at the place of the playback. -/
theorem videoFrame_sent (h : mediaSent run (.video input speed) = some media) :
    ∃ track sample, run.videoTrack = some track ∧
      track.samples[run.videoIndex - 1]? = some sample ∧ run.videoIndex < run.videoFrameNum ∧
      (run.iFrameRead = true ∨ sample.sync = true) ∧
      pastStop run (sampleMs track run.videoIndex) = false ∧ media = videoMedia run track sample := by
  obtain ⟨r, hr, hsent⟩ := Option.bind_eq_some_iff.mp h
  rcases playerGetVideoFrame_cases hr with rfl | ⟨track, sample, htrack, hsample, hindex, rfl⟩
  · cases hsent
  refine ⟨track, sample, htrack, hsample, hindex, ?_⟩
  rw [readVideo] at hsent
  split_ifs at hsent with hread hkey
  have hbegun : run.iFrameRead = true ∨ sample.sync = true := by
    by_contra hnot
    rw [not_or] at hnot
    exact hkey (by simpa using hnot)
  exact ⟨hbegun, playVideo_sent hsent⟩

/-- An audio frame that is sent is the sample at the place of the playback. -/
theorem audioFrame_sent (h : mediaSent run (.audio input speed) = some media) :
    ∃ track sample, run.audioTrack = some track ∧
      track.samples[run.audioIndex - 1]? = some sample ∧ run.audioIndex < run.audioFrameNum ∧
      run.iFrameRead = true ∧
      pastStop run (sampleMs track run.audioIndex) = false ∧ media = audioMedia run track sample := by
  obtain ⟨r, hr, hsent⟩ := Option.bind_eq_some_iff.mp h
  rcases playerGetAudioFrame_cases hr with rfl | ⟨track, sample, htrack, hsample, hindex, rfl⟩
  · cases hsent
  refine ⟨track, sample, htrack, hsample, hindex, ?_⟩
  rw [readAudio] at hsent
  split_ifs at hsent with hread hkey hpast
  cases hsent
  exact ⟨by simpa using hkey, by simpa using hpast, rfl⟩

/-- A call for a frame changes neither the file nor what is to be played. -/
theorem sameFile_mediaStep (h : mediaStep run call = some run') : SameFile run run' := by
  rw [mediaStep] at h
  obtain ⟨r, hr, rfl⟩ := Option.map_eq_some_iff.mp h
  rcases call with ⟨input, speed⟩ | ⟨input, speed⟩
  · rcases playerGetVideoFrame_cases hr with rfl | ⟨track, sample, -, -, -, rfl⟩
    · exact .refl
    rw [readVideo]
    split_ifs
    · exact ⟨rfl, rfl, rfl, rfl, rfl, rfl, rfl, rfl, rfl, rfl⟩
    · exact ⟨rfl, rfl, rfl, rfl, rfl, rfl, rfl, rfl, rfl, rfl⟩
    · exact sameFile_playVideo
  · rcases playerGetAudioFrame_cases hr with rfl | ⟨track, sample, -, -, -, rfl⟩
    · exact .refl
    · exact sameFile_readAudio

end GokeWebcam.Server.Player.Sample
