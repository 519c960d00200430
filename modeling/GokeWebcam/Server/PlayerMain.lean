import GokeWebcam.Lib.Transition
import GokeWebcam.Server.PlayerSamples

/-!
# The step of a playback

`player_main` of `server/player/player.c` opens the next file if none is open, reads a frame of each
track that does not wait for the other one, and closes the file when both have no more. The result of
a track that is not read is the variable as it stands there, which nobody has written.

* `closes_iff`: when a step closes the file.
* `endDecided_iff`: a run closes its files only when both tracks were read and have nothing left iff
  `EndHolds` in each step.
* `closed_unread`: a track that waits is taken to have ended.
-/

namespace GokeWebcam.Server.Player.Sample

open Lib Common Device Recorder.Sample

/-- What a step meets: how the samples are read, the speed, and whether the results of the tracks are
taken for an end where they are not written.
Source: `server/player/player.c` `player_main`, `ret_video`, `ret_audio` -/
structure MainInput where
  video : MediaInput := {}
  audio : MediaInput := {}
  speed : ℕ := 1
  staleVideo : Bool := false
  staleAudio : Bool := false
  deriving DecidableEq, Repr

/-- Whether a step returns -1, the record then, and what it sends. -/
structure MainResult where
  ended : Bool
  run : PlayerRun
  sent : List SentMedia
  deriving DecidableEq, Repr

/-- Source: `server/player/player.c` `player_main`, `ret_video` -/
def mainVideo (input : MainInput) (run : PlayerRun) : Option (Bool × PlayerRun × Option SentMedia) :=
  if run.vstreamWait then some (!input.staleVideo, run, none)
  else playerGetVideoFrame input.video input.speed run

/-- Source: `server/player/player.c` `player_main`, `ret_audio` -/
def mainAudio (input : MainInput) (run : PlayerRun) : Option (Bool × PlayerRun × Option SentMedia) :=
  if run.astreamWait then some (!input.staleAudio, run, none)
  else playerGetAudioFrame input.audio input.speed run

def noWait (run : PlayerRun) : PlayerRun := { run with vstreamWait := false, astreamWait := false }

/-- The track that is ahead waits.
Source: `server/player/player.c` `player_main`, `if (run->i_frame_read)` -/
def pace (run : PlayerRun) : PlayerRun :=
  if run.iFrameRead then
    if run.audioSync + defaultSyncDuration < run.videoSync then
      { run with vstreamWait := true, astreamWait := false }
    else if run.videoSync + defaultSyncDuration < run.audioSync then
      { run with astreamWait := true, vstreamWait := false }
    else noWait run
  else run

/-- Source: `server/player/player.c` `player_main`, `NEXT_STREAM` -/
def nextStream (failed : Bool) (run : PlayerRun) (sent : List SentMedia) : Option MainResult :=
  match run.current with
  | [] => none
  | _ :: next => some { ended := failed || next = [], run := playerCloseMp4 run, sent := sent }

/-- Source: `server/player/player.c` `player_main`, from the frames on -/
def mainFrames (input : MainInput) (run : PlayerRun) : Option MainResult :=
  (mainVideo input run).bind fun video => (mainAudio input video.2.1).bind fun audio =>
    let run := pace audio.2.1
    let run := if !video.1 || !audio.1 then noWait run else run
    let sent := video.2.2.toList ++ audio.2.2.toList
    if !video.1 && !audio.1 then nextStream false run sent
    else some { ended := false, run := run, sent := sent }

section

variable (read : List Char → Option Mp4File) (init : MediaInit) (fhead : List FileListNode)

/-- Source: `server/player/player.c` `player_main` -/
def playerMain (input : MainInput) (run : PlayerRun) : Option MainResult :=
  if run.mp4File = none then
    (playerOpenMp4 read init fhead run).bind fun opened =>
      if opened.1 then mainFrames input opened.2 else nextStream true opened.2 []
  else mainFrames input run

/-- The record after a step. -/
def mainStep (run : PlayerRun) (input : MainInput) : Option PlayerRun :=
  (playerMain read init fhead input run).map MainResult.run

/-- The record of the file whose frames a step reads: the one that is open, or that it opens. -/
def fileOf (run : PlayerRun) : Option PlayerRun :=
  if run.mp4File = none then
    (playerOpenMp4 read init fhead run).bind fun opened =>
      if opened.1 then some opened.2 else none
  else some run

/-! ### The end of a track -/

/-- Where a track of an open file is: its samples, the next one, whether a sample is past the end of
what is to be played, and whether the next one can be read. -/
structure TrackPlace where
  num : ℕ
  index : ℕ
  past : ℕ → Bool
  readOk : Bool

/-- A sample that can be read, and is not past the end, is left. The next one cannot be read where its
reading fails. -/
def TrackPlace.Left (t : TrackPlace) : Prop :=
  ∃ k, t.index ≤ k ∧ k ≤ t.num ∧ ¬ (k = t.index ∧ t.index < t.num ∧ t.readOk = false) ∧
    t.past k = false

/-- The last sample, at which the track ends without reading it, is past the end; so is the next one
where it is read, and the one after it where it cannot be. -/
def TrackPlace.Done (t : TrackPlace) : Prop :=
  if t.num ≤ t.index then t.index = t.num → t.past t.num = true
  else if t.readOk then t.past t.index = true
  else t.past (t.index + 1) = true

def videoPlace (input : MainInput) (file : PlayerRun) : TrackPlace where
  num := file.videoFrameNum
  index := file.videoIndex
  past k := file.videoTrack.all fun track => pastStop file (sampleMs track k)
  readOk := input.video.readOk

def audioPlace (input : MainInput) (file : PlayerRun) : TrackPlace where
  num := file.audioFrameNum
  index := file.audioIndex
  past k := file.audioTrack.all fun track => pastStop file (sampleMs track k)
  readOk := input.audio.readOk

/-- The next video sample. -/
def nextSample (file : PlayerRun) : Option Mp4Sample :=
  file.videoTrack.bind fun track => track.samples[file.videoIndex - 1]?

/-- A reading of the track ends it: it has come to its last sample, or cannot read the next one, or this
is past the end, or there is no memory for a key sample. -/
def VideoEnds (input : MainInput) (file : PlayerRun) : Prop :=
  file.videoFrameNum ≤ file.videoIndex ∨ input.video.readOk = false ∨
    ∃ sample ∈ nextSample file, (file.iFrameRead = true ∨ sample.sync = true) ∧
      ((videoPlace input file).past file.videoIndex = true ∨
        (sample.sync = true ∧ input.video.callocOk = false))

def AudioEnds (input : MainInput) (file : PlayerRun) : Prop :=
  file.audioFrameNum ≤ file.audioIndex ∨ input.audio.readOk = false ∨
    (file.iFrameRead = true ∧ (audioPlace input file).past file.audioIndex = true)

/-- The result that stands for the track is an end: that of its reading, or the one that stands there
where it waits. -/
def videoOut (input : MainInput) (file : PlayerRun) : Prop :=
  if file.vstreamWait then input.staleVideo = true else VideoEnds input file

def audioOut (input : MainInput) (file : PlayerRun) : Prop :=
  if file.astreamWait then input.staleAudio = true else AudioEnds input file

/-- If the step closes the file, both tracks were read in it and have ended, and have no sample left. -/
def EndDecided (run : PlayerRun) (input : MainInput) (run' : PlayerRun) : Prop :=
  ∀ file, fileOf read init fhead run = some file → run'.mp4File = none →
    (file.vstreamWait = false ∧ file.astreamWait = false) ∧
      (VideoEnds input file ∧ AudioEnds input file) ∧
      ¬ (videoPlace input file).Left ∧ ¬ (audioPlace input file).Left

/-- If both results are ends, neither track waits, and each has come to the end of what is to be
played. -/
def EndHolds (run : PlayerRun) (input : MainInput) (_ : PlayerRun) : Prop :=
  ∀ file, fileOf read init fhead run = some file → videoOut input file → audioOut input file →
    (file.vstreamWait = false ∧ file.astreamWait = false) ∧
      (videoPlace input file).Done ∧ (audioPlace input file).Done

end

variable {read : List Char → Option Mp4File} {init : MediaInit} {fhead : List FileListNode}
  {input : MainInput} {run run' file : PlayerRun} {result : MainResult} {t : TrackPlace}
  {track : Mp4Track} {sample : Mp4Sample} {k l : ℕ}

/-! ### Samples in their order -/

theorem sampleTime_mono (hkl : k ≤ l) : sampleTime track k ≤ sampleTime track l := by
  have htake : track.samples.take (k - 1) <+: track.samples.take (l - 1) :=
    List.take_prefix_take_left (by omega)
  exact (htake.sublist.map _).sum_le_sum fun _ _ => Nat.zero_le _

theorem sampleMs_mono (hkl : k ≤ l) : sampleMs track k ≤ sampleMs track l :=
  Nat.div_le_div_right (Nat.mul_le_mul_right _ (sampleTime_mono hkl))

/-- What follows a sample that is past the end is past it as well. -/
theorem pastStop_mono (hkl : k ≤ l) (h : pastStop file (sampleMs track k) = true) :
    pastStop file (sampleMs track l) = true := by
  rw [pastStop, Bool.and_eq_true, decide_eq_true_eq, decide_eq_true_eq] at h ⊢
  have hms : sampleMs track k / 1000 ≤ sampleMs track l / 1000 :=
    Nat.div_le_div_right (sampleMs_mono hkl)
  exact ⟨h.1, by omega⟩

/-- Nothing is left of a track iff the sample that decides is past the end. -/
theorem TrackPlace.not_left_iff (ht : ∀ k l, k ≤ l → t.past k = true → t.past l = true) :
    ¬ t.Left ↔ t.Done := by
  have hleft : ¬ t.Left ↔ ∀ k, t.index ≤ k → k ≤ t.num →
      ¬ (k = t.index ∧ t.index < t.num ∧ t.readOk = false) → t.past k = true := by
    rw [TrackPlace.Left]
    push Not
    simp only [ne_eq, Bool.not_eq_false]
  rw [hleft, TrackPlace.Done]
  by_cases hend : t.num ≤ t.index
  · rw [if_pos hend]
    constructor
    · intro hall heq
      exact hall t.num heq.le le_rfl fun h => absurd h.2.1 hend.not_gt
    · intro hlast k hk hkn _
      obtain rfl : k = t.num := le_antisymm hkn (hend.trans hk)
      exact hlast (le_antisymm hk hend)
  rw [if_neg hend]
  rcases hread : t.readOk with _ | _
  · rw [if_neg Bool.false_ne_true]
    constructor
    · exact fun hall => hall _ (by omega) (by omega) fun h => absurd h.1 (by omega)
    · intro hnext k hk hkn hne
      rcases hk.eq_or_lt with rfl | hlt
      · exact absurd ⟨rfl, by omega, rfl⟩ hne
      · exact ht _ k hlt hnext
  · rw [if_pos rfl]
    constructor
    · exact fun hall => hall _ le_rfl (by omega) (by simp)
    · exact fun hnow k hk _ _ => ht _ k hk hnow

theorem not_left_video : ¬ (videoPlace input file).Left ↔ (videoPlace input file).Done := by
  refine TrackPlace.not_left_iff fun k l hkl h => ?_
  dsimp only [videoPlace] at h ⊢
  rcases htrack : file.videoTrack with _ | track <;> rw [htrack] at h
  · rfl
  · exact pastStop_mono hkl h

theorem not_left_audio : ¬ (audioPlace input file).Left ↔ (audioPlace input file).Done := by
  refine TrackPlace.not_left_iff fun k l hkl h => ?_
  dsimp only [audioPlace] at h ⊢
  rcases htrack : file.audioTrack with _ | track <;> rw [htrack] at h
  · rfl
  · exact pastStop_mono hkl h

/-! ### The results of the tracks -/

theorem playVideo_fst {input : MediaInput} {speed : ℕ} :
    (playVideo input speed track sample run).1 = false ↔
      pastStop run (sampleMs track run.videoIndex) = true ∨
        (sample.sync = true ∧ input.callocOk = false) := by
  rw [playVideo]
  dsimp only
  split_ifs <;> simp_all

theorem iFrameRead_playVideo {input : MediaInput} {speed : ℕ}
    (h : (playVideo input speed track sample run).1 = false) :
    (playVideo input speed track sample run).2.1 = run := by
  rw [playVideo] at h ⊢
  dsimp only at h ⊢
  split_ifs at h ⊢ <;> rfl

/-- What the turn of the video track does, as far as it decides over the end of the file. -/
structure VideoTurn (input : MainInput) (run : PlayerRun)
    (turn : Bool × PlayerRun × Option SentMedia) : Prop where
  out : turn.1 = false ↔ videoOut input run
  same : SameFile run turn.2.1
  audioIndex : turn.2.1.audioIndex = run.audioIndex
  astreamWait : turn.2.1.astreamWait = run.astreamWait
  kept : turn.1 = false → turn.2.1.iFrameRead = run.iFrameRead

theorem videoTurn_of_read {input : MainInput} {r : Bool × PlayerRun × Option SentMedia}
    (hwait : run.vstreamWait = false) (hfile : run.mp4File ≠ none)
    (h : playerGetVideoFrame input.video input.speed run = some r) : VideoTurn input run r := by
  have hout : videoOut input run ↔ VideoEnds input run := by
    rw [videoOut, hwait]
    exact Iff.rfl
  rw [playerGetVideoFrame, if_neg hfile] at h
  by_cases hend : run.videoFrameNum ≤ run.videoIndex
  · rw [if_pos hend] at h
    cases h
    exact ⟨iff_of_true rfl (hout.mpr (.inl hend)), .refl, rfl, rfl, fun _ => rfl⟩
  rw [if_neg hend] at h
  obtain ⟨track, htrack, h⟩ := Option.bind_eq_some_iff.mp h
  obtain ⟨sample, hsample, rfl⟩ := Option.map_eq_some_iff.mp h
  have hnext : nextSample run = some sample := by rw [nextSample, htrack, Option.bind_some, hsample]
  have hpast : (videoPlace input run).past run.videoIndex =
      pastStop run (sampleMs track run.videoIndex) := by
    rw [videoPlace, htrack]
    rfl
  have hends : VideoEnds input run ↔ input.video.readOk = false ∨
      ((run.iFrameRead = true ∨ sample.sync = true) ∧
        (pastStop run (sampleMs track run.videoIndex) = true ∨
          (sample.sync = true ∧ input.video.callocOk = false))) := by
    rw [VideoEnds, hnext, hpast]
    simp [hend]
  rw [hends] at hout
  rw [readVideo]
  by_cases hread : input.video.readOk = true
  · rw [hread, Bool.not_true, if_neg Bool.false_ne_true]
    by_cases hkey : (!run.iFrameRead) = true ∧ (!sample.sync) = true
    · rw [if_pos hkey]
      refine ⟨iff_of_false (by simp) fun h => ?_, ⟨rfl, rfl, rfl, rfl, rfl, rfl, rfl, rfl, rfl, rfl⟩,
        rfl, rfl, fun h => by simp at h⟩
      have := hout.mp h
      simp_all
    · rw [if_neg hkey]
      refine ⟨?_, sameFile_playVideo, ?_, ?_, fun h => by rw [iFrameRead_playVideo h]⟩
      · rw [playVideo_fst, hout]
        have hbegun : run.iFrameRead = true ∨ sample.sync = true := by
          by_contra hnot
          rw [not_or] at hnot
          exact hkey (by simpa using hnot)
        simp [hread, hbegun]
      · unfold playVideo nextVideo skipVideo
        dsimp only
        split_ifs <;> rfl
      · unfold playVideo nextVideo skipVideo
        dsimp only
        split_ifs <;> rfl
  · have hfail : input.video.readOk = false := by simpa using hread
    rw [hfail, Bool.not_false, if_pos rfl]
    exact ⟨iff_of_true rfl (hout.mpr (.inl hfail)),
      ⟨rfl, rfl, rfl, rfl, rfl, rfl, rfl, rfl, rfl, rfl⟩, rfl, rfl, fun _ => rfl⟩

theorem videoTurn {r : Bool × PlayerRun × Option SentMedia} (hfile : run.mp4File ≠ none)
    (h : mainVideo input run = some r) : VideoTurn input run r := by
  rw [mainVideo] at h
  rcases hwait : run.vstreamWait with _ | _
  · rw [hwait, if_neg Bool.false_ne_true] at h
    exact videoTurn_of_read hwait hfile h
  · rw [hwait, if_pos rfl] at h
    cases h
    refine ⟨?_, .refl, rfl, rfl, fun _ => rfl⟩
    rw [videoOut, hwait]
    simp

/-- The turn of the audio track. -/
theorem audioTurn {r : Bool × PlayerRun × Option SentMedia} (hfile : run.mp4File ≠ none)
    (h : mainAudio input run = some r) :
    (r.1 = false ↔ audioOut input run) ∧ SameFile run r.2.1 := by
  rw [mainAudio] at h
  rcases hwait : run.astreamWait with _ | _
  · have hout : audioOut input run ↔ AudioEnds input run := by
      rw [audioOut, hwait]
      exact Iff.rfl
    rw [hwait, if_neg Bool.false_ne_true, playerGetAudioFrame, if_neg hfile] at h
    by_cases hend : run.audioFrameNum ≤ run.audioIndex
    · rw [if_pos hend] at h
      cases h
      exact ⟨iff_of_true rfl (hout.mpr (.inl hend)), .refl⟩
    rw [if_neg hend] at h
    obtain ⟨track, htrack, h⟩ := Option.bind_eq_some_iff.mp h
    obtain ⟨sample, hsample, rfl⟩ := Option.map_eq_some_iff.mp h
    refine ⟨?_, sameFile_readAudio⟩
    have hpast : (audioPlace input run).past run.audioIndex =
        pastStop run (sampleMs track run.audioIndex) := by
      rw [audioPlace, htrack]
      rfl
    rw [hout, AudioEnds, hpast, readAudio]
    split_ifs <;> simp_all
  · rw [hwait, if_pos rfl] at h
    cases h
    refine ⟨?_, .refl⟩
    rw [audioOut, hwait]
    simp

/-! ### Closing -/

theorem SameFile.trans {run'' : PlayerRun} (h : SameFile run run') (h' : SameFile run' run'') :
    SameFile run run'' :=
  ⟨h'.current.trans h.current, h'.mp4File.trans h.mp4File, h'.videoTrack.trans h.videoTrack,
    h'.audioTrack.trans h.audioTrack, h'.videoFrameNum.trans h.videoFrameNum,
    h'.audioFrameNum.trans h.audioFrameNum, h'.sps.trans h.sps, h'.pps.trans h.pps,
    h'.start.trans h.start, h'.stop.trans h.stop⟩

theorem sameFile_noWait : SameFile run (noWait run) :=
  ⟨rfl, rfl, rfl, rfl, rfl, rfl, rfl, rfl, rfl, rfl⟩

theorem sameFile_pace : SameFile run (pace run) := by
  unfold pace noWait
  split_ifs <;> exact ⟨rfl, rfl, rfl, rfl, rfl, rfl, rfl, rfl, rfl, rfl⟩

/-- The end of the audio track does not depend on the turn of a video track that has ended. -/
theorem audioOut_of_videoTurn {r : Bool × PlayerRun × Option SentMedia} (h : VideoTurn input run r)
    (hfst : r.1 = false) : audioOut input r.2.1 ↔ audioOut input run := by
  have hplace : (audioPlace input r.2.1).past = (audioPlace input run).past := by
    funext k
    simp only [audioPlace, h.same.audioTrack, pastStop, h.same.stop, h.same.start]
  rw [audioOut, audioOut, h.astreamWait, AudioEnds, AudioEnds, h.same.audioFrameNum, h.audioIndex,
    h.kept hfst, hplace]

/-- A step closes the file of which it reads frames iff both results are ends. -/
theorem closes_iff (hfile : file.mp4File ≠ none) (h : mainFrames input file = some result) :
    result.run.mp4File = none ↔ videoOut input file ∧ audioOut input file := by
  rw [mainFrames] at h
  obtain ⟨v, hv, h⟩ := Option.bind_eq_some_iff.mp h
  obtain ⟨a, ha, h⟩ := Option.bind_eq_some_iff.mp h
  have hvideo := videoTurn hfile hv
  have hopen : v.2.1.mp4File ≠ none := hvideo.same.mp4File ▸ hfile
  obtain ⟨haudio, hsame⟩ := audioTurn hopen ha
  have hends : (!v.1 && !a.1) = true ↔ videoOut input file ∧ audioOut input file := by
    rw [Bool.and_eq_true, Bool.not_eq_true', Bool.not_eq_true', hvideo.out, haudio]
    refine and_congr_right fun hout => audioOut_of_videoTurn hvideo (hvideo.out.mpr hout)
  rw [← hends]
  dsimp only at h
  have hkeep : ∀ run, SameFile a.2.1 run → run.mp4File ≠ none := fun run hrun => by
    rw [hrun.mp4File, hsame.mp4File]
    exact hopen
  by_cases hboth : (!v.1 && !a.1) = true
  · rw [if_pos hboth] at h
    refine iff_of_true ?_ hboth
    rw [nextStream] at h
    split at h
    · cases h
    · cases h
      rw [playerCloseMp4, if_pos (Option.isSome_iff_ne_none.mpr (hkeep _ ?_))]
      split_ifs
      · exact sameFile_pace.trans sameFile_noWait
      · exact sameFile_pace
  · rw [if_neg hboth] at h
    cases h
    refine iff_of_false (hkeep _ ?_) hboth
    split_ifs
    · exact sameFile_pace.trans sameFile_noWait
    · exact sameFile_pace

/-! ### Opening -/

/-- The fields that the tracks of a file do not set. -/
structure SameHead (run run' : PlayerRun) : Prop where
  current : run'.current = run.current
  mp4File : run'.mp4File = run.mp4File
  start : run'.start = run.start
  stop : run'.stop = run.stop
  vstreamWait : run'.vstreamWait = run.vstreamWait
  astreamWait : run'.astreamWait = run.astreamWait
  iFrameRead : run'.iFrameRead = run.iFrameRead

theorem sameHead_openTracks {tracks : Mp4File} {fuel i : ℕ}
    (h : openTracks tracks fuel i run = some run') : SameHead run run' := by
  induction fuel generalizing i run with
  | zero => cases h
  | succ fuel ih =>
      rw [openTracks] at h
      split at h
      · cases h
        exact ⟨rfl, rfl, rfl, rfl, rfl, rfl, rfl⟩
      · split_ifs at h
        · obtain ⟨sps, -, h⟩ := Option.bind_eq_some_iff.mp h
          obtain ⟨pps, -, h⟩ := Option.bind_eq_some_iff.mp h
          obtain ⟨h₁, h₂, h₃, h₄, h₅, h₆, h₇⟩ := ih h
          exact ⟨h₁, h₂, h₃, h₄, h₅, h₆, h₇⟩
        · obtain ⟨h₁, h₂, h₃, h₄, h₅, h₆, h₇⟩ := ih h
          exact ⟨h₁, h₂, h₃, h₄, h₅, h₆, h₇⟩

theorem seekFile_some {node : FileListNode} (h : seekFile node init run = some run') :
    ∃ video audio, run' = { run with videoIndex := video, audioIndex := audio } ∧
      seekTrack node init run.start run.videoFrameNum run.videoIndex run.videoTrack = some video ∧
      seekTrack node init run.start run.audioFrameNum run.audioIndex run.audioTrack = some audio := by
  rw [seekFile] at h
  obtain ⟨video, hvideo, h⟩ := Option.bind_eq_some_iff.mp h
  obtain ⟨audio, haudio, rfl⟩ := Option.map_eq_some_iff.mp h
  exact ⟨video, audio, rfl, hvideo, haudio⟩

/-- A file that is opened is open. -/
theorem mp4File_playerOpenMp4 (h : playerOpenMp4 read init fhead run = some (true, run')) :
    run'.mp4File ≠ none := by
  rw [playerOpenMp4] at h
  rcases hfile : run.mp4File with _ | tracks
  · rcases hcurrent : (if run.current = [] then fhead else run.current.tail) with _ | ⟨node, next⟩
    · simp only [hfile, hcurrent] at h
      cases h
    simp only [hfile, hcurrent] at h
    split at h
    · cases h
    · obtain ⟨run₁, htracks, h⟩ := Option.bind_eq_some_iff.mp h
      obtain ⟨run₂, hseek, heq⟩ := Option.map_eq_some_iff.mp h
      cases heq
      obtain ⟨video, audio, rfl, -, -⟩ := seekFile_some hseek
      rw [(sameHead_openTracks htracks).mp4File]
      exact Option.some_ne_none _
  · simp only [hfile] at h
    cases h
    exact Option.some_ne_none _

/-- A step reads frames of its file, or cannot open one. -/
theorem mainStep_cases (h : mainStep read init fhead run input = some run') :
    (∃ file result, fileOf read init fhead run = some file ∧ file.mp4File ≠ none ∧
      mainFrames input file = some result ∧ run' = result.run) ∨
      fileOf read init fhead run = none := by
  rw [mainStep] at h
  obtain ⟨result, hmain, rfl⟩ := Option.map_eq_some_iff.mp h
  rw [playerMain] at hmain
  rw [fileOf]
  by_cases hfile : run.mp4File = none
  · rw [if_pos hfile] at hmain ⊢
    obtain ⟨opened, hopen, hmain⟩ := Option.bind_eq_some_iff.mp hmain
    rw [hopen, Option.bind_some]
    by_cases hok : opened.1 = true
    · rw [if_pos hok] at hmain ⊢
      have hsome : playerOpenMp4 read init fhead run = some (true, opened.2) := by
        rw [hopen, ← hok]
      exact .inl ⟨opened.2, result, rfl, mp4File_playerOpenMp4 hsome, hmain, rfl⟩
    · rw [if_neg hok]
      exact .inr rfl
  · rw [if_neg hfile] at hmain ⊢
    exact .inl ⟨run, result, rfl, hfile, hmain, rfl⟩

/-! ### The decision -/

theorem endDecided_iff_step (h : mainStep read init fhead run input = some run') :
    EndDecided read init fhead run input run' ↔ EndHolds read init fhead run input run' := by
  rw [EndDecided, EndHolds]
  refine forall₂_congr fun file hfile => ?_
  obtain ⟨file', result, hfile', hopen, hframes, rfl⟩ :=
    (mainStep_cases h).resolve_right fun hnone => by rw [hnone] at hfile; cases hfile
  obtain rfl : file = file' := Option.some.inj (hfile.symm.trans hfile')
  rw [closes_iff hopen hframes, and_imp, not_left_video, not_left_audio]
  refine forall₂_congr fun hvideo haudio => and_congr_right fun hwaits => ?_
  rw [videoOut, hwaits.1, if_neg Bool.false_ne_true] at hvideo
  rw [audioOut, hwaits.2, if_neg Bool.false_ne_true] at haudio
  exact and_iff_right ⟨hvideo, haudio⟩

/-- A run decides over the ends of its files by both tracks, with nothing left of them, iff each of its
steps meets `EndHolds`. -/
theorem endDecided_iff (read : List Char → Option Mp4File) (init : MediaInit)
    (fhead : List FileListNode) (run : PlayerRun) (inputs : List MainInput) :
    AllSteps (mainStep read init fhead) (EndDecided read init fhead) run inputs ↔
      AllSteps (mainStep read init fhead) (EndHolds read init fhead) run inputs := by
  apply allSteps_iff (I := fun _ => True)
  · exact fun _ _ _ _ _ => trivial
  · exact fun _ _ _ _ hs => endDecided_iff_step hs
  · trivial

/-- Four frames at ten a second, of which the first is a key frame. -/
def slowVideo : Mp4Track where
  video := true
  timeScale := 1000
  samples := [⟨[0#8, 0#8, 0#8, 1#8, 0x65#8], 100, true⟩, ⟨[0#8, 0#8, 0#8, 1#8, 0x41#8], 100, false⟩,
    ⟨[0#8, 0#8, 0#8, 1#8, 0x41#8], 100, false⟩, ⟨[0#8, 0#8, 0#8, 1#8, 0x41#8], 100, false⟩]
  sps := [[0x67#8]]
  pps := [[0x68#8]]

/-- Three frames of ten milliseconds. -/
def shortAudio : Mp4Track where
  video := false
  timeScale := 1000
  samples := [⟨[1#8], 10, true⟩, ⟨[2#8], 10, true⟩, ⟨[3#8], 10, true⟩]

/-- One file of four tenths of a second. -/
def shortFile : List FileListNode := [⟨1700000000#32, 1700000001#32⟩]

/-- The video track waits when the audio track ends: the file is closed in the third step, with the
frame at two tenths of a second left. -/
theorem closed_unread : ∃ run run',
    Reach (mainStep (fun _ => some [shortAudio, slowVideo])
      { start := 1700000000, stop := 1700000001 } shortFile) AllRuns {} run ∧
    mainStep (fun _ => some [shortAudio, slowVideo])
      { start := 1700000000, stop := 1700000001 } shortFile run { staleVideo := true } = some run' ∧
    ¬ EndDecided (fun _ => some [shortAudio, slowVideo])
      { start := 1700000000, stop := 1700000001 } shortFile run { staleVideo := true } run' := by
  have hrun : ∃ run run', Reach (mainStep (fun _ => some [shortAudio, slowVideo])
      { start := 1700000000, stop := 1700000001 } shortFile) AllRuns {} run ∧
    mainStep (fun _ => some [shortAudio, slowVideo])
      { start := 1700000000, stop := 1700000001 } shortFile run { staleVideo := true } = some run' ∧
    (run.mp4File ≠ none ∧ run.vstreamWait = true ∧ run'.mp4File = none) :=
    @Reach.exists_step_of_exec PlayerRun MainInput _ _ (fun _ _ => true) (fun _ _ _ => trivial) {} [{}, {}]
      { staleVideo := true } (fun run run' =>
        run.mp4File ≠ none ∧ run.vstreamWait = true ∧ run'.mp4File = none) _ (by decide)
  obtain ⟨run, run', hreach, hstep, hopen, hwait, hclosed⟩ := hrun
  refine ⟨run, run', hreach, hstep, fun h => ?_⟩
  have hwaits := (h run (if_neg hopen) hclosed).1.1
  rw [hwait] at hwaits
  cases hwaits

end GokeWebcam.Server.Player.Sample
