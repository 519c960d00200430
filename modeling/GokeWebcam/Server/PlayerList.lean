import GokeWebcam.Lib.Schedule
import GokeWebcam.Server.PlayerMain

/-!
# The files of a playback

The thread of a job calls `player_main` until it returns -1. Each call without an open file tries the
next one of the list; a file that cannot be read makes it return -1, whatever follows in the list.

* `mainFrames_progress`: a step on an open file closes it, or has less left to do.
* `playsList_iff`: a playback opens all files that can be opened, in their order, and reports its end
  after the last one, iff all files before the last one can be opened.
* `missing_ends`: the second of two files is not played if the first is missing.
-/

namespace GokeWebcam.Server.Player.Sample

open Lib Common Device Recorder.Sample

/-! ### Open files -/

/-- What is known of the tracks of an open file: the next sample is one of them, or it is the last. -/
structure TracksOk (run : PlayerRun) : Prop where
  video : run.videoFrameNum = 0 ∨ ∃ track, run.videoTrack = some track ∧
    run.videoFrameNum = track.samples.length ∧ 1 ≤ run.videoIndex
  audio : run.audioFrameNum = 0 ∨ ∃ track, run.audioTrack = some track ∧
    run.audioFrameNum = track.samples.length ∧ 1 ≤ run.audioIndex

/-- An open file whose tracks do not wait for each other. -/
structure FileOk (run : PlayerRun) : Prop where
  opened : run.mp4File ≠ none
  tracks : TracksOk run
  waits : ¬ (run.vstreamWait = true ∧ run.astreamWait = true)

/-- The samples that are left to read. -/
def samplesLeft (run : PlayerRun) : ℕ :=
  (run.videoFrameNum - run.videoIndex) + (run.audioFrameNum - run.audioIndex)

/-- A track that waits does so for one step at least. -/
def weight (run : PlayerRun) : ℕ :=
  2 * samplesLeft run + if run.vstreamWait = true ∨ run.astreamWait = true then 1 else 0

/-- What a reading does to the places of the tracks: it goes on if it returns 0. -/
structure Advance (moved : Bool) (run run' : PlayerRun) : Prop where
  same : SameFile run run'
  vstreamWait : run'.vstreamWait = run.vstreamWait
  astreamWait : run'.astreamWait = run.astreamWait
  videoIndex : run.videoIndex ≤ run'.videoIndex
  audioIndex : run.audioIndex ≤ run'.audioIndex
  lt : moved = true → samplesLeft run' < samplesLeft run

/-! ### The playback -/

section

variable (read : List Char → Option Mp4File) (init : MediaInit) (fhead : List FileListNode)

/-- The playback of a thread, with the files it has tried, those it has played to their ends, and
whether its end is reported. -/
structure Playback where
  run : PlayerRun := {}
  tried : List (FileListNode × Bool) := []
  played : List FileListNode := []
  ended : Bool := false
  deriving DecidableEq, Repr

/-- The files from the one on that is tried next. -/
def nextNodes (run : PlayerRun) : List FileListNode :=
  if run.current = [] then fhead else run.current.tail

/-- The file a step tries, and whether it is opened. -/
def triedNow (run : PlayerRun) : List (FileListNode × Bool) :=
  if run.mp4File = none then
    ((nextNodes fhead run).head?.toList).map fun node => (node, (fileOf read init fhead run).isSome)
  else []

/-- The file a step closes. -/
def playedNow (run run' : PlayerRun) : List FileListNode :=
  if (fileOf read init fhead run).isSome ∧ run'.mp4File = none then run'.current.head?.toList else []

/-- A call of `player_main`; none after the end has been reported.
Source: `server/player/player.c` `player_func`, `PLAYER_THREAD_RUN` -/
def playbackStep (p : Playback) (input : MainInput) : Option Playback :=
  if p.ended then some p
  else
    (playerMain read init fhead input p.run).map fun result => {
      run := result.run
      tried := p.tried ++ triedNow read init fhead p.run
      played := p.played ++ playedNow read init fhead p.run result.run
      ended := result.ended }

/-- The speeds of `player_get_video_frame`. The speed of a job is that of its request, and every request
asks for 1. -/
def KnownSpeed (input : MainInput) : Prop := input.speed ∈ [0, 1, 2, 4, 16]

/-- What is to be noted of the files that were tried. -/
def triedFiles (nodes : List FileListNode) : List (FileListNode × Bool) :=
  nodes.map fun node => (node, (read (playerFilePath init.type node)).isSome)

def playedFiles (nodes : List FileListNode) : List FileListNode :=
  nodes.filter fun node => (read (playerFilePath init.type node)).isSome

/-- Whatever its steps meet, the playback reports its end, and by then it has tried all files in their
order, opened those that can be read, and played these until both their tracks ended. -/
def PlaysList : Prop :=
  ∀ inputs : ℕ → MainInput, (∀ k, KnownSpeed (inputs k)) →
    ∃ n p, after (playbackStep read init fhead) n inputs {} = some p ∧ p.ended = true ∧
      p.tried = triedFiles read init fhead ∧ p.played = playedFiles read init fhead

/-- The file cannot be read. -/
def Fails (node : FileListNode) : Prop := read (playerFilePath init.type node) = none

/-- The file can be read, and its tracks be looked through: the parameter sets fit. -/
def Opens (node : FileListNode) : Prop :=
  ∃ file, read (playerFilePath init.type node) = some file ∧
    (openTracks file (file.length + 1) 0 {}).isSome

/-- Every file but the last one can be opened; the last one can, or cannot be read. -/
def ListOpens : Prop :=
  (∀ node ∈ fhead.dropLast, Opens read init node) ∧
    ∃ node ∈ fhead.getLast?, Opens read init node ∨ Fails read init node

/-! ### Where a playback is -/

/-- No file is open: some have been tried, the rest follows. -/
structure Between (pre rest : List FileListNode) (p : Playback) : Prop where
  run : p.run = { current := p.run.current }
  next : nextNodes fhead p.run = rest
  ended : p.ended = decide (rest = [])
  tried : p.tried = triedFiles read init pre
  played : p.played = playedFiles read init pre

/-- A file is open, after those that have been tried before. -/
structure Playing (pre : List FileListNode) (node : FileListNode) (next : List FileListNode)
    (p : Playback) : Prop where
  ok : FileOk p.run
  current : p.run.current = node :: next
  ended : p.ended = false
  tried : p.tried = triedFiles read init (pre ++ [node])
  played : p.played = playedFiles read init pre

end

variable {read : List Char → Option Mp4File} {init : MediaInit}
  {fhead next rest pre : List FileListNode} {input : MainInput} {run run' file : PlayerRun} {result : MainResult} {p p' : Playback}
  {node c : FileListNode} {mp4 : Mp4File} {fuel i : ℕ} {opened : Bool}

theorem Advance.stay : Advance false run run :=
  ⟨.refl, rfl, rfl, le_rfl, le_rfl, fun h => by cases h⟩

theorem Advance.tracks {moved : Bool} (h : Advance moved run run') (hok : TracksOk run) :
    TracksOk run' := by
  constructor
  · rw [h.same.videoFrameNum, h.same.videoTrack]
    exact hok.video.imp_right (.imp fun _ => .imp_right (.imp_right h.videoIndex.trans'))
  · rw [h.same.audioFrameNum, h.same.audioTrack]
    exact hok.audio.imp_right (.imp fun _ => .imp_right (.imp_right h.audioIndex.trans'))

theorem Advance.left_le {moved : Bool} (h : Advance moved run run') :
    samplesLeft run' ≤ samplesLeft run := by
  have hvideo := h.videoIndex
  have haudio := h.audioIndex
  rw [samplesLeft, samplesLeft, h.same.videoFrameNum, h.same.audioFrameNum]
  omega

/-- A reading that moves the video track on by one. -/
theorem Advance.video {moved : Bool} {k : ℕ} (hend : run.videoIndex < run.videoFrameNum)
    (hsame : SameFile run run') (hwaits : run'.vstreamWait = run.vstreamWait ∧
      run'.astreamWait = run.astreamWait) (haudio : run'.audioIndex = run.audioIndex)
    (hindex : run'.videoIndex = run.videoIndex + k) (hk : moved = true → 0 < k) :
    Advance moved run run' := by
  refine ⟨hsame, hwaits.1, hwaits.2, by omega, haudio.ge, fun hmoved => ?_⟩
  have := hk hmoved
  rw [samplesLeft, samplesLeft, hsame.videoFrameNum, hsame.audioFrameNum]
  omega

theorem Advance.audio {moved : Bool} {k : ℕ} (hend : run.audioIndex < run.audioFrameNum)
    (hsame : SameFile run run') (hwaits : run'.vstreamWait = run.vstreamWait ∧
      run'.astreamWait = run.astreamWait) (hvideo : run'.videoIndex = run.videoIndex)
    (hindex : run'.audioIndex = run.audioIndex + k) (hk : moved = true → 0 < k) :
    Advance moved run run' := by
  refine ⟨hsame, hwaits.1, hwaits.2, hvideo.ge, by omega, fun hmoved => ?_⟩
  have := hk hmoved
  rw [samplesLeft, samplesLeft, hsame.videoFrameNum, hsame.audioFrameNum]
  omega

/-! ### Frames -/

theorem advance_readVideo {input : MediaInput} {speed : ℕ} {track : Mp4Track} {sample : Mp4Sample}
    (hspeed : speed ∈ [0, 1, 2, 4, 16]) (hend : run.videoIndex < run.videoFrameNum) :
    Advance (readVideo input speed track sample run).1 run
      (readVideo input speed track sample run).2.1 := by
  have hskip : ∀ moved, Advance moved run (skipVideo run) := fun moved =>
    .video hend ⟨rfl, rfl, rfl, rfl, rfl, rfl, rfl, rfl, rfl, rfl⟩ ⟨rfl, rfl⟩ rfl rfl fun _ => one_pos
  unfold readVideo playVideo nextVideo
  dsimp only
  split_ifs
  · exact hskip false
  · exact hskip true
  · exact .stay
  · exact .stay
  · exact .video hend ⟨rfl, rfl, rfl, rfl, rfl, rfl, rfl, rfl, rfl, rfl⟩ ⟨rfl, rfl⟩ rfl rfl
      fun _ => one_pos
  · exact hskip true
  · exact hskip true
  · exact .video hend ⟨rfl, rfl, rfl, rfl, rfl, rfl, rfl, rfl, rfl, rfl⟩ ⟨rfl, rfl⟩ rfl rfl
      fun _ => one_pos

theorem advance_readAudio {input : MediaInput} {speed : ℕ} {track : Mp4Track} {sample : Mp4Sample}
    (hspeed : speed ∈ [0, 1, 2, 4, 16]) (hend : run.audioIndex < run.audioFrameNum) :
    Advance (readAudio input speed track sample run).1 run
      (readAudio input speed track sample run).2.1 := by
  have hskip : ∀ moved, Advance moved run (skipAudio run) := fun moved =>
    .audio hend ⟨rfl, rfl, rfl, rfl, rfl, rfl, rfl, rfl, rfl, rfl⟩ ⟨rfl, rfl⟩ rfl rfl fun _ => one_pos
  unfold readAudio nextAudio
  dsimp only
  split_ifs with _ _ _ hslow hfast
  · exact hskip false
  · exact hskip true
  · exact .stay
  · exact .audio hend ⟨rfl, rfl, rfl, rfl, rfl, rfl, rfl, rfl, rfl, rfl⟩ ⟨rfl, rfl⟩ rfl rfl
      fun _ => one_pos
  · exact .audio hend ⟨rfl, rfl, rfl, rfl, rfl, rfl, rfl, rfl, rfl, rfl⟩ ⟨rfl, rfl⟩ rfl rfl
      fun _ => by decide
  · simp at hspeed hslow
    omega

/-- A reading of an open file does not get stuck. -/
theorem advance_video {input : MediaInput} {speed : ℕ} (hspeed : speed ∈ [0, 1, 2, 4, 16])
    (hopen : run.mp4File ≠ none) (hok : TracksOk run) :
    ∃ r, playerGetVideoFrame input speed run = some r ∧ Advance r.1 run r.2.1 := by
  rw [playerGetVideoFrame, if_neg hopen]
  by_cases hend : run.videoFrameNum ≤ run.videoIndex
  · rw [if_pos hend]
    exact ⟨_, rfl, .stay⟩
  rw [if_neg hend]
  obtain ⟨track, htrack, hnum, hone⟩ := hok.video.resolve_left (by omega)
  rw [htrack, Option.bind_some, List.getElem?_eq_getElem (by omega), Option.map_some]
  exact ⟨_, rfl, advance_readVideo hspeed (by omega)⟩

theorem advance_audio {input : MediaInput} {speed : ℕ} (hspeed : speed ∈ [0, 1, 2, 4, 16])
    (hopen : run.mp4File ≠ none) (hok : TracksOk run) :
    ∃ r, playerGetAudioFrame input speed run = some r ∧ Advance r.1 run r.2.1 := by
  rw [playerGetAudioFrame, if_neg hopen]
  by_cases hend : run.audioFrameNum ≤ run.audioIndex
  · rw [if_pos hend]
    exact ⟨_, rfl, .stay⟩
  rw [if_neg hend]
  obtain ⟨track, htrack, hnum, hone⟩ := hok.audio.resolve_left (by omega)
  rw [htrack, Option.bind_some, List.getElem?_eq_getElem (by omega), Option.map_some]
  exact ⟨_, rfl, advance_readAudio hspeed (by omega)⟩

/-- The turn of a track: it goes on if it does not wait and its reading returns 0. -/
theorem advance_mainVideo (hspeed : KnownSpeed input) (hopen : run.mp4File ≠ none)
    (hok : TracksOk run) :
    ∃ v, mainVideo input run = some v ∧ Advance (v.1 && !run.vstreamWait) run v.2.1 := by
  rw [mainVideo]
  rcases run.vstreamWait with _ | _
  · rw [if_neg Bool.false_ne_true]
    obtain ⟨v, hv, hadvance⟩ := @advance_video run input.video _ hspeed hopen hok
    exact ⟨v, hv, by rwa [Bool.not_false, Bool.and_true]⟩
  · exact ⟨_, if_pos rfl, by simpa using .stay⟩

theorem advance_mainAudio (hspeed : KnownSpeed input) (hopen : run.mp4File ≠ none)
    (hok : TracksOk run) :
    ∃ a, mainAudio input run = some a ∧ Advance (a.1 && !run.astreamWait) run a.2.1 := by
  rw [mainAudio]
  rcases run.astreamWait with _ | _
  · rw [if_neg Bool.false_ne_true]
    obtain ⟨a, ha, hadvance⟩ := @advance_audio run input.audio _ hspeed hopen hok
    exact ⟨a, ha, by rwa [Bool.not_false, Bool.and_true]⟩
  · exact ⟨_, if_pos rfl, by simpa using .stay⟩

/-- Pacing changes nothing but which track waits; not both do. -/
theorem pace_spec (hopen : run.mp4File ≠ none) (hok : TracksOk run)
    (hwaits : ¬ (run.vstreamWait = true ∧ run.astreamWait = true)) :
    FileOk (pace run) ∧ samplesLeft (pace run) = samplesLeft run := by
  unfold pace noWait
  split_ifs
  · exact ⟨⟨hopen, ⟨hok.video, hok.audio⟩, by simp⟩, rfl⟩
  · exact ⟨⟨hopen, ⟨hok.video, hok.audio⟩, by simp⟩, rfl⟩
  · exact ⟨⟨hopen, ⟨hok.video, hok.audio⟩, by simp⟩, rfl⟩
  · exact ⟨⟨hopen, hok, hwaits⟩, rfl⟩

theorem FileOk.noWait (h : FileOk run) : FileOk (noWait run) :=
  ⟨h.opened, ⟨h.tracks.video, h.tracks.audio⟩, by simp [Sample.noWait]⟩

theorem weight_noWait : weight (noWait run) = 2 * samplesLeft run := by
  simp [weight, noWait, samplesLeft]

theorem weight_waiting (h : run.vstreamWait = true ∨ run.astreamWait = true) :
    weight run = 2 * samplesLeft run + 1 := by rw [weight, if_pos h]

theorem le_weight : 2 * samplesLeft run ≤ weight run := Nat.le_add_right _ _

theorem weight_le : weight run ≤ 2 * samplesLeft run + 1 := by
  rw [weight]
  split_ifs <;> omega

/-- A step on an open file closes it, or has less left to do. -/
theorem mainFrames_progress (hspeed : KnownSpeed input) (hok : FileOk run)
    (hcurrent : run.current = c :: next) :
    ∃ result, mainFrames input run = some result ∧ result.run.current = c :: next ∧
      ((result.run = { current := c :: next } ∧ result.ended = decide (next = [])) ∨
        (result.ended = false ∧ FileOk result.run ∧ weight result.run < weight run)) := by
  obtain ⟨v, hv, hvideo⟩ := advance_mainVideo hspeed hok.opened hok.tracks
  have hopen : v.2.1.mp4File ≠ none := hvideo.same.mp4File ▸ hok.opened
  obtain ⟨a, ha, haudio⟩ := advance_mainAudio hspeed hopen (hvideo.tracks hok.tracks)
  have hsame : SameFile run a.2.1 := hvideo.same.trans haudio.same
  have hvwait : a.2.1.vstreamWait = run.vstreamWait := haudio.vstreamWait.trans hvideo.vstreamWait
  have hawait : a.2.1.astreamWait = run.astreamWait := haudio.astreamWait.trans hvideo.astreamWait
  obtain ⟨hpace, hleft⟩ := pace_spec (hsame.mp4File ▸ hok.opened)
    (haudio.tracks (hvideo.tracks hok.tracks)) (by rw [hvwait, hawait]; exact hok.waits)
  have hpaced : (pace a.2.1).current = c :: next := by
    rw [sameFile_pace.current, hsame.current, hcurrent]
  have hle₁ := hvideo.left_le
  have hle₂ := haudio.left_le
  rw [hvideo.astreamWait] at haudio
  rw [mainFrames, hv, Option.bind_some, ha, Option.bind_some]
  dsimp only
  rcases hv₁ : v.1 with _ | _ <;> rcases ha₁ : a.1 with _ | _ <;> rw [hv₁] at hvideo <;>
    rw [ha₁] at haudio
  · have hclosed : playerCloseMp4 (noWait (pace a.2.1)) = { current := c :: next } := by
      rw [playerCloseMp4, if_pos (Option.isSome_iff_ne_none.mpr hpace.noWait.opened)]
      exact congrArg (fun current => ({ current := current } : PlayerRun)) hpaced
    have hnext : (noWait (pace a.2.1)).current = c :: next := hpaced
    simp only [Bool.not_false, Bool.or_self, Bool.and_self, if_true, nextStream, hnext, hclosed]
    exact ⟨_, rfl, rfl, .inl ⟨rfl, by simp⟩⟩
  · refine ⟨_, rfl, hpaced, .inr ⟨rfl, hpace.noWait, ?_⟩⟩
    change weight (noWait (pace a.2.1)) < weight run
    rw [weight_noWait, hleft]
    rcases hw : run.astreamWait with _ | _
    · rw [hw] at haudio
      exact (Nat.mul_lt_mul_of_pos_left (haudio.lt rfl |>.trans_le hle₁) two_pos).trans_le le_weight
    · rw [weight_waiting (.inr hw)]
      omega
  · refine ⟨_, rfl, hpaced, .inr ⟨rfl, hpace.noWait, ?_⟩⟩
    change weight (noWait (pace a.2.1)) < weight run
    rw [weight_noWait, hleft]
    rcases hw : run.vstreamWait with _ | _
    · rw [hw] at hvideo
      exact (Nat.mul_lt_mul_of_pos_left (hle₂.trans_lt (hvideo.lt rfl)) two_pos).trans_le le_weight
    · rw [weight_waiting (.inl hw)]
      omega
  · refine ⟨_, rfl, hpaced, .inr ⟨rfl, hpace, ?_⟩⟩
    change weight (pace a.2.1) < weight run
    have hmoved : samplesLeft a.2.1 < samplesLeft run := by
      rcases hw : run.vstreamWait with _ | _
      · rw [hw] at hvideo
        exact hle₂.trans_lt (hvideo.lt rfl)
      · have hruns : run.astreamWait = false := by
          by_contra hnot
          exact hok.waits ⟨hw, by simpa using hnot⟩
        rw [hruns] at haudio
        exact (haudio.lt rfl).trans_le hle₁
    have hle := @weight_le (pace a.2.1)
    rw [hleft] at hle
    have hge := @le_weight run
    omega

/-! ### Opening -/

/-- Whether the tracks of a file can be looked through does not depend on the record. -/
theorem isSome_openTracks (run run' : PlayerRun) :
    (openTracks mp4 fuel i run).isSome = (openTracks mp4 fuel i run').isSome := by
  induction fuel generalizing i run run' with
  | zero => rfl
  | succ fuel ih =>
      rw [openTracks, openTracks]
      rcases mp4[i]? with _ | track
      · rfl
      dsimp only
      by_cases hvideo : track.video = true
      · rw [if_pos hvideo, if_pos hvideo]
        rcases copyHeaders track.sps [] with _ | sps
        · rfl
        rcases copyHeaders track.pps [] with _ | pps
        · rfl
        exact ih _ _
      · rw [if_neg hvideo, if_neg hvideo]
        exact ih _ _

theorem tracksOk_openTracks (h : openTracks mp4 fuel i run = some run') (hok : TracksOk run) :
    TracksOk run' := by
  induction fuel generalizing i run with
  | zero => cases h
  | succ fuel ih =>
      rw [openTracks] at h
      split at h
      · cases h
        exact hok
      · split_ifs at h
        · obtain ⟨sps, -, h⟩ := Option.bind_eq_some_iff.mp h
          obtain ⟨pps, -, h⟩ := Option.bind_eq_some_iff.mp h
          exact ih h ⟨.inr ⟨_, rfl, rfl, le_rfl⟩, hok.audio⟩
        · exact ih h ⟨hok.video, .inr ⟨_, rfl, rfl, le_rfl⟩⟩

theorem seek_pos {reach : ℕ → Bool} {num : ℕ} : 1 ≤ seek reach num := by
  rw [seek]
  rcases hfind : ((List.range num).map (· + 1)).find? (fun i => reach i) with _ | k
  · exact le_rfl
  · obtain ⟨j, -, rfl⟩ := List.mem_map.mp (List.mem_of_find?_eq_some hfind)
    exact Nat.le_add_left 1 j

/-- A track that is there is looked through to the wanted time. -/
theorem seekTrack_ok (node : FileListNode) (init : MediaInit) (start : ℕ) {num index : ℕ}
    {track : Option Mp4Track}
    (hok : num = 0 ∨ ∃ t, track = some t ∧ num = t.samples.length ∧ 1 ≤ index) :
    ∃ index', seekTrack node init start num index track = some index' ∧
      (num = 0 ∨ ∃ t, track = some t ∧ num = t.samples.length ∧ 1 ≤ index') := by
  by_cases hnum : num = 0
  · rcases track with _ | track
    · exact ⟨index, if_pos hnum, .inl hnum⟩
    · exact ⟨_, rfl, .inl hnum⟩
  obtain ⟨track, rfl, hlength, hone⟩ := hok.resolve_left hnum
  refine ⟨_, rfl, .inr ⟨track, rfl, hlength, ?_⟩⟩
  rw [if_neg hnum]
  exact seek_pos

theorem seekFile_ok (hok : TracksOk run) : ∃ file, seekFile node init run = some file ∧
    TracksOk file ∧ SameHead run file := by
  obtain ⟨video, hvideo, hvideoOk⟩ := seekTrack_ok node init run.start hok.video
  obtain ⟨audio, haudio, haudioOk⟩ := seekTrack_ok node init run.start hok.audio
  refine ⟨{ run with videoIndex := video, audioIndex := audio }, ?_, ⟨hvideoOk, haudioOk⟩,
    ⟨rfl, rfl, rfl, rfl, rfl, rfl, rfl⟩⟩
  rw [seekFile, hvideo, Option.bind_some, haudio, Option.map_some]

theorem playerOpenMp4_nil (hfile : run.mp4File = none) (hnext : nextNodes fhead run = []) :
    playerOpenMp4 read init fhead run = none := by
  rw [nextNodes] at hnext
  simp only [playerOpenMp4, hfile, hnext]

theorem playerOpenMp4_of_none (hfile : run.mp4File = none) (hnext : nextNodes fhead run = c :: next)
    (hread : read (playerFilePath init.type c) = none) :
    playerOpenMp4 read init fhead run = some (false, { run with current := c :: next }) := by
  rw [nextNodes] at hnext
  simp only [playerOpenMp4, hfile, hnext, hread]

/-- A file that is read is the open one when its tracks are looked through. -/
theorem playerOpenMp4_of_some (hfile : run.mp4File = none) (hnext : nextNodes fhead run = c :: next)
    (hread : read (playerFilePath init.type c) = some mp4) :
    ∃ start, (start.current = c :: next ∧ start.mp4File = some mp4 ∧
      start.videoFrameNum = run.videoFrameNum ∧ start.audioFrameNum = run.audioFrameNum ∧
      start.vstreamWait = run.vstreamWait ∧ start.astreamWait = run.astreamWait) ∧
      playerOpenMp4 read init fhead run = (openTracks mp4 (mp4.length + 1) 0 start).bind fun run =>
        (seekFile c init run).map fun run => (true, run) := by
  rw [nextNodes] at hnext
  simp only [playerOpenMp4, hfile, hnext, hread]
  refine ⟨_, ?_, rfl⟩
  exact ⟨rfl, rfl, rfl, rfl, rfl, rfl⟩

/-- What is opened is the next file, and its tracks are looked through. -/
theorem playerOpenMp4_inv (hfile : run.mp4File = none) (hnext : nextNodes fhead run = c :: next)
    (h : playerOpenMp4 read init fhead run = some (opened, file)) :
    file.current = c :: next ∧
      (opened = true ∧ Opens read init c ∨ opened = false ∧ Fails read init c) := by
  rcases hread : read (playerFilePath init.type c) with _ | mp4
  · rw [playerOpenMp4_of_none hfile hnext hread] at h
    cases h
    exact ⟨rfl, .inr ⟨rfl, hread⟩⟩
  · obtain ⟨start, ⟨hcurrent, -⟩, heq⟩ := playerOpenMp4_of_some hfile hnext hread
    rw [heq] at h
    obtain ⟨run₁, htracks, h⟩ := Option.bind_eq_some_iff.mp h
    obtain ⟨run₂, hseek, heq⟩ := Option.map_eq_some_iff.mp h
    cases heq
    obtain ⟨video, audio, rfl, -, -⟩ := seekFile_some hseek
    refine ⟨(sameHead_openTracks htracks).current.trans hcurrent, .inl ⟨rfl, mp4, hread, ?_⟩⟩
    rw [isSome_openTracks {} start, htracks, Option.isSome_some]

/-- The record of a closed file opens every file that can be opened. -/
theorem playerOpenMp4_closed {current : List FileListNode}
    (hnext : nextNodes fhead { current := current } = c :: next) (hopens : Opens read init c) :
    ∃ file, playerOpenMp4 read init fhead { current := current } = some (true, file) ∧
      FileOk file ∧ file.current = c :: next := by
  obtain ⟨mp4, hread, htracks⟩ := hopens
  obtain ⟨start, ⟨hcurrent, hfile, hvideo, haudio, hvwait, hawait⟩, heq⟩ :=
    playerOpenMp4_of_some rfl hnext hread
  rw [isSome_openTracks {} start, Option.isSome_iff_exists] at htracks
  obtain ⟨run₁, htracks⟩ := htracks
  have hhead := sameHead_openTracks htracks
  obtain ⟨file, hseek, hok, hsame⟩ :=
    seekFile_ok (tracksOk_openTracks htracks ⟨.inl hvideo, .inl haudio⟩)
  refine ⟨file, by rw [heq, htracks, Option.bind_some, hseek, Option.map_some], ⟨?_, hok, ?_⟩, ?_⟩
  · rw [hsame.mp4File, hhead.mp4File, hfile]
    exact Option.some_ne_none _
  · rw [hsame.vstreamWait, hhead.vstreamWait, hvwait]
    exact fun h => absurd h.1 Bool.false_ne_true
  · rw [hsame.current, hhead.current, hcurrent]

/-! ### The steps of a playback -/

theorem triedFiles_concat (hopens : Opens read init c) :
    triedFiles read init (pre ++ [c]) = triedFiles read init pre ++ [(c, true)] := by
  obtain ⟨mp4, hread, -⟩ := hopens
  simp [triedFiles, hread]

theorem playedFiles_concat (hopens : Opens read init c) :
    playedFiles read init (pre ++ [c]) = playedFiles read init pre ++ [c] := by
  obtain ⟨mp4, hread, -⟩ := hopens
  simp [playedFiles, hread]

theorem nextNodes_cons (hcurrent : run.current = c :: next) : nextNodes fhead run = next := by
  rw [nextNodes, hcurrent, if_neg (List.cons_ne_nil c next), List.tail_cons]

/-- A step that reads frames of a file plays it on, or is done with it. -/
theorem playbackStep_file (hspeed : KnownSpeed input) (hopens : Opens read init c)
    (hended : p.ended = false) (hmain : playerMain read init fhead input p.run = mainFrames input file)
    (hfile : fileOf read init fhead p.run = some file) (hok : FileOk file)
    (hcurrent : file.current = c :: next)
    (htried : p.tried ++ triedNow read init fhead p.run = triedFiles read init (pre ++ [c]))
    (hplayed : p.played = playedFiles read init pre) :
    ∃ p', playbackStep read init fhead p input = some p' ∧
      (Between read init fhead (pre ++ [c]) next p' ∨
        Playing read init pre c next p' ∧ weight p'.run < weight file) := by
  obtain ⟨result, hframes, hnext, hresult⟩ := mainFrames_progress hspeed hok hcurrent
  rw [playbackStep, hended, if_neg Bool.false_ne_true, hmain, hframes, Option.map_some]
  refine ⟨_, rfl, ?_⟩
  rcases hresult with ⟨hrun, hend⟩ | ⟨hend, hkept, hlt⟩
  · left
    refine ⟨hrun.trans (by rw [hnext]), nextNodes_cons hnext, hend, htried, ?_⟩
    rw [playedNow, hfile, if_pos ⟨rfl, by rw [hrun]⟩, hnext, hplayed, playedFiles_concat hopens]
    rfl
  · right
    refine ⟨⟨hkept, hnext, hend, htried, ?_⟩, hlt⟩
    rw [playedNow, if_neg fun h => hkept.opened h.2, List.append_nil, hplayed]

/-- An open file is played until it is closed. -/
theorem playing_leadsTo (hopens : Opens read init c) :
    LeadsTo (playbackStep read init fhead) KnownSpeed (Playing read init pre c next)
      (Between read init fhead (pre ++ [c]) next) := by
  apply LeadsTo.of_weight fun p => weight p.run
  intro p input hp hspeed
  have hopen := hp.ok.opened
  refine playbackStep_file hspeed hopens hp.ended ?_ ?_ hp.ok hp.current ?_ hp.played
  · rw [playerMain, if_neg hopen]
  · rw [fileOf, if_neg hopen]
  · rw [triedNow, if_neg hopen, List.append_nil, hp.tried]

/-- The next file is played, if it can be opened. -/
theorem between_leadsTo_of_opens (hopens : Opens read init c) :
    LeadsTo (playbackStep read init fhead) KnownSpeed (Between read init fhead pre (c :: next))
      (Between read init fhead (pre ++ [c]) next) := by
  refine .trans (.of_step ?_) (.or (.of_imp fun _ h => h) (playing_leadsTo hopens))
  intro p input hp hspeed
  have hclosed : p.run.mp4File = none := by rw [hp.run]
  obtain ⟨file, hopen, hok, hcurrent⟩ : ∃ file, playerOpenMp4 read init fhead p.run =
      some (true, file) ∧ FileOk file ∧ file.current = c :: next := by
    have hnext := hp.next
    rw [hp.run] at hnext ⊢
    exact playerOpenMp4_closed hnext hopens
  have hfile : fileOf read init fhead p.run = some file := by
    rw [fileOf, if_pos hclosed, hopen, Option.bind_some, if_pos rfl]
  obtain ⟨p', hstep, hp'⟩ := playbackStep_file hspeed hopens hp.ended
    (by rw [playerMain, if_pos hclosed, hopen, Option.bind_some, if_pos rfl]) hfile hok hcurrent
    (by rw [triedNow, if_pos hclosed, hp.next, hfile, hp.tried, triedFiles_concat hopens]; rfl)
    hp.played
  exact ⟨p', hstep, hp'.imp_right And.left⟩

/-- The playback ends with a last file that cannot be read. -/
theorem between_leadsTo_of_fails (hfails : Fails read init c) :
    LeadsTo (playbackStep read init fhead) KnownSpeed (Between read init fhead pre [c])
      (Between read init fhead (pre ++ [c]) []) := by
  apply LeadsTo.of_step
  intro p input hp _
  have hclosed : p.run.mp4File = none := by rw [hp.run]
  have hopen : playerOpenMp4 read init fhead p.run = some (false, { current := [c] }) := by
    rw [playerOpenMp4_of_none hclosed hp.next hfails, hp.run]
  have hfile : fileOf read init fhead p.run = none := by
    rw [fileOf, if_pos hclosed, hopen, Option.bind_some, if_neg Bool.false_ne_true]
  have hmain : playerMain read init fhead input p.run = some ⟨true, { current := [c] }, []⟩ := by
    rw [playerMain, if_pos hclosed, hopen, Option.bind_some, if_neg Bool.false_ne_true]
    rfl
  have hread : (read (playerFilePath init.type c)).isSome = false := by rw [hfails]; rfl
  refine ⟨_, by rw [playbackStep, hp.ended, decide_eq_false (List.cons_ne_nil c []),
    if_neg Bool.false_ne_true, hmain, Option.map_some], rfl, rfl, rfl, ?_, ?_⟩
  · rw [triedNow, if_pos hclosed, hp.next, hfile, hp.tried]
    simp [triedFiles, hread]
  · rw [playedNow, hfile, hp.played]
    simp [playedFiles, hread]

/-! ### The list -/

theorem listOpens_singleton : ListOpens read init [c] ↔ Opens read init c ∨ Fails read init c := by
  simp [ListOpens]

theorem listOpens_cons (hnext : next ≠ []) :
    ListOpens read init (c :: next) ↔ Opens read init c ∧ ListOpens read init next := by
  obtain ⟨d, more, rfl⟩ := List.exists_cons_of_ne_nil hnext
  simp [ListOpens, and_assoc]

/-- A list of which every file but the last one can be opened is played to its end. -/
theorem between_leadsTo (hrest : ListOpens read init rest) :
    LeadsTo (playbackStep read init fhead) KnownSpeed (Between read init fhead pre rest)
      (Between read init fhead (pre ++ rest) []) := by
  induction rest generalizing pre with
  | nil => simp [ListOpens] at hrest
  | cons c next ih =>
      by_cases hnext : next = []
      · subst hnext
        rcases listOpens_singleton.mp hrest with hopens | hfails
        · exact between_leadsTo_of_opens hopens
        · exact between_leadsTo_of_fails hfails
      · obtain ⟨hopens, hrest⟩ := (listOpens_cons hnext).mp hrest
        rw [List.append_cons]
        exact (between_leadsTo_of_opens hopens).trans (ih hrest)

/-- The files that have been tried are the first ones of the list. All but the last one of them were
opened; that one was, or it is the end of the playback. -/
def TriedFirst (read : List Char → Option Mp4File) (init : MediaInit) (fhead : List FileListNode)
    (p : Playback) : Prop :=
  p = {} ∨ ∃ pre c next, fhead = pre ++ c :: next ∧ p.run.current = c :: next ∧
    p.tried = triedFiles read init (pre ++ [c]) ∧ (∀ node ∈ pre, Opens read init node) ∧
    (Opens read init c ∨ Fails read init c ∧ p.ended = true)

theorem current_playerCloseMp4 : (playerCloseMp4 run).current = run.current := by
  unfold playerCloseMp4
  split_ifs <;> rfl

theorem current_mainFrames (hopen : run.mp4File ≠ none) (h : mainFrames input run = some result) :
    result.run.current = run.current := by
  rw [mainFrames] at h
  obtain ⟨v, hv, h⟩ := Option.bind_eq_some_iff.mp h
  obtain ⟨a, ha, h⟩ := Option.bind_eq_some_iff.mp h
  have hvideo := (videoTurn hopen hv).same
  have haudio := (audioTurn (hvideo.mp4File ▸ hopen) ha).2
  have hcurrent : (if !v.1 || !a.1 then noWait (pace a.2.1) else pace a.2.1).current = run.current := by
    split_ifs <;> exact ((hvideo.trans haudio).trans sameFile_pace).current
  dsimp only at h
  by_cases hboth : (!v.1 && !a.1) = true
  · rw [if_pos hboth, nextStream] at h
    split at h
    · cases h
    · cases h
      exact current_playerCloseMp4.trans hcurrent
  · rw [if_neg hboth] at h
    cases h
    exact hcurrent

/-- The next file is tried. -/
theorem triedFirst_next (hclosed : p.run.mp4File = none) (hnext : nextNodes fhead p.run = c :: next)
    (hfiles : fhead = pre ++ c :: next) (htried : p.tried = triedFiles read init pre)
    (hpre : ∀ node ∈ pre, Opens read init node) (hended : p.ended = false)
    (h : playbackStep read init fhead p input = some p') : TriedFirst read init fhead p' := by
  rw [playbackStep, hended, if_neg Bool.false_ne_true, playerMain, if_pos hclosed] at h
  obtain ⟨result, hmain, rfl⟩ := Option.map_eq_some_iff.mp h
  rcases hopen : playerOpenMp4 read init fhead p.run with _ | ⟨opened, file⟩
  · rw [hopen] at hmain
    cases hmain
  obtain ⟨hcurrent, hcase⟩ := playerOpenMp4_inv hclosed hnext hopen
  rw [hopen, Option.bind_some] at hmain
  refine .inr ⟨pre, c, next, hfiles, ?_⟩
  rcases hcase with ⟨rfl, hopens⟩ | ⟨rfl, hfails⟩
  · rw [if_pos rfl] at hmain
    have hfile : fileOf read init fhead p.run = some file := by
      rw [fileOf, if_pos hclosed, hopen, Option.bind_some, if_pos rfl]
    have hsame := current_mainFrames (mp4File_playerOpenMp4 hopen) hmain
    refine ⟨hsame.trans hcurrent, ?_, hpre, .inl hopens⟩
    rw [triedNow, if_pos hclosed, hnext, hfile, htried, triedFiles_concat hopens]
    rfl
  · rw [if_neg Bool.false_ne_true, nextStream] at hmain
    have hfile : fileOf read init fhead p.run = none := by
      rw [fileOf, if_pos hclosed, hopen, Option.bind_some, if_neg Bool.false_ne_true]
    have hread : (read (playerFilePath init.type c)).isSome = false := by rw [hfails]; rfl
    simp only [hcurrent, Option.some.injEq] at hmain
    subst hmain
    refine ⟨current_playerCloseMp4.trans hcurrent, ?_, hpre, .inr ⟨hfails, rfl⟩⟩
    rw [triedNow, if_pos hclosed, hnext, hfile, htried]
    simp [triedFiles, hread]

theorem triedFirst_step (h : TriedFirst read init fhead p)
    (hs : playbackStep read init fhead p input = some p') : TriedFirst read init fhead p' := by
  by_cases hended : p.ended = true
  · rw [playbackStep, if_pos hended] at hs
    cases hs
    exact h
  have hruns : p.ended = false := by simpa using hended
  -- a step without a next file has no result
  have hsome : ∀ hclosed : p.run.mp4File = none, nextNodes fhead p.run ≠ [] := by
    intro hclosed hnil
    rw [playbackStep, if_neg hended, playerMain, if_pos hclosed, playerOpenMp4_nil hclosed hnil] at hs
    cases hs
  rcases h with rfl | ⟨pre, c, next, hfiles, hcurrent, htried, hpre, hlast⟩
  · obtain ⟨c, next, hnext⟩ := List.exists_cons_of_ne_nil (hsome rfl)
    have hfiles : fhead = [] ++ c :: next := hnext
    exact triedFirst_next rfl hnext hfiles rfl (fun _ h => absurd h List.not_mem_nil) rfl hs
  have hopens : Opens read init c := hlast.resolve_right fun h => hended h.2
  by_cases hclosed : p.run.mp4File = none
  · have hnext : nextNodes fhead p.run = next := nextNodes_cons hcurrent
    obtain ⟨d, more, rfl⟩ := List.exists_cons_of_ne_nil (hnext ▸ hsome hclosed)
    refine triedFirst_next hclosed hnext (by rw [hfiles, List.append_cons]) htried ?_ hruns hs
    intro node hnode
    rcases List.mem_append.mp hnode with hnode | hnode
    · exact hpre node hnode
    · rwa [List.mem_singleton.mp hnode]
  · rw [playbackStep, if_neg hended, playerMain, if_neg hclosed] at hs
    obtain ⟨result, hmain, rfl⟩ := Option.map_eq_some_iff.mp hs
    refine .inr ⟨pre, c, next, hfiles, (current_mainFrames hclosed hmain).trans hcurrent, ?_, hpre,
      .inl hopens⟩
    rw [triedNow, if_neg hclosed, List.append_nil, htried]

/-- A playback that has tried all files has opened all but the last one. -/
theorem listOpens_of_tried (h : TriedFirst read init fhead p) (hended : p.ended = true)
    (htried : p.tried = triedFiles read init fhead) : ListOpens read init fhead := by
  rcases h with rfl | ⟨pre, c, next, hfiles, -, hfirst, hpre, hlast⟩
  · cases hended
  have hlength : (pre ++ [c]).length = fhead.length := by
    have := congrArg List.length (hfirst.symm.trans htried)
    simpa only [triedFiles, List.length_map] using this
  obtain rfl : next = [] := by
    rw [hfiles] at hlength
    simpa using hlength
  subst hfiles
  rw [ListOpens, List.dropLast_concat, List.getLast?_concat]
  exact ⟨hpre, c, rfl, hlast.imp_right And.left⟩

theorem listOpens_of_playsList (h : PlaysList read init fhead) : ListOpens read init fhead := by
  obtain ⟨n, p, hafter, hended, htried, -⟩ :=
    h (fun _ => {}) fun _ => List.mem_cons_of_mem _ List.mem_cons_self
  refine listOpens_of_tried ?_ hended htried
  exact (reach_of_after hafter).inv (.inl rfl) fun _ _ _ hp _ hs => triedFirst_step hp hs

/-- A playback plays every file that can be opened, in their order, and ends after the last one, iff all
files before the last one can be opened. -/
theorem playsList_iff (read : List Char → Option Mp4File) (init : MediaInit)
    (fhead : List FileListNode) : PlaysList read init fhead ↔ ListOpens read init fhead := by
  refine ⟨listOpens_of_playsList, fun h inputs hspeed => ?_⟩
  have hne : fhead ≠ [] := by
    rintro rfl
    simp [ListOpens] at h
  have hstart : Between read init fhead [] fhead {} :=
    ⟨rfl, rfl, (decide_eq_false hne).symm, rfl, rfl⟩
  obtain ⟨n, p, hafter, hend⟩ := between_leadsTo h {} hstart inputs hspeed
  exact ⟨n, p, hafter, hend.ended, hend.tried, hend.played⟩

/-- The first of two files is missing: the playback ends without trying the second one. -/
theorem missing_ends : ¬ PlaysList (fun path =>
      if path = playerFilePath 0 ⟨1700000000#32, 1700000001#32⟩ then none
      else some [shortAudio, slowVideo]) { start := 1700000000, stop := 1700000061 }
    [⟨1700000000#32, 1700000001#32⟩, ⟨1700000060#32, 1700000061#32⟩] := by
  intro h
  obtain ⟨hopens, -⟩ := listOpens_of_playsList h
  obtain ⟨file, hread, -⟩ := hopens ⟨1700000000#32, 1700000001#32⟩ List.mem_cons_self
  simp at hread

end GokeWebcam.Server.Player.Sample
