import GokeWebcam.Server.PlayerPending
import GokeWebcam.Server.RecorderPlayback

/-!
# The window of a playback

A playback is asked for the samples of a window of time, in whole seconds, from a list of recordings.

* `vodStep_inFile`, `atFile_leadsTo`: each recording sends what `sentFile` says, whatever the speed.
* `vodExact_iff`: what is sent is what lies in the window, from the first key frame on, with its stamps,
  iff `FileMeets` of each recording.
* `last_unsent`: the last sample of a recording is not sent.
-/

namespace GokeWebcam.Server.Player.Sample

open Lib Common Device Recorder.Sample

/-! ### Recordings -/

/-- A file of the list as the recorder leaves it: the audio track if there is one, and the video track
behind it once there is a parameter set. -/
structure Recording where
  node : FileListNode
  audio : Option Mp4Track
  video : Option Mp4Track
  audioKind : ∀ track ∈ audio, track.video = false
  videoKind : ∀ track ∈ video, track.video = true
  slices : ∀ track ∈ video, Slices track

def Recording.file (r : Recording) : Mp4File := r.audio.toList ++ r.video.toList

/-- The parameter sets fit, and the tracks can be looked through. -/
def Recording.Opens (r : Recording) : Prop := (openTracks r.file (r.file.length + 1) 0 {}).isSome

theorem type_slices {frames : List CodedFrame} {file : Recorder.Sample.Recorded}
    (hfile : ∀ unit ∈ file.slices, unit.type = 5#8 ∨ unit.type = 1#8) :
    ∀ unit ∈ (frames.foldl Recorder.Sample.Recorded.frame file).slices,
      unit.type = 5#8 ∨ unit.type = 1#8 := by
  induction frames generalizing file with
  | nil => exact hfile
  | cons frame frames ih =>
      refine ih fun unit hunit => ?_
      rw [Recorder.Sample.Recorded.frame, Recorder.Sample.Recorded.keep] at hunit
      split_ifs at hunit
      · rcases List.mem_append.mp hunit with hold | hnew
        · rw [slices_foldl_param] at hold
          exact hfile unit hold
        · have := frame.slices_type unit hnew
          split_ifs at this
          · exact .inl this
          · exact .inr this
      · rw [slices_foldl_param] at hunit
        exact hfile unit hunit

/-- What the recorder writes is a recording. -/
theorem exists_recording (camera : Camera) (audio : Bool) (stop : CLong) (rounds : List CodedRound)
    (node : FileListNode) : ∃ (run : SampleRun) (r : Recording), r.node = node ∧ r.file = tracks run ∧
      recordRounds (rounds.map (CodedRound.input camera)) (initMp4 audio stop) = some run := by
  obtain ⟨run, hrun, hholds⟩ := recording_spec camera audio stop rounds
  have hsamples := sampleList_of_holds hholds
  refine ⟨run, ⟨node, run.audioTrack, run.videoTrack, hholds.audio, fun track htrack => ?_,
    fun track htrack sample hsample hsync => ?_⟩, rfl, rfl, hrun⟩
  · have heq := hholds.track
    rw [htrack, Option.map_some, eq_comm] at heq
    obtain ⟨unit, -, heq⟩ := Option.map_eq_some_iff.mp heq
    simp only [Prod.mk.injEq] at heq
    exact heq.1.symm
  · have hmem : (sample.data, sample.sync) ∈ sampleList run.videoTrack := by
      rw [htrack, sampleList, Option.elim_some]
      exact List.mem_map_of_mem hsample
    rw [hsamples] at hmem
    obtain ⟨unit, hunit, heq⟩ := List.mem_map.mp hmem
    have htype := type_slices (fun _ h => absurd h List.not_mem_nil) unit hunit
    have hdata : sample.data = lengthBytes unit.bytes.length ++ unit.bytes :=
      (congrArg Prod.fst heq).symm
    have hkind : sample.data.getD 4 0#8 &&& 0x1f#8 = unit.type := by
      obtain ⟨header, bytes, hbytes⟩ := List.exists_cons_of_ne_nil unit.ne_nil
      rw [hdata, NalUnit.type]
      simp [lengthBytes, hbytes]
    rw [hkind]
    rcases htype with htype | htype <;> rw [htype] <;> decide

/-- A list made of each element, with those before and those after it. -/
def eachFile {α : Type} (f : List Recording → Recording → List Recording → α) :
    List Recording → List Recording → List α
  | _, [] => []
  | pre, r :: rest => f pre r rest :: eachFile f (pre ++ [r]) rest

/-! ### What is wanted -/

section

variable (init : MediaInit)

/-- When a sample was recorded, in milliseconds. -/
def absMs (r : Recording) (track : Mp4Track) (k : ℕ) : ℕ :=
  r.node.start.toNat * 1000 + sampleMs track k

def inWindow (r : Recording) (track : Mp4Track) (k : ℕ) : Bool :=
  init.start * 1000 ≤ absMs r track k && absMs r track k ≤ init.stop * 1000

/-- A key sample of the window. -/
def keyInWindow (r : Recording) (track : Mp4Track) (k : ℕ) : Bool :=
  isKey track k && inWindow init r track k

/-- One of the recordings has a key sample in the window. -/
def hasKey (pre : List Recording) : Bool :=
  pre.any fun r => r.video.any fun track =>
    (List.range' 1 track.samples.length).any (keyInWindow init r track)

/-- The video samples of the window, from the first key sample on. -/
def wantedVideo (pre : List Recording) (r : Recording) (track : Mp4Track) (k : ℕ) : Bool :=
  inWindow init r track k && (hasKey init pre || (List.range' 1 k).any (keyInWindow init r track))

/-- The audio samples of the window, from the time of the first key sample on. -/
def wantedAudio (pre : List Recording) (r : Recording) (track : Mp4Track) (k : ℕ) : Bool :=
  inWindow init r track k && (hasKey init pre || r.video.any fun video =>
    (List.range' 1 video.samples.length).any fun j =>
      keyInWindow init r video j && sampleMs video j ≤ sampleMs track k)

/-- The samples that are wanted, with the constant offset of a second in their stamps. -/
def wantedOf (r : Recording) (track : Mp4Track) (wanted : ℕ → Bool) : List Stamped :=
  ((List.range' 1 track.samples.length).filter wanted).map fun k =>
    (k, BitVec.ofNat 32 (absMs r track k + 1000))

def wantedFile (pre : List Recording) (r : Recording) (_ : List Recording) : FileLog where
  video := r.video.elim [] fun track => wantedOf r track (wantedVideo init pre r track)
  audio := r.audio.elim [] fun track => wantedOf r track (wantedAudio init pre r track)

end

/-! ### The playback -/

section

variable (read : List Char → Option Mp4File) (init : MediaInit)

/-- The playback of a thread, with what it has sent of the files it has closed and of the one it plays,
and whether its end is reported. -/
structure Vod where
  run : PlayerRun := {}
  files : List FileLog := []
  now : FileLog := {}
  ended : Bool := false
  deriving DecidableEq, Repr

/-- A call of `player_main`; none after the end has been reported.
Source: `server/player/player.c` `player_func`, `PLAYER_THREAD_RUN` -/
def vodStep (fhead : List FileListNode) (v : Vod) (input : MainInput) : Option Vod :=
  if v.ended then some v
  else
    (playerMain read init fhead input v.run).map fun result =>
      let now := v.now ++ (fileOf read init fhead v.run).elim {} fun file => logged file result.sent
      if result.run.mp4File = none then
        { run := result.run, files := v.files ++ [now], now := {}, ended := result.ended }
      else { run := result.run, files := v.files, now := now, ended := result.ended }

/-- The recordings are the files that are read. -/
def Stored (recordings : List Recording) : Prop :=
  ∀ r ∈ recordings, read (playerFilePath init.type r.node) = some r.file

/-- A playback comes to its end, and by then has sent the samples that are wanted, in their order. -/
def VodExact (recordings : List Recording) : Prop :=
  ∀ inputs : ℕ → MainInput, (∀ k, Undisturbed (inputs k)) →
    ∃ n v, after (vodStep read init (recordings.map Recording.node)) n inputs {} = some v ∧
      v.ended = true ∧ v.files = eachFile (wantedFile init) [] recordings

end

/-! ### What is sent -/

section

variable (init : MediaInit) (pre : List Recording) (r : Recording) (rest : List Recording)

/-- From when on a file is played: the first one of the list from the start of the window on.
Source: `server/player/player.c` `player_open_mp4`, `run->start` -/
def playStart : ℕ := if pre = [] then init.start else r.node.start.toNat

/-- Source: `server/player/player.c` `player_open_mp4`, `run->stop` -/
def playStop : ℕ := if rest = [] then init.stop else 0

/-- The sample that a track begins with.
Source: `server/player/player.c` `player_open_mp4`, `//seek` -/
def seekPlace (track : Mp4Track) : ℕ :=
  seek (fun i => reached r.node init (playStart init pre r) (sampleMs track i)) track.samples.length

/-- The tracks, places and times of a recording that has been opened. -/
def openedRun : PlayerRun where
  videoTrack := r.video
  audioTrack := r.audio
  videoIndex := r.video.elim 0 (seekPlace init pre r)
  audioIndex := r.audio.elim 0 (seekPlace init pre r)
  start := playStart init pre r
  stop := playStop init rest

/-- What is sent of a recording. -/
def sentFile : FileLog := pending (openedRun init pre r rest)

end

/-! ### When what is sent is what is wanted -/

/-- A track of a recording, from the place on with which its sending begins. -/
structure TrackMeets (run : PlayerRun) (r : Recording) (track : Mp4Track) (first : Option ℕ)
    (wanted : ℕ → Bool) : Prop where
  /-- The last sample is not wanted. -/
  last : track.samples ≠ [] → wanted track.samples.length = false
  /-- Nothing is wanted before the place where the sending begins. -/
  before : ∀ k, 1 ≤ k → k < track.samples.length → (∀ f ∈ first, k < f) → wanted k = false
  /-- From there on, what is wanted ends with what is played. -/
  between : ∀ f ∈ first, ∀ k, f ≤ k → k < track.samples.length →
    wanted k = !pastStop run (sampleMs track k)
  /-- The stamps begin with the start of the file, if anything is sent. -/
  stamp : ∀ f ∈ first, f < track.samples.length → pastStop run (sampleMs track f) = false →
    BitVec.ofNat 32 (run.start * 1000) = BitVec.ofNat 32 (r.node.start.toNat * 1000)

/-- A recording can be opened, and its tracks are sent as they are wanted. -/
structure FileMeets (init : MediaInit) (pre : List Recording) (r : Recording)
    (rest : List Recording) : Prop where
  opens : r.Opens
  video : ∀ track ∈ r.video, TrackMeets (openedRun init pre r rest) r track
    ((begins (openedRun init pre r rest)).map Prod.fst) (wantedVideo init pre r track)
  audio : ∀ track ∈ r.audio, TrackMeets (openedRun init pre r rest) r track
    ((begins (openedRun init pre r rest)).map Prod.snd) (wantedAudio init pre r track)

/-! ### Where a playback is -/

section

variable (init : MediaInit) (all pre : List Recording)

/-- No file is open: some recordings have been played, the rest follows. -/
structure AtFile (rest : List Recording) (v : Vod) : Prop where
  list : all = pre ++ rest
  run : v.run = { current := v.run.current }
  next : nextNodes (all.map Recording.node) v.run = rest.map Recording.node
  ended : v.ended = decide (rest = [])
  now : v.now = {}
  files : v.files ++ eachFile (sentFile init) pre rest = eachFile (sentFile init) [] all

/-- A recording is open, after those that have been played before. -/
structure InFile (r : Recording) (rest : List Recording) (v : Vod) : Prop where
  list : all = pre ++ r :: rest
  reading : Reading v.run
  ok : FileOk v.run
  current : v.run.current = (r :: rest).map Recording.node
  ended : v.ended = false
  left : v.now ++ pending v.run = sentFile init pre r rest
  files : v.files ++ eachFile (sentFile init) pre (r :: rest) = eachFile (sentFile init) [] all

end

variable {read : List Char → Option Mp4File} {init : MediaInit} {fhead : List FileListNode}
  {all pre rest : List Recording} {r : Recording} {input : MainInput} {run run' file : PlayerRun}
  {result : MainResult} {v v' : Vod} {track : Mp4Track} {k n : ℕ}

/-! ### Opening a recording -/

theorem openTracks_end {mp4 : Mp4File} {fuel i : ℕ} (hi : mp4[i]? = none) :
    openTracks mp4 (fuel + 1) i run = some run := by rw [openTracks, hi]

theorem openTracks_audio {mp4 : Mp4File} {fuel i : ℕ} (hi : mp4[i]? = some track)
    (hkind : track.video = false) : openTracks mp4 (fuel + 1) i run =
      openTracks mp4 fuel (i + 1) { run with
        audioTrack := some track, audioFrameNum := track.samples.length, audioIndex := 1 } := by
  rw [openTracks, hi]
  dsimp only
  rw [hkind, if_neg Bool.false_ne_true]

/-- Behind a video track the tracks are looked through from some later number on, or again from the
second one on. -/
theorem openTracks_video_inv {mp4 : Mp4File} {fuel i : ℕ} (hi : mp4[i]? = some track)
    (hkind : track.video = true) (h : openTracks mp4 (fuel + 1) i run = some run') :
    ∃ sps pps j, 1 ≤ j ∧ openTracks mp4 fuel j { run with
      videoTrack := some track, videoFrameNum := track.samples.length, videoIndex := 1
      sps := sps, pps := pps } = some run' := by
  rw [openTracks, hi] at h
  dsimp only at h
  rw [if_pos hkind] at h
  obtain ⟨sps, -, h⟩ := Option.bind_eq_some_iff.mp h
  obtain ⟨pps, -, h⟩ := Option.bind_eq_some_iff.mp h
  exact ⟨sps, pps, _, Nat.le_add_left 1 _, h⟩

/-- The places and the tracks of a record. -/
def trackPlaces (run : PlayerRun) : Option Mp4Track × ℕ × ℕ × Option Mp4Track × ℕ × ℕ :=
  (run.videoTrack, run.videoFrameNum, run.videoIndex, run.audioTrack, run.audioFrameNum, run.audioIndex)

/-- The tracks of a recording are found. -/
theorem trackPlaces_openTracks (h : openTracks r.file (r.file.length + 1) 0 run = some run')
    (hnew : trackPlaces run = (none, 0, 0, none, 0, 0)) :
    trackPlaces run' = (r.video, r.video.elim 0 fun track => track.samples.length,
      r.video.elim 0 fun _ => 1, r.audio, r.audio.elim 0 fun track => track.samples.length,
      r.audio.elim 0 fun _ => 1) := by
  simp only [trackPlaces, Prod.mk.injEq] at hnew ⊢
  obtain ⟨hv, hvn, hvi, ha, han, hai⟩ := hnew
  rcases haudio : r.audio with _ | audio <;> rcases hvideo : r.video with _ | video <;>
    rw [Recording.file, haudio, hvideo] at h
  · change openTracks [] 1 0 run = _ at h
    rw [openTracks_end rfl] at h
    cases h
    exact ⟨hv, hvn, hvi, ha, han, hai⟩
  · change openTracks [video] 2 0 run = _ at h
    obtain ⟨sps, pps, j, hj, h⟩ := openTracks_video_inv rfl (r.videoKind video hvideo) h
    rw [openTracks_end (List.getElem?_eq_none hj)] at h
    cases h
    exact ⟨rfl, rfl, rfl, ha, han, hai⟩
  · change openTracks [audio] 2 0 run = _ at h
    rw [openTracks_audio rfl (r.audioKind audio haudio), openTracks_end rfl] at h
    cases h
    exact ⟨hv, hvn, hvi, rfl, rfl, rfl⟩
  · change openTracks [audio, video] 3 0 run = _ at h
    rw [openTracks_audio rfl (r.audioKind audio haudio)] at h
    obtain ⟨sps, pps, j, hj, h⟩ := openTracks_video_inv rfl (r.videoKind video hvideo) h
    rcases hj.eq_or_lt with rfl | hlt
    · obtain ⟨_, _, _, _, h⟩ := openTracks_video_inv rfl (r.videoKind video hvideo) h
      cases h
    · rw [openTracks_end (List.getElem?_eq_none hlt)] at h
      cases h
      exact ⟨rfl, rfl, rfl, rfl, rfl, rfl⟩

/-- The track is looked through from the place of `seekPlace`. -/
theorem seekTrack_eq {node : FileListNode} {start num : ℕ} {tr : Option Mp4Track}
    (hnum : num = tr.elim 0 fun track => track.samples.length) :
    seekTrack node init start num (tr.elim 0 fun _ => 1) tr = some (tr.elim 0 fun track =>
      seek (fun i => reached node init start (sampleMs track i)) track.samples.length) := by
  subst hnum
  rcases tr with _ | track
  · rfl
  · rw [seekTrack, Option.elim_some, Option.elim_some, Option.elim_some]
    split_ifs with hzero
    · rw [hzero]
      rfl
    · rfl

theorem Reading.fileOk (hok : Reading run)
    (hwaits : ¬ (run.vstreamWait = true ∧ run.astreamWait = true)) : FileOk run := by
  refine ⟨hok.opened, ⟨?_, ?_⟩, hwaits⟩
  · rw [hok.videoNum]
    rcases htrack : run.videoTrack with _ | track
    · exact .inl rfl
    · exact .inr ⟨track, rfl, rfl, hok.videoIndex.resolve_right (by simp [htrack])⟩
  · rw [hok.audioNum]
    rcases htrack : run.audioTrack with _ | track
    · exact .inl rfl
    · exact .inr ⟨track, rfl, rfl, hok.audioIndex.resolve_right (by simp [htrack])⟩

/-- A record whose file has just been opened. -/
def startRun (init : MediaInit) (pre : List Recording) (r : Recording) (rest : List Recording) :
    PlayerRun where
  current := (r :: rest).map Recording.node
  mp4File := some r.file
  start := playStart init pre r
  stop := playStop init rest

theorem playerOpenMp4_eq {current : List FileListNode}
    (hread : read (playerFilePath init.type r.node) = some r.file)
    (hnext : nextNodes ((pre ++ r :: rest).map Recording.node) { current := current } =
      (r :: rest).map Recording.node) :
    playerOpenMp4 read init ((pre ++ r :: rest).map Recording.node) { current := current } =
      (openTracks r.file (r.file.length + 1) 0 (startRun init pre r rest)).bind fun run =>
        (seekFile r.node init run).map fun run => (true, run) := by
  have hfirst : ((r :: rest).map Recording.node).length =
      ((pre ++ r :: rest).map Recording.node).length ↔ pre = [] := by
    simp
  have hlast : rest.map Recording.node = [] ↔ rest = [] := List.map_eq_nil_iff
  rw [nextNodes, List.map_cons] at hnext
  rw [List.map_cons] at hfirst
  simp only [playerOpenMp4, hnext, hread, hfirst, hlast]
  rfl

/-- The record of a closed file opens the next recording. -/
theorem playerOpenMp4_recording {current : List FileListNode}
    (hread : read (playerFilePath init.type r.node) = some r.file) (hopens : r.Opens)
    (hnext : nextNodes ((pre ++ r :: rest).map Recording.node) { current := current } =
      (r :: rest).map Recording.node) :
    ∃ file, playerOpenMp4 read init ((pre ++ r :: rest).map Recording.node) { current := current } =
        some (true, file) ∧ Reading file ∧ FileOk file ∧
      file.current = (r :: rest).map Recording.node ∧
      pending file = sentFile init pre r rest := by
  rw [Recording.Opens, isSome_openTracks {} (startRun init pre r rest),
    Option.isSome_iff_exists] at hopens
  obtain ⟨run, htracks⟩ := hopens
  have hplaces := trackPlaces_openTracks htracks rfl
  have hhead := sameHead_openTracks htracks
  simp only [trackPlaces, Prod.mk.injEq] at hplaces
  obtain ⟨hvideo, hvideoNum, hvideoIndex, haudio, haudioNum, haudioIndex⟩ := hplaces
  have hstart : run.start = playStart init pre r := hhead.start
  have hseek : seekFile r.node init run = some { run with
      videoIndex := r.video.elim 0 (seekPlace init pre r)
      audioIndex := r.audio.elim 0 (seekPlace init pre r) } := by
    rw [seekFile, hvideo, hvideoNum, hvideoIndex, hstart, seekTrack_eq rfl, Option.bind_some, haudio,
      haudioNum, haudioIndex, seekTrack_eq rfl, Option.map_some]
    rfl
  have hopen := playerOpenMp4_eq hread hnext
  rw [htracks, Option.bind_some, hseek, Option.map_some] at hopen
  have hfile : run.mp4File = some r.file := hhead.mp4File
  have hvwait : run.vstreamWait = false := hhead.vstreamWait
  have hawait : run.astreamWait = false := hhead.astreamWait
  have hreading : Reading { run with
      videoIndex := r.video.elim 0 (seekPlace init pre r)
      audioIndex := r.audio.elim 0 (seekPlace init pre r) } := by
    refine ⟨by simp [hfile], by rw [hvideoNum, hvideo], by rw [haudioNum, haudio], ?_, ?_, ?_,
      fun _ => ⟨hvwait, hawait⟩⟩
    · rw [hvideo]
      rcases r.video with _ | track
      · exact .inr rfl
      · exact .inl seek_pos
    · rw [haudio]
      rcases r.audio with _ | track
      · exact .inr rfl
      · exact .inl seek_pos
    · rw [hvideo]
      exact r.slices
  refine ⟨_, hopen, hreading, hreading.fileOk fun h => ?_, hhead.current, ?_⟩
  · exact absurd (hvwait.symm.trans h.1) Bool.false_ne_true
  · exact pending_congr ⟨hvideo, haudio, hhead.start, hhead.stop⟩ hhead.iFrameRead rfl rfl

/-! ### The steps -/

theorem Undisturbed.known (h : Undisturbed input) : KnownSpeed input := by
  have := h.speed
  simp only [KnownSpeed, List.mem_cons, List.not_mem_nil, or_false] at this ⊢
  omega

theorem FileLog.append_assoc (l m n : FileLog) : l ++ m ++ n = l ++ (m ++ n) := by
  ext : 1
  · exact List.append_assoc _ _ _
  · exact List.append_assoc _ _ _

theorem FileLog.append_nil (l : FileLog) : l ++ {} = l := by
  ext : 1
  · exact List.append_nil _
  · exact List.append_nil _

theorem FileLog.nil_append (l : FileLog) : {} ++ l = l := rfl

/-- A step that reads frames of a recording plays it on, or is done with it. -/
theorem vodStep_file (hinput : Undisturbed input) (hlist : all = pre ++ r :: rest)
    (hended : v.ended = false)
    (hmain : playerMain read init (all.map Recording.node) input v.run = mainFrames input file)
    (hfile : fileOf read init (all.map Recording.node) v.run = some file) (hreading : Reading file)
    (hok : FileOk file) (hcurrent : file.current = (r :: rest).map Recording.node)
    (hleft : v.now ++ pending file = sentFile init pre r rest)
    (hfiles : v.files ++ eachFile (sentFile init) pre (r :: rest) = eachFile (sentFile init) [] all) :
    ∃ v', vodStep read init (all.map Recording.node) v input = some v' ∧
      (AtFile init all (pre ++ [r]) rest v' ∨
        InFile init all pre r rest v' ∧ weight v'.run < weight file) := by
  obtain ⟨result, hframes, hnext, hresult⟩ := mainFrames_progress hinput.known hok hcurrent
  obtain ⟨hlogged, hkept⟩ := logged_append_pending hinput hreading hframes
  rw [vodStep, hended, if_neg Bool.false_ne_true, hmain, hframes, Option.map_some, hfile]
  refine ⟨_, rfl, ?_⟩
  rw [← hlogged, ← FileLog.append_assoc] at hleft
  rw [Option.elim_some]
  rcases hresult with ⟨hrun, hend⟩ | ⟨hend, hkeptOk, hlt⟩
  · left
    have hclosed : result.run.mp4File = none := by rw [hrun]
    rw [hrun, pending_closed, FileLog.append_nil] at hleft
    simp only [hclosed, if_true]
    refine ⟨by rw [hlist, List.append_cons], by rw [hrun], ?_, ?_, rfl, ?_⟩
    · exact nextNodes_cons hnext
    · rw [hend]
      simp
    · rw [hleft, List.append_assoc, ← hfiles]
      rfl
  · right
    have hopen := hkeptOk.opened
    simp only [hopen, if_false]
    exact ⟨⟨hlist, hkept hopen, hkeptOk, hnext, hend, hleft, hfiles⟩, hlt⟩

/-- An open recording is played until it is closed. -/
theorem inFile_leadsTo : LeadsTo (vodStep read init (all.map Recording.node)) Undisturbed
    (InFile init all pre r rest) (AtFile init all (pre ++ [r]) rest) := by
  apply LeadsTo.of_weight fun v => weight v.run
  intro v input hv hinput
  have hopen := hv.ok.opened
  refine vodStep_file hinput hv.list hv.ended ?_ ?_ hv.reading hv.ok hv.current hv.left hv.files
  · rw [playerMain, if_neg hopen]
  · rw [fileOf, if_neg hopen]

/-- The next recording is played, if it can be opened. -/
theorem atFile_leadsTo_next (hstored : Stored read init all) (hopens : r.Opens) :
    LeadsTo (vodStep read init (all.map Recording.node)) Undisturbed
      (AtFile init all pre (r :: rest)) (AtFile init all (pre ++ [r]) rest) := by
  refine .trans (.of_step ?_) (.or (.of_imp fun _ h => h) inFile_leadsTo)
  intro v input hv hinput
  have hclosed : v.run.mp4File = none := by rw [hv.run]
  obtain ⟨file, hopen, hreading, hok, hcurrent, hpending⟩ :
      ∃ file, playerOpenMp4 read init (all.map Recording.node) v.run = some (true, file) ∧
        Reading file ∧ FileOk file ∧ file.current = (r :: rest).map Recording.node ∧
        pending file = sentFile init pre r rest := by
    have hnext := hv.next
    have hread := hstored r (by rw [hv.list]; simp)
    rw [hv.run] at hnext ⊢
    rw [hv.list] at hnext ⊢
    exact playerOpenMp4_recording hread hopens hnext
  have hfile : fileOf read init (all.map Recording.node) v.run = some file := by
    rw [fileOf, if_pos hclosed, hopen, Option.bind_some, if_pos rfl]
  obtain ⟨v', hstep, hv'⟩ := vodStep_file hinput hv.list hv.ended
    (by rw [playerMain, if_pos hclosed, hopen, Option.bind_some, if_pos rfl]) hfile hreading hok
    hcurrent (by rw [hv.now, FileLog.nil_append, hpending]) hv.files
  exact ⟨v', hstep, hv'.imp_right And.left⟩

/-- A list of recordings that can all be opened is played to its end. -/
theorem atFile_leadsTo (hstored : Stored read init all) (hopens : ∀ r ∈ rest, r.Opens) :
    LeadsTo (vodStep read init (all.map Recording.node)) Undisturbed
      (AtFile init all pre rest) (AtFile init all (pre ++ rest) []) := by
  induction rest generalizing pre with
  | nil =>
      rw [List.append_nil]
      exact .of_imp fun _ h => h
  | cons r rest ih =>
      rw [List.append_cons]
      exact (atFile_leadsTo_next hstored (hopens r List.mem_cons_self)).trans
        (ih fun r' hr' => hopens r' (List.mem_cons_of_mem _ hr'))

/-- The playback does not go on, and has not ended. -/
def Stuck (read : List Char → Option Mp4File) (init : MediaInit) (fhead : List FileListNode)
    (v : Vod) : Prop :=
  v.ended = false ∧ ∀ input, vodStep read init fhead v input = none

/-- A recording that cannot be opened holds the playback up. -/
theorem atFile_leadsTo_stuck (hstored : Stored read init all) (hopens : ¬ ∀ r ∈ rest, r.Opens) :
    LeadsTo (vodStep read init (all.map Recording.node)) Undisturbed
      (AtFile init all pre rest) (Stuck read init (all.map Recording.node)) := by
  induction rest generalizing pre with
  | nil => exact absurd (fun _ h => absurd h List.not_mem_nil) hopens
  | cons r rest ih =>
      by_cases hr : r.Opens
      · refine (atFile_leadsTo_next hstored hr).trans (ih fun hrest => hopens ?_)
        simpa using ⟨hr, hrest⟩
      · refine .of_imp fun v hv => ⟨by simpa using hv.ended, fun input => ?_⟩
        have hclosed : v.run.mp4File = none := by rw [hv.run]
        have hread := hstored r (by rw [hv.list]; simp)
        have hnext := hv.next
        have hnone : openTracks r.file (r.file.length + 1) 0 (startRun init pre r rest) = none := by
          rwa [← Option.not_isSome_iff_eq_none, isSome_openTracks (startRun init pre r rest) {}]
        have hopen : playerOpenMp4 read init (all.map Recording.node) v.run = none := by
          rw [hv.run] at hnext ⊢
          rw [hv.list] at hnext ⊢
          rw [playerOpenMp4_eq hread hnext, hnone, Option.bind_none]
        rw [vodStep, hv.ended, decide_eq_false (List.cons_ne_nil r rest), if_neg Bool.false_ne_true,
          playerMain, if_pos hclosed, hopen]
        rfl

/-! ### Samples that are sent and samples that are wanted -/

theorem stamped_eq_iff {l l' : List ℕ} {stamp stamp' : ℕ → BitVec 32} :
    (l.map fun k => (k, stamp k)) = (l'.map fun k => (k, stamp' k)) ↔
      l = l' ∧ ∀ k ∈ l, stamp k = stamp' k := by
  constructor
  · intro h
    have hlists : l = l' := by
      have := congrArg (List.map Prod.fst) h
      simpa [List.map_map, Function.comp_def] using this
    subst hlists
    refine ⟨rfl, fun k hk => ?_⟩
    simpa using List.map_inj_left.mp h k hk
  · rintro ⟨rfl, hstamp⟩
    exact List.map_congr_left fun k hk => by rw [hstamp k hk]

theorem filter_range'_eq_iff {a b n m : ℕ} {p q : ℕ → Bool} :
    (List.range' a n).filter p = (List.range' b m).filter q ↔
      ∀ k, (a ≤ k ∧ k < a + n) ∧ p k = true ↔ (b ≤ k ∧ k < b + m) ∧ q k = true := by
  constructor
  · intro h k
    have := congrArg (k ∈ ·) h
    simpa only [List.mem_filter, List.mem_range'_1, eq_iff_iff] using this
  · intro h
    have hsorted : ∀ a n (p : ℕ → Bool), ((List.range' a n).filter p).Pairwise (· < ·) :=
      fun _ _ _ => List.Pairwise.filter _ List.pairwise_lt_range'
    apply (hsorted a n p).eq_of_mem_iff (hsorted b m q)
    intro k
    rw [List.mem_filter, List.mem_filter, List.mem_range'_1, List.mem_range'_1]
    exact h k

theorem stamp_eq_iff {a b c : ℕ} : BitVec.ofNat 32 (a + b + 1000) = BitVec.ofNat 32 (c + a + 1000) ↔
    BitVec.ofNat 32 b = BitVec.ofNat 32 c := by
  rw [BitVec.ofNat_add, BitVec.ofNat_add, BitVec.ofNat_add, BitVec.ofNat_add, BitVec.add_left_inj,
    BitVec.add_comm _ (BitVec.ofNat 32 a), BitVec.add_right_inj]

/-- The samples that are sent of a track are those that are wanted. -/
theorem trackMeets_iff {first : Option ℕ} {wanted : ℕ → Bool} (hfirst : ∀ f ∈ first, 1 ≤ f) :
    (first.elim [] fun f => restOf run track f) = wantedOf r track wanted ↔
      TrackMeets run r track first wanted := by
  rcases first with _ | f
  · rw [Option.elim_none, wantedOf, eq_comm, List.map_eq_nil_iff, List.filter_eq_nil_iff]
    simp only [List.mem_range'_1, Bool.not_eq_true]
    constructor
    · intro h
      exact ⟨fun hne => h _ ⟨List.length_pos_iff.mpr hne, by omega⟩,
        fun k hk hlt _ => h k ⟨hk, by omega⟩, fun _ hf => absurd hf (Option.not_mem_none _),
        fun _ hf => absurd hf (Option.not_mem_none _)⟩
    · intro h k hk
      rcases Nat.lt_or_ge k track.samples.length with hlt | hge
      · exact h.before k hk.1 hlt fun _ hf => absurd hf (Option.not_mem_none _)
      · obtain rfl : k = track.samples.length := by omega
        exact h.last (List.length_pos_iff.mp (by omega))
  · have hone : 1 ≤ f := hfirst f rfl
    rw [Option.elim_some, restOf, wantedOf]
    simp only [timestampMs, absMs]
    rw [stamped_eq_iff, filter_range'_eq_iff]
    simp only [List.mem_filter, List.mem_range'_1, stamp_eq_iff, Bool.not_eq_true']
    constructor
    · rintro ⟨hsame, hstamp⟩
      have hlast : ∀ k, track.samples.length ≤ k → 1 ≤ k → k < 1 + track.samples.length →
          wanted k = false := fun k hk hone hlt => by
        by_contra hnot
        have := (hsame k).mpr ⟨⟨hone, hlt⟩, by simpa using hnot⟩
        omega
      refine ⟨fun hne => hlast _ le_rfl (List.length_pos_iff.mpr hne) (by omega),
        fun k hk hlt hbefore => ?_, fun f' hf' k hfk hlt => ?_, fun f' hf' hlt hpast => ?_⟩
      · have hkf := hbefore f rfl
        by_contra hnot
        have := (hsame k).mpr ⟨⟨hk, by omega⟩, by simpa using hnot⟩
        omega
      · obtain rfl := Option.some.inj hf'
        rw [Bool.eq_iff_iff, Bool.not_eq_true']
        constructor
        · exact fun hwanted => ((hsame k).mpr ⟨⟨by omega, by omega⟩, hwanted⟩).2
        · exact fun hpast => ((hsame k).mp ⟨⟨hfk, by omega⟩, hpast⟩).2
      · obtain rfl := Option.some.inj hf'
        exact hstamp f ⟨⟨le_rfl, by omega⟩, hpast⟩
    · intro h
      have hbetween := h.between f rfl
      refine ⟨fun k => ⟨fun hk => ?_, fun hk => ?_⟩, fun k hk => ?_⟩
      · exact ⟨⟨by omega, by omega⟩, by rw [hbetween k hk.1.1 (by omega), hk.2]; rfl⟩
      · have hlt : k < track.samples.length := by
          by_contra hge
          obtain rfl : k = track.samples.length := by omega
          exact absurd (h.last (List.length_pos_iff.mp hk.1.1)) (by rw [hk.2]; decide)
        have hfk : f ≤ k := by
          by_contra hnot
          have := h.before k hk.1.1 hlt fun f' hf' => by
            obtain rfl := Option.some.inj hf'
            omega
          exact absurd this (by rw [hk.2]; decide)
        refine ⟨⟨hfk, by omega⟩, ?_⟩
        have := hbetween k hfk hlt
        rwa [hk.2, eq_comm, Bool.not_eq_true'] at this
      · refine h.stamp f rfl (by omega) ?_
        by_contra hnot
        have := pastStop_mono hk.1.1 (by simpa using hnot)
        exact absurd hk.2 (by rw [this]; decide)

/-! ### The list -/

theorem eachFile_eq_iff {α : Type} {f g : List Recording → Recording → List Recording → α}
    {l : List Recording} : eachFile f pre l = eachFile g pre l ↔
      ∀ a r b, l = a ++ r :: b → f (pre ++ a) r b = g (pre ++ a) r b := by
  induction l generalizing pre with
  | nil => simp [eachFile]
  | cons c l ih =>
      rw [eachFile, eachFile, List.cons.injEq, ih]
      constructor
      · rintro ⟨hhead, htail⟩ a r b heq
        rcases a with _ | ⟨d, a⟩
        · obtain ⟨rfl, rfl⟩ := List.cons.inj heq
          simpa using hhead
        · obtain ⟨rfl, rfl⟩ := List.cons.inj heq
          simpa using htail a r b rfl
      · intro h
        refine ⟨by simpa using h [] c l rfl, fun a r b heq => ?_⟩
        simpa using h (c :: a) r b (by rw [heq, List.cons_append])

theorem elim_eq_elim_iff {tr : Option Mp4Track} {f g : Mp4Track → List Stamped} :
    tr.elim [] f = tr.elim [] g ↔ ∀ track ∈ tr, f track = g track := by
  rcases tr with _ | track <;> simp

/-- A recording that can be opened is sent as it is wanted iff its tracks are. -/
theorem sentFile_eq_iff (hopens : r.Opens) :
    sentFile init pre r rest = wantedFile init pre r rest ↔ FileMeets init pre r rest := by
  have hone : ∀ place ∈ begins (openedRun init pre r rest),
      (∀ track ∈ r.video, 1 ≤ place.1) ∧ ∀ track ∈ r.audio, 1 ≤ place.2 := by
    intro place hplace
    obtain ⟨k, hk, rfl⟩ := Option.map_eq_some_iff.mp hplace
    obtain ⟨track, htrack, hfirst⟩ := Option.bind_eq_some_iff.mp hk
    have hvideo : r.video = some track := htrack
    have hle : (openedRun init pre r rest).videoIndex ≤ k :=
      le_of_nextKey (Option.filter_eq_some_iff.mp hfirst).1
    refine ⟨fun _ _ => ?_, fun audio haudio => ?_⟩
    · have hseek : 1 ≤ (openedRun init pre r rest).videoIndex := by
        rw [openedRun, hvideo]
        exact seek_pos
      exact hseek.trans hle
    · have hseek : 1 ≤ (openedRun init pre r rest).audioIndex := by
        rw [openedRun, haudio]
        exact seek_pos
      exact hseek.trans (Nat.le_add_right _ _)
  have hvideo : (sentFile init pre r rest).video = r.video.elim [] fun track =>
      ((begins (openedRun init pre r rest)).map Prod.fst).elim [] fun f =>
        restOf (openedRun init pre r rest) track f := by
    rw [sentFile, pending]
    rcases begins (openedRun init pre r rest) with _ | place
    · rcases r.video with _ | track <;> rfl
    · rfl
  have haudio : (sentFile init pre r rest).audio = r.audio.elim [] fun track =>
      ((begins (openedRun init pre r rest)).map Prod.snd).elim [] fun f =>
        restOf (openedRun init pre r rest) track f := by
    rw [sentFile, pending]
    rcases begins (openedRun init pre r rest) with _ | place
    · rcases r.audio with _ | track <;> rfl
    · rfl
  rw [FileLog.ext_iff, hvideo, haudio, wantedFile, elim_eq_elim_iff, elim_eq_elim_iff]
  have hfirst : ∀ track ∈ r.video, ∀ f ∈ (begins (openedRun init pre r rest)).map Prod.fst, 1 ≤ f := by
    intro track htrack f hf
    obtain ⟨place, hplace, rfl⟩ := Option.map_eq_some_iff.mp hf
    exact (hone place hplace).1 track htrack
  have hsecond : ∀ track ∈ r.audio, ∀ f ∈ (begins (openedRun init pre r rest)).map Prod.snd, 1 ≤ f := by
    intro track htrack f hf
    obtain ⟨place, hplace, rfl⟩ := Option.map_eq_some_iff.mp hf
    exact (hone place hplace).2 track htrack
  constructor
  · rintro ⟨hv, ha⟩
    exact ⟨hopens, fun track htrack => (trackMeets_iff (hfirst track htrack)).mp (hv track htrack),
      fun track htrack => (trackMeets_iff (hsecond track htrack)).mp (ha track htrack)⟩
  · intro h
    exact ⟨fun track htrack => (trackMeets_iff (hfirst track htrack)).mpr (h.video track htrack),
      fun track htrack => (trackMeets_iff (hsecond track htrack)).mpr (h.audio track htrack)⟩

/-- What a playback of a list that can be opened has sent in the end. -/
theorem vodExact_iff_files (hstored : Stored read init all) (hne : all ≠ [])
    (hopens : ∀ r ∈ all, r.Opens) : VodExact read init all ↔
      eachFile (sentFile init) [] all = eachFile (wantedFile init) [] all := by
  have hstart : AtFile init all [] all {} :=
    ⟨rfl, rfl, rfl, by simp [hne], rfl, rfl⟩
  have hend := atFile_leadsTo hstored hopens _ hstart
  have hfiles : ∀ v, AtFile init all ([] ++ all) [] v →
      v.ended = true ∧ v.files = eachFile (sentFile init) [] all := fun v hv =>
    ⟨by simpa using hv.ended, by simpa [eachFile] using hv.files⟩
  constructor
  · intro h
    have hinput : ∀ k : ℕ, Undisturbed {} := fun _ => ⟨rfl, rfl, by decide, rfl, rfl⟩
    obtain ⟨n, v, hv, hended, heq⟩ := h (fun _ => {}) hinput
    obtain ⟨m, v', hv', hat⟩ := hend (fun _ => {}) hinput
    have hstays : ∀ v : Vod, v.ended = true →
        ∀ a, vodStep read init (all.map Recording.node) v a = some v := fun v hended a => if_pos hended
    obtain ⟨hended', heq'⟩ := hfiles v' hat
    have hsame : v = v' := by
      rcases Nat.le_total n m with hle | hle
      · exact (eq_of_after hv hv' (hstays v hended) hle).symm
      · exact eq_of_after hv' hv (hstays v' hended') hle
    rw [← heq', ← hsame, heq]
  · intro h inputs hinputs
    obtain ⟨n, v, hv, hat⟩ := hend inputs hinputs
    obtain ⟨hended, heq⟩ := hfiles v hat
    exact ⟨n, v, hv, hended, heq.trans h⟩

/-- A playback that comes to its end has opened its recordings, and there is one. -/
theorem opens_of_vodExact (hstored : Stored read init all) (h : VodExact read init all) :
    all ≠ [] ∧ ∀ r ∈ all, r.Opens := by
  have hinput : ∀ k : ℕ, Undisturbed {} := fun _ => ⟨rfl, rfl, by decide, rfl, rfl⟩
  obtain ⟨n, v, hv, hended, -⟩ := h (fun _ => {}) hinput
  have hrefute : ∀ m v', after (vodStep read init (all.map Recording.node)) m (fun _ => {}) {} = some v' →
      ¬ Stuck read init (all.map Recording.node) v' := by
    intro m v' hv' hstuck
    have hle := le_of_after hv' hv hstuck.2
    have hsame := eq_of_after hv hv' (fun a => if_pos hended) hle
    rw [hsame, Stuck, hended] at hstuck
    exact Bool.false_ne_true hstuck.1.symm
  have hne : all ≠ [] := by
    rintro rfl
    refine hrefute 0 {} rfl ⟨rfl, fun input => ?_⟩
    rfl
  refine ⟨hne, ?_⟩
  by_contra hnot
  obtain ⟨m, v', hv', hstuck⟩ := atFile_leadsTo_stuck hstored hnot {}
    ⟨rfl, rfl, rfl, by simp [hne], rfl, rfl⟩ (fun _ => {}) hinput
  exact hrefute m v' hv' hstuck

/-- Each recording of the list meets what is wanted of it. -/
def ListMeets (init : MediaInit) (recordings : List Recording) : Prop :=
  recordings ≠ [] ∧ ∀ pre r rest, recordings = pre ++ r :: rest → FileMeets init pre r rest

theorem listMeets_of_vodExact (hstored : Stored read init all) (h : VodExact read init all) :
    ListMeets init all := by
  obtain ⟨hne, hopens⟩ := opens_of_vodExact hstored h
  have hfiles := eachFile_eq_iff.mp ((vodExact_iff_files hstored hne hopens).mp h)
  refine ⟨hne, fun pre r rest heq => ?_⟩
  exact (sentFile_eq_iff (hopens r (by rw [heq]; simp))).mp (hfiles pre r rest heq)

theorem shortAudio_kind : ∀ track ∈ some shortAudio, track.video = false := by simp [shortAudio]

theorem slowVideo_kind : ∀ track ∈ some slowVideo, track.video = true := by simp [slowVideo]

theorem slowVideo_slices : ∀ track ∈ some slowVideo, Slices track := by
  simp [Slices, slowVideo]

/-- Three audio and four video samples. -/
def shortRecording : Recording where
  node := ⟨1700000000#32, 1700000001#32⟩
  audio := some shortAudio
  video := some slowVideo
  audioKind := shortAudio_kind
  videoKind := slowVideo_kind
  slices := slowVideo_slices

/-- The window has all samples of the recording; the last ones of its tracks are not sent. -/
theorem last_unsent : ¬ VodExact (fun _ => some shortRecording.file)
    { start := 1700000000, stop := 1700000001 } [shortRecording] := by
  intro h
  have hstored : Stored (fun _ => some shortRecording.file)
      { start := 1700000000, stop := 1700000001 } [shortRecording] := by
    intro r hr
    rw [List.mem_singleton.mp hr]
  obtain ⟨-, hmeets⟩ := listMeets_of_vodExact hstored h
  have hvideo := (hmeets [] shortRecording [] rfl).video slowVideo rfl
  exact absurd (hvideo.last (List.cons_ne_nil _ _)) (by decide)

/-- A playback of recordings sends the samples of the window, from the first key frame on, iff each
recording meets what is wanted of it. -/
theorem vodExact_iff (read : List Char → Option Mp4File) (init : MediaInit) (all : List Recording)
    (hstored : Stored read init all) : VodExact read init all ↔ ListMeets init all := by
  refine ⟨listMeets_of_vodExact hstored, fun h => ?_⟩
  obtain ⟨hne, hmeets⟩ := h
  have hopens : ∀ r ∈ all, r.Opens := fun r hr => by
    obtain ⟨pre, rest, heq⟩ := List.append_of_mem hr
    exact (hmeets pre r rest heq).opens
  rw [vodExact_iff_files hstored hne hopens, eachFile_eq_iff]
  intro pre r rest heq
  exact (sentFile_eq_iff (hopens r (by rw [heq]; simp))).mpr (hmeets pre r rest heq)

theorem vodExact_shortRecording_iff : VodExact (fun _ => some shortRecording.file)
      { start := 1700000000, stop := 1700000001 } [shortRecording] ↔
    ListMeets { start := 1700000000, stop := 1700000001 } [shortRecording] :=
  vodExact_iff _ _ _ fun r hr => by rw [List.mem_singleton.mp hr]

end GokeWebcam.Server.Player.Sample
