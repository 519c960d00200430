import GokeWebcam.Server.PlayerJobs
import GokeWebcam.Server.PlayerWindow
import GokeWebcam.Server.RecordingNames

/-!
# Where a playback begins

A playback is asked to begin so many seconds behind a start. The seconds go through a `char` of
`player_init_t`; `player_open_mp4` then looks in each track for the first sample that is far enough, by
a difference in 32 bits, and begins with the first one of the track where it finds none.

* `seekSound_iff`: each track begins where it should iff `SeekHolds`.
* `trackSeeks_iff_of_near`: in the first file of a list, with less than 256 seconds and no overflow,
  that is iff there is a sample to begin with.
* `replayed_from_start`: a place behind the last sample begins with the first one.
-/

namespace GokeWebcam.Server.Player.Sample

open Lib Common Device Recorder.Sample

/-- A place that is asked for: so many seconds behind a start, or, by the name of a file, behind the
start of the file. -/
structure PlaceRequest where
  byFile : Bool
  init : MediaInit
  seconds : BitVec 32
  start_zero : byFile = true → init.start = 0

/-- What the playback is started with.
Source: `server/player/player_interface.h` `player_init_t` `offset` -/
def PlaceRequest.stored (r : PlaceRequest) : MediaInit :=
  { r.init with offset := (r.seconds.setWidth 8).toNat }

variable (r : PlaceRequest) (node : FileListNode) (track : Mp4Track)

/-- The time that is asked for, in milliseconds. -/
def PlaceRequest.targetMs : ℕ :=
  ((if r.byFile then node.start.toNat else r.init.start) + r.seconds.toNat) * 1000

/-- The time of a sample, in milliseconds. -/
def sampleAt (k : ℕ) : ℕ := node.start.toNat * 1000 + sampleMs track k

/-- The track begins with the first sample that is not before the time asked for; if there is none, it
is at its end. -/
structure Positioned (index : ℕ) : Prop where
  first : ∀ k, 1 ≤ k → k ≤ track.samples.length → r.targetMs node ≤ sampleAt node track k →
    (∀ j, 1 ≤ j → j < k → sampleAt node track j < r.targetMs node) → index = k
  ended : (∀ k, 1 ≤ k → k ≤ track.samples.length → sampleAt node track k < r.targetMs node) →
    track.samples.length ≤ index

/-- The test of the loop finds what is asked for: of the samples before it none but the last of the
track; the first that is not before it, unless this is the first of the track and none is found; and
the last one, if all are before it and they are two or more. -/
structure TrackSeeks (start : ℕ) : Prop where
  before : ∀ k, 1 ≤ k → k < track.samples.length → sampleAt node track k < r.targetMs node →
    reached node r.stored start (sampleMs track k) = false
  first : ∀ k, 1 ≤ k → k ≤ track.samples.length → r.targetMs node ≤ sampleAt node track k →
    (∀ j, 1 ≤ j → j < k → sampleAt node track j < r.targetMs node) →
    reached node r.stored start (sampleMs track k) = true ∨
      k = 1 ∧ ∀ j, 1 ≤ j → j ≤ track.samples.length →
        reached node r.stored start (sampleMs track j) = false
  ended : (∀ k, 1 ≤ k → k ≤ track.samples.length → sampleAt node track k < r.targetMs node) →
    track.samples.length ≤ 1 ∨
      reached node r.stored start (sampleMs track track.samples.length) = true

section

variable (read : List Char → Option Mp4File) (fhead current : List FileListNode)

/-- A file that is opened begins where it is asked to, in both tracks. -/
def SeekSound : Prop :=
  ∀ file, playerOpenMp4 read r.stored fhead { current := current } = some (true, file) →
    ∀ node ∈ file.current.head?,
      (∀ track ∈ file.videoTrack, Positioned r node track file.videoIndex) ∧
        ∀ track ∈ file.audioTrack, Positioned r node track file.audioIndex

/-- The start of the playback of a file, of which the rest of the list begins with it.
Source: `server/player/player.c` `player_open_mp4`, `run->start` -/
def fileStart (rest : List FileListNode) : ℕ :=
  if (node :: rest).length = fhead.length then r.init.start else node.start.toNat

/-- The loops find what is asked for in the tracks of the next file. -/
def SeekHolds : Prop :=
  ∀ node rest, nextNodes fhead { current := current } = node :: rest →
    ∀ mp4, read (playerFilePath r.init.type node) = some mp4 →
      ∀ run, openTracks mp4 (mp4.length + 1) 0 {} = some run →
        (∀ track ∈ run.videoTrack, TrackSeeks r node track (fileStart r node fhead rest)) ∧
          ∀ track ∈ run.audioTrack, TrackSeeks r node track (fileStart r node fhead rest)

end

variable {r node track} {start k n : ℕ} {reach : ℕ → Bool} {run run' : PlayerRun}
  {read : List Char → Option Mp4File} {fhead current rest : List FileListNode} {mp4 : Mp4File}

/-! ### The loop over the samples -/

theorem seek_cases (reach : ℕ → Bool) (n : ℕ) :
    (∃ k, 1 ≤ k ∧ k ≤ n ∧ reach k = true ∧ (∀ j, 1 ≤ j → j < k → reach j = false) ∧
      seek reach n = k) ∨
    (∀ k, 1 ≤ k → k ≤ n → reach k = false) ∧ seek reach n = 1 := by
  rw [seek, List.find?_map]
  rcases hfind : (List.range n).find? ((fun i => reach i) ∘ (· + 1)) with _ | k
  · rw [List.find?_range_eq_none] at hfind
    refine .inr ⟨fun k hk hkn => ?_, rfl⟩
    have hnot := hfind (k - 1) (by omega)
    simpa [Nat.sub_add_cancel hk] using hnot
  · rw [List.find?_range_eq_some] at hfind
    obtain ⟨hreach, hmem, hbelow⟩ := hfind
    refine .inl ⟨k + 1, Nat.le_add_left 1 k, List.mem_range.mp hmem, hreach, fun j hj hjk => ?_, rfl⟩
    have hnot := hbelow (j - 1) (by omega)
    simpa [Nat.sub_add_cancel hj] using hnot

theorem sampleAt_mono {i j : ℕ} (h : i ≤ j) : sampleAt node track i ≤ sampleAt node track j :=
  Nat.add_le_add_left (sampleMs_mono h) _

/-- What is asked for is a sample, or behind the last one. -/
theorem exists_first (r : PlaceRequest) (node : FileListNode) (track : Mp4Track) :
    (∃ k, 1 ≤ k ∧ k ≤ track.samples.length ∧ r.targetMs node ≤ sampleAt node track k ∧
      ∀ j, 1 ≤ j → j < k → sampleAt node track j < r.targetMs node) ∨
    ∀ k, 1 ≤ k → k ≤ track.samples.length → sampleAt node track k < r.targetMs node := by
  rcases seek_cases (fun k => decide (r.targetMs node ≤ sampleAt node track k))
    track.samples.length with ⟨k, hk, hkn, hreach, hbelow, -⟩ | ⟨hnone, -⟩
  · exact .inl ⟨k, hk, hkn, by simpa using hreach, fun j hj hjk => by simpa using hbelow j hj hjk⟩
  · exact .inr fun k hk hkn => by simpa using hnone k hk hkn

/-- The place that the loop finds. -/
def foundPlace (r : PlaceRequest) (node : FileListNode) (track : Mp4Track) (start : ℕ) : ℕ :=
  seek (fun i => reached node r.stored start (sampleMs track i)) track.samples.length

theorem foundPlace_cases (r : PlaceRequest) (node : FileListNode) (track : Mp4Track) (start : ℕ) :
    (∃ k, 1 ≤ k ∧ k ≤ track.samples.length ∧ reached node r.stored start (sampleMs track k) = true ∧
      (∀ j, 1 ≤ j → j < k → reached node r.stored start (sampleMs track j) = false) ∧
      foundPlace r node track start = k) ∨
    (∀ k, 1 ≤ k → k ≤ track.samples.length →
      reached node r.stored start (sampleMs track k) = false) ∧ foundPlace r node track start = 1 :=
  seek_cases _ _

theorem Positioned.trackSeeks (h : Positioned r node track (foundPlace r node track start)) :
    TrackSeeks r node track start := by
  have hcases := foundPlace_cases r node track start
  constructor
  · intro k hk hkn hbefore
    rcases exists_first r node track with ⟨w, hw, hwn, hwanted, hbelow⟩ | hnone
    · have hindex := h.first w hw hwn hwanted hbelow
      have hkw : k < w := by
        by_contra hle
        have hmono : sampleAt node track w ≤ sampleAt node track k := sampleAt_mono (not_lt.mp hle)
        omega
      rcases hcases with ⟨f, hf, hfn, -, hfbelow, heq⟩ | ⟨-, heq⟩
      · exact hfbelow k hk (by omega)
      · omega
    · have hindex := h.ended hnone
      rcases hcases with ⟨f, hf, hfn, -, hfbelow, heq⟩ | ⟨-, heq⟩
      · exact hfbelow k hk (by omega)
      · omega
  · intro k hk hkn hwanted hbelow
    have hindex := h.first k hk hkn hwanted hbelow
    rcases hcases with ⟨f, hf, hfn, hreach, -, heq⟩ | ⟨hnot, heq⟩
    · rw [← hindex, heq]
      exact .inl hreach
    · exact .inr ⟨by omega, hnot⟩
  · intro hnone
    have hindex := h.ended hnone
    rcases hcases with ⟨f, hf, hfn, hreach, -, heq⟩ | ⟨-, heq⟩
    · have hlast : f = track.samples.length := by omega
      rw [← hlast]
      exact .inr hreach
    · exact .inl (by omega)

theorem TrackSeeks.positioned (h : TrackSeeks r node track start) :
    Positioned r node track (foundPlace r node track start) := by
  have hcases := foundPlace_cases r node track start
  constructor
  · intro k hk hkn hwanted hbelow
    rcases h.first k hk hkn hwanted hbelow with hreach | ⟨rfl, hnot⟩
    · rcases hcases with ⟨f, hf, hfn, hfreach, hfbelow, heq⟩ | ⟨hnot, -⟩
      · rw [heq]
        rcases lt_trichotomy f k with hlt | heq' | hgt
        · have hfalse := h.before f hf (by omega) (hbelow f hf hlt)
          exact absurd (hfreach.symm.trans hfalse) (by decide)
        · exact heq'
        · exact absurd (hreach.symm.trans (hfbelow k hk hgt)) (by decide)
      · exact absurd (hreach.symm.trans (hnot k hk hkn)) (by decide)
    · rcases hcases with ⟨f, hf, hfn, hfreach, -, -⟩ | ⟨-, heq⟩
      · exact absurd (hfreach.symm.trans (hnot f hf hfn)) (by decide)
      · exact heq
  · intro hnone
    rcases hcases with ⟨f, hf, hfn, hfreach, -, heq⟩ | ⟨hnot, heq⟩
    · rw [heq]
      by_contra hlt
      have hfalse := h.before f hf (not_le.mp hlt) (hnone f hf hfn)
      exact absurd (hfreach.symm.trans hfalse) (by decide)
    · rw [heq]
      rcases h.ended hnone with hone | hreach
      · exact hone
      · by_contra hmore
        exact absurd (hreach.symm.trans (hnot _ (by omega) le_rfl)) (by decide)

/-- The place that the loop finds is the one asked for iff its test finds it. -/
theorem positioned_iff : Positioned r node track (foundPlace r node track start) ↔
    TrackSeeks r node track start := ⟨Positioned.trackSeeks, TrackSeeks.positioned⟩

/-! ### Opening a file -/

/-- The record when the tracks of a file are looked for.
Source: `server/player/player.c` `player_open_mp4` -/
def openingRun (r : PlaceRequest) (fhead : List FileListNode) (mp4 : Mp4File) (node : FileListNode)
    (rest : List FileListNode) : PlayerRun where
  current := node :: rest
  mp4File := some mp4
  start := fileStart r node fhead rest
  stop := if rest = [] then r.init.stop else 0

/-- The numbers and places are those of the tracks. -/
def TracksNoted (run : PlayerRun) : Prop :=
  trackPlaces run = (run.videoTrack, run.videoTrack.elim 0 fun track => track.samples.length,
    run.videoTrack.elim 0 fun _ => 1, run.audioTrack,
    run.audioTrack.elim 0 fun track => track.samples.length, run.audioTrack.elim 0 fun _ => 1)

theorem tracksNoted_openTracks {fuel i : ℕ} (h : openTracks mp4 fuel i run = some run')
    (hrun : TracksNoted run) : TracksNoted run' := by
  induction fuel generalizing i run with
  | zero => cases h
  | succ fuel ih =>
      simp only [TracksNoted, trackPlaces, Prod.mk.injEq] at hrun
      obtain ⟨-, hvn, hvi, -, han, hai⟩ := hrun
      rw [openTracks] at h
      split at h
      · cases h
        simp [TracksNoted, trackPlaces, hvn, hvi, han, hai]
      · split_ifs at h
        · obtain ⟨sps, -, h⟩ := Option.bind_eq_some_iff.mp h
          obtain ⟨pps, -, h⟩ := Option.bind_eq_some_iff.mp h
          exact ih h (by simp [TracksNoted, trackPlaces, han, hai])
        · exact ih h (by simp [TracksNoted, trackPlaces, hvn, hvi])

/-- The tracks that are found do not depend on the rest of the record. -/
theorem openTracks_congr {fuel i : ℕ} {other : PlayerRun} (hplaces : trackPlaces run = trackPlaces other)
    (h : openTracks mp4 fuel i run = some run') :
    ∃ other', openTracks mp4 fuel i other = some other' ∧ trackPlaces run' = trackPlaces other' := by
  induction fuel generalizing i run other with
  | zero => cases h
  | succ fuel ih =>
      simp only [trackPlaces, Prod.mk.injEq] at hplaces
      obtain ⟨hv, hvn, hvi, ha, han, hai⟩ := hplaces
      rw [openTracks] at h ⊢
      rcases hi : mp4[i]? with _ | track <;> rw [hi] at h
      · cases h
        exact ⟨other, rfl, by simp [trackPlaces, hv, hvn, hvi, ha, han, hai]⟩
      dsimp only at h ⊢
      by_cases hvideo : track.video = true
      · rw [if_pos hvideo] at h ⊢
        obtain ⟨sps, hsps, h⟩ := Option.bind_eq_some_iff.mp h
        obtain ⟨pps, hpps, h⟩ := Option.bind_eq_some_iff.mp h
        rw [hsps, Option.bind_some, hpps, Option.bind_some]
        exact ih (by simp [trackPlaces, ha, han, hai]) h
      · rw [if_neg hvideo] at h ⊢
        exact ih (by simp [trackPlaces, hv, hvn, hvi]) h

theorem playerOpenMp4_opening (hnext : nextNodes fhead { current := current } = node :: rest)
    (hread : read (playerFilePath r.init.type node) = some mp4) :
    playerOpenMp4 read r.stored fhead { current := current } =
      (openTracks mp4 (mp4.length + 1) 0 (openingRun r fhead mp4 node rest)).bind fun run =>
        (seekFile node r.stored run).map fun run => (true, run) := by
  rw [nextNodes] at hnext
  simp only [playerOpenMp4, hnext, PlaceRequest.stored, hread]
  rfl

/-- The places that a file begins with. -/
theorem seekFile_found (hnoted : TracksNoted run) (hstart : run.start = start) :
    seekFile node r.stored run = some { run with
      videoIndex := run.videoTrack.elim 0 fun track => foundPlace r node track start
      audioIndex := run.audioTrack.elim 0 fun track => foundPlace r node track start } := by
  simp only [TracksNoted, trackPlaces, Prod.mk.injEq] at hnoted
  obtain ⟨-, hvn, hvi, -, han, hai⟩ := hnoted
  rw [seekFile, hvn, hvi, seekTrack_eq rfl, Option.bind_some, han, hai, seekTrack_eq rfl,
    Option.map_some, hstart]
  rfl

/-- A file of the list that has been opened, with the tracks that are found in it. -/
structure OpenedAt (r : PlaceRequest) (fhead : List FileListNode) (node : FileListNode)
    (rest : List FileListNode) (run file : PlayerRun) : Prop where
  current : file.current = node :: rest
  videoTrack : file.videoTrack = run.videoTrack
  audioTrack : file.audioTrack = run.audioTrack
  videoIndex : file.videoIndex =
    run.videoTrack.elim 0 fun track => foundPlace r node track (fileStart r node fhead rest)
  audioIndex : file.audioIndex =
    run.audioTrack.elim 0 fun track => foundPlace r node track (fileStart r node fhead rest)

theorem exists_opened (hnext : nextNodes fhead { current := current } = node :: rest)
    (hread : read (playerFilePath r.init.type node) = some mp4)
    (hopen : openTracks mp4 (mp4.length + 1) 0 {} = some run) :
    ∃ file, playerOpenMp4 read r.stored fhead { current := current } = some (true, file) ∧
      OpenedAt r fhead node rest run file := by
  have hopening : trackPlaces {} = trackPlaces (openingRun r fhead mp4 node rest) := rfl
  obtain ⟨run', hopen', hplaces⟩ := openTracks_congr hopening hopen
  have hhead := sameHead_openTracks hopen'
  have hfound : seekFile node r.stored run' = _ :=
    seekFile_found (tracksNoted_openTracks hopen' rfl) hhead.start
  simp only [trackPlaces, Prod.mk.injEq] at hplaces
  obtain ⟨hvideo, -, -, haudio, -, -⟩ := hplaces
  have hfile := playerOpenMp4_opening hnext hread
  rw [hopen', Option.bind_some, hfound, Option.map_some] at hfile
  refine ⟨_, hfile, hhead.current, hvideo.symm, haudio.symm, ?_, ?_⟩
  · rw [hvideo]
    rfl
  · rw [haudio]
    rfl

/-- What is opened is the next file, with the tracks that are found in it. -/
theorem openedAt_of_some {file : PlayerRun}
    (h : playerOpenMp4 read r.stored fhead { current := current } = some (true, file)) :
    ∃ node rest mp4 run, nextNodes fhead { current := current } = node :: rest ∧
      read (playerFilePath r.init.type node) = some mp4 ∧
      openTracks mp4 (mp4.length + 1) 0 {} = some run ∧ OpenedAt r fhead node rest run file := by
  rcases hnext : nextNodes fhead { current := current } with _ | ⟨node, rest⟩
  · rw [playerOpenMp4_nil rfl hnext] at h
    cases h
  rcases hread : read (playerFilePath r.init.type node) with _ | mp4
  · have hfails : playerOpenMp4 read r.stored fhead { current := current } = _ :=
      playerOpenMp4_of_none rfl hnext hread
    rw [hfails] at h
    cases h
  rcases hopen : openTracks mp4 (mp4.length + 1) 0 {} with _ | run
  · have hnone : (openTracks mp4 (mp4.length + 1) 0 {}).isSome =
        (openTracks mp4 (mp4.length + 1) 0 (openingRun r fhead mp4 node rest)).isSome :=
      isSome_openTracks _ _
    rw [hopen, Option.isSome_none, eq_comm, Option.isSome_eq_false_iff, Option.isNone_iff_eq_none]
      at hnone
    rw [playerOpenMp4_opening hnext hread, hnone] at h
    cases h
  obtain ⟨file', hfile, hopened⟩ := exists_opened hnext hread hopen
  rw [h] at hfile
  cases hfile
  exact ⟨node, rest, mp4, run, rfl, hread, hopen, hopened⟩

theorem forall_positioned_iff {tr : Option Mp4Track} : (∀ track ∈ tr, Positioned r node track
      (tr.elim 0 fun track => foundPlace r node track start)) ↔
    ∀ track ∈ tr, TrackSeeks r node track start := by
  rcases tr with _ | track
  · simp
  · simp [positioned_iff]

/-- Each track of a file that is opened begins where it is asked to iff the loops find the place. -/
theorem seekSound_iff : SeekSound r read fhead current ↔ SeekHolds r read fhead current := by
  constructor
  · intro h node rest hnext mp4 hread run hopen
    obtain ⟨file, hfile, hopened⟩ := exists_opened hnext hread hopen
    have hpositioned := h file hfile node (by rw [hopened.current]; rfl)
    rw [hopened.videoTrack, hopened.videoIndex, hopened.audioTrack, hopened.audioIndex] at hpositioned
    exact hpositioned.imp forall_positioned_iff.mp forall_positioned_iff.mp
  · intro h file hfile node hnode
    obtain ⟨next, rest, mp4, run, hnext, hread, hopen, hopened⟩ := openedAt_of_some hfile
    rw [hopened.current] at hnode
    cases hnode
    have hseeks := h node rest hnext mp4 hread run hopen
    rw [hopened.videoTrack, hopened.videoIndex, hopened.audioTrack, hopened.audioIndex]
    exact hseeks.imp forall_positioned_iff.mpr forall_positioned_iff.mpr

/-! ### How a place is asked for -/

/-- A seek and a change of the parameters keep of the seconds what the field holds. -/
theorem offset_onJob {s : State} {msg : Message} {id : ℕ} (hr : r.seconds = msg.argIn.cat)
    (hfind : findJobChannel s msg.argIn.wolf = some id) :
    (jobAt (playerSeekJob msg s) id).init.offset.toNat = r.stored.offset ∧
      (jobAt (playerSetParamJob msg s) id).init.offset.toNat = r.stored.offset := by
  have hid := (findJobChannel_spec hfind).1
  rw [playerSeekJob, playerSetParamJob, onJob, onJob, hfind]
  dsimp only
  rw [jobAt_setJob hid, jobAt_setJob hid, if_pos rfl, if_pos rfl, PlaceRequest.stored, hr]
  exact ⟨rfl, rfl⟩

/-- So does a playback by the name of a file. -/
theorem init_startPushStreamingByFile {name : List Char} {request : Recorder.FileRequest}
    (h : Recorder.startPushStreamingByFile name r.seconds.toNat = some request)
    (hr : r.init = {}) : request.init = r.stored := by
  rw [Recorder.startPushStreamingByFile] at h
  split_ifs at h
  cases h
  rw [PlaceRequest.stored, hr, BitVec.toNat_setWidth]

/-! ### The first file of a list -/

/-- Without overflow the test tells whether the sample is far enough. -/
theorem reached_iff {init : MediaInit} {ms : ℕ}
    (hlow : -2 ^ 31 ≤ ((node.start.toNat : ℤ) - (start + init.offset)) * 1000 + ms)
    (hhigh : ((node.start.toNat : ℤ) - (start + init.offset)) * 1000 + ms < 2 ^ 31) :
    reached node init start ms = true ↔ (start + init.offset) * 1000 ≤ node.start.toNat * 1000 + ms := by
  rw [reached, decide_eq_true_eq, BitVec.toInt_ofInt_eq_self (by decide) (by simpa using hlow)
    (by simpa using hhigh)]
  omega

/-- In the first file of a list, with less than 256 seconds and less than 24 days between the samples
and the time asked for, the loop finds the place iff there is a sample for it, or one at most. -/
theorem trackSeeks_iff_of_near (htime : r.byFile = false) (hseconds : r.seconds.toNat < 256)
    (hnear : ∀ k, 1 ≤ k → k ≤ track.samples.length →
      -2 ^ 31 ≤ (sampleAt node track k : ℤ) - r.targetMs node ∧
        (sampleAt node track k : ℤ) - r.targetMs node < 2 ^ 31) :
    TrackSeeks r node track r.init.start ↔ track.samples.length ≤ 1 ∨
      ∃ k, 1 ≤ k ∧ k ≤ track.samples.length ∧ r.targetMs node ≤ sampleAt node track k := by
  have hoffset : r.stored.offset = r.seconds.toNat := by
    rw [PlaceRequest.stored, BitVec.toNat_setWidth]
    exact Nat.mod_eq_of_lt hseconds
  have htarget : r.targetMs node = (r.init.start + r.seconds.toNat) * 1000 := by
    rw [PlaceRequest.targetMs, htime, if_neg Bool.false_ne_true]
  have hreached : ∀ k, 1 ≤ k → k ≤ track.samples.length →
      (reached node r.stored r.init.start (sampleMs track k) = true ↔
        r.targetMs node ≤ sampleAt node track k) := by
    intro k hk hkn
    obtain ⟨hlow, hhigh⟩ := hnear k hk hkn
    rw [htarget, sampleAt] at hlow hhigh
    rw [reached_iff (by rw [hoffset]; push_cast at hlow; omega)
      (by rw [hoffset]; push_cast at hhigh; omega), hoffset, htarget, sampleAt]
  constructor
  · intro h
    by_contra hnot
    rw [not_or, not_exists] at hnot
    have hnone : ∀ k, 1 ≤ k → k ≤ track.samples.length → sampleAt node track k < r.targetMs node :=
      fun k hk hkn => not_le.mp fun hle => hnot.2 k ⟨hk, hkn, hle⟩
    rcases h.ended hnone with hone | hlast
    · exact hnot.1 hone
    · have hle := (hreached _ (by omega) le_rfl).mp hlast
      exact absurd (hnone _ (by omega) le_rfl) (not_lt.mpr hle)
  · intro h
    constructor
    · intro k hk hkn hbefore
      rw [← Bool.not_eq_true, hreached k hk hkn.le]
      exact not_le.mpr hbefore
    · exact fun k hk hkn hwanted _ => .inl ((hreached k hk hkn).mpr hwanted)
    · intro hnone
      rcases h with hone | ⟨k, hk, hkn, hle⟩
      · exact .inl hone
      · exact absurd (hnone k hk hkn) (not_lt.mpr hle)

/-- Three samples of a second each. -/
def threeSeconds : Mp4Track where
  video := true
  timeScale := 1000
  samples := List.replicate 3 { data := [], duration := 1000, sync := true }
  sps := [[0x67#8]]
  pps := [[0x68#8]]

/-- Ten seconds behind the start of a file of three. -/
def behindEnd : PlaceRequest where
  byFile := false
  init := { start := 100, stop := 200 }
  seconds := 10#32
  start_zero h := by cases h

/-- A place behind the last sample of a file begins with its first one. -/
theorem replayed_from_start :
    (playerOpenMp4 (fun _ => some [threeSeconds]) behindEnd.stored [⟨100#32, 103#32⟩] {}).map
      (fun opened => (opened.1, opened.2.current, opened.2.videoTrack, opened.2.videoIndex)) =
        some (true, [⟨100#32, 103#32⟩], some threeSeconds, 1) ∧
    ¬ SeekSound behindEnd (fun _ => some [threeSeconds]) [⟨100#32, 103#32⟩] [] := by
  have hplaces : (playerOpenMp4 (fun _ => some [threeSeconds]) behindEnd.stored
      [⟨100#32, 103#32⟩] {}).map
        (fun opened => (opened.1, opened.2.current, opened.2.videoTrack, opened.2.videoIndex)) =
          some (true, [⟨100#32, 103#32⟩], some threeSeconds, 1) := by decide
  refine ⟨hplaces, fun hsound => ?_⟩
  obtain ⟨⟨opened, file⟩, hopen, heq⟩ := Option.map_eq_some_iff.mp hplaces
  simp only [Prod.mk.injEq] at heq
  obtain ⟨rfl, hcurrent, hvideo, hindex⟩ := heq
  have hposition := (hsound file hopen ⟨100#32, 103#32⟩ (by rw [hcurrent]; rfl)).1 threeSeconds hvideo
  have hend := hposition.ended fun k _ hk => by
    have hmono : sampleAt ⟨100#32, 103#32⟩ threeSeconds k ≤
        sampleAt ⟨100#32, 103#32⟩ threeSeconds 3 := sampleAt_mono hk
    exact hmono.trans_lt (by decide)
  rw [hindex] at hend
  exact absurd hend (by decide)

end GokeWebcam.Server.Player.Sample
