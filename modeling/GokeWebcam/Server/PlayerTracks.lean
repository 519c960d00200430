import GokeWebcam.Lib.Walk
import GokeWebcam.Server.PlayerSamples

/-!
# Looking for the tracks of a file

The loop of `player_open_mp4` over the tracks of a file that somebody else may have written, with its
counter. The two loops over the parameter sets of a video track use the same counter, so that the next
track is the one behind the number of its picture parameter sets. What is only sent as the description
of the stream is left out, and so is what a longer parameter set than there is room for writes over.

* `scanSound_iff`: every track is looked at once, and one of each kind noted, iff `ScanHolds`.
* `scanHolds_iff_of_video`: for a file with one video track, by its place and its parameter sets.
* `audio_passed_over`: the audio track behind a video track with one of each.
-/

namespace GokeWebcam.Server.Player.Sample

open Lib Common Recorder.Sample

/-- What the loop tells apart.
Source: `mp4v2/mp4v2.h` `MP4_IS_VIDEO_TRACK_TYPE`, `MP4_IS_AUDIO_TRACK_TYPE` -/
inductive TrackKind
  | video | audio | other
  deriving DecidableEq, Repr

/-- What the library tells of a track; of a video track also the parameter sets, an empty one being
taken for their end. -/
structure TrackInfo where
  id : ℕ
  kind : TrackKind
  samples : ℕ := 0
  timeScale : ℕ := 0
  sps : List (List Byte) := []
  pps : List (List Byte) := []
  deriving DecidableEq, Repr

/-- The fields that the loop sets.
Source: `server/player/player.h` `player_run_t` -/
structure TrackRun where
  videoTrack : ℕ := 0
  audioTrack : ℕ := 0
  videoFrameNum : ℕ := 0
  audioFrameNum : ℕ := 0
  videoTimescale : ℕ := 0
  audioTimescale : ℕ := 0
  videoIndex : ℕ := 0
  audioIndex : ℕ := 0
  slen : ℕ := 0
  sps : List Byte := []
  plen : ℕ := 0
  pps : List Byte := []
  deriving DecidableEq, Repr

/-- Source: `mp4v2/mp4v2.h` `MP4_INVALID_TRACK_ID` -/
def mp4InvalidTrackId : ℕ := 0

/-- The parameter set that is kept, and the counter behind the loop.
Source: `server/player/player.c` `player_open_mp4`, `for (i = 0; sps_size[i] != 0; i++)` -/
def headerLoop : List (List Byte) → ℕ → List Byte → List Byte × ℕ
  | [], i, kept => (kept, i)
  | header :: headers, i, kept =>
    if header = [] then (kept, i)
    else headerLoop headers (i + 1) (if kept.headD 0#8 = 0#8 then header else kept)

/-- The body of the loop: the record and the counter behind it.
Source: `server/player/player.c` `player_open_mp4`, `for (i = 0; i < num_tracks; i++)` -/
def scanTrack (track : TrackInfo) (i : ℕ) (run : TrackRun) : TrackRun × ℕ :=
  match track.kind with
  | .video =>
    let sps := headerLoop track.sps 0 []
    let pps := headerLoop track.pps 0 []
    ({ run with
      videoTrack := track.id, videoFrameNum := track.samples, videoTimescale := track.timeScale
      videoIndex := 1, slen := sps.1.length, sps := sps.1, plen := pps.1.length, pps := pps.1 }, pps.2)
  | .audio =>
    ({ run with
      audioTrack := track.id, audioFrameNum := track.samples, audioTimescale := track.timeScale
      audioIndex := 1 }, i)
  | .other => (run, i)

/-- The record behind the loop, and the tracks that were looked at, in their order.
Source: `server/player/player.c` `player_open_mp4`, `for (i = 0; i < num_tracks; i++)` -/
def scanTracks (file : List TrackInfo) : ℕ → ℕ → TrackRun → Option (TrackRun × List ℕ)
  | 0, _, _ => none
  | fuel + 1, i, run =>
    match file[i]? with
    | none => some (run, [])
    | some track =>
      let body := scanTrack track i run
      (scanTracks file fuel (body.2 + 1) body.1).map fun r => (r.1, i :: r.2)

/-- The track that is noted of a kind. -/
def TrackRun.trackOf (run : TrackRun) : TrackKind → ℕ
  | .video => run.videoTrack
  | .audio => run.audioTrack
  | .other => mp4InvalidTrackId

/-- A track of this kind is noted. -/
def Noted (file : List TrackInfo) (kind : TrackKind) (run : TrackRun) : Prop :=
  ∃ track ∈ file, track.kind = kind ∧ run.trackOf kind = track.id

/-- The loop ends, has looked at each track once, and has noted a video and an audio track if there
are some. -/
def ScanSound (file : List TrackInfo) (run : TrackRun) : Prop :=
  ∃ fuel run' visited,
    scanTracks file fuel 0 { run with videoTrack := mp4InvalidTrackId } = some (run', visited) ∧
      visited.Perm (List.range file.length) ∧
      ((∃ track ∈ file, track.kind = .video) → Noted file .video run') ∧
      ((∃ track ∈ file, track.kind = .audio) → Noted file .audio run')

/-- The track that is looked at after this one: the next one, and after a video track the one behind
the number of its picture parameter sets. -/
def nextTrack (file : List TrackInfo) (i : ℕ) : ℕ :=
  match file[i]? with
  | none => i + 1
  | some track => if track.kind = .video then headerCount track.pps + 1 else i + 1

/-- No two tracks have the same next one, or both the end, and none comes after itself. -/
def ScanHolds (file : List TrackInfo) : Prop := OnePath (nextTrack file) file.length

variable {file : List TrackInfo} {run run' : TrackRun} {track : TrackInfo} {kind : TrackKind}
  {fuel i : ℕ} {visited : List ℕ} {headers : List (List Byte)} {kept : List Byte}

theorem nextTrack_pos (i : ℕ) : 0 < nextTrack file i := by
  rw [nextTrack]
  rcases file[i]? with _ | track
  · exact Nat.succ_pos i
  · dsimp only
    split_ifs <;> exact Nat.succ_pos _

/-- The counter behind the parameter sets is their number. -/
theorem headerLoop_snd : (headerLoop headers i kept).2 = i + headerCount headers := by
  induction headers generalizing i kept with
  | nil => rfl
  | cons header headers ih =>
      rw [headerLoop, headerCount]
      by_cases hempty : header = []
      · simp [hempty]
      · rw [if_neg hempty, ih, headerCount, List.takeWhile_cons_of_pos (by simpa using hempty),
          List.length_cons, Nat.add_assoc, Nat.add_comm 1]

theorem scanTrack_snd (hi : file[i]? = some track) :
    (scanTrack track i run).2 + 1 = nextTrack file i := by
  rw [nextTrack, hi, scanTrack]
  rcases hkind : track.kind with _ | _ | _ <;> simp [headerLoop_snd, hkind]

/-- The tracks that are looked at. -/
theorem scanTracks_visited : (scanTracks file fuel i run).map Prod.snd =
    walk (nextTrack file) file.length fuel i := by
  induction fuel generalizing i run with
  | zero => rfl
  | succ fuel ih =>
      rw [scanTracks, walk]
      rcases hi : file[i]? with _ | track
      · rw [if_pos (List.getElem?_eq_none_iff.mp hi)]
        rfl
      · have hlt := (List.getElem?_eq_some_iff.mp hi).1
        have hnext : (scanTrack track i run).2 + 1 = nextTrack file i := scanTrack_snd hi
        rw [if_neg (not_le.mpr hlt), ← hnext, ← ih]
        simp only [Option.map_map]
        rfl

theorem trackOf_scanTrack (hkind : kind ≠ .other) : (scanTrack track i run).1.trackOf kind =
    if track.kind = kind then track.id else run.trackOf kind := by
  rw [scanTrack]
  rcases htrack : track.kind with _ | _ | _ <;> rcases kind with _ | _ | _ <;>
    first | rfl | exact absurd rfl hkind

/-- A track of the kind is noted at the end, if one was before or one is looked at. -/
theorem noted_scanTracks (hkind : kind ≠ .other)
    (h : scanTracks file fuel i run = some (run', visited))
    (hsome : Noted file kind run ∨ ∃ j ∈ visited, ∃ track, file[j]? = some track ∧
      track.kind = kind) : Noted file kind run' := by
  induction fuel generalizing i run visited with
  | zero => cases h
  | succ fuel ih =>
      rw [scanTracks] at h
      rcases hi : file[i]? with _ | track <;> rw [hi] at h
      · cases h
        rcases hsome with hnoted | ⟨j, hj, -⟩
        · exact hnoted
        · exact absurd hj List.not_mem_nil
      obtain ⟨⟨last, later⟩, hlater, heq⟩ := Option.map_eq_some_iff.mp h
      cases heq
      refine ih hlater ?_
      by_cases hhere : track.kind = kind
      · refine .inl ⟨track, List.mem_of_getElem? hi, hhere, ?_⟩
        rw [trackOf_scanTrack hkind, if_pos hhere]
      rcases hsome with ⟨noted, hmem, hnoted, heq⟩ | ⟨j, hj, hvisited⟩
      · refine .inl ⟨noted, hmem, hnoted, ?_⟩
        rw [trackOf_scanTrack hkind, if_neg hhere, heq]
      · rcases List.mem_cons.mp hj with rfl | hj
        · obtain ⟨track', htrack', hkind'⟩ := hvisited
          rw [hi] at htrack'
          cases htrack'
          exact absurd hkind' hhere
        · exact .inr ⟨j, hj, hvisited⟩

theorem exists_mem_of_perm (hperm : visited.Perm (List.range file.length)) (hmem : track ∈ file) :
    ∃ j ∈ visited, file[j]? = some track := by
  obtain ⟨j, hj, hget⟩ := List.getElem_of_mem hmem
  exact ⟨j, hperm.mem_iff.mpr (List.mem_range.mpr hj), List.getElem?_eq_some_iff.mpr ⟨hj, hget⟩⟩

/-- Each track is looked at once, and one of each kind noted, iff the tracks lie on one path. -/
theorem scanSound_iff : ScanSound file run ↔ ScanHolds file := by
  rw [ScanHolds, ← visitsOnce_iff nextTrack_pos]
  constructor
  · rintro ⟨fuel, run', visited, hscan, hperm, -⟩
    refine ⟨fuel, visited, ?_, hperm⟩
    rw [← scanTracks_visited, hscan]
    rfl
  · rintro ⟨fuel, visited, hwalk, hperm⟩
    have hvisited : (scanTracks file fuel 0 { run with videoTrack := mp4InvalidTrackId }).map
        Prod.snd = some visited := scanTracks_visited.trans hwalk
    obtain ⟨⟨run', visited⟩, hscan, rfl⟩ := Option.map_eq_some_iff.mp hvisited
    refine ⟨fuel, run', visited, hscan, hperm, ?_, ?_⟩
    · rintro ⟨track, hmem, hkind⟩
      obtain ⟨j, hj, hget⟩ := exists_mem_of_perm hperm hmem
      exact noted_scanTracks (by decide) hscan (.inr ⟨j, hj, track, hget, hkind⟩)
    · rintro ⟨track, hmem, hkind⟩
      obtain ⟨j, hj, hget⟩ := exists_mem_of_perm hperm hmem
      exact noted_scanTracks (by decide) hscan (.inr ⟨j, hj, track, hget, hkind⟩)

/-- A file with one video track: it has as many picture parameter sets as there are tracks before it,
or it is the last one and has no fewer. -/
theorem scanHolds_iff_of_video (hi : file[i]? = some track) (hvideo : track.kind = .video)
    (honly : ∀ j other, file[j]? = some other → other.kind = .video → j = i) :
    ScanHolds file ↔ headerCount track.pps = i ∨
      i + 1 = file.length ∧ i ≤ headerCount track.pps := by
  have hlt : i < file.length := (List.getElem?_eq_some_iff.mp hi).1
  have hnext : ∀ j < file.length, j ≠ i → nextTrack file j = j + 1 := by
    intro j hj hne
    rw [nextTrack, List.getElem?_eq_getElem hj]
    exact if_neg fun hkind => hne (honly j _ (List.getElem?_eq_getElem hj) hkind)
  have hcount : nextTrack file i = headerCount track.pps + 1 := by
    rw [nextTrack, hi]
    exact if_pos hvideo
  rw [ScanHolds, onePath_iff_of_succ nextTrack_pos hlt hnext, follower_of_lt hlt, hcount]
  omega

/-- A video track with one parameter set of each kind. -/
def oneSetVideo (id : ℕ) : TrackInfo where
  id := id
  kind := .video
  sps := [[0x67#8]]
  pps := [[0x68#8]]

/-- A video track with one of each parameter set, behind two audio tracks. -/
def videoLast : List TrackInfo :=
  [{ id := 1, kind := .audio }, { id := 2, kind := .audio }, oneSetVideo 3]

theorem scanTracks_videoLast (fuel : ℕ) (run : TrackRun) :
    scanTracks videoLast fuel 2 run = none := by
  induction fuel generalizing run with
  | zero => rfl
  | succ fuel ih =>
      change (scanTracks videoLast fuel 2 (scanTrack (oneSetVideo 3) 2 run).1).map _ = none
      rw [ih]
      rfl

/-- The audio track behind a video track with one of each parameter set is not looked at; behind two
audio tracks the loop looks at such a video track again and again. -/
theorem audio_passed_over : ¬ ScanSound [oneSetVideo 1, { id := 2, kind := .audio }] {} ∧
    scanTracks [oneSetVideo 1, { id := 2, kind := .audio }] 3 0 {} =
      some ((scanTrack (oneSetVideo 1) 0 {}).1, [0]) ∧
    ∀ fuel, scanTracks videoLast fuel 0 {} = none := by
  refine ⟨?_, by decide, fun fuel => ?_⟩
  · rintro ⟨fuel, run', visited, hscan, hperm, -⟩
    rcases fuel with _ | _ | fuel
    · cases hscan
    · cases hscan
    · change some (_, [0]) = _ at hscan
      cases hscan
      exact absurd hperm.length_eq (by decide)
  · rcases fuel with _ | _ | fuel
    · rfl
    · rfl
    · change ((scanTracks videoLast fuel 2 _).map _).map _ = none
      rw [scanTracks_videoLast]
      rfl

/-! ### The tracks of a recording -/

/-- What the library tells of a track of a recording. -/
def trackInfo (id : ℕ) (track : Mp4Track) : TrackInfo where
  id := id
  kind := if track.video then .video else .audio
  samples := track.samples.length
  timeScale := track.timeScale
  sps := track.sps
  pps := track.pps

/-- The tracks of a file, by their numbers. -/
def fileInfo (file : Mp4File) : List TrackInfo := file.mapIdx fun i track => trackInfo (i + 1) track

/-- The record has what the loop notes. -/
structure Shows (run : TrackRun) (play : PlayerRun) : Prop where
  videoFrameNum : run.videoFrameNum = play.videoFrameNum
  audioFrameNum : run.audioFrameNum = play.audioFrameNum
  videoIndex : run.videoIndex = play.videoIndex
  audioIndex : run.audioIndex = play.audioIndex
  sps : run.sps = play.sps
  pps : run.pps = play.pps

theorem copyHeaders_eq {sps : List Byte} (h : copyHeaders headers kept = some sps) :
    (headerLoop headers i kept).1 = sps := by
  induction headers generalizing i kept with
  | nil => exact Option.some.inj h
  | cons header headers ih =>
      rw [copyHeaders] at h
      rw [headerLoop]
      split_ifs at h ⊢
      · exact Option.some.inj h
      · exact ih h
      · exact ih h

theorem exists_visited {scan : Option (TrackRun × List ℕ)} {P : TrackRun → Prop}
    (h : ∃ run visited, scan = some (run, visited) ∧ P run) :
    ∃ run visited, scan.map (fun r => (r.1, i :: r.2)) = some (run, visited) ∧ P run := by
  obtain ⟨run, visited, rfl, hrun⟩ := h
  exact ⟨run, i :: visited, rfl, hrun⟩

/-- Where the tracks of a recording are found, the loop ends with what is found. -/
theorem scanTracks_of_openTracks {mp4 : Mp4File} {play play' : PlayerRun}
    (h : openTracks mp4 fuel i play = some play') (hshows : Shows run play) :
    ∃ run' visited, scanTracks (fileInfo mp4) fuel i run = some (run', visited) ∧
      Shows run' play' := by
  induction fuel generalizing i run play with
  | zero => cases h
  | succ fuel ih =>
      rw [openTracks] at h
      rw [scanTracks, fileInfo, List.getElem?_mapIdx]
      rcases hi : mp4[i]? with _ | track <;> rw [hi] at h
      · cases h
        exact ⟨run, [], rfl, hshows⟩
      refine exists_visited ?_
      rcases hvideo : track.video with _ | _ <;> dsimp only at h <;>
        rw [hvideo] at h
      · have hscan : scanTrack (trackInfo (i + 1) track) i run = ({ run with
            audioTrack := i + 1, audioFrameNum := track.samples.length
            audioTimescale := track.timeScale, audioIndex := 1 }, i) := by
          simp [scanTrack, trackInfo, hvideo]
        rw [hscan]
        exact ih h ⟨hshows.videoFrameNum, rfl, hshows.videoIndex, rfl, hshows.sps, hshows.pps⟩
      · obtain ⟨sps, hsps, h⟩ := Option.bind_eq_some_iff.mp h
        obtain ⟨pps, hpps, h⟩ := Option.bind_eq_some_iff.mp h
        have hscan : scanTrack (trackInfo (i + 1) track) i run = ({ run with
            videoTrack := i + 1, videoFrameNum := track.samples.length
            videoTimescale := track.timeScale, videoIndex := 1, slen := sps.length, sps := sps
            plen := pps.length, pps := pps }, headerCount track.pps) := by
          simp [scanTrack, trackInfo, hvideo, copyHeaders_eq hsps, copyHeaders_eq hpps,
            headerLoop_snd]
        rw [hscan]
        exact ih h ⟨rfl, hshows.audioFrameNum, rfl, hshows.audioIndex, rfl, rfl⟩

end GokeWebcam.Server.Player.Sample
