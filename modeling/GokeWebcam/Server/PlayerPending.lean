import GokeWebcam.Server.PlayerList

/-!
# What is left to be sent of a file

The samples that the player sends of an open file, with their places in the tracks and their stamps.
Until a key frame is sent, a step drops a sample of each track; from then on each track is sent up to
its last sample, or to the first one past the end of what is to be played.

* `pending`: what is left to be sent, as a function of the record.
* `logged_append_pending`: what a step sends, followed by what is left after it, is what was left before.
-/

namespace GokeWebcam.Server.Player.Sample

open Lib Common Device Recorder.Sample

/-- A sample that is sent: its place in the track, and its stamp. -/
abbrev Stamped := ℕ × BitVec 32

/-- What is sent of a file. -/
@[ext]
structure FileLog where
  video : List Stamped := []
  audio : List Stamped := []
  deriving DecidableEq, Repr

instance : Append FileLog := ⟨fun l m => ⟨l.video ++ m.video, l.audio ++ m.audio⟩⟩

@[simp] theorem FileLog.video_append (l m : FileLog) : (l ++ m).video = l.video ++ m.video := rfl

@[simp] theorem FileLog.audio_append (l m : FileLog) : (l ++ m).audio = l.audio ++ m.audio := rfl

/-- The samples that a step on a file sends. -/
def logged (file : PlayerRun) (sent : List SentMedia) : FileLog where
  video := (sent.filter fun m => m.video).map fun m => (file.videoIndex, m.timestampMs)
  audio := (sent.filter fun m => !m.video).map fun m => (file.audioIndex, m.timestampMs)

/-! ### What is left -/

/-- The samples from one place on, but for the last one, that are not past the end. -/
def restOf (run : PlayerRun) (track : Mp4Track) (k : ℕ) : List Stamped :=
  ((List.range' k (track.samples.length - k)).filter fun k => !pastStop run (sampleMs track k)).map
    fun k => (k, timestampMs run (sampleMs track k))

def isKey (track : Mp4Track) (k : ℕ) : Bool := track.samples[k - 1]?.any fun sample => sample.sync

/-- The first key sample from one place on, but for the last sample. -/
def nextKey (track : Mp4Track) (k : ℕ) : Option ℕ :=
  (List.range' k (track.samples.length - k)).find? (isKey track)

/-- The key sample that is sent first. -/
def firstSent (run : PlayerRun) (track : Mp4Track) : Option ℕ :=
  (nextKey track run.videoIndex).filter fun k => !pastStop run (sampleMs track k)

/-- The places from which the tracks are sent: there are none if no key sample is sent. A sample of each
track is dropped for each video sample before it. -/
def begins (run : PlayerRun) : Option (ℕ × ℕ) :=
  if run.iFrameRead then some (run.videoIndex, run.audioIndex)
  else (run.videoTrack.bind (firstSent run)).map fun k => (k, run.audioIndex + (k - run.videoIndex))

def videoRest (run : PlayerRun) (k : ℕ) : List Stamped :=
  run.videoTrack.elim [] fun track => restOf run track k

def audioRest (run : PlayerRun) (k : ℕ) : List Stamped :=
  run.audioTrack.elim [] fun track => restOf run track k

/-- What is left to be sent of a file. -/
def pending (run : PlayerRun) : FileLog :=
  (begins run).elim {} fun place => ⟨videoRest run place.1, audioRest run place.2⟩

/-! ### Turns -/

/-- The samples are read, and there is memory for them; the speed is not that of a search, and the result
of a track that waits is no end. -/
structure Undisturbed (input : MainInput) : Prop where
  video : input.video = {}
  audio : input.audio = {}
  speed : input.speed ∈ [0, 1, 2, 4]
  staleVideo : input.staleVideo = false
  staleAudio : input.staleAudio = false

/-- A video sample that is not a key sample is the slice of a frame.
Source: `server/player/player.c` `player_get_video_frame`, `//not sending any psp pps` -/
def Slices (track : Mp4Track) : Prop :=
  ∀ sample ∈ track.samples, sample.sync = false →
    ¬ (sample.data.getD 4 0#8 &&& 0x1f#8 = 7#8 ∨ sample.data.getD 4 0#8 &&& 0x1f#8 = 8#8)

/-- What is known of an open file: no track waits before a key frame is sent. -/
structure Reading (run : PlayerRun) : Prop where
  opened : run.mp4File ≠ none
  videoNum : run.videoFrameNum = run.videoTrack.elim 0 fun track => track.samples.length
  audioNum : run.audioFrameNum = run.audioTrack.elim 0 fun track => track.samples.length
  videoIndex : 1 ≤ run.videoIndex ∨ run.videoTrack = none
  audioIndex : 1 ≤ run.audioIndex ∨ run.audioTrack = none
  slices : ∀ track ∈ run.videoTrack, Slices track
  waits : run.iFrameRead = false → run.vstreamWait = false ∧ run.astreamWait = false

/-- Nothing more is read of the video track. -/
def VideoDone (run : PlayerRun) : Prop :=
  ∀ track ∈ run.videoTrack, track.samples.length ≤ run.videoIndex ∨
    ((run.iFrameRead = true ∨ isKey track run.videoIndex = true) ∧
      pastStop run (sampleMs track run.videoIndex) = true)

def AudioDone (run : PlayerRun) : Prop :=
  ∀ track ∈ run.audioTrack, track.samples.length ≤ run.audioIndex ∨
    (run.iFrameRead = true ∧ pastStop run (sampleMs track run.audioIndex) = true)

/-- The turn of the video track. -/
inductive VideoTurns (run : PlayerRun) : Bool × PlayerRun × Option SentMedia → Prop
  | waits (hwait : run.vstreamWait = true) : VideoTurns run (true, run, none)
  | ends (hwait : run.vstreamWait = false) (hdone : VideoDone run) : VideoTurns run (false, run, none)
  | skips (track : Mp4Track) (hnew : run.iFrameRead = false) (htrack : run.videoTrack = some track)
      (hindex : run.videoIndex < track.samples.length) (hkey : isKey track run.videoIndex = false) :
      VideoTurns run (true, skipVideo run, none)
  | sends (track : Mp4Track) (media : SentMedia) (sync : ℕ) (htrack : run.videoTrack = some track)
      (hindex : run.videoIndex < track.samples.length)
      (hkey : run.iFrameRead = true ∨ isKey track run.videoIndex = true)
      (hpast : pastStop run (sampleMs track run.videoIndex) = false) (hmedia : media.video = true)
      (hstamp : media.timestampMs = timestampMs run (sampleMs track run.videoIndex)) :
      VideoTurns run (true,
        { run with iFrameRead := true, videoSync := sync, videoIndex := run.videoIndex + 1 }, some media)

/-- The turn of the audio track. -/
inductive AudioTurns (run : PlayerRun) : Bool × PlayerRun × Option SentMedia → Prop
  | waits (hwait : run.astreamWait = true) : AudioTurns run (true, run, none)
  | ends (hwait : run.astreamWait = false) (hdone : AudioDone run) : AudioTurns run (false, run, none)
  | skips (hnew : run.iFrameRead = false) : AudioTurns run (true, skipAudio run, none)
  | sends (track : Mp4Track) (media : SentMedia) (sync : ℕ) (hbegun : run.iFrameRead = true)
      (htrack : run.audioTrack = some track) (hindex : run.audioIndex < track.samples.length)
      (hpast : pastStop run (sampleMs track run.audioIndex) = false) (hmedia : media.video = false)
      (hstamp : media.timestampMs = timestampMs run (sampleMs track run.audioIndex)) :
      AudioTurns run
        (true, { run with audioSync := sync, audioIndex := run.audioIndex + 1 }, some media)

variable {run run' file : PlayerRun} {track : Mp4Track} {sample : Mp4Sample} {input : MainInput}
  {result : MainResult} {k : ℕ} {v a : Bool × PlayerRun × Option SentMedia}

/-! ### Lists of samples -/

theorem restOf_of_end (h : track.samples.length ≤ k) : restOf run track k = [] := by
  rw [restOf, Nat.sub_eq_zero_of_le h, List.range'_zero, List.filter_nil, List.map_nil]

/-- What is behind a sample past the end is not sent. -/
theorem restOf_of_past (h : pastStop run (sampleMs track k) = true) : restOf run track k = [] := by
  rw [restOf, List.map_eq_nil_iff, List.filter_eq_nil_iff]
  intro l hl
  rw [List.mem_range'_1] at hl
  simpa using pastStop_mono hl.1 h

theorem range'_of_lt {n : ℕ} (h : k < n) : List.range' k (n - k) = k :: List.range' (k + 1) (n - (k + 1)) := by
  obtain ⟨m, rfl⟩ := Nat.exists_eq_add_of_lt h
  rw [show k + m + 1 - k = m + 1 by omega, show k + m + 1 - (k + 1) = m by omega, List.range'_succ]

theorem restOf_cons (hk : k < track.samples.length) (h : pastStop run (sampleMs track k) = false) :
    restOf run track k = (k, timestampMs run (sampleMs track k)) :: restOf run track (k + 1) := by
  rw [restOf, range'_of_lt hk, List.filter_cons_of_pos (by rw [h]; rfl), List.map_cons]
  rfl

theorem nextKey_of_end (h : track.samples.length ≤ k) : nextKey track k = none := by
  rw [nextKey, Nat.sub_eq_zero_of_le h, List.range'_zero, List.find?_nil]

theorem nextKey_of_key (hk : k < track.samples.length) (h : isKey track k = true) :
    nextKey track k = some k := by
  rw [nextKey, range'_of_lt hk, List.find?_cons_of_pos h]

theorem nextKey_of_not_key (hk : k < track.samples.length) (h : isKey track k = false) :
    nextKey track k = nextKey track (k + 1) := by
  rw [nextKey, range'_of_lt hk, List.find?_cons_of_neg (by rw [h]; exact Bool.false_ne_true)]
  rfl

theorem le_of_nextKey {l : ℕ} (h : nextKey track k = some l) : k ≤ l := by
  rw [nextKey] at h
  exact (List.mem_range'_1.mp (List.mem_of_find?_eq_some h)).1

/-! ### The turns of the tracks -/

theorem isKey_of_get (h : track.samples[k - 1]? = some sample) : isKey track k = sample.sync := by
  rw [isKey, h, Option.any_some]

theorem exists_sample (hk : k < track.samples.length) :
    ∃ sample ∈ track.samples, track.samples[k - 1]? = some sample := by
  have hlt : k - 1 < track.samples.length := by omega
  exact ⟨_, List.getElem_mem hlt, List.getElem?_eq_getElem hlt⟩

theorem nextVideo_of_mem {speed : ℕ} (h : speed ∈ [0, 1, 2, 4]) :
    nextVideo speed run = { run with videoIndex := run.videoIndex + 1 } := by
  rw [nextVideo, if_pos]
  simp only [List.mem_cons, List.not_mem_nil, or_false] at h ⊢
  omega

/-- The turn of the video track, undisturbed. -/
theorem videoTurns (hinput : Undisturbed input) (hok : Reading run) (h : mainVideo input run = some v) :
    VideoTurns run v := by
  rw [mainVideo, hinput.staleVideo, hinput.video] at h
  rcases hwait : run.vstreamWait with _ | _
  · rw [hwait, if_neg Bool.false_ne_true, playerGetVideoFrame, if_neg hok.opened, hok.videoNum] at h
    rcases htrack : run.videoTrack with _ | track
    · rw [htrack, Option.elim_none, if_pos (Nat.zero_le _)] at h
      cases h
      refine .ends hwait ?_
      rw [VideoDone, htrack]
      simp
    rw [htrack, Option.elim_some] at h
    by_cases hend : track.samples.length ≤ run.videoIndex
    · rw [if_pos hend] at h
      cases h
      refine .ends hwait fun t ht => ?_
      obtain rfl : track = t := Option.some.inj (htrack.symm.trans ht)
      exact .inl hend
    have hindex : run.videoIndex < track.samples.length := by omega
    obtain ⟨sample, hmem, hget⟩ := exists_sample hindex
    have hsync := isKey_of_get hget
    rw [if_neg hend, Option.bind_some, hget, Option.map_some, readVideo] at h
    simp only [Bool.not_true, Bool.false_eq_true, if_false] at h
    by_cases hdrop : (!run.iFrameRead) = true ∧ (!sample.sync) = true
    · rw [if_pos hdrop] at h
      cases h
      exact .skips track (by simpa using hdrop.1) htrack hindex (by rw [hsync]; simpa using hdrop.2)
    have hkey : run.iFrameRead = true ∨ isKey track run.videoIndex = true := by
      rw [hsync]
      by_contra hnot
      exact hdrop (by simpa using hnot)
    have hspeed : input.speed ≠ 16 := by
      have := hinput.speed
      simp only [List.mem_cons, List.not_mem_nil, or_false] at this
      omega
    rw [if_neg hdrop, playVideo] at h
    dsimp only at h
    rcases hpast : pastStop run (sampleMs track run.videoIndex) with _ | _
    · rw [hpast, if_neg Bool.false_ne_true] at h
      rcases hkind : sample.sync with _ | _
      · have hslice := hok.slices track htrack sample hmem hkind
        rw [hkind, if_neg Bool.false_ne_true, if_neg hslice, if_neg hspeed,
          nextVideo_of_mem hinput.speed] at h
        cases h
        exact .sends track _ _ htrack hindex hkey hpast rfl rfl
      · rw [hkind, if_pos rfl, Bool.not_true, if_neg Bool.false_ne_true,
          nextVideo_of_mem hinput.speed] at h
        cases h
        exact .sends track _ _ htrack hindex hkey hpast rfl rfl
    · rw [hpast, if_pos rfl] at h
      cases h
      refine .ends hwait fun t ht => ?_
      obtain rfl : track = t := Option.some.inj (htrack.symm.trans ht)
      exact .inr ⟨hkey, hpast⟩
  · rw [hwait, if_pos rfl] at h
    cases h
    exact .waits hwait

/-- The turn of the audio track, undisturbed. -/
theorem audioTurns (hinput : Undisturbed input) (hok : Reading run) (h : mainAudio input run = some a) :
    AudioTurns run a := by
  rw [mainAudio, hinput.staleAudio, hinput.audio] at h
  rcases hwait : run.astreamWait with _ | _
  · rw [hwait, if_neg Bool.false_ne_true, playerGetAudioFrame, if_neg hok.opened, hok.audioNum] at h
    rcases htrack : run.audioTrack with _ | track
    · rw [htrack, Option.elim_none, if_pos (Nat.zero_le _)] at h
      cases h
      refine .ends hwait ?_
      rw [AudioDone, htrack]
      simp
    rw [htrack, Option.elim_some] at h
    by_cases hend : track.samples.length ≤ run.audioIndex
    · rw [if_pos hend] at h
      cases h
      refine .ends hwait fun t ht => ?_
      obtain rfl : track = t := Option.some.inj (htrack.symm.trans ht)
      exact .inl hend
    have hindex : run.audioIndex < track.samples.length := by omega
    rw [if_neg hend, Option.bind_some, List.getElem?_eq_getElem (by omega), Option.map_some,
      readAudio] at h
    simp only [Bool.not_true, Bool.false_eq_true, if_false] at h
    by_cases hnew : (!run.iFrameRead) = true
    · rw [if_pos hnew] at h
      cases h
      exact .skips (by simpa using hnew)
    have hbegun : run.iFrameRead = true := by simpa using hnew
    rw [if_neg hnew] at h
    rcases hpast : pastStop run (sampleMs track run.audioIndex) with _ | _
    · rw [hpast, if_neg Bool.false_ne_true, nextAudio, if_pos hinput.speed] at h
      cases h
      exact .sends track _ _ hbegun htrack hindex hpast rfl rfl
    · rw [hpast, if_pos rfl] at h
      cases h
      refine .ends hwait fun t ht => ?_
      obtain rfl : track = t := Option.some.inj (htrack.symm.trans ht)
      exact .inr ⟨hbegun, hpast⟩
  · rw [hwait, if_pos rfl] at h
    cases h
    exact .waits hwait

/-! ### A step on a file -/

theorem VideoTurns.same (h : VideoTurns run v) : SameFile run v.2.1 := by
  rcases h with _ | _ | _ | _ <;> exact ⟨rfl, rfl, rfl, rfl, rfl, rfl, rfl, rfl, rfl, rfl⟩

theorem AudioTurns.same (h : AudioTurns run a) : SameFile run a.2.1 := by
  rcases h with _ | _ | _ | _ <;> exact ⟨rfl, rfl, rfl, rfl, rfl, rfl, rfl, rfl, rfl, rfl⟩

theorem VideoTurns.audioIndex (h : VideoTurns run v) : v.2.1.audioIndex = run.audioIndex := by
  rcases h with _ | _ | _ | _ <;> rfl

theorem VideoTurns.read (h : VideoTurns run v) (hread : run.iFrameRead = true) :
    v.2.1.iFrameRead = true := by
  rcases h with _ | _ | _ | _
  · exact hread
  · exact hread
  · exact hread
  · rfl

/-- The fields that decide over what is sent, but for the places. -/
structure SamePlay (run run' : PlayerRun) : Prop where
  videoTrack : run'.videoTrack = run.videoTrack
  audioTrack : run'.audioTrack = run.audioTrack
  start : run'.start = run.start
  stop : run'.stop = run.stop

theorem SameFile.play (h : SameFile run run') : SamePlay run run' :=
  ⟨h.videoTrack, h.audioTrack, h.start, h.stop⟩

theorem restOf_congr (h : SamePlay run run') : restOf run' track k = restOf run track k := by
  simp only [restOf, pastStop, timestampMs, h.start, h.stop]

theorem videoRest_congr (h : SamePlay run run') : videoRest run' k = videoRest run k := by
  simp only [videoRest, h.videoTrack, restOf_congr h]

theorem audioRest_congr (h : SamePlay run run') : audioRest run' k = audioRest run k := by
  simp only [audioRest, h.audioTrack, restOf_congr h]

theorem firstSent_congr (h : SamePlay run run') (hindex : run'.videoIndex = run.videoIndex) :
    firstSent run' track = firstSent run track := by
  simp only [firstSent, pastStop, h.start, h.stop, hindex]

/-- What is left depends on the places and on the file. -/
theorem pending_congr (h : SamePlay run run') (hread : run'.iFrameRead = run.iFrameRead)
    (hvideo : run'.videoIndex = run.videoIndex) (haudio : run'.audioIndex = run.audioIndex) :
    pending run' = pending run := by
  have hfirst : firstSent run' = firstSent run := funext fun track => firstSent_congr h hvideo
  have hbegins : begins run' = begins run := by
    rw [begins, begins, hread, hvideo, haudio, h.videoTrack, hfirst]
  simp only [pending, hbegins, videoRest_congr h, audioRest_congr h]

theorem logged_append {l m : List SentMedia} : logged file (l ++ m) = logged file l ++ logged file m := by
  simp only [logged, List.filter_append, List.map_append]
  rfl

/-- Once a key frame is sent, the turn of the video track sends what is next of it. -/
theorem VideoTurns.begun (h : VideoTurns run v) (hbegun : v.2.1.iFrameRead = true) :
    (logged run v.2.2.toList).audio = [] ∧
      (logged run v.2.2.toList).video ++ videoRest run v.2.1.videoIndex =
        videoRest run run.videoIndex := by
  rcases h with hwait | ⟨hwait, hdone⟩ | ⟨track, hnew, htrack, hindex, hkey⟩ |
    ⟨track, media, sync, htrack, hindex, hkey, hpast, hmedia, hstamp⟩
  · exact ⟨rfl, rfl⟩
  · exact ⟨rfl, rfl⟩
  · rw [skipVideo, hnew] at hbegun
    cases hbegun
  · constructor
    · simp [logged, hmedia]
    · have hcons := restOf_cons hindex hpast
      simp [logged, hmedia, hstamp, videoRest, htrack, hcons]

theorem AudioTurns.begun (h : AudioTurns run a) (hbegun : run.iFrameRead = true)
    (hfile : file.audioIndex = run.audioIndex) :
    a.2.1.iFrameRead = true ∧ a.2.1.videoIndex = run.videoIndex ∧
      (logged file a.2.2.toList).video = [] ∧
      (logged file a.2.2.toList).audio ++ audioRest run a.2.1.audioIndex =
        audioRest run run.audioIndex := by
  rcases h with hwait | ⟨hwait, hdone⟩ | hnew |
    ⟨track, media, sync, -, htrack, hindex, hpast, hmedia, hstamp⟩
  · exact ⟨hbegun, rfl, rfl, rfl⟩
  · exact ⟨hbegun, rfl, rfl, rfl⟩
  · rw [hnew] at hbegun
    cases hbegun
  · refine ⟨hbegun, rfl, ?_, ?_⟩
    · simp [logged, hmedia]
    · have hcons := restOf_cons hindex hpast
      simp [logged, hmedia, hstamp, hfile, audioRest, htrack, hcons]

/-- The first key frame is sent from its own place on, and the audio track from where it stands. -/
theorem VideoTurns.begins_eq (h : VideoTurns run v) (hbegun : v.2.1.iFrameRead = true) :
    begins run = some (run.videoIndex, run.audioIndex) := by
  by_cases hread : run.iFrameRead = true
  · rw [begins, if_pos hread]
  rcases h with hwait | ⟨hwait, hdone⟩ | ⟨track, hnew, htrack, hindex, hkey⟩ |
    ⟨track, media, sync, htrack, hindex, hkey, hpast, hmedia, hstamp⟩
  · exact absurd hbegun hread
  · exact absurd hbegun hread
  · exact absurd hbegun hread
  · have hfirst : firstSent run track = some run.videoIndex := by
      rw [firstSent, nextKey_of_key hindex (hkey.resolve_left hread), Option.filter_some, hpast]
      rfl
    rw [begins, if_neg hread, htrack, Option.bind_some, hfirst, Option.map_some, Nat.sub_self]
    rfl

theorem pending_of_begins {place : ℕ × ℕ} (h : begins run = some place) :
    pending run = ⟨videoRest run place.1, audioRest run place.2⟩ := by
  rw [pending, h, Option.elim_some]

/-- A track that ends before a key frame has none to send. -/
theorem begins_of_done (hdone : VideoDone run) (hnew : run.iFrameRead = false) : begins run = none := by
  rw [begins, hnew, if_neg Bool.false_ne_true, Option.map_eq_none_iff]
  rcases htrack : run.videoTrack with _ | track
  · rfl
  rw [Option.bind_some, firstSent]
  rcases hdone track htrack with hend | ⟨hkey, hpast⟩
  · rw [nextKey_of_end hend]
    rfl
  · by_cases hindex : run.videoIndex < track.samples.length
    · rw [nextKey_of_key hindex (hkey.resolve_left (by rw [hnew]; exact Bool.false_ne_true)),
        Option.filter_some, hpast]
      rfl
    · rw [nextKey_of_end (by omega)]
      rfl

theorem videoRest_of_done (hdone : VideoDone run) : videoRest run run.videoIndex = [] := by
  rw [videoRest]
  rcases htrack : run.videoTrack with _ | track
  · rfl
  · rcases hdone track htrack with hend | ⟨-, hpast⟩
    · exact restOf_of_end hend
    · exact restOf_of_past hpast

theorem audioRest_of_done (hdone : AudioDone run) (hk : run.audioIndex ≤ k) : audioRest run k = [] := by
  rw [audioRest]
  rcases htrack : run.audioTrack with _ | track
  · rfl
  · rcases hdone track htrack with hend | ⟨-, hpast⟩
    · exact restOf_of_end (hend.trans hk)
    · exact restOf_of_past (pastStop_mono hk hpast)

/-- Nothing is left of a file of which both tracks have ended. -/
theorem pending_of_done (hvideo : VideoDone run) (haudio : AudioDone run) : pending run = {} := by
  rcases hread : run.iFrameRead with _ | _
  · rw [pending, begins_of_done hvideo hread, Option.elim_none]
  · have hplace : begins run = some (run.videoIndex, run.audioIndex) := by rw [begins, if_pos hread]
    rw [pending_of_begins hplace, videoRest_of_done hvideo, audioRest_of_done haudio le_rfl]

theorem pending_of_new (hnew : run.iFrameRead = false) :
    pending run = (run.videoTrack.bind (firstSent run)).elim {} fun k =>
      ⟨videoRest run k, audioRest run (run.audioIndex + (k - run.videoIndex))⟩ := by
  rw [pending, begins, hnew, if_neg Bool.false_ne_true]
  rcases run.videoTrack.bind (firstSent run) with _ | k <;> rfl

/-- A video sample that is no key sample is dropped, with one of the audio track while there is one. -/
theorem pending_skipVideo (hnew : run.iFrameRead = false) (htrack : run.videoTrack = some track)
    (hindex : run.videoIndex < track.samples.length) (hkey : isKey track run.videoIndex = false)
    (hsame : SameFile run run') (hnew' : run'.iFrameRead = false)
    (hvideo : run'.videoIndex = run.videoIndex + 1)
    (haudio : ∀ k, run.videoIndex < k → audioRest run (run'.audioIndex + (k - run'.videoIndex)) =
      audioRest run (run.audioIndex + (k - run.videoIndex))) : pending run' = pending run := by
  have hfirst : firstSent run' track = firstSent run track := by
    simp only [firstSent, nextKey_of_not_key hindex hkey, pastStop, hsame.start, hsame.stop, hvideo]
  have htrack' : run'.videoTrack = some track := hsame.videoTrack.trans htrack
  rw [pending_of_new hnew, pending_of_new hnew', htrack', htrack, Option.bind_some, Option.bind_some, hfirst]
  rcases hk : firstSent run track with _ | k
  · rw [Option.elim_none, Option.elim_none]
  · have hlt : run.videoIndex < k := by
      rw [← hfirst] at hk
      have := le_of_nextKey (Option.filter_eq_some_iff.mp hk).1
      omega
    rw [Option.elim_some, Option.elim_some, videoRest_congr hsame.play, audioRest_congr hsame.play,
      haudio k hlt]

/-- Before a key frame is sent nothing is, and what is left stays. -/
theorem pending_drop (hv : VideoTurns run v) (hnew : v.2.1.iFrameRead = false)
    (hwaits : run.vstreamWait = false ∧ run.astreamWait = false) (ha : AudioTurns v.2.1 a) :
    v.2.2 = none ∧ a.2.2 = none ∧ a.2.1.iFrameRead = false ∧ pending a.2.1 = pending run := by
  rcases hv with hwait | ⟨-, hdone⟩ | ⟨track, hread, htrack, hindex, hkey⟩ |
    ⟨track, media, sync, htrack, hindex, hkey, hpast, hmedia, hstamp⟩
  · rw [hwaits.1] at hwait
    cases hwait
  · -- a video track that has ended has no key frame to begin with
    have hnone : pending run = {} := by rw [pending, begins_of_done hdone hnew, Option.elim_none]
    rcases ha with hwait | _ | _ | ⟨_, _, _, hbegun⟩
    · exact ⟨rfl, rfl, hnew, rfl⟩
    · exact ⟨rfl, rfl, hnew, rfl⟩
    · refine ⟨rfl, rfl, hnew, ?_⟩
      have hdone' : VideoDone (skipAudio run) := hdone
      rw [hnone, pending, begins_of_done hdone' hnew, Option.elim_none]
    · rw [hnew] at hbegun
      cases hbegun
  · have hsame : SameFile run (skipVideo run) := ⟨rfl, rfl, rfl, rfl, rfl, rfl, rfl, rfl, rfl, rfl⟩
    rcases ha with hwait | ⟨-, hdone⟩ | _ | ⟨_, _, _, hbegun⟩
    · exact absurd (hwaits.2.symm.trans hwait) Bool.false_ne_true
    · have hdone' : AudioDone run := hdone
      have hrest : ∀ n, audioRest run (run.audioIndex + n) = [] := fun n =>
        audioRest_of_done hdone' (Nat.le_add_right _ n)
      exact ⟨rfl, rfl, hread, pending_skipVideo hread htrack hindex hkey hsame hread rfl
        fun k _ => (hrest _).trans (hrest _).symm⟩
    · refine ⟨rfl, rfl, hread, pending_skipVideo hread htrack hindex hkey
        ⟨rfl, rfl, rfl, rfl, rfl, rfl, rfl, rfl, rfl, rfl⟩ hread rfl fun k hk => ?_⟩
      congr 1
      change run.audioIndex + 1 + (k - (run.videoIndex + 1)) = run.audioIndex + (k - run.videoIndex)
      omega
    · exact absurd (hread.symm.trans hbegun) Bool.false_ne_true
  · cases hnew

/-- What both turns send, followed by what is left after them, is what was left before. -/
theorem logged_turns (hwaits : run.iFrameRead = false → run.vstreamWait = false ∧ run.astreamWait = false)
    (hv : VideoTurns run v) (ha : AudioTurns v.2.1 a) :
    logged run (v.2.2.toList ++ a.2.2.toList) ++ pending a.2.1 = pending run := by
  by_cases hbegun : v.2.1.iFrameRead = true
  · obtain ⟨hvideoNone, hvideo⟩ := hv.begun hbegun
    obtain ⟨hbegun', hindex, haudioNone, haudio⟩ := ha.begun hbegun hv.audioIndex.symm
    have hsame := hv.same.trans ha.same
    have hplace : begins a.2.1 = some (a.2.1.videoIndex, a.2.1.audioIndex) := by
      rw [begins, if_pos hbegun']
    rw [audioRest_congr hv.same.play, audioRest_congr hv.same.play, hv.audioIndex] at haudio
    rw [logged_append, pending_of_begins (hv.begins_eq hbegun), pending_of_begins hplace,
      videoRest_congr hsame.play, audioRest_congr hsame.play, hindex]
    ext : 1
    · simp [hvideo, haudioNone]
    · simp [haudio, hvideoNone]
  · have hnew : v.2.1.iFrameRead = false := by simpa using hbegun
    have hread : run.iFrameRead = false := by
      by_contra hnot
      exact hbegun (hv.read (by simpa using hnot))
    obtain ⟨hnone, hnone', -, hpending⟩ := pending_drop hv hnew (hwaits hread) ha
    rw [hnone, hnone', hpending]
    rfl

/-! ### Steps -/

theorem Reading.of_same (hok : Reading run) (hsame : SameFile run run')
    (hvideo : run.videoIndex ≤ run'.videoIndex) (haudio : run.audioIndex ≤ run'.audioIndex)
    (hwaits : run'.iFrameRead = false → run'.vstreamWait = false ∧ run'.astreamWait = false) :
    Reading run' where
  opened := hsame.mp4File ▸ hok.opened
  videoNum := by rw [hsame.videoFrameNum, hsame.videoTrack, hok.videoNum]
  audioNum := by rw [hsame.audioFrameNum, hsame.audioTrack, hok.audioNum]
  videoIndex := by
    rw [hsame.videoTrack]
    exact hok.videoIndex.imp_left hvideo.trans'
  audioIndex := by
    rw [hsame.audioTrack]
    exact hok.audioIndex.imp_left haudio.trans'
  slices := by
    rw [hsame.videoTrack]
    exact hok.slices
  waits := hwaits

theorem Reading.video (hok : Reading run) (h : VideoTurns run v) : Reading v.2.1 := by
  refine hok.of_same h.same ?_ h.audioIndex.ge fun hnew => ?_
  · rcases h with _ | _ | _ | _
    · exact le_rfl
    · exact le_rfl
    · exact Nat.le_succ _
    · exact Nat.le_succ _
  · rcases h with _ | _ | ⟨_, hread⟩ | _
    · exact hok.waits hnew
    · exact hok.waits hnew
    · exact hok.waits hread
    · cases hnew

theorem Reading.audio (hok : Reading run) (h : AudioTurns run a) : Reading a.2.1 := by
  refine hok.of_same h.same ?_ ?_ fun hnew => ?_
  · rcases h with _ | _ | _ | _ <;> exact le_rfl
  · rcases h with _ | _ | _ | _
    · exact le_rfl
    · exact le_rfl
    · exact Nat.le_succ _
    · exact Nat.le_succ _
  · rcases h with _ | _ | _ | ⟨_, _, _, hbegun⟩
    · exact hok.waits hnew
    · exact hok.waits hnew
    · exact hok.waits hnew
    · exact absurd (hnew.symm.trans hbegun) Bool.false_ne_true

theorem pending_noWait : pending (noWait run) = pending run := pending_congr sameFile_noWait.play rfl rfl rfl

theorem Reading.noWait (hok : Reading run) : Reading (noWait run) :=
  hok.of_same sameFile_noWait le_rfl le_rfl fun _ => ⟨rfl, rfl⟩

theorem pending_pace : pending (pace run) = pending run := by
  apply pending_congr sameFile_pace.play
  · unfold pace Sample.noWait
    split_ifs <;> rfl
  · unfold pace Sample.noWait
    split_ifs <;> rfl
  · unfold pace Sample.noWait
    split_ifs <;> rfl

theorem Reading.pace (hok : Reading run) : Reading (pace run) := by
  unfold Sample.pace
  split_ifs with hbegun
  · exact hok.of_same ⟨rfl, rfl, rfl, rfl, rfl, rfl, rfl, rfl, rfl, rfl⟩ le_rfl le_rfl
      fun hnew => absurd (hnew.symm.trans hbegun) Bool.false_ne_true
  · exact hok.of_same ⟨rfl, rfl, rfl, rfl, rfl, rfl, rfl, rfl, rfl, rfl⟩ le_rfl le_rfl
      fun hnew => absurd (hnew.symm.trans hbegun) Bool.false_ne_true
  · exact hok.noWait
  · exact hok

theorem VideoTurns.ended (h : VideoTurns run v) (hfst : v.1 = false) :
    v = (false, run, none) ∧ VideoDone run := by
  rcases h with _ | ⟨-, hdone⟩ | _ | _
  · cases hfst
  · exact ⟨rfl, hdone⟩
  · cases hfst
  · cases hfst

theorem AudioTurns.ended (h : AudioTurns run a) (hfst : a.1 = false) :
    a = (false, run, none) ∧ AudioDone run := by
  rcases h with _ | ⟨-, hdone⟩ | _ | _
  · cases hfst
  · exact ⟨rfl, hdone⟩
  · cases hfst
  · cases hfst

theorem pending_closed {current : List FileListNode} : pending { current := current } = {} := rfl

/-- What a step on a file sends, followed by what is left after it, is what was left before. -/
theorem logged_append_pending (hinput : Undisturbed input) (hok : Reading run)
    (h : mainFrames input run = some result) :
    logged run result.sent ++ pending result.run = pending run ∧
      (result.run.mp4File ≠ none → Reading result.run) := by
  rw [mainFrames] at h
  obtain ⟨v, hv, h⟩ := Option.bind_eq_some_iff.mp h
  obtain ⟨a, ha, h⟩ := Option.bind_eq_some_iff.mp h
  have hvideo := videoTurns hinput hok hv
  have haudio := audioTurns hinput (hok.video hvideo) ha
  have hlogged := logged_turns hok.waits hvideo haudio
  have hkept := ((hok.video hvideo).audio haudio).pace
  dsimp only at h
  by_cases hboth : (!v.1 && !a.1) = true
  · rw [if_pos hboth] at h
    rw [Bool.and_eq_true, Bool.not_eq_true', Bool.not_eq_true'] at hboth
    obtain ⟨rfl, hvideoDone⟩ := hvideo.ended hboth.1
    obtain ⟨rfl, haudioDone⟩ := haudio.ended hboth.2
    have hopen : (Sample.noWait (pace run)).mp4File.isSome :=
      Option.isSome_iff_ne_none.mpr hkept.noWait.opened
    simp only [Bool.not_false, Bool.or_self, if_true, nextStream] at h
    split at h
    · cases h
    · cases h
      rw [playerCloseMp4, if_pos hopen, pending_closed, pending_of_done hvideoDone haudioDone]
      exact ⟨rfl, fun hne => absurd rfl hne⟩
  · rw [if_neg hboth] at h
    cases h
    dsimp only
    split_ifs
    · exact ⟨by rw [pending_noWait, pending_pace, hlogged], fun _ => hkept.noWait⟩
    · exact ⟨by rw [pending_pace, hlogged], fun _ => hkept⟩

end GokeWebcam.Server.Player.Sample
