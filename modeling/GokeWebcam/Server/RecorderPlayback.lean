import GokeWebcam.Lib.Transition
import GokeWebcam.Server.PlayerSamples

/-!
# Playing what was recorded

The recorder puts the length of a slice in front of it and keeps the first parameter sets apart; the
player puts start codes in their places.

* `roundTrip_iff`: what is sent is what the camera made, from the first key frame on, if and only if
  the first sequence parameter set and the first picture parameter set behind it are there before the
  slices of the first key frame, and fit the player's arrays.
* `longHeader_lost`: a longer one is copied past the end of its array.
-/

namespace GokeWebcam.Server.Player.Sample

open Lib Common Device Recorder.Sample

/-- The samples of a track, without their durations. -/
def sampleList (track : Option Mp4Track) : List (List Byte × Bool) :=
  track.elim [] fun track => track.samples.map fun sample => (sample.data, sample.sync)

/-- The bytes that a slice is to be sent with. -/
def sliceData (sps pps : List Byte) (unit : NalUnit) : List Byte :=
  (if unit.type = 5#8 then startCode ++ sps ++ startCode ++ pps else []) ++ (startCode ++ unit.bytes)

/-- A video frame that is sent is the slice of the sample that was read. -/
def SendsSlice (slices : List NalUnit) (track : Mp4Track) (run : PlayerRun) (call : MediaCall)
    (_ : PlayerRun) : Prop :=
  ∀ media ∈ mediaSent run call, media.video = true → ∃ unit sps pps,
    slices[run.videoIndex - 1]? = some unit ∧ track.sps.head? = some sps ∧
      track.pps.head? = some pps ∧ media.data = sliceData sps pps unit

/-- The record of a playback that has opened the file of a recording, the only one of its list. -/
def openRecording (run : SampleRun) (init : MediaInit) (node : FileListNode) : Option PlayerRun :=
  (playerOpenMp4 (fun _ => some (tracks run)) init [node] {}).map Prod.snd

/-- The file holds the slices from the first key frame on, and each playback of it, in whatever order
frames are asked for, sends them. -/
def RoundTrip (camera : Camera) (audio : Bool) (stop : CLong) (rounds : List CodedRound) : Prop :=
  ∃ run, recordRounds (rounds.map (CodedRound.input camera)) (initMp4 audio stop) = some run ∧
    let slices := fromFirstKey (framesOf stop rounds)
    sampleList run.videoTrack = slices.map sampleBytes ∧
      (slices ≠ [] → ∃ track, run.videoTrack = some track ∧ ∀ init node,
        ∃ play, openRecording run init node = some play ∧
          ∀ calls, AllSteps mediaStep (SendsSlice slices track) play calls)

/-- The parameter sets before the slices of the first key frame fit the arrays of the player. -/
def SetsFit (frames : List CodedFrame) : Prop :=
  ∀ first ∈ untilFirstKey frames, ∃ sps pps,
    (Recorder.Sample.Recorded.params {} first).sps = some sps ∧ (Recorder.Sample.Recorded.params {} first).pps = some pps ∧
      sps.bytes.length ≤ headerSize ∧ pps.bytes.length ≤ headerSize

variable {camera : Camera} {audio : Bool} {stop : CLong} {rounds : List CodedRound}
  {run : SampleRun} {play play' : PlayerRun} {track : Mp4Track} {slices : List NalUnit}
  {init : MediaInit} {node : FileListNode} {call : MediaCall}

/-! ### Opening -/

/-- One header. -/
theorem copyHeaders_singleton {header : List Byte} (hne : header ≠ []) : copyHeaders [header] [] =
    if headerSize < header.length then none else some header := by
  simp [copyHeaders, hne]

/-- A recording with one parameter set of each kind. -/
structure OneSet (run : SampleRun) (track : Mp4Track) (sps pps : List Byte) : Prop where
  audioKind : ∀ track ∈ run.audioTrack, track.video = false
  videoTrack : run.videoTrack = some track
  videoKind : track.video = true
  sps_eq : track.sps = [sps]
  pps_eq : track.pps = [pps]
  sps_ne : sps ≠ []
  pps_ne : pps ≠ []

/-- What a playback knows of the video track it has opened. -/
structure Opened (track : Mp4Track) (sps pps : List Byte) (play : PlayerRun) : Prop where
  file : play.mp4File ≠ none
  videoTrack : play.videoTrack = some track
  sps_eq : play.sps = sps
  pps_eq : play.pps = pps

variable {sps pps : List Byte}

/-- The video track of a recording is the last one that is looked at. -/
theorem openTracks_video (h : OneSet run track sps pps) (file : Mp4File) (fuel i : ℕ)
    (play : PlayerRun) (hi : file[i]? = some track) (hlast : file[2]? = none) :
    openTracks file (fuel + 2) i play =
      if sps.length ≤ headerSize ∧ pps.length ≤ headerSize then
        some { play with
          videoTrack := some track, videoFrameNum := track.samples.length, videoIndex := 1
          sps := sps, pps := pps }
      else none := by
  have hcount : headerCount track.pps + 1 = 2 := by
    rw [h.pps_eq, headerCount]
    simp [h.pps_ne]
  rw [openTracks, hi]
  dsimp only
  rw [if_pos h.videoKind, h.sps_eq, copyHeaders_singleton h.sps_ne, hcount, h.pps_eq,
    copyHeaders_singleton h.pps_ne]
  by_cases hsps : headerSize < sps.length
  · rw [if_pos hsps]
    exact (if_neg fun hfit => absurd hfit.1 (by omega)).symm
  by_cases hpps : headerSize < pps.length
  · rw [if_neg hsps, if_pos hpps]
    exact (if_neg fun hfit => absurd hfit.2 (by omega)).symm
  have hfit : sps.length ≤ headerSize ∧ pps.length ≤ headerSize := ⟨by omega, by omega⟩
  rw [if_neg hsps, if_neg hpps, if_pos hfit]
  simp only [Option.bind_some]
  rw [openTracks, hlast]

/-- The tracks of a recording. -/
theorem openTracks_recording (h : OneSet run track sps pps) (play : PlayerRun)
    (hnew : play.audioFrameNum = 0) :
    if sps.length ≤ headerSize ∧ pps.length ≤ headerSize then
      ∃ play', openTracks (tracks run) ((tracks run).length + 1) 0 play = some play' ∧
        Opened track sps pps { play' with mp4File := some [] } ∧ play'.mp4File = play.mp4File ∧
        (play'.audioFrameNum = 0 ∨ play'.audioTrack ≠ none)
    else openTracks (tracks run) ((tracks run).length + 1) 0 play = none := by
  rcases haudio : run.audioTrack with _ | audio
  · have htracks : tracks run = [track] := by rw [tracks, haudio, h.videoTrack]; rfl
    have hopen := openTracks_video h [track] 0 0 play rfl rfl
    rw [htracks]
    split_ifs with hfit
    · rw [if_pos hfit] at hopen
      exact ⟨_, hopen, ⟨by simp, rfl, rfl, rfl⟩, rfl, .inl hnew⟩
    · rw [if_neg hfit] at hopen
      exact hopen
  · have htracks : tracks run = [audio, track] := by rw [tracks, haudio, h.videoTrack]; rfl
    have hkind : ¬ audio.video = true := by simp [h.audioKind audio haudio]
    have hopen := openTracks_video h [audio, track] 0 1
      { play with
        audioTrack := some audio, audioFrameNum := audio.samples.length, audioIndex := 1 } rfl rfl
    rw [htracks]
    split_ifs with hfit
    · rw [if_pos hfit] at hopen
      refine ⟨_, (if_neg hkind).trans hopen, ⟨by simp, rfl, rfl, rfl⟩, rfl, .inr (by simp)⟩
    · rw [if_neg hfit] at hopen
      exact (if_neg hkind).trans hopen

/-- Opening a recording, with its parameter sets. -/
theorem openRecording_spec (h : OneSet run track sps pps) (init : MediaInit) (node : FileListNode) :
    if sps.length ≤ headerSize ∧ pps.length ≤ headerSize then
      ∃ play, openRecording run init node = some play ∧ Opened track sps pps play
    else openRecording run init node = none := by
  have hopen := openTracks_recording h
    { current := [node], mp4File := some (tracks run), start := init.start, stop := init.stop } rfl
  have heq : openRecording run init node = (openTracks (tracks run) ((tracks run).length + 1) 0
      { current := [node], mp4File := some (tracks run), start := init.start,
        stop := init.stop }).bind (seekFile node init) := by
    rw [openRecording, playerOpenMp4]
    simp only [if_true, List.length_singleton]
    rcases openTracks _ _ _ _ with _ | play
    · rfl
    · rw [Option.bind_some, Option.bind_some, Option.map_map]
      exact Option.map_id'
  rw [heq]
  split_ifs with hfit
  · rw [if_pos hfit] at hopen
    obtain ⟨play, htracks, hopened, hfile, haudio⟩ := hopen
    have hvideo : play.videoTrack = some track := hopened.videoTrack
    obtain ⟨index, hindex⟩ : ∃ index, seekTrack node init play.start play.audioFrameNum
        play.audioIndex play.audioTrack = some index := by
      rcases hnone : play.audioTrack with _ | audio
      · rw [seekTrack, if_pos (haudio.resolve_right fun hne => hne hnone)]
        exact ⟨_, rfl⟩
      · exact ⟨_, rfl⟩
    rw [htracks, Option.bind_some, seekFile, hvideo, hindex]
    refine ⟨_, rfl, ?_, rfl, hopened.sps_eq, hopened.pps_eq⟩
    dsimp only
    rw [hfile]
    simp
  · rw [if_neg hfit] at hopen
    rw [hopen]
    rfl

/-! ### Frames -/

theorem drop_sampleBytes {unit : NalUnit} : (sampleBytes unit).1.drop 4 = unit.bytes := rfl

/-- The bytes that are sent for the sample of a slice. -/
theorem keyData_sampleBytes {unit : NalUnit} (h : Opened track sps pps play)
    (hkey : unit.type = 5#8) : keyData play (sampleBytes unit).1 = sliceData sps pps unit := by
  rw [keyData, sliceData, drop_sampleBytes, h.sps_eq, h.pps_eq, if_pos hkey]

/-- Asking for frames leaves the track and the parameter sets. -/
theorem opened_mediaStep (h : Opened track sps pps play) (hs : mediaStep play call = some play') :
    Opened track sps pps play' := by
  have hsame := sameFile_mediaStep hs
  exact ⟨hsame.mp4File ▸ h.file, hsame.videoTrack.trans h.videoTrack, hsame.sps.trans h.sps_eq,
    hsame.pps.trans h.pps_eq⟩

/-- A video frame that is sent is the slice of its sample. -/
theorem sendsSlice_of_opened (hone : OneSet run track sps pps)
    (hslices : sampleList (some track) = slices.map sampleBytes)
    (h : Opened track sps pps play) : SendsSlice slices track play call play' := by
  intro media hmedia hvideo
  rcases call with ⟨input, speed⟩ | ⟨input, speed⟩
  · obtain ⟨track', sample, htrack, hsample, -, -, -, rfl⟩ := videoFrame_sent hmedia
    obtain rfl : track = track' := Option.some.inj (h.videoTrack.symm.trans htrack)
    have hget : (slices.map sampleBytes)[play.videoIndex - 1]? = some (sample.data, sample.sync) := by
      rw [← hslices, sampleList, Option.elim_some, List.getElem?_map, hsample, Option.map_some]
    rw [List.getElem?_map, Option.map_eq_some_iff] at hget
    obtain ⟨unit, hunit, hbytes⟩ := hget
    have hdata : sample.data = (sampleBytes unit).1 := by rw [hbytes]
    have hsync : sample.sync = decide (unit.type = 5#8) := (congrArg Prod.snd hbytes).symm
    refine ⟨unit, sps, pps, hunit, by rw [hone.sps_eq]; rfl, by rw [hone.pps_eq]; rfl, ?_⟩
    rw [videoMedia, hsync, hdata]
    by_cases hkey : unit.type = 5#8
    · rw [decide_eq_true hkey, if_pos rfl, keyData_sampleBytes h hkey]
    · rw [decide_eq_false hkey, if_neg (by decide), drop_sampleBytes, sliceData, if_neg hkey,
        List.nil_append]
  · obtain ⟨_, _, -, -, -, -, -, rfl⟩ := audioFrame_sent hmedia
    cases hvideo

/-! ### The round trip -/

/-- The recording of a list of rounds, and the parameter sets that are in its file. -/
theorem recording_spec (camera : Camera) (audio : Bool) (stop : CLong) (rounds : List CodedRound) :
    ∃ run, recordRounds (rounds.map (CodedRound.input camera)) (initMp4 audio stop) = some run ∧
      Holds camera stop ((framesOf stop rounds).foldl Recorder.Sample.Recorded.frame {}) run :=
  holds_recordRounds holds_initMp4

/-- The samples of the file are the slices that are kept. -/
theorem sampleList_of_holds {file : Recorder.Sample.Recorded} (h : Holds camera stop file run) :
    sampleList run.videoTrack = file.slices.map sampleBytes := by
  have htrack := h.track
  rcases hvideo : run.videoTrack with _ | track
  · have hnew : file.slices = [] := by
      by_contra hbegun
      have hsps := h.order (h.begun hbegun)
      rw [hvideo, Option.map_none, eq_comm, Option.map_eq_none_iff] at htrack
      rw [htrack] at hsps
      cases hsps
    rw [hnew]
    rfl
  · rw [hvideo, Option.map_some] at htrack
    obtain ⟨unit, -, heq⟩ := Option.map_eq_some_iff.mp htrack.symm
    simp only [Prod.mk.injEq] at heq
    exact heq.2.2.2.2.symm

/-- A file with both parameter sets has one of each. -/
theorem oneSet_of_holds {file : Recorder.Sample.Recorded} {sps pps : NalUnit} (h : Holds camera stop file run)
    (hsps : file.sps = some sps) (hpps : file.pps = some pps) :
    ∃ track, OneSet run track sps.bytes pps.bytes := by
  have htrack := h.track
  rw [hsps, hpps, Option.map_some] at htrack
  obtain ⟨track, hvideo, heq⟩ := Option.map_eq_some_iff.mp htrack
  simp only [Prod.mk.injEq] at heq
  exact ⟨track, h.audio, hvideo, heq.1, heq.2.2.1, heq.2.2.2.1, sps.ne_nil, pps.ne_nil⟩

/-- A slice is known by its sample. -/
theorem sampleBytes_injective : Function.Injective sampleBytes := by
  rintro ⟨bytes, _, _, _⟩ ⟨bytes', _, _, _⟩ heq
  have hbytes : bytes = bytes' := congrArg (fun bytes => bytes.1.drop 4) heq
  subst hbytes
  rfl

/-- What is sent is what was recorded, where the parameter sets fit. -/
theorem roundTrip_of_setsFit (h : SetsFit (framesOf stop rounds)) :
    RoundTrip camera audio stop rounds := by
  obtain ⟨run, hrun, hholds⟩ := recording_spec camera audio stop rounds
  have hready : Recorder.Sample.Recorded.Ready {} (framesOf stop rounds) := by
    intro first hfirst
    obtain ⟨sps, pps, -, hpps, -⟩ := h first hfirst
    rw [hpps]
    rfl
  have hslices := (slices_foldl_frame_iff (refuted rfl) rfl).mpr hready
  refine ⟨run, hrun, (sampleList_of_holds hholds).trans (by rw [hslices]), fun hne => ?_⟩
  rcases hfirst : untilFirstKey (framesOf stop rounds) with _ | first
  · exact absurd (fromFirstKey_eq_nil hfirst) hne
  obtain ⟨sps, pps, hsps, hpps, hfit⟩ := h first hfirst
  obtain ⟨hsps', hpps', -⟩ :=
    sets_foldl_frame hfirst (refuted rfl) rfl (hready first hfirst)
  obtain ⟨track, hone⟩ := oneSet_of_holds hholds (hsps'.trans hsps) (hpps'.trans hpps)
  refine ⟨track, hone.videoTrack, fun init node => ?_⟩
  have hopen := openRecording_spec hone init node
  rw [if_pos hfit] at hopen
  obtain ⟨play, hplay, hopened⟩ := hopen
  have hlist : sampleList (some track) =
      (fromFirstKey (framesOf stop rounds)).map sampleBytes := by
    rw [← hone.videoTrack, sampleList_of_holds hholds, hslices]
  refine ⟨play, hplay, fun calls => AllSteps.of_inv (I := Opened track sps.bytes pps.bytes)
    (fun _ _ _ h hs => opened_mediaStep h hs) (fun _ _ _ h _ => ?_) hopened calls⟩
  exact sendsSlice_of_opened hone hlist h

/-- Where they do not, it is not. -/
theorem setsFit_of_roundTrip (h : RoundTrip camera audio stop rounds) :
    SetsFit (framesOf stop rounds) := by
  obtain ⟨run, hrun, hsamples, hplay⟩ := h
  obtain ⟨run', hrun', hholds⟩ := recording_spec camera audio stop rounds
  obtain rfl : run = run' := Option.some.inj (hrun.symm.trans hrun')
  have hslices : ((framesOf stop rounds).foldl Recorder.Sample.Recorded.frame {}).slices =
      fromFirstKey (framesOf stop rounds) :=
    sampleBytes_injective.list_map ((sampleList_of_holds hholds).symm.trans hsamples)
  have hready : Recorder.Sample.Recorded.Ready {} (framesOf stop rounds) :=
    (slices_foldl_frame_iff (refuted rfl) rfl).mp hslices
  intro first hfirst
  obtain ⟨hsps', hpps', hne⟩ :=
    sets_foldl_frame hfirst (refuted rfl) rfl (hready first hfirst)
  obtain ⟨pps, hpps⟩ := Option.isSome_iff_exists.mp (hready first hfirst)
  obtain ⟨sps, hsps⟩ := Option.isSome_iff_exists.mp
    (hholds.order (by rw [hpps']; exact hready first hfirst))
  refine ⟨sps, pps, hsps'.symm.trans hsps, hpps, ?_⟩
  by_contra hfit
  obtain ⟨track, hone⟩ := oneSet_of_holds hholds hsps (hpps'.trans hpps)
  obtain ⟨_, -, hall⟩ := hplay hne
  obtain ⟨play, hopen, -⟩ := hall {} ⟨0, 0⟩
  have hspec := openRecording_spec hone {} ⟨0, 0⟩
  rw [if_neg hfit, hopen] at hspec
  cases hspec

/-- What the camera makes is sent again by every playback of its recording, from the first key frame
on, if and only if the first sequence parameter set and the first picture parameter set behind it
come before the slices of that frame and fit the arrays of the player. -/
theorem roundTrip_iff (camera : Camera) (audio : Bool) (stop : CLong) (rounds : List CodedRound) :
    RoundTrip camera audio stop rounds ↔ SetsFit (framesOf stop rounds) :=
  ⟨setsFit_of_roundTrip, roundTrip_of_setsFit⟩

/-- A unit without zeros. -/
def unitOf (header : Byte) (n : ℕ) (hne : header ≠ 0#8) : NalUnit where
  bytes := header :: List.replicate n 1#8
  ne_nil := by simp
  no_zeros := by
    intro h
    have hmem : 0#8 ∈ header :: List.replicate n 1#8 := h.subset (by simp)
    rcases List.mem_cons.mp hmem with heq | hmem
    · exact hne heq.symm
    · exact absurd (List.eq_of_mem_replicate hmem) (by decide)
  last_ne := by
    intro hlast
    have hmem : 0#8 ∈ header :: List.replicate n 1#8 := hlast ▸ List.getLast_mem _
    rcases List.mem_cons.mp hmem with heq | hmem
    · exact hne heq.symm
    · exact absurd (List.eq_of_mem_replicate hmem) (by decide)

@[simp] theorem type_unitOf (header : Byte) (n : ℕ) (hne : header ≠ 0#8) :
    (unitOf header n hne).type = header &&& 0x1f#8 := rfl

@[simp] theorem length_unitOf (header : Byte) (n : ℕ) (hne : header ≠ 0#8) :
    (unitOf header n hne).bytes.length = n + 1 := by simp [unitOf]

/-- A key frame whose sequence parameter set is one byte longer than its array. -/
def longFrame : CodedFrame where
  params := [unitOf 0x67#8 256 (by decide), unitOf 0x68#8 3 (by decide)]
  slices := [unitOf 0x65#8 20 (by decide)]
  idr := true
  params_type := by simp
  slices_type := by simp

/-- A recording of 25 frames a second that has only this one. -/
theorem longHeader_lost : ¬ RoundTrip ⟨25#32, 1920#32, 1080#32, by decide⟩ true 1700000060#64
    [{ now := 1700000000#64, audio := none, frame := some longFrame, timestamp := 0
       startNow := fun _ => 1700000000#64, writeNow := fun _ => 1700000000#64 }] := by
  intro h
  have hfit := setsFit_of_roundTrip h
  obtain ⟨sps, pps, hsps, -, hlength, -⟩ := hfit [longFrame] rfl
  have heq : sps = unitOf 0x67#8 256 (by decide) := Option.some.inj (hsps.symm.trans rfl)
  rw [heq, length_unitOf] at hlength
  exact absurd hlength (by decide)

end GokeWebcam.Server.Player.Sample
