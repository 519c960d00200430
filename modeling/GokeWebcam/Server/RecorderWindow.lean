import GokeWebcam.Lib.Transition
import GokeWebcam.Server.RecorderStop

/-!
# The windows of a recording thread

A thread records from the start of its window to its stop. `recorder_func` sets the first window from
the strings of the job; at the end of a file `recorder_thread_pause` sets the next one, of the same
length, from the time of the last frame of the file, or from now if the file was too short. The time of
an audio sample is not kept.

* `windowRound_cases`: what a round does to the times of the thread.
* `windows_iff`: in a run of a thread each window is within its limits and the next one begins behind
  the last sample of the file, iff `AudioInTime` holds at each pause.
* `audio_behind_start`: a file whose last sample is an audio sample.
-/

namespace GokeWebcam.Server.Recorder.Window

open Lib Common Device

/-- Source: `server/recorder/config.h` `recorder_config_t` -/
structure LengthConfig where
  minLength : BitVec 32 := 10#32
  maxLength : BitVec 32 := 180#32
  min_le : minLength ≤ maxLength := by decide

/-- What a round meets, with the time when its audio sample is written. -/
structure RoundInput where
  file : FileInput := {}
  audioNow : CLong := 0#64
  deriving DecidableEq, Repr

/-- The times that a round reads, in their order. -/
def RoundInput.readings (input : RoundInput) : List CLong :=
  input.audioNow :: ((input.file.video.elim [] fun frame =>
    frame.nalus.flatMap fun nalu => [nalu.startNow, nalu.writeNow]) ++ [input.file.now])

/-- The clock does not go back, and is a positive number of seconds in a `long long`. -/
def InOrder (clock : CLong) (readings : List CLong) : Prop :=
  (clock :: readings).Pairwise (· ≤ ·) ∧ ∀ t ∈ readings, t.toNat < 2 ^ 63

instance (clock : CLong) (readings : List CLong) : Decidable (InOrder clock readings) :=
  have : Decidable (∀ t ∈ readings, t.toNat < 2 ^ 63) := List.decidableBAll ..
  inferInstanceAs (Decidable (_ ∧ _))

variable (config : LengthConfig)

/-- The first window. The dates are read by `time_date_to_stamp`.
Source: `server/recorder/recorder.c` `recorder_func`, before its loop -/
def firstWindow (timeDateToStamp : List Char → CLong) (now : CLong) (start stop : List Char) :
    CLong × CLong :=
  let runStart := if start.head? = some '0' then now else timeDateToStamp start
  let runStop := if stop.head? = some '0' then runStart + config.maxLength.setWidth 64
    else timeDateToStamp stop
  if (runStop - runStart).slt (config.minLength.setWidth 64) ∨
      (config.maxLength.setWidth 64).slt (runStop - runStart) then
    (runStart, runStart + config.maxLength.setWidth 64)
  else (runStart, runStop)

/-- The record of the thread when its file is closed.
Source: `server/recorder/recorder.c` `recorder_thread_close` -/
def recorderThreadClose (run : RecorderRun) : RecorderRun :=
  if !run.mp4File then run
  else
    let run := { run with mp4File := false }
    if (run.lastWrite - run.realStart).slt (config.minLength.setWidth 64) then run
    else { run with
      realStop := run.lastWrite
      filePath := finalName run.realStart run.lastWrite ".mp4".toList }

/-- One round of the thread, without the card.
Source: `server/recorder/recorder.c` `recorder_func` -/
def windowRound (input : FileInput) (ctrl : RecorderCtrl) : Option RecorderCtrl :=
  match ctrl.pc with
  | .ended => none
  | .closeExit => some { ctrl with
      pc := .loop, status := .pause, run := recorderThreadClose config ctrl.run }
  | .loop =>
    if input.leave ∨ ctrl.run.exit then
      some { ctrl with pc := .ended, run := { ctrl.run with mp4File := false } }
    else
      match ctrl.status with
      | .started => some (recorderThreadStarted input ctrl {}).1
      | .run => some (recorderThreadRun input ctrl)
      | .pause => some (recorderThreadPause input ctrl)
      | .error => some { ctrl with run := { ctrl.run with exit := true } }
      | _ => some ctrl

/-- The round sets the next window. -/
def Pausing (input : FileInput) (ctrl : RecorderCtrl) : Prop :=
  ctrl.pc = .loop ∧ ¬ (input.leave ∨ ctrl.run.exit) ∧ ctrl.status = .pause ∧ ctrl.init.repeated = true

/-- The round writes an audio sample. -/
def AudioWritten (input : FileInput) (ctrl : RecorderCtrl) : Prop :=
  ctrl.pc = .loop ∧ ¬ (input.leave ∨ ctrl.run.exit) ∧ ctrl.status = .run ∧
    input.audio = some true ∧ ctrl.run.firstFrame = true

instance (input : FileInput) (ctrl : RecorderCtrl) : Decidable (Pausing input ctrl) :=
  inferInstanceAs (Decidable (_ ∧ _))

instance (input : FileInput) (ctrl : RecorderCtrl) : Decidable (AudioWritten input ctrl) :=
  inferInstanceAs (Decidable (_ ∧ _))

/-- A thread, the time of the last audio sample of its file, the times of the first and the last sample
of the files that it has closed, and the last reading of the clock. -/
structure WindowState where
  ctrl : RecorderCtrl
  audioWrite : CLong := 0#64
  files : List (CLong × CLong) := []
  clock : CLong
  deriving DecidableEq, Repr

/-- The time of the last sample of the file. -/
def WindowState.lastSample (w : WindowState) : CLong :=
  if w.ctrl.run.lastWrite < w.audioWrite then w.audioWrite else w.ctrl.run.lastWrite

/-- One round of the thread. There is none with a clock that goes back. -/
def windowStep (w : WindowState) (input : RoundInput) : Option WindowState :=
  if InOrder w.clock input.readings then
    (windowRound config input.file w.ctrl).map fun ctrl => {
      ctrl := ctrl
      audioWrite :=
        if Pausing input.file w.ctrl then 0#64
        else if AudioWritten input.file w.ctrl then input.audioNow
        else w.audioWrite
      files :=
        if w.ctrl.run.mp4File = true ∧ ctrl.run.mp4File = false ∧ w.ctrl.run.firstFrame = true then
          w.files ++ [(w.ctrl.run.realStart, w.lastSample)]
        else w.files
      clock := input.file.now }
  else none

/-- A thread after its initialisation. -/
def startWindow (timeDateToStamp : List Char → CLong) (job : JobInit) (start stop : List Char)
    (now : CLong) : WindowState where
  ctrl := { init := job, run := {
    start := (firstWindow config timeDateToStamp now start stop).1
    stop := (firstWindow config timeDateToStamp now start stop).2 } }
  clock := now

/-! ### What is asked for -/

/-- The length of the window is within the limits. -/
def InLimits (run : RecorderRun) : Prop :=
  config.minLength.toNat ≤ (run.stop - run.start).toInt ∧
    (run.stop - run.start).toInt ≤ config.maxLength.toNat

/-- The next window is as long as the last one, starts the interval of the job behind the real stop of
the file, or the current time, and not before the last sample of the file. -/
structure NextWindow (input : FileInput) (w w' : WindowState) : Prop where
  length : w'.ctrl.run.stop - w'.ctrl.run.start = w.ctrl.run.stop - w.ctrl.run.start
  start : w'.ctrl.run.start = (if w.ctrl.run.realStop = 0#64 then input.now
    else w.ctrl.run.realStop) + w.ctrl.init.repeatInterval.signExtend 64
  after : w.lastSample ≤ w'.ctrl.run.start

/-- The window is within its limits, a next window is as it should be, and the files do not overlap. -/
structure WindowKept (w : WindowState) (input : RoundInput) (w' : WindowState) : Prop where
  limits : InLimits config w'.ctrl.run
  next : Pausing input.file w.ctrl → NextWindow input.file w w'
  apart : w'.files.Pairwise fun f g => f.2 ≤ g.1

/-- At a pause after a file that was long enough, its last audio sample is no later behind its last
video sample than the interval of the job. -/
def AudioInTime (w : WindowState) (input : RoundInput) : Prop :=
  Pausing input.file w.ctrl → w.ctrl.run.realStop ≠ 0#64 →
    w.audioWrite.toNat ≤ w.ctrl.run.lastWrite.toNat + w.ctrl.init.repeatInterval.toNat

instance (run : RecorderRun) : Decidable (InLimits config run) := inferInstanceAs (Decidable (_ ∧ _))

instance (input : FileInput) (w w' : WindowState) : Decidable (NextWindow input w w') :=
  decidable_of_iff (_ ∧ _ ∧ _) ⟨fun h => ⟨h.1, h.2.1, h.2.2⟩, fun h => ⟨h.1, h.2, h.3⟩⟩

instance (w : WindowState) (input : RoundInput) (w' : WindowState) :
    Decidable (WindowKept config w input w') :=
  decidable_of_iff (_ ∧ _ ∧ _) ⟨fun h => ⟨h.1, h.2.1, h.2.2⟩, fun h => ⟨h.1, h.2, h.3⟩⟩

instance (w : WindowState) (input : RoundInput) : Decidable (AudioInTime w input) :=
  inferInstanceAs (Decidable (_ → _))

variable {config} {input : FileInput} {ctrl ctrl' : RecorderCtrl} {run run' run₁ : RecorderRun}
  {clock early late t : CLong} {w w' : WindowState}

/-! ### The code with its card -/

theorem recorderThreadClose_run {type : ℕ} {input : CloseInput} {s : Storage} :
    (Recorder.recorderThreadClose type input run s).2.1 = recorderThreadClose {} run := by
  have hmin : ({} : LengthConfig).minLength.setWidth 64 = minLength := rfl
  rw [Recorder.recorderThreadClose, recorderThreadClose, hmin]
  dsimp only
  split_ifs
  · rfl
  · rfl
  · split <;> rfl

/-- The times do not depend on the card. -/
theorem windowRound_eq {s : Storage} :
    windowRound {} input ctrl = (recorderFileStep input ctrl s).map Prod.fst := by
  rw [windowRound, recorderFileStep]
  rcases ctrl.pc with _ | _ | _
  · dsimp only
    split_ifs with hleave
    · rfl
    rcases ctrl.status with _ | _ | _ | _ | _ | _
    · rfl
    · rfl
    · dsimp only [Option.map_some]
      rw [recorderThreadStarted, recorderThreadStarted]
      split_ifs <;> rfl
    · rfl
    · rfl
    · rfl
  · have hrun := @recorderThreadClose_run ctrl.run ctrl.init.type input.close s
    simp [← hrun]
  · rfl

/-! ### What a round does to the times -/

theorem inOrder_readings {input : RoundInput} (h : InOrder clock input.readings)
    (ht : t ∈ input.readings) : clock ≤ t ∧ t ≤ input.file.now := by
  obtain ⟨hclock, hreadings⟩ := List.pairwise_cons.mp h.1
  refine ⟨hclock t ht, ?_⟩
  rw [RoundInput.readings, ← List.cons_append] at hreadings ht
  rcases List.mem_append.mp ht with hbefore | hlast
  · exact (List.pairwise_append.mp hreadings).2.2 t hbefore _ (List.mem_singleton_self _)
  · rw [List.mem_singleton.mp hlast]
    exact BitVec.le_refl _

/-- What the frames of a round between two times do to the record of the file. -/
structure Written (early late : CLong) (run run' : RecorderRun) : Prop where
  start : run'.start = run.start
  stop : run'.stop = run.stop
  realStop : run'.realStop = run.realStop
  mp4File : run'.mp4File = run.mp4File
  lastWrite : run'.lastWrite = run.lastWrite ∨ early ≤ run'.lastWrite ∧ run'.lastWrite ≤ late
  begun : run'.firstFrame = true →
    run.firstFrame = true ∧ run'.realStart = run.realStart ∨ early ≤ run'.realStart

theorem Written.refl : Written early late run run :=
  ⟨rfl, rfl, rfl, rfl, .inl rfl, fun h => .inl ⟨h, rfl⟩⟩

theorem Written.trans (h : Written early late run run₁) (h₁ : Written early late run₁ run') :
    Written early late run run' where
  start := h₁.start.trans h.start
  stop := h₁.stop.trans h.stop
  realStop := h₁.realStop.trans h.realStop
  mp4File := h₁.mp4File.trans h.mp4File
  lastWrite := by
    rcases h₁.lastWrite with hsame | hnew
    · rw [hsame]
      exact h.lastWrite
    · exact .inr hnew
  begun hfirst := by
    rcases h₁.begun hfirst with hsame | hnew
    · rw [hsame.2]
      exact h.begun hsame.1
    · exact .inr hnew

theorem written_recorderThreadWriteMp4Video {frame : VideoFrame} {nalus : List Nalu}
    (htimes : ∀ nalu ∈ nalus, early ≤ nalu.startNow ∧ early ≤ nalu.writeNow ∧ nalu.writeNow ≤ late) :
    Written early late run (recorderThreadWriteMp4Video frame nalus run).2 := by
  induction nalus generalizing run with
  | nil => exact .refl
  | cons nalu nalus ih =>
      obtain ⟨hnalu, hnalus⟩ := List.forall_mem_cons.mp htimes
      have hrest : ∀ {run}, Written early late run (recorderThreadWriteMp4Video frame nalus run).2 :=
        ih hnalus
      have hset : ∀ {run₁ : RecorderRun}, Written early late run run₁ →
          Written early late run (recorderThreadWriteMp4Video frame nalus run₁).2 :=
        fun h => h.trans hrest
      rw [recorderThreadWriteMp4Video]
      split_ifs
      · exact hrest
      · exact .refl
      · exact hset ⟨rfl, rfl, rfl, rfl, .inl rfl, fun h => .inl ⟨h, rfl⟩⟩
      · exact hrest
      · exact hrest
      · exact hset ⟨rfl, rfl, rfl, rfl, .inl rfl, fun h => .inl ⟨h, rfl⟩⟩
      · exact .refl
      · exact .refl
      · exact .refl
      · exact .refl
      -- the first sample, with a key frame; then the others
      · exact hset ⟨rfl, rfl, rfl, rfl, .inr hnalu.2, fun _ => .inr hnalu.1⟩
      · exact hset ⟨rfl, rfl, rfl, rfl, .inr hnalu.2, fun h => .inl ⟨h, rfl⟩⟩
      · exact hrest

/-- The times at which the samples of a round are written are between two times. -/
def FrameTimes (early late : CLong) (input : FileInput) : Prop :=
  ∀ frame, input.video = some frame → ∀ nalu ∈ frame.nalus,
    early ≤ nalu.startNow ∧ early ≤ nalu.writeNow ∧ nalu.writeNow ≤ late

theorem frameTimes_of_inOrder {input : RoundInput} (h : InOrder clock input.readings) :
    FrameTimes clock input.file.now input.file := by
  intro frame hframe nalu hnalu
  have hmem : ∀ t ∈ [nalu.startNow, nalu.writeNow], t ∈ input.readings := by
    intro t ht
    rw [RoundInput.readings, hframe]
    refine List.mem_cons_of_mem _ (List.mem_append_left _ ?_)
    exact List.mem_flatMap.mpr ⟨nalu, hnalu, ht⟩
  have hstart := inOrder_readings h (hmem nalu.startNow (by simp))
  have hwrite := inOrder_readings h (hmem nalu.writeNow (by simp))
  exact ⟨hstart.1, hwrite⟩

theorem written_recorderThreadRun (htimes : FrameTimes early late input) :
    Written early late ctrl.run (recorderThreadRun input ctrl).run := by
  rw [recorderThreadRun]
  split_ifs
  · exact .refl
  split
  · exact .refl
  · next frame hframe =>
    have hwrite := @written_recorderThreadWriteMp4Video ctrl.run early late frame _
      (htimes frame hframe)
    rcases hpair : recorderThreadWriteMp4Video frame frame.nalus ctrl.run with ⟨ret, run⟩
    rw [hpair] at hwrite
    dsimp only
    split_ifs
    · exact .refl
    · exact .refl
    · exact hwrite
    · exact hwrite
    · exact hwrite

/-- A round that neither closes a file nor sets a window. -/
structure Carried (early late : CLong) (ctrl ctrl' : RecorderCtrl) : Prop where
  init : ctrl'.init = ctrl.init
  start : ctrl'.run.start = ctrl.run.start
  stop : ctrl'.run.stop = ctrl.run.stop
  realStop : ctrl'.run.realStop = ctrl.run.realStop
  lastWrite : ctrl'.run.lastWrite = ctrl.run.lastWrite ∨
    early ≤ ctrl'.run.lastWrite ∧ ctrl'.run.lastWrite ≤ late
  paused : ctrl.status = .pause →
    ctrl'.status = .pause ∧ ctrl'.run.lastWrite = ctrl.run.lastWrite
  fresh : ctrl'.status = .started →
    ctrl.status = .started ∧ ctrl'.run.firstFrame = ctrl.run.firstFrame
  begun : ctrl'.run.mp4File = true → ctrl'.run.firstFrame = true →
    ctrl.run.mp4File = true ∧ ctrl.run.firstFrame = true ∧
        ctrl'.run.realStart = ctrl.run.realStart ∨
      early ≤ ctrl'.run.realStart

theorem Carried.exit {exit : Bool} :
    Carried early late ctrl { ctrl with run := { ctrl.run with exit := exit } } :=
  ⟨rfl, rfl, rfl, rfl, .inl rfl, fun h => ⟨h, rfl⟩, fun h => ⟨h, rfl⟩,
    fun hopen hfirst => .inl ⟨hopen, hfirst, rfl⟩⟩

/-- No file begins with its window. -/
theorem carried_recorderThreadStarted {s : Storage} (hstatus : ctrl.status = .started)
    (hfresh : ctrl.run.firstFrame = false) :
    Carried early late ctrl (recorderThreadStarted input ctrl s).1 := by
  have hpause : ctrl.status ≠ .pause := by
    rw [hstatus]
    rintro ⟨⟩
  have hbegun : ∀ {P : Prop}, ctrl.run.firstFrame = true → P := by
    rw [hfresh]
    rintro P ⟨⟩
  rw [recorderThreadStarted]
  split_ifs
  · exact ⟨rfl, rfl, rfl, rfl, .inl rfl, fun h => ⟨h, rfl⟩, fun h => ⟨h, rfl⟩, fun _ => hbegun⟩
  · exact ⟨rfl, rfl, rfl, rfl, .inl rfl, fun h => absurd h hpause, refuted rfl, fun _ => hbegun⟩
  · exact ⟨rfl, rfl, rfl, rfl, .inl rfl, fun h => absurd h hpause, refuted rfl, fun _ => hbegun⟩
  · exact ⟨rfl, rfl, rfl, rfl, .inl rfl, fun h => absurd h hpause, refuted rfl, fun _ => hbegun⟩

theorem carried_recorderThreadRun (hstatus : ctrl.status = .run)
    (htimes : FrameTimes early late input) :
    Carried early late ctrl (recorderThreadRun input ctrl) := by
  obtain ⟨hsame, hinit, -⟩ := @sameFile_recorderThreadRun ctrl input
  have hwritten := @written_recorderThreadRun input ctrl early late htimes
  refine ⟨hinit, hwritten.start, hwritten.stop, hwritten.realStop, hwritten.lastWrite, ?_, ?_, ?_⟩
  · rw [hstatus]
    rintro ⟨⟩
  · rw [hsame, hstatus]
    rintro ⟨⟩
  · rw [hwritten.mp4File]
    exact fun hopen hfirst => (hwritten.begun hfirst).imp_left fun h => ⟨hopen, h⟩

/-- A round sets the next window, closes the file, or does neither. -/
theorem windowRound_cases (hfresh : ctrl.status = .started → ctrl.run.firstFrame = false)
    (htimes : FrameTimes early late input) (h : windowRound config input ctrl = some ctrl') :
    (Pausing input ctrl ∧ ctrl' = recorderThreadPause input ctrl) ∨
      (ctrl.pc = .closeExit ∧ ctrl' = { ctrl with
        pc := .loop, status := .pause, run := recorderThreadClose config ctrl.run }) ∨
      (¬ Pausing input ctrl ∧ Carried early late ctrl ctrl') := by
  rw [windowRound] at h
  split at h
  · cases h
  · next hpc =>
    cases h
    exact .inr (.inl ⟨hpc, rfl⟩)
  next hpc =>
  split_ifs at h with hleave
  · cases h
    refine .inr (.inr ⟨fun hpausing => hpausing.2.1 hleave, ?_⟩)
    exact ⟨rfl, rfl, rfl, rfl, .inl rfl, fun h => ⟨h, rfl⟩, fun h => ⟨h, rfl⟩, refuted rfl⟩
  have hother : ctrl.status ≠ .pause → ¬ Pausing input ctrl := fun hne hp => hne hp.2.2.1
  split at h
  · next hstatus =>
    cases h
    refine .inr (.inr ⟨hother ?_, carried_recorderThreadStarted hstatus (hfresh hstatus)⟩)
    rw [hstatus]
    rintro ⟨⟩
  · next hstatus =>
    cases h
    refine .inr (.inr ⟨hother ?_, carried_recorderThreadRun hstatus htimes⟩)
    rw [hstatus]
    rintro ⟨⟩
  · next hstatus =>
    cases h
    by_cases hrepeated : ctrl.init.repeated = true
    · exact .inl ⟨⟨hpc, hleave, hstatus, hrepeated⟩, rfl⟩
    · refine .inr (.inr ⟨fun hp => hrepeated hp.2.2.2, ?_⟩)
      rw [recorderThreadPause, if_pos (by simpa using hrepeated)]
      exact .exit
  · next hstatus =>
    cases h
    refine .inr (.inr ⟨hother ?_, ?_⟩)
    · rw [hstatus]
      rintro ⟨⟩
    · exact .exit
  · next _ _ hpause _ =>
    cases h
    exact .inr (.inr ⟨hother hpause, .exit⟩)

/-! ### The windows -/

theorem recorderThreadPause_run (hrepeated : ctrl.init.repeated = true) :
    (recorderThreadPause input ctrl).run = {
      start := (if ctrl.run.realStop = 0#64 then input.now else ctrl.run.realStop) +
        ctrl.init.repeatInterval.signExtend 64
      stop := (if ctrl.run.realStop = 0#64 then input.now else ctrl.run.realStop) +
        ctrl.init.repeatInterval.signExtend 64 + (ctrl.run.stop - ctrl.run.start) } := by
  rw [recorderThreadPause, if_neg (by simp [hrepeated])]

/-- The next window is as long as the last one. -/
theorem length_recorderThreadPause (hrepeated : ctrl.init.repeated = true) :
    (recorderThreadPause input ctrl).run.stop - (recorderThreadPause input ctrl).run.start =
      ctrl.run.stop - ctrl.run.start := by
  rw [recorderThreadPause_run hrepeated]
  exact add_sub_cancel_left _ _

/-- What the closing of a file does to its record. -/
theorem recorderThreadClose_cases :
    recorderThreadClose config run = { run with mp4File := false } ∨
      recorderThreadClose config run = { run with
        mp4File := false, realStop := run.lastWrite
        filePath := finalName run.realStart run.lastWrite ".mp4".toList } := by
  rw [recorderThreadClose]
  dsimp only
  split_ifs with hclosed
  · rw [Bool.not_eq_true'] at hclosed
    rw [← hclosed]
    exact .inl rfl
  · exact .inl rfl
  · exact .inr rfl

theorem toInt_setWidth (n : BitVec 32) : (n.setWidth 64).toInt = n.toNat := by
  have hn := n.isLt
  rw [BitVec.toInt_eq_toNat_of_lt] <;> rw [BitVec.toNat_setWidth_of_le (by decide)]
  omega

/-- The first window is within its limits. -/
theorem inLimits_firstWindow {timeDateToStamp : List Char → CLong} {now : CLong}
    {start stop : List Char} : InLimits config {
      start := (firstWindow config timeDateToStamp now start stop).1
      stop := (firstWindow config timeDateToStamp now start stop).2 } := by
  have hmin : config.minLength.toNat ≤ config.maxLength.toNat := config.min_le
  rw [InLimits, firstWindow]
  dsimp only
  generalize (if start.head? = some '0' then now else timeDateToStamp start) = first
  generalize (if stop.head? = some '0' then _ else timeDateToStamp stop) = last
  split_ifs with hlength
  · dsimp only
    rw [add_sub_cancel_left, toInt_setWidth]
    exact ⟨Int.ofNat_le.mpr hmin, le_refl _⟩
  · rw [not_or, BitVec.slt_iff_toInt_lt, BitVec.slt_iff_toInt_lt, toInt_setWidth,
      toInt_setWidth] at hlength
    exact ⟨not_lt.mp hlength.1, not_lt.mp hlength.2⟩

/-- The thread between two rounds. Only a closed file has a real stop, the time of its last frame. -/
structure CtrlInv (config : LengthConfig) (clock : CLong) (ctrl : RecorderCtrl) : Prop where
  limits : InLimits config ctrl.run
  interval : 0 ≤ ctrl.init.repeatInterval.toInt
  lastWrite : ctrl.run.lastWrite ≤ clock
  stopped : ctrl.run.realStop ≠ 0#64 →
    ctrl.status = .pause ∧ ctrl.run.realStop = ctrl.run.lastWrite
  fresh : ctrl.status = .started → ctrl.run.firstFrame = false

theorem ctrlInv_windowRound (h : CtrlInv config early ctrl) (htimes : FrameTimes early late input)
    (hle : early ≤ late) (hround : windowRound config input ctrl = some ctrl') :
    CtrlInv config late ctrl' := by
  have hlast := BitVec.le_trans h.lastWrite hle
  rcases windowRound_cases h.fresh htimes hround with ⟨hpausing, rfl⟩ | ⟨-, rfl⟩ | ⟨-, hcarried⟩
  · have hrun := @recorderThreadPause_run input ctrl hpausing.2.2.2
    have hinit : (recorderThreadPause input ctrl).init = ctrl.init := by
      rw [recorderThreadPause]
      split_ifs <;> rfl
    refine ⟨?_, ?_, ?_, ?_, ?_⟩
    · rw [InLimits, length_recorderThreadPause hpausing.2.2.2]
      exact h.limits
    · rw [hinit]
      exact h.interval
    · rw [hrun]
      exact BitVec.le_def.mpr (Nat.zero_le _)
    · rw [hrun]
      exact fun hne => absurd rfl hne
    · rw [hrun]
      exact fun _ => rfl
  · rcases @recorderThreadClose_cases config ctrl.run with hclose | hclose
    · rw [hclose]
      exact ⟨h.limits, h.interval, hlast, fun hne => ⟨rfl, (h.stopped hne).2⟩, by rintro ⟨⟩⟩
    · rw [hclose]
      exact ⟨h.limits, h.interval, hlast, fun _ => ⟨rfl, rfl⟩, by rintro ⟨⟩⟩
  · refine ⟨?_, ?_, ?_, ?_, ?_⟩
    · rw [InLimits, hcarried.start, hcarried.stop]
      exact h.limits
    · rw [hcarried.init]
      exact h.interval
    · rcases hcarried.lastWrite with hsame | hnew
      · rw [hsame]
        exact hlast
      · exact hnew.2
    · rw [hcarried.realStop]
      intro hne
      obtain ⟨hstatus, hreal⟩ := h.stopped hne
      obtain ⟨hstatus', hsame⟩ := hcarried.paused hstatus
      exact ⟨hstatus', hreal.trans hsame.symm⟩
    · intro hstarted
      obtain ⟨hstatus, hsame⟩ := hcarried.fresh hstarted
      rw [hsame]
      exact h.fresh hstatus

/-- The thread with its closed files, which end before the clock and before the open one begins. -/
structure WindowInv (config : LengthConfig) (w : WindowState) : Prop where
  ctrl : CtrlInv config w.clock w.ctrl
  clock : w.clock.toNat < 2 ^ 63
  audioWrite : w.audioWrite ≤ w.clock
  closed : ∀ f ∈ w.files, f.2 ≤ w.clock
  apart : w.files.Pairwise fun f g => f.2 ≤ g.1
  behind : w.ctrl.run.mp4File = true → w.ctrl.run.firstFrame = true →
    ∀ f ∈ w.files, f.2 ≤ w.ctrl.run.realStart

theorem WindowInv.lastSample (h : WindowInv config w) : w.lastSample ≤ w.clock := by
  rw [WindowState.lastSample]
  split_ifs
  · exact h.audioWrite
  · exact h.ctrl.lastWrite

/-- Neither the next window nor the closing of a file leaves a file open. -/
theorem behind_windowRound {files : List (CLong × CLong)} (h : CtrlInv config early ctrl)
    (hclosed : ∀ f ∈ files, f.2 ≤ early)
    (hbehind : ctrl.run.mp4File = true → ctrl.run.firstFrame = true →
      ∀ f ∈ files, f.2 ≤ ctrl.run.realStart)
    (htimes : FrameTimes early late input) (hround : windowRound config input ctrl = some ctrl') :
    ctrl'.run.mp4File = true → ctrl'.run.firstFrame = true →
      ∀ f ∈ files, f.2 ≤ ctrl'.run.realStart := by
  rcases windowRound_cases h.fresh htimes hround with ⟨hpausing, rfl⟩ | ⟨-, rfl⟩ | ⟨-, hcarried⟩
  · rw [recorderThreadPause_run hpausing.2.2.2]
    rintro ⟨⟩
  · rcases @recorderThreadClose_cases config ctrl.run with hclose | hclose
    · rw [hclose]
      rintro ⟨⟩
    · rw [hclose]
      rintro ⟨⟩
  · intro hopen hfirst f hf
    rcases hcarried.begun hopen hfirst with ⟨hopen₀, hfirst₀, hsame⟩ | hnew
    · rw [hsame]
      exact hbehind hopen₀ hfirst₀ f hf
    · exact BitVec.le_trans (hclosed f hf) hnew

theorem inOrder_windowStep {input : RoundInput} (h : windowStep config w input = some w') :
    InOrder w.clock input.readings ∧ windowRound config input.file w.ctrl = some w'.ctrl := by
  rw [windowStep] at h
  by_cases horder : InOrder w.clock input.readings
  · rw [if_pos horder] at h
    obtain ⟨ctrl', hround, rfl⟩ := Option.map_eq_some_iff.mp h
    exact ⟨horder, hround⟩
  · rw [if_neg horder] at h
    cases h

/-- A file that is closed in a round begins behind the others, and its last sample is over. -/
theorem windowInv_windowStep {input : RoundInput} (h : WindowInv config w)
    (hstep : windowStep config w input = some w') : WindowInv config w' := by
  have horder := (inOrder_windowStep hstep).1
  rw [windowStep, if_pos horder] at hstep
  obtain ⟨ctrl', hround, rfl⟩ := Option.map_eq_some_iff.mp hstep
  have hnow := inOrder_readings horder (List.mem_append_right (input.audioNow :: _)
    (List.mem_singleton_self input.file.now))
  have haudio := inOrder_readings horder List.mem_cons_self
  have htimes := frameTimes_of_inOrder horder
  have hclosed : ∀ f ∈ w.files, f.2 ≤ input.file.now :=
    fun f hf => BitVec.le_trans (h.closed f hf) hnow.1
  refine ⟨ctrlInv_windowRound h.ctrl htimes hnow.1 hround, ?_, ?_, ?_, ?_, ?_⟩
  · exact horder.2 _ (List.mem_append_right (input.audioNow :: _) (List.mem_singleton_self _))
  · dsimp only
    split_ifs
    · exact BitVec.le_def.mpr (Nat.zero_le _)
    · exact haudio.2
    · exact BitVec.le_trans h.audioWrite hnow.1
  · dsimp only
    split_ifs with hfile
    · intro f hf
      rcases List.mem_append.mp hf with hold | hnew
      · exact hclosed f hold
      · rw [List.mem_singleton.mp hnew]
        exact BitVec.le_trans h.lastSample hnow.1
    · exact hclosed
  · dsimp only
    split_ifs with hfile
    · refine List.pairwise_append.mpr ⟨h.apart, List.pairwise_singleton .., ?_⟩
      intro f hf g hg
      rw [List.mem_singleton.mp hg]
      exact h.behind hfile.1 hfile.2.2 f hf
    · exact h.apart
  · have hbehind := behind_windowRound h.ctrl h.closed h.behind htimes hround
    dsimp only
    split_ifs with hfile
    · intro hopen
      exact absurd hopen (by simp [hfile.2.1])
    · exact hbehind

/-! ### The next window -/

/-- The interval is added without an overflow. -/
theorem toNat_add_interval {interval : CInt} (ht : t.toNat < 2 ^ 63) (h : 0 ≤ interval.toInt) :
    (t + interval.signExtend 64).toNat = t.toNat + interval.toNat := by
  have hmsb : interval.msb = false := by
    rw [BitVec.msb_eq_toInt, decide_eq_false_iff_not, not_lt]
    exact h
  have hinterval := interval.isLt
  rw [BitVec.signExtend_eq_setWidth_of_msb_false hmsb, BitVec.toNat_add,
    BitVec.toNat_setWidth_of_le (by decide), Nat.mod_eq_of_lt (by omega)]

theorem lastSample_le {start : CLong} : w.lastSample ≤ start ↔
    w.ctrl.run.lastWrite ≤ start ∧ w.audioWrite ≤ start := by
  rw [WindowState.lastSample]
  simp only [BitVec.le_def, BitVec.lt_def]
  split_ifs <;> omega

/-- After a file that was long enough the window begins behind its last frame. Else it begins behind
the clock. -/
theorem nextWindow_iff {input : RoundInput} (h : WindowInv config w)
    (hpausing : Pausing input.file w.ctrl) (hstep : windowStep config w input = some w') :
    NextWindow input.file w w' ↔ (w.ctrl.run.realStop ≠ 0#64 →
      w.audioWrite.toNat ≤ w.ctrl.run.lastWrite.toNat + w.ctrl.init.repeatInterval.toNat) := by
  obtain ⟨horder, hround⟩ := inOrder_windowStep hstep
  have hctrl : w'.ctrl = recorderThreadPause input.file w.ctrl := by
    rcases windowRound_cases h.ctrl.fresh (frameTimes_of_inOrder horder) hround with
      ⟨-, hctrl⟩ | ⟨hpc, -⟩ | ⟨hother, -⟩
    · exact hctrl
    · exact absurd (hpausing.1.symm.trans hpc) (by decide)
    · exact absurd hpausing hother
  have hstart : w'.ctrl.run.start = (if w.ctrl.run.realStop = 0#64 then input.file.now
      else w.ctrl.run.realStop) + w.ctrl.init.repeatInterval.signExtend 64 := by
    rw [hctrl, recorderThreadPause_run hpausing.2.2.2]
  have hlength : w'.ctrl.run.stop - w'.ctrl.run.start = w.ctrl.run.stop - w.ctrl.run.start := by
    rw [hctrl]
    exact length_recorderThreadPause hpausing.2.2.2
  have hnow := inOrder_readings horder (List.mem_append_right (input.audioNow :: _)
    (List.mem_singleton_self input.file.now))
  have hafter : w.lastSample ≤ w'.ctrl.run.start ↔ (w.ctrl.run.realStop ≠ 0#64 →
      w.audioWrite.toNat ≤ w.ctrl.run.lastWrite.toNat + w.ctrl.init.repeatInterval.toNat) := by
    rw [lastSample_le, hstart]
    by_cases hreal : w.ctrl.run.realStop = 0#64
    · have hnow' : input.file.now.toNat < 2 ^ 63 :=
        horder.2 _ (List.mem_append_right (input.audioNow :: _) (List.mem_singleton_self _))
      have hlast := BitVec.le_trans h.ctrl.lastWrite hnow.1
      have haudio := BitVec.le_trans h.audioWrite hnow.1
      rw [if_pos hreal, BitVec.le_def, BitVec.le_def, toNat_add_interval hnow' h.ctrl.interval]
      exact ⟨fun _ hne => absurd hreal hne, fun _ =>
        ⟨Nat.le_add_right_of_le hlast, Nat.le_add_right_of_le haudio⟩⟩
    · have hlast : w.ctrl.run.lastWrite.toNat < 2 ^ 63 := lt_of_le_of_lt h.ctrl.lastWrite h.clock
      have hstopped := (h.ctrl.stopped hreal).2
      rw [if_neg hreal, hstopped, BitVec.le_def, BitVec.le_def,
        toNat_add_interval hlast h.ctrl.interval]
      exact ⟨fun hle _ => hle.2, fun hle => ⟨Nat.le_add_right .., hle (hstopped ▸ hreal)⟩⟩
  exact ⟨fun hnext => hafter.mp hnext.after, fun haudio => ⟨hlength, hstart, hafter.mpr haudio⟩⟩

/-- Each window is within its limits, as long as the first one and behind the file before it, iff the
audio of each file ends in time. -/
theorem windows_iff (config : LengthConfig) (timeDateToStamp : List Char → CLong) (job : JobInit)
    (start stop : List Char) (now : CLong) (hnow : now.toNat < 2 ^ 63)
    (hinterval : 0 ≤ job.repeatInterval.toInt) (inputs : List RoundInput) :
    InLimits config (startWindow config timeDateToStamp job start stop now).ctrl.run ∧
      (AllSteps (windowStep config) (WindowKept config)
          (startWindow config timeDateToStamp job start stop now) inputs ↔
        AllSteps (windowStep config) (fun w input _ => AudioInTime w input)
          (startWindow config timeDateToStamp job start stop now) inputs) := by
  have hlimits : InLimits config (startWindow config timeDateToStamp job start stop now).ctrl.run :=
    inLimits_firstWindow
  have hzero : 0#64 ≤ now := BitVec.le_def.mpr (Nat.zero_le _)
  have hinit : WindowInv config (startWindow config timeDateToStamp job start stop now) :=
    ⟨⟨hlimits, hinterval, hzero, fun hne => absurd rfl hne, fun _ => rfl⟩, hnow, hzero,
      fun f hf => absurd hf List.not_mem_nil, .nil, by rintro ⟨⟩⟩
  refine ⟨hlimits, allSteps_iff (fun _ _ _ => windowInv_windowStep) ?_ hinit inputs⟩
  intro w input w' hinv hstep
  have hinv' := windowInv_windowStep hinv hstep
  constructor
  · exact fun hkept hpausing => (nextWindow_iff hinv hpausing hstep).mp (hkept.next hpausing)
  · exact fun haudio => ⟨hinv'.ctrl.limits,
      fun hpausing => (nextWindow_iff hinv hpausing hstep).mpr (haudio hpausing), hinv'.apart⟩

/-- A round in which a key frame with its parameter sets comes, and maybe an audio sample. -/
def keyRound (now : CLong) (audio : Option Bool) : RoundInput where
  file := {
    now := now, audio := audio
    video := some {
      nalus := [7, 8, 5].map fun type => { type := type, startNow := now, writeNow := now }
      fps := 15#32 } }
  audioNow := now

/-- A file of ten seconds and a second with audio only; then the camera changes its rate. -/
def audioLast : List RoundInput :=
  [{ file := { now := 1000#64 }, audioNow := 1000#64 },
   keyRound 1000#64 none,
   keyRound 1010#64 (some true),
   { file := { now := 1011#64, audio := some true }, audioNow := 1011#64 },
   { file := { now := 1012#64, video := some { fps := 30#32 } }, audioNow := 1012#64 },
   { file := { now := 1012#64 }, audioNow := 1012#64 }]

def pauseRound : RoundInput := { file := { now := 1012#64 }, audioNow := 1012#64 }

theorem windows_of_interval :
    AllSteps (windowStep {}) (WindowKept {})
      (startWindow {} (fun _ => 0#64) { repeatInterval := 5#32 } ['0'] ['0'] 1000#64)
      (audioLast ++ [pauseRound]) :=
  (windows_iff {} (fun _ => 0#64) { repeatInterval := 5#32 } ['0'] ['0'] 1000#64 (by decide)
    (by decide) (audioLast ++ [pauseRound])).2.mpr (by decide)

/-- The next window begins with the last video sample, before the last audio sample. -/
theorem audio_behind_start :
    ¬ AllSteps (windowStep {}) (WindowKept {})
        (startWindow {} (fun _ => 0#64) {} ['0'] ['0'] 1000#64) (audioLast ++ [pauseRound]) ∧
      ∃ w w', Reach (windowStep {}) AllRuns
          (startWindow {} (fun _ => 0#64) {} ['0'] ['0'] 1000#64) w ∧
        windowStep {} w pauseRound = some w' ∧
        w.lastSample = 1011#64 ∧ w'.ctrl.run.start = 1010#64 := by
  constructor
  · decide
  · have hrun : (exec (windowStep {}) (fun _ _ => true)
        (startWindow {} (fun _ => 0#64) {} ['0'] ['0'] 1000#64) audioLast).any (fun w =>
          (windowStep {} w pauseRound).any fun w' =>
            decide (w.lastSample = 1011#64 ∧ w'.ctrl.run.start = 1010#64)) = true := by
      decide
    exact Reach.exists_step_of_exec (fun _ _ _ => trivial) hrun

end GokeWebcam.Server.Recorder.Window
