import GokeWebcam.Lib.Transition
import GokeWebcam.Server.RecorderFile

/-!
# Recordings that are stopped

Only the end of its window renames the file of a recording thread and puts it in the list. A thread
that is told to end closes the file under its temporary name, with which the next reading of the
card removes it (`readVerdict_tempName`).

* `fileKept_of_finished`: in a run of the thread in which every file of ten seconds is closed in
  this way, and the closing succeeds, no such file is lost.
* `stoppedFile_lost`: a thread that is told to end loses its file.
-/

namespace GokeWebcam.Server.Recorder

open Lib Common Device

/-- A round of the thread, or whatever the rest of the system does to the lists and the card. -/
inductive FileAction
  | thread (input : FileInput)
  | world (s : Storage)

/-- One step of a recording thread and its surroundings. -/
def fileStep (s : RecorderCtrl × Storage) : FileAction → Option (RecorderCtrl × Storage)
  | .thread input => recorderFileStep input s.1 s.2
  | .world storage => some (s.1, storage)

/-- At least `min_length` seconds have been written, as `recorder_thread_close` counts them. -/
def LongEnough (run : RecorderRun) : Prop := ¬ (run.lastWrite - run.realStart).slt minLength

instance (run : RecorderRun) : Decidable (LongEnough run) := inferInstanceAs (Decidable (¬ _))

/-- The recording is on the card under its times, and in the list. -/
def Finished (type : ℕ) (run : RecorderRun) (s : Storage) : Prop :=
  hasName s.disk type (finalName run.realStart run.lastWrite ".mp4".toList) = true ∧
    (run.realStart, run.lastWrite) ∈ (s.manager.flist type).entries

instance (type : ℕ) (run : RecorderRun) (s : Storage) : Decidable (Finished type run s) :=
  inferInstanceAs (Decidable (_ ∧ _))

/-- A file that stops being open and is long enough is finished. -/
def FileKept (s : RecorderCtrl × Storage) (_ : FileAction) (s' : RecorderCtrl × Storage) : Prop :=
  s.1.run.mp4File = true → s'.1.run.mp4File = false → LongEnough s.1.run →
    Finished s.1.init.type s.1.run s'.2

instance (s : RecorderCtrl × Storage) (a : FileAction) (s' : RecorderCtrl × Storage) :
    Decidable (FileKept s a s') :=
  inferInstanceAs (Decidable (_ → _))

/-- What the closing of a long file needs: its file can be renamed, the list has room, and the
address that is stored for the time is the time. -/
def CanFinish (input : CloseInput) (type : ℕ) (run : RecorderRun) (s : Storage) : Prop :=
  (input.renameOk = true ∧ hasName s.disk type run.filePath = true) ∧
    (s.manager.flist type).num < maxFileNum ∧ input.address = run.lastWrite

/-- The thread is not told to end while a long file is open, and can finish the long files that it
closes. -/
def Finishes (s : RecorderCtrl × Storage) : FileAction → Prop
  | .world _ => True
  | .thread input =>
    s.1.run.mp4File = true → LongEnough s.1.run →
      (s.1.pc = .loop → input.leave = false) ∧
      (s.1.pc = .closeExit → CanFinish input.close s.1.init.type s.1.run s.2)

instance (input : CloseInput) (type : ℕ) (run : RecorderRun) (s : Storage) :
    Decidable (CanFinish input type run s) :=
  inferInstanceAs (Decidable (_ ∧ _))

instance : ∀ (s : RecorderCtrl × Storage) (a : FileAction), Decidable (Finishes s a)
  | _, .world _ => isTrue trivial
  | _, .thread _ => inferInstanceAs (Decidable (_ → _))

/-- A thread before its first round. -/
def startCtrl (init : JobInit) (start stop : CLong) : RecorderCtrl :=
  { init := init, run := { start := start, stop := stop } }

variable {s s' : RecorderCtrl × Storage} {a : FileAction} {ctrl : RecorderCtrl} {input : FileInput}

/-! ### The file of a thread -/

/-- Outside of `RECORDER_THREAD_RUN` nothing is written; in it the file has its temporary name. -/
structure FileInv (ctrl : RecorderCtrl) : Prop where
  closed : ctrl.status = .started ∨ ctrl.status = .pause → ctrl.run.mp4File = false
  fresh : ctrl.status = .started ∨ ctrl.status = .error → ctrl.run.lastWrite = ctrl.run.realStart
  path : ctrl.status = .run → ctrl.run.filePath = tempName ctrl.init.type ctrl.run.start
  exit : ctrl.run.exit = true → ctrl.status = .pause ∨ ctrl.status = .error
  closing : ctrl.pc = .closeExit → ctrl.status = .run

theorem fileInv_startCtrl {init : JobInit} {start stop : CLong} :
    FileInv (startCtrl init start stop) where
  closed _ := rfl
  fresh _ := rfl
  path := refuted rfl
  exit := refuted rfl
  closing := refuted rfl

theorem not_longEnough {run : RecorderRun} (h : run.lastWrite = run.realStart) :
    ¬ LongEnough run := by
  rw [LongEnough, not_not, h, BitVec.sub_self]
  decide

/-- The same file, maybe with other times. -/
structure SameFile (run run' : RecorderRun) : Prop where
  filePath : run'.filePath = run.filePath
  mp4File : run'.mp4File = run.mp4File
  start : run'.start = run.start
  exit : run'.exit = run.exit

/-- Writing a frame leaves the file and its window as they are. -/
theorem sameFile_write {frame : VideoFrame} {nalus : List Nalu} {run : RecorderRun} :
    SameFile run (recorderThreadWriteMp4Video frame nalus run).2 := by
  induction nalus generalizing run with
  | nil => exact ⟨rfl, rfl, rfl, rfl⟩
  | cons nalu nalus ih =>
      rw [recorderThreadWriteMp4Video]
      split_ifs
      all_goals first
        | exact ⟨rfl, rfl, rfl, rfl⟩
        | exact ⟨ih.filePath, ih.mp4File, ih.start, ih.exit⟩

/-- A round in `RECORDER_THREAD_RUN` changes only the times of the file, and where the thread is. -/
theorem sameFile_recorderThreadRun : (recorderThreadRun input ctrl).status = ctrl.status ∧
    (recorderThreadRun input ctrl).init = ctrl.init ∧
    SameFile ctrl.run (recorderThreadRun input ctrl).run := by
  rw [recorderThreadRun]
  split_ifs
  · exact ⟨rfl, rfl, rfl, rfl, rfl, rfl⟩
  split
  · exact ⟨rfl, rfl, rfl, rfl, rfl, rfl⟩
  · next frame _ =>
    have hwrite : SameFile ctrl.run (recorderThreadWriteMp4Video frame frame.nalus ctrl.run).2 :=
      sameFile_write
    rcases hpair : recorderThreadWriteMp4Video frame frame.nalus ctrl.run with ⟨ret, run⟩
    rw [hpair] at hwrite
    dsimp only
    split_ifs
    all_goals first
      | exact ⟨rfl, rfl, rfl, rfl, rfl, rfl⟩
      | exact ⟨rfl, rfl, hwrite⟩

theorem fileInv_recorderThreadRun (h : FileInv ctrl) (hstatus : ctrl.status = .run) :
    FileInv (recorderThreadRun input ctrl) := by
  obtain ⟨hsame, hinit, hfile⟩ := @sameFile_recorderThreadRun ctrl input
  rw [hstatus] at hsame
  constructor
  · rw [hsame]
    rintro (h | h) <;> cases h
  · rw [hsame]
    rintro (h | h) <;> cases h
  · intro _
    rw [hfile.filePath, hinit, hfile.start]
    exact h.path hstatus
  · rw [hfile.exit, hsame, ← hstatus]
    exact h.exit
  · exact fun _ => hsame

theorem fileInv_recorderThreadStarted {storage : Storage} (h : FileInv ctrl)
    (hstatus : ctrl.status = .started) (hpc : ctrl.pc = .loop) :
    FileInv (recorderThreadStarted input ctrl storage).1 := by
  have hexit : ctrl.run.exit ≠ true := by
    intro hexit
    rcases h.exit hexit with herr | herr <;> rw [hstatus] at herr <;> cases herr
  rw [recorderThreadStarted]
  split_ifs
  · exact h
  · exact ⟨refuted rfl, fun _ => h.fresh (.inl hstatus), refuted rfl, fun he => absurd he hexit,
      fun he => by rw [hpc] at he; cases he⟩
  · exact ⟨refuted rfl, fun _ => h.fresh (.inl hstatus), refuted rfl, fun he => absurd he hexit,
      fun he => by rw [hpc] at he; cases he⟩
  · exact ⟨refuted rfl, refuted rfl, fun _ => rfl, fun he => absurd he hexit, fun _ => rfl⟩

theorem fileInv_recorderThreadPause (h : FileInv ctrl) (hstatus : ctrl.status = .pause)
    (hpc : ctrl.pc = .loop) : FileInv (recorderThreadPause input ctrl) := by
  have hpc' : ctrl.pc ≠ .closeExit := by
    rw [hpc]
    rintro ⟨⟩
  rw [recorderThreadPause]
  split_ifs
  · refine ⟨h.closed, fun he => ?_, fun he => ?_, fun _ => .inl hstatus, fun he => absurd he hpc'⟩
    · rcases he with he | he <;> exact absurd (hstatus.symm.trans he) (by decide)
    · exact absurd (hstatus.symm.trans he) (by decide)
  all_goals exact ⟨fun _ => rfl, fun _ => rfl, refuted rfl, refuted rfl, fun he => absurd he hpc'⟩

theorem recorderThreadClose_closed {type : ℕ} {close : CloseInput} {run : RecorderRun}
    {storage : Storage} : (recorderThreadClose type close run storage).2.1.mp4File = false := by
  rw [recorderThreadClose]
  split
  case isTrue hopen => simpa using hopen
  dsimp only
  split
  · rfl
  · split
    · rfl
    · rfl

theorem fileInv_step (h : FileInv s.1) (hs : fileStep s a = some s') : FileInv s'.1 := by
  rcases a with input | storage
  · rw [fileStep, recorderFileStep] at hs
    rcases hpc : s.1.pc with _ | _ | _ <;> rw [hpc] at hs
    · dsimp only at hs
      split_ifs at hs with hleave
      · cases hs
        exact ⟨fun _ => rfl, h.fresh, h.path, h.exit, refuted rfl⟩
      · rcases hstatus : s.1.status with _ | _ | _ | _ | _ | _ <;> rw [hstatus] at hs <;> cases hs
        · exact h
        · exact h
        · exact fileInv_recorderThreadStarted h hstatus hpc
        · exact fileInv_recorderThreadRun h hstatus
        · exact fileInv_recorderThreadPause h hstatus hpc
        · exact ⟨refuted rfl, fun _ => h.fresh (.inr hstatus), refuted rfl, fun _ => .inr rfl,
            refuted rfl⟩
    · cases hs
      exact ⟨fun _ => recorderThreadClose_closed, refuted rfl, refuted rfl, fun _ => .inl rfl,
        refuted rfl⟩
    · cases hs
  · cases hs
    exact h

/-! ### What becomes of a file -/

theorem tempName_ne {type : ℕ} {start : CLong} {name : List Char} (h : '.' ∈ name) :
    tempName type start ≠ name := fun heq => dot_notMem_tempName (heq ▸ h)

/-- The picture of a recording is renamed first, which leaves the recording. -/
theorem hasName_after_picture {type : ℕ} (ok : Bool) {run : RecorderRun} {disk : Disk}
    (hpath : run.filePath = tempName type run.start)
    (hthere : hasName disk type run.filePath = true) :
    hasName ((renameFile ok disk type (snapName run.start)
      (finalName run.realStart run.lastWrite ".jpg".toList)).getD disk) type run.filePath = true := by
  rcases hpicture : renameFile ok disk type (snapName run.start)
      (finalName run.realStart run.lastWrite ".jpg".toList) with _ | disk'
  · exact hthere
  · refine hasName_of_renameFile hpicture hthere ?_ ?_ <;> rw [hpath] <;> apply tempName_ne
    · simp [snapName]
    · simp [finalName]

/-- A long file with its temporary name that can be finished is. -/
theorem finished_recorderThreadClose {type : ℕ} {close : CloseInput} {run : RecorderRun}
    {storage : Storage} (hopen : run.mp4File = true) (hlong : LongEnough run)
    (hpath : run.filePath = tempName type run.start) (h : CanFinish close type run storage) :
    Finished type run (recorderThreadClose type close run storage).2.2 := by
  obtain ⟨⟨hok, hthere⟩, hroom, haddress⟩ := h
  have hafter : hasName _ type run.filePath = true :=
    hasName_after_picture close.snapOk hpath hthere
  rw [recorderThreadClose, hopen, if_neg (by decide)]
  dsimp only
  rw [if_neg hlong]
  split
  case h_1 hnone =>
    rw [renameFile, if_pos ⟨hok, hafter⟩] at hnone
    cases hnone
  case h_2 disk' hrename =>
    refine ⟨hasName_renameFile hrename, ?_⟩
    dsimp only
    rw [Function.update_self, fileManagerAddFile, dif_pos hroom, FileList.entries_push, haddress]
    exact List.mem_append_right _ List.mem_cons_self

/-- A thread that is not told to end keeps a long file open, or goes to close it. -/
theorem open_of_loop (hinv : FileInv s.1) (hpc : s.1.pc = .loop) (hopen : s.1.run.mp4File = true)
    (hlong : LongEnough s.1.run) (hleave : input.leave = false)
    (hs : recorderFileStep input s.1 s.2 = some s') : s'.1.run.mp4File = true := by
  have hexit : s.1.run.exit = false := by
    rw [Bool.eq_false_iff]
    intro hexit
    rcases hinv.exit hexit with hstatus | hstatus
    · exact absurd hopen (by rw [hinv.closed (.inr hstatus)]; decide)
    · exact not_longEnough (hinv.fresh (.inr hstatus)) hlong
  have hclosed : ¬ (s.1.status = .started ∨ s.1.status = .pause) := by
    intro hstatus
    exact absurd hopen (by rw [hinv.closed hstatus]; decide)
  rw [recorderFileStep, hpc] at hs
  dsimp only at hs
  rw [hleave, hexit, if_neg (by decide)] at hs
  split at hs
  case h_1 hstatus => exact absurd (.inl hstatus) hclosed
  case h_2 =>
    cases hs
    exact sameFile_recorderThreadRun.2.2.mp4File.trans hopen
  case h_3 hstatus => exact absurd (.inr hstatus) hclosed
  case h_4 =>
    cases hs
    exact hopen
  case h_5 =>
    cases hs
    exact hopen

theorem fileKept_step (hinv : FileInv s.1) (hs : fileStep s a = some s') (h : Finishes s a) :
    FileKept s a s' := by
  intro hopen hclosed hlong
  rcases a with input | storage
  · obtain ⟨hleave, hfinish⟩ := h hopen hlong
    rw [fileStep] at hs
    rcases hpc : s.1.pc with _ | _ | _
    · have hstill := open_of_loop hinv hpc hopen hlong (hleave hpc) hs
      rw [hclosed] at hstill
      cases hstill
    · have hstatus := hinv.closing hpc
      rw [recorderFileStep, hpc] at hs
      cases hs
      exact finished_recorderThreadClose hopen hlong (hinv.path hstatus) (hfinish hpc)
    · rw [recorderFileStep, hpc] at hs
      cases hs
  · cases hs
    rw [hopen] at hclosed
    cases hclosed

/-! ### Runs -/

/-- In a run of a recording thread that is never told to end while a long file is open, and can
finish the long files that it closes, every long file is finished. -/
theorem fileKept_of_finished (init : JobInit) (start stop : CLong) (storage : Storage)
    {as : List FileAction} (h : AllSteps fileStep (fun s a _ => Finishes s a)
      (startCtrl init start stop, storage) as) :
    AllSteps fileStep FileKept (startCtrl init start stop, storage) as := by
  refine AllSteps.imp (I := fun s => FileInv s.1) ?_ fileInv_startCtrl h
  intro s a s' hinv hs hfinishes
  exact ⟨fileInv_step hinv hs, fileKept_step hinv hs hfinishes⟩

/-- A frame with its parameter sets, written at a time. -/
def keyFrame (now : CLong) : VideoFrame where
  nalus := [{ type := 7 }, { type := 8 }, { type := 5, startNow := now, writeNow := now }]

/-- A file is created and gets two frames, twenty seconds apart. -/
def twentySeconds : List FileAction :=
  [.thread { now := 1700000000#64 },
    .thread { now := 1700000000#64, video := some (keyFrame 1700000000#64) },
    .thread { now := 1700000020#64, video := some (keyFrame 1700000020#64) }]

/-- A window that ends while the address is the time of the last frame. -/
theorem fileKept_twentySeconds :
    AllSteps fileStep FileKept (startCtrl {} 1700000000#64 1700000020#64, {})
      (twentySeconds ++ [.thread { close := { address := 1700000020#64 } }]) :=
  fileKept_of_finished _ _ _ _ (by decide)

/-- Told to end after twenty seconds, a thread leaves its file under the temporary name. -/
theorem stoppedFile_lost :
    ∃ s s', Reach fileStep AllRuns (startCtrl {} 1700000000#64 1700000180#64, {}) s ∧
      fileStep s (.thread { leave := true }) = some s' ∧
      (¬ FileKept s (.thread { leave := true }) s' ∧ s'.1.pc = .ended ∧
        hasName s'.2.disk 0 "plan-1700000000".toList = true) := by
  have hrun : (exec fileStep (fun _ _ => true)
      (startCtrl {} 1700000000#64 1700000180#64, {}) twentySeconds).any (fun s =>
        (fileStep s (.thread { leave := true })).any fun s' => decide
          (¬ FileKept s (.thread { leave := true }) s' ∧ s'.1.pc = .ended ∧
            hasName s'.2.disk 0 "plan-1700000000".toList = true)) = true := by
    decide
  exact Reach.exists_step_of_exec (fun _ _ _ => trivial) hrun

end GokeWebcam.Server.Recorder
