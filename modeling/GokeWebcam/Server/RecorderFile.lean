import GokeWebcam.Device.FileManager
import GokeWebcam.Server.Recorder

/-!
# The files of a recording thread

A recording thread writes its frames to a file with a temporary name, and renames the file to its
times when its window ends. The audio and video frames, the clock and what the MP4 library and the
file system answer are inputs; the durations and the contents of the samples are left out.

`recorder_thread_run` is two steps where it closes the file: the frame that ends the window, and the
closing.
-/

namespace GokeWebcam.Server.Recorder

open Lib Common Device

/-! ### Names and files -/

/-- Source: `server/manager/config.c` `folder_prefix` -/
def folderPrefix (type : ℕ) : List Char :=
  ["plan".toList, "alarm".toList, "normal".toList].getD type []

/-- Source: `server/recorder/recorder.c` `recorder_thread_init_mp4v2` -/
def tempName (type : ℕ) (start : CLong) : List Char :=
  folderPrefix type ++ '-' :: showInt start.toInt

def snapName (start : CLong) : List Char := "snap-".toList ++ showInt start.toInt ++ ".jpg".toList

/-- Source: `server/recorder/recorder.c` `recorder_thread_close` -/
def finalName (realStart lastWrite : CLong) (extension : List Char) : List Char :=
  showInt realStart.toInt ++ '_' :: (showInt lastWrite.toInt ++ extension)

/-- A file of the folder has the name. -/
def hasName (disk : Disk) (j : ℕ) (name : List Char) : Bool :=
  ((disk j).getD []).any fun e => e.name = name

/-- `remove` -/
def removeFile (disk : Disk) (j : ℕ) (name : List Char) : Disk :=
  Function.update disk j ((disk j).map fun files => files.filter (·.name ≠ name))

/-- The library creates the file, or empties the one that is there. -/
def createFile (disk : Disk) (j : ℕ) (name : List Char) : Disk :=
  Function.update disk j ((disk j).map fun files =>
    files.filter (·.name ≠ name) ++ [{ name := name }])

/-- `rename`, where `ok` is whether the file system can: a file of the new name is replaced. -/
def renameFile (ok : Bool) (disk : Disk) (j : ℕ) (old new : List Char) : Option Disk :=
  if ok ∧ hasName disk j old then
    some (Function.update disk j ((disk j).map fun files =>
      files.filter (fun e => e.name ≠ old ∧ e.name ≠ new) ++ [{ name := new }]))
  else none

/-! ### The thread -/

/-- Source: `server/recorder/config.c` `min_length` -/
def minLength : CLong := 10#64

/-- What a job records, with the fields that concern its file.
Source: `server/recorder/recorder_interface.h` `recorder_init_t` -/
structure JobInit where
  type : ℕ := 0
  repeated : Bool := true
  repeatInterval : CInt := 0#32
  audio : Bool := true
  deriving DecidableEq, Repr

/-- The open file and its times; the file is named within the folder of its type.
Source: `server/recorder/recorder_interface.h` `recorder_run_t` -/
structure RecorderRun where
  filePath : List Char := []
  mp4File : Bool := false
  start : CLong := 0#64
  stop : CLong := 0#64
  realStart : CLong := 0#64
  realStop : CLong := 0#64
  lastWrite : CLong := 0#64
  spsRead : Bool := false
  ppsRead : Bool := false
  firstFrame : Bool := false
  fps : CInt := 0#32
  width : CInt := 0#32
  height : CInt := 0#32
  exit : Bool := false
  deriving DecidableEq, Repr

/-- What a closing meets: whether the two renames can be done, and the address of `last_write`. -/
structure CloseInput where
  snapOk : Bool := true
  renameOk : Bool := true
  address : CLong := 0x7fb5c00a68#64
  deriving DecidableEq, Repr

/-- The lists of the file manager and the card. -/
structure Storage where
  manager : FileManager := {}
  disk : Disk := fun _ => some []

/-- What it returns, the job's record and the storage then. The new entry gets the address of
`last_write` for the time.
Source: `server/recorder/recorder.c` `recorder_thread_close` -/
def recorderThreadClose (type : ℕ) (input : CloseInput) (run : RecorderRun) (s : Storage) :
    CInt × RecorderRun × Storage :=
  if !run.mp4File then (-1#32, run, s)
  else
    let run := { run with mp4File := false }
    if (run.lastWrite - run.realStart).slt minLength then
      (-1#32, run, { s with
        disk := removeFile (removeFile s.disk type run.filePath) type (snapName run.start) })
    else
      let picture := finalName run.realStart run.lastWrite ".jpg".toList
      let movie := finalName run.realStart run.lastWrite ".mp4".toList
      let disk := (renameFile input.snapOk s.disk type (snapName run.start) picture).getD s.disk
      let closed := { run with realStop := run.lastWrite, filePath := movie }
      match renameFile input.renameOk disk type run.filePath movie with
      | none => (-1#32, closed, { s with disk := disk })
      | some disk =>
        let list := fileManagerAddFile (s.manager.flist type) run.realStart input.address
        (0#32, closed,
          { manager := { s.manager with flist := Function.update s.manager.flist type list }
            disk := disk })

/-- A unit of a frame, whether its track, its memory and its sample are got, and the times that are
read when it is written. -/
structure Nalu where
  type : ℕ
  trackOk : Bool := true
  mallocOk : Bool := true
  sampleOk : Bool := true
  startNow : CLong := 0#64
  writeNow : CLong := 0#64
  deriving DecidableEq, Repr

/-- A video frame. -/
structure VideoFrame where
  nalus : List Nalu := []
  fps : CInt := 0#32
  width : CInt := 0#32
  height : CInt := 0#32
  deriving DecidableEq, Repr

/-- Source: `server/recorder/recorder.c` `recorder_thread_write_mp4_video` -/
def recorderThreadWriteMp4Video (frame : VideoFrame) : List Nalu → RecorderRun → CInt × RecorderRun
  | [], run => (0#32, run)
  | nalu :: nalus, run =>
    if nalu.type = 7 then
      if run.spsRead then recorderThreadWriteMp4Video frame nalus run
      else if !nalu.trackOk then (-1#32, run)
      else recorderThreadWriteMp4Video frame nalus { run with spsRead := true }
    else if nalu.type = 8 then
      if run.ppsRead then recorderThreadWriteMp4Video frame nalus run
      else if !run.spsRead then recorderThreadWriteMp4Video frame nalus run
      else recorderThreadWriteMp4Video frame nalus { run with ppsRead := true }
    else if nalu.type = 1 ∨ nalu.type = 5 then
      if !run.spsRead ∨ !run.ppsRead then (-2#32, run)
      else if !nalu.mallocOk then (-1#32, run)
      else if nalu.type ≠ 5 ∧ !run.firstFrame then (-2#32, run)
      else if !nalu.sampleOk then (-1#32, run)
      else
        let run :=
          if !run.firstFrame ∧ nalu.type = 5 then
            { run with
              realStart := nalu.startNow, firstFrame := true
              fps := frame.fps, width := frame.width, height := frame.height }
          else run
        recorderThreadWriteMp4Video frame nalus { run with lastWrite := nalu.writeNow }
    else recorderThreadWriteMp4Video frame nalus run

/-- Where the thread is: in its loop, at the label `close_exit`, or at its end. -/
inductive FilePc
  | loop | closeExit | ended
  deriving DecidableEq, Repr

/-- The thread's copy of its job. -/
structure RecorderCtrl where
  pc : FilePc := .loop
  status : ThreadStatus := .started
  init : JobInit := {}
  run : RecorderRun := {}
  deriving DecidableEq, Repr

/-- What one round of the thread meets: whether it is told to end (`info.exit`, or its bit of
`info.thread_exit`), the time, whether the file and its audio track are created, the frames that are
popped, the audio one by whether its sample is written. -/
structure FileInput where
  leave : Bool := false
  now : CLong := 0#64
  created : Bool := true
  trackOk : Bool := true
  audio : Option Bool := none
  video : Option VideoFrame := none
  close : CloseInput := {}
  deriving DecidableEq, Repr

variable (input : FileInput) (ctrl : RecorderCtrl) (s : Storage)

/-- Source: `server/recorder/recorder.c` `recorder_thread_started`,
`recorder_thread_init_mp4v2` -/
def recorderThreadStarted : RecorderCtrl × Storage :=
  if input.now.slt ctrl.run.start then (ctrl, s)
  else if !input.created then ({ ctrl with status := .error }, s)
  else
    let name := tempName ctrl.init.type ctrl.run.start
    let s := { s with disk := createFile s.disk ctrl.init.type name }
    let run := { ctrl.run with mp4File := true }
    if ctrl.init.audio ∧ !input.trackOk then ({ ctrl with status := .error, run := run }, s)
    else ({ ctrl with status := .run, run := { run with filePath := name } }, s)

/-- Source: `server/recorder/recorder.c` `recorder_thread_run`, up to `close_exit` -/
def recorderThreadRun : RecorderCtrl :=
  if input.audio = some false ∧ ctrl.run.firstFrame then { ctrl with pc := .closeExit }
  else
    match input.video with
    | none => ctrl
    | some frame =>
      if ctrl.run.firstFrame ∧ frame.fps ≠ ctrl.run.fps then { ctrl with pc := .closeExit }
      else if ctrl.run.firstFrame ∧
          (frame.width ≠ ctrl.run.width ∨ frame.height ≠ ctrl.run.height) then
        { ctrl with pc := .closeExit }
      else
        let (ret, run) := recorderThreadWriteMp4Video frame frame.nalus ctrl.run
        if ret = -1#32 then { ctrl with run := run }
        else if run.stop.sle input.now then { ctrl with run := run, pc := .closeExit }
        else { ctrl with run := run }

/-- Source: `server/recorder/recorder.c` `recorder_thread_pause` -/
def recorderThreadPause : RecorderCtrl :=
  if !ctrl.init.repeated then { ctrl with run := { ctrl.run with exit := true } }
  else
    let realStop := if ctrl.run.realStop = 0#64 then input.now else ctrl.run.realStop
    let start := realStop + ctrl.init.repeatInterval.signExtend 64
    { ctrl with
      status := .started
      run := { start := start, stop := start + (ctrl.run.stop - ctrl.run.start) } }

/-- One round of the thread, or its release, which closes the file and does no more.
Source: `server/recorder/recorder.c` `recorder_func` -/
def recorderFileStep : Option (RecorderCtrl × Storage) :=
  match ctrl.pc with
  | .ended => none
  | .closeExit =>
    let (_, run, s) := recorderThreadClose ctrl.init.type input.close ctrl.run s
    some ({ ctrl with pc := .loop, status := .pause, run := run }, s)
  | .loop =>
    if input.leave ∨ ctrl.run.exit then
      some ({ ctrl with pc := .ended, run := { ctrl.run with mp4File := false } }, s)
    else
      match ctrl.status with
      | .started => some (recorderThreadStarted input ctrl s)
      | .run => some (recorderThreadRun input ctrl, s)
      | .pause => some (recorderThreadPause input ctrl, s)
      | .error => some ({ ctrl with run := { ctrl.run with exit := true } }, s)
      | _ => some (ctrl, s)

/-! ### Names and folders -/

variable {ctrl s} {disk disk' : Disk} {ok : Bool} {j : ℕ} {name old new : List Char}
  {type : ℕ} {start stop : CLong}

theorem hasName_iff : hasName disk j name = true ↔
    ∃ files, disk j = some files ∧ ∃ e ∈ files, e.name = name := by
  rw [hasName]
  rcases disk j with _ | files
  · simp
  · simp

/-- A renaming replaces the old name by the new one. -/
theorem folder_renameFile (h : renameFile ok disk j old new = some disk') :
    ∃ files, disk j = some files ∧ disk' = Function.update disk j (some
      (files.filter (fun e => e.name ≠ old ∧ e.name ≠ new) ++ [{ name := new }])) := by
  rw [renameFile] at h
  split_ifs at h with hcan
  obtain ⟨files, hfiles, -⟩ := hasName_iff.mp hcan.2
  rw [hfiles] at h
  cases h
  exact ⟨files, hfiles, rfl⟩

theorem hasName_renameFile (h : renameFile ok disk j old new = some disk') :
    hasName disk' j new = true := by
  obtain ⟨files, -, rfl⟩ := folder_renameFile h
  exact hasName_iff.mpr ⟨_, Function.update_self .., { name := new },
    List.mem_append_right _ List.mem_cons_self, rfl⟩

/-- Every other name stays. -/
theorem hasName_of_renameFile (h : renameFile ok disk j old new = some disk')
    (hname : hasName disk j name = true) (hold : name ≠ old) (hnew : name ≠ new) :
    hasName disk' j name = true := by
  obtain ⟨files, hfiles, rfl⟩ := folder_renameFile h
  obtain ⟨files', hfiles', e, he, rfl⟩ := hasName_iff.mp hname
  cases hfiles.symm.trans hfiles'
  refine hasName_iff.mpr ⟨_, Function.update_self .., e, List.mem_append_left _ ?_, rfl⟩
  exact List.mem_filter.mpr ⟨he, decide_eq_true ⟨hold, hnew⟩⟩

/-- Only the new name comes. -/
theorem hasName_before_renameFile (h : renameFile ok disk j old new = some disk')
    (hname : hasName disk' j name = true) (hnew : name ≠ new) : hasName disk j name = true := by
  obtain ⟨files, hfiles, rfl⟩ := folder_renameFile h
  obtain ⟨files', hfiles', e, he, rfl⟩ := hasName_iff.mp hname
  rw [Function.update_self, Option.some.injEq] at hfiles'
  rw [← hfiles', List.mem_append, List.mem_singleton] at he
  rcases he with he | rfl
  · exact hasName_iff.mpr ⟨files, hfiles, e, List.mem_of_mem_filter he, rfl⟩
  · exact absurd rfl hnew

theorem dot_notMem_showInt {v : ℤ} : '.' ∉ showInt v := by
  have hdigits : ∀ n, '.' ∉ showNat n := fun n h => absurd (isDigit_of_mem_showNat h) (by decide)
  rw [showInt]
  split_ifs
  · rw [List.mem_cons, not_or]
    exact ⟨by decide, hdigits _⟩
  · exact hdigits _

/-- A temporary name has no extension. -/
theorem dot_notMem_tempName : '.' ∉ tempName type start := by
  have hfolder : '.' ∉ folderPrefix type := by
    rcases type with _ | _ | _ | type
    · decide
    · decide
    · decide
    · exact List.not_mem_nil
  rw [tempName, List.mem_append, List.mem_cons]
  rintro (h | h | h)
  · exact hfolder h
  · exact absurd h (by decide)
  · exact dot_notMem_showInt h

/-- The next reading of the folder removes a file that is left under its temporary name. -/
theorem readVerdict_tempName {files : List DirEntry} (e : DirEntry)
    (hname : e.name = tempName type start) (htype : e.type = 8) :
    readVerdict files e = .remove := by
  have hdot : ∀ extension, '.' ∈ extension → occurs e.name extension = false := by
    intro extension hmem
    rw [Bool.eq_false_iff, ne_eq, strstr_isSome_iff, hname]
    exact fun hinfix => dot_notMem_tempName (List.IsInfix.subset hinfix hmem)
  have hmedia : e.media = false := by
    rw [DirEntry.media, hdot _ (by decide), hdot _ (by decide), Bool.or_false]
  have hself : ¬ (e.name = ".".toList ∨ e.name = "..".toList) := by
    have hnot : '.' ∉ e.name := hname ▸ dot_notMem_tempName
    rintro (h | h) <;> exact hnot (h ▸ by decide)
  rw [readVerdict, if_neg hself, htype, hmedia]
  rfl

end GokeWebcam.Server.Recorder
