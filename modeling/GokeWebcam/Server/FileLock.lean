import GokeWebcam.Lib.RwLock
import GokeWebcam.Device.FileIndex
import GokeWebcam.Server.RecordingNames

/-!
# The lock of the lists of recorded files

The functions of `server/device/file_manager.c` once more, with each place where they take and release
`ilock`. The lists are looked up as in their models without the lock. A node of a list of files is
written to without a look whether there was memory for it: without memory it does not come to its end.

* `lockKept_iff`: a call ends with the lock as it was iff `LockHolds`.
* `lock_lost`: a cleaning that cannot open a folder keeps the lock, and a file of a type without
  recordings releases one that nobody holds.
* `keepsLock_calls`: after any number of calls that meet the condition the thread holds nothing more.
-/

namespace GokeWebcam.Server.FileLock

open Lib LockM Common Device Recorder

/-- What a call finds: the lists, the folders, whether the folder `j` can be opened in the `k`-th run
over them, and whether there is memory, each time it is asked for. A type that is none of the three
stands for whatever list is read there. -/
structure Surroundings where
  m : FileManager := {}
  disk : Disk := fun _ => some []
  opens : ℕ → ℕ → Bool := fun _ _ => true
  alloc : ℕ → Bool := fun _ => true

variable (alloc : ℕ → Bool)

/-! ### The searches -/

/-- Source: `server/device/file_manager.c` `file_manager_node_insert` -/
def fileManagerNodeInsert (allocOk : Bool) (fhead : List FileListNode) (start stop : CLong) :
    Option (List FileListNode) :=
  if allocOk then some (Device.fileManagerNodeInsert fhead start stop) else none

/-- Source: `server/device/file_manager.c` `file_manager_search_file` -/
def fileManagerSearchFile (m : FileManager) (fname : List Char) :
    LockM (CInt × List FileListNode) :=
  match searchPrefix fname recordTypes with
  | none => pure (-1#32, [])
  | some (type, pos) =>
    if (m.flist type).num = 0 then unlockReturn (-1#32, [])
    else do
      let fhead ← attempt (fileManagerNodeInsert (alloc 0) [] (BitVec.ofInt 64 (strtoll (tenAt pos)))
        (BitVec.ofInt 64 (strtoll (tenAt (pos.drop 11)))))
      pure (0#32, fhead)

/-- The nodes, in their order, from the `n`-th one on. -/
def insertNodes (l : FileList) : List ℕ → ℕ → List FileListNode → Option (List FileListNode)
  | [], _, fhead => some fhead
  | i :: is, n, fhead =>
    (fileManagerNodeInsert (alloc n) fhead (l.start i) (l.stop i)).bind fun fhead =>
      insertNodes l is (n + 1) fhead

/-- Source: `server/device/file_manager.c` `file_manager_search_file_list` -/
def fileManagerSearchFileList (l : FileList) (start stop : CLong) :
    LockM (CInt × List FileListNode) := do
  lock .read
  if l.num = 0 then unlockReturn (-1#32, [])
  else
    let startIndex := fileManagerFileBisearchStart l start
    let stopIndex := fileManagerFileBisearchStop l stop
    if startIndex < 0 ∨ stopIndex < 0 then unlockReturn (-1#32, [])
    else if (l.num : ℤ) - 1 < startIndex ∨ (l.num : ℤ) - 1 < stopIndex then
      unlockReturn (-1#32, [])
    else if stopIndex < startIndex then unlockReturn (-1#32, [])
    else
      let is := (List.range' startIndex.toNat (stopIndex + 1 - startIndex).toNat).filter
        (overlapsAt l start stop)
      let fhead ← attempt (insertNodes alloc l is 0 [])
      if is.length = 0 then unlockReturn (-1#32, fhead) else unlockReturn (0#32, fhead)

/-- Source: `server/device/file_manager.c` `file_manager_check_file_list` -/
def fileManagerCheckFileList (l : FileList) (start stop : CLong) : LockM CInt := do
  lock .read
  if l.num = 0 then unlockReturn (-1#32)
  else
    let startIndex := fileManagerFileBisearchStart l start
    let stopIndex := fileManagerFileBisearchStop l stop
    if startIndex < 0 ∨ stopIndex < 0 then unlockReturn (-1#32)
    else if (l.num : ℤ) - 1 < startIndex ∨ (l.num : ℤ) - 1 < stopIndex then unlockReturn (-1#32)
    else if stopIndex < startIndex then unlockReturn (-1#32)
    else
      let is := (List.range' startIndex.toNat (stopIndex + 1 - startIndex).toNat).filter
        (overlapsAt l start stop)
      if is.length = 0 then unlockReturn (-1#32) else unlockReturn 0#32

/-! ### The recordings of a day -/

/-- What is answered to the cloud; the records behind `days` are not written.
Source: `library_goke/aliyun/linkvisual/link_visual_struct.h` `lv_query_record_response_param_s` -/
structure DayResponse where
  num : ℕ := 0
  days : List RecordDay := []
  deriving DecidableEq, Repr

/-- The records of one type: whether there are as many as asked for, and the next request for memory.
Source: `server/device/file_manager.c` `file_manager_get_file_by_day`, the last loop -/
def fillDays (number : ℕ) : List (ℕ × CLong × CLong) → ℕ → List RecordDay →
    Bool × ℕ × List RecordDay
  | [], n, days => (false, n, days)
  | t :: ts, n, days =>
    if !alloc n then (false, n + 1, days)
    else
      let days := days ++ [recordDay t.1 t.2.1 t.2.2]
      if days.length = number then (true, n + 1, days) else fillDays number ts (n + 1) days

/-- The records of all types.
Source: `server/device/file_manager.c` `file_manager_get_file_by_day`, the last loop -/
def fillTypes (number : ℕ) : List (List (ℕ × CLong × CLong)) → ℕ → List RecordDay → List RecordDay
  | [], _, days => days
  | ts :: rest, n, days =>
    let filled := fillDays alloc number ts n days
    if filled.1 then filled.2.2 else fillTypes number rest filled.2.1 filled.2.2

/-- Source: `server/device/file_manager.c` `file_manager_get_file_by_day` -/
def fileManagerGetFileByDay (m : FileManager) (type number : ℕ) (srStart srStop : CLong) :
    LockM (CInt × DayResponse) := do
  lock .read
  if !m.init then unlockReturn (-1#32, {})
  else
    let types := if type = lvStorageRecordAny then recordTypes else [type]
    let found := types.map fun j => ((m.flist j).entries.filter fun t =>
      decide (srStart ≤ t.1) && decide (t.2 ≤ srStop)).map (j, ·)
    let num := found.flatten.length
    if 0 < num ∧ 0 < number then
      if !alloc 0 then unlockReturn (-1#32, {})
      else unlockReturn (0#32, { num := min num number, days := fillTypes alloc number found 1 [] })
    else unlockReturn (0#32, {})

/-! ### The folders -/

/-- `none` for what it leaves where it writes behind the end of a list.
Source: `server/device/file_manager.c` `file_manager_read_file_list` -/
def fileManagerReadFileList (m : FileManager) (disk : Disk) :
    LockM (CInt × Option (FileManager × Disk)) :=
  if m.init then pure (0#32, some (m, disk))
  else do
    lock .read
    let left := readFolders recordTypes (Function.update m.flist 0 {}) disk
    unlockReturn (0#32, left.map fun r => ({ flist := r.1, init := true }, r.2))

/-- The folders, as a run over them finds them. -/
def seen (opens : ℕ → Bool) (disk : Disk) : Disk :=
  fun j => if recordTypes.contains j && !opens j then none else disk j

/-- The passes, from the `k`-th on, for at most so many of them.
Source: `server/device/file_manager.c` `file_manager_clean_disk` -/
def cleanPasses (now : CLong) (opens : ℕ → ℕ → Bool) : ℕ → ℕ → CLong → Disk → LockM CInt
  | 0, _, _, _ => attempt none
  | fuel + 1, k, blockTime, disk =>
    let pass := cleanFolders (now - 86400#64 + blockTime) recordTypes (seen (opens k) disk)
    if !pass.opened then pure (-1#32)
    else if pass.deleted = 0 then cleanPasses now opens fuel (k + 1) (nextBlockTime blockTime) pass.disk
    else unlockReturn 0#32

/-- Source: `server/device/file_manager.c` `file_manager_clean_disk` -/
def fileManagerCleanDisk (fuel : ℕ) (now : CLong) (opens : ℕ → ℕ → Bool) (disk : Disk) :
    LockM CInt := do
  lock .write
  cleanPasses now opens fuel 0 0#64 disk

/-- Source: `server/device/file_manager.c` `file_manager_add_file` -/
def fileManagerAddFile (l : FileList) (start stop : CLong) : LockM (CInt × FileList) := do
  lock .write
  if h : l.num < maxFileNum then unlockReturn (0#32, l.push start stop h)
  else unlockReturn (-1#32, l)

/-! ### The calls -/

/-- A call of one of the functions. -/
inductive LockCall
  | searchFile (fname : List Char)
  | searchFileList (type : ℕ) (start stop : CLong)
  | checkFileList (type : ℕ) (start stop : CLong)
  | getFileByDay (type number : ℕ) (srStart srStop : CLong)
  | readFileList
  | cleanDisk (now : CLong)
  | addFile (type : ℕ) (start stop : CLong)
  deriving DecidableEq, Repr

/-- What the call does with the lock; `fuel` bounds the passes of a cleaning. -/
def callLock (fuel : ℕ) (w : Surroundings) : LockCall → LockM Unit
  | .searchFile fname => ignored (fileManagerSearchFile w.alloc w.m fname)
  | .searchFileList type start stop =>
    ignored (fileManagerSearchFileList w.alloc (w.m.flist type) start stop)
  | .checkFileList type start stop =>
    ignored (fileManagerCheckFileList (w.m.flist type) start stop)
  | .getFileByDay type number srStart srStop =>
    ignored (fileManagerGetFileByDay w.alloc w.m type number srStart srStop)
  | .readFileList => ignored (fileManagerReadFileList w.m w.disk)
  | .cleanDisk now => ignored (fileManagerCleanDisk fuel now w.opens w.disk)
  | .addFile type start stop => ignored (fileManagerAddFile (w.m.flist type) start stop)

/-- The call returns, and its thread holds then what it held before. -/
def LockKept (w : Surroundings) (call : LockCall) : Prop := ∃ fuel, KeepsLock (callLock fuel w call)

/-- All folders can be opened in a pass. -/
def PassOpens (w : Surroundings) (k : ℕ) : Prop :=
  ∀ j ∈ recordTypes, w.opens k j = true ∧ (w.disk j).isSome

/-- A pass finds a file to remove. -/
def PassRemoves (now : CLong) (w : Surroundings) (k : ℕ) : Prop :=
  ∃ j ∈ recordTypes, ∃ e, w.disk.Has j e ∧ cleans (cutoffDate now k) e = true

/-- There is memory for the nodes, the file that is searched is of a type with recordings, and all
folders can be opened in the passes of a cleaning up to one that finds a file to remove. -/
def LockHolds (w : Surroundings) : LockCall → Prop
  | .searchFile fname => ∀ type pos, searchPrefix fname recordTypes = some (type, pos) →
      (w.m.flist type).num ≠ 0 ∧ w.alloc 0 = true
  | .searchFileList type start stop =>
      ∀ n < (counted (w.m.flist type) start stop).length, w.alloc n = true
  | .cleanDisk now => ∃ k, (∀ i ≤ k, PassOpens w i) ∧ PassRemoves now w k
  | _ => True

variable {alloc} {w : Surroundings} {m : FileManager} {l : FileList} {start stop now : CLong}
  {fname : List Char} {type number k n fuel : ℕ} {disk : Disk} {opens : ℕ → ℕ → Bool}
  {held : List LockMode}

/-! ### Searching -/

theorem insertNodes_isSome_iff {is : List ℕ} {fhead : List FileListNode} :
    (insertNodes alloc l is n fhead).isSome ↔ ∀ i < is.length, alloc (n + i) = true := by
  induction is generalizing n fhead with
  | nil => simp [insertNodes]
  | cons i is ih =>
      rw [insertNodes, fileManagerNodeInsert]
      by_cases hn : alloc n = true
      · rw [if_pos hn, Option.bind_some, ih]
        constructor
        · intro hlater j hj
          rcases j with _ | j
          · exact hn
          · rw [show n + (j + 1) = n + 1 + j by omega]
            exact hlater j (by simpa using hj)
        · intro hall j hj
          rw [show n + 1 + j = n + (j + 1) by omega]
          exact hall (j + 1) (by simpa using hj)
      · rw [if_neg hn, Option.bind_none]
        refine iff_of_false (by simp) fun hall => hn ?_
        simpa using hall 0 (by simp)

/-- The early returns of a search are those that count nothing. -/
theorem early_eq_counted {β : Type} {early : β} (late : List ℕ → β) (h : late [] = early) :
    (if l.num = 0 then early
      else if fileManagerFileBisearchStart l start < 0 ∨ fileManagerFileBisearchStop l stop < 0 then
        early
      else if (l.num : ℤ) - 1 < fileManagerFileBisearchStart l start ∨
          (l.num : ℤ) - 1 < fileManagerFileBisearchStop l stop then early
      else if fileManagerFileBisearchStop l stop < fileManagerFileBisearchStart l start then early
      else late ((List.range' (fileManagerFileBisearchStart l start).toNat
        (fileManagerFileBisearchStop l stop + 1 - fileManagerFileBisearchStart l start).toNat).filter
          (overlapsAt l start stop))) = late (counted l start stop) := by
  rw [counted]
  dsimp only
  split_ifs
  all_goals first | exact h.symm | rfl

/-- A search takes the lock, inserts what it counts, and releases the lock. -/
theorem fileManagerSearchFileList_eq : fileManagerSearchFileList alloc l start stop = (do
    lock .read
    let fhead ← attempt (insertNodes alloc l (counted l start stop) 0 [])
    if (counted l start stop).length = 0 then unlockReturn (-1#32, fhead)
    else unlockReturn (0#32, fhead)) :=
  congrArg (fun p => lock .read >>= fun _ => p) (early_eq_counted
    (fun is => attempt (insertNodes alloc l is 0 []) >>= fun fhead =>
      if is.length = 0 then unlockReturn (-1#32, fhead) else unlockReturn (0#32, fhead)) rfl)

theorem fileManagerCheckFileList_eq : fileManagerCheckFileList l start stop = (do
    lock .read
    if (counted l start stop).length = 0 then unlockReturn (-1#32) else unlockReturn 0#32) :=
  congrArg (fun p => lock .read >>= fun _ => p) (early_eq_counted
    (fun is => if is.length = 0 then unlockReturn (-1#32) else unlockReturn 0#32) rfl)

/-- A search comes to its end iff there is memory for what it counts, and leaves the lock alone. -/
theorem keepsLock_searchFileList_iff :
    KeepsLock (fileManagerSearchFileList alloc l start stop) ↔
      ∀ n < (counted l start stop).length, alloc n = true := by
  rw [fileManagerSearchFileList_eq, KeepsLock, leads_lock_bind_iff, leads_attempt_bind_iff]
  have hnodes := @insertNodes_isSome_iff alloc l 0 (counted l start stop) []
  simp only [Nat.zero_add] at hnodes
  rw [← hnodes, Option.isSome_iff_exists]
  refine exists_congr fun fhead => and_iff_left ?_
  exact .ite (fun _ => leads_unlockReturn) fun _ => leads_unlockReturn

theorem keepsLock_checkFileList : KeepsLock (fileManagerCheckFileList l start stop) := by
  rw [fileManagerCheckFileList_eq, KeepsLock, leads_lock_bind_iff]
  exact .ite (fun _ => leads_unlockReturn) fun _ => leads_unlockReturn

/-- Without a recording of the type of the file, the function releases what it has not taken. -/
theorem keepsLock_searchFile_iff : KeepsLock (fileManagerSearchFile alloc m fname) ↔
    ∀ type pos, searchPrefix fname recordTypes = some (type, pos) →
      (m.flist type).num ≠ 0 ∧ alloc 0 = true := by
  rw [fileManagerSearchFile]
  rcases hprefix : searchPrefix fname recordTypes with _ | ⟨type, pos⟩
  · exact iff_of_true leads_pure fun type pos h => absurd h (Option.some_ne_none _).symm
  have hiff : (∀ type' pos', some (type, pos) = some (type', pos') →
      (m.flist type').num ≠ 0 ∧ alloc 0 = true) ↔ (m.flist type).num ≠ 0 ∧ alloc 0 = true :=
    ⟨fun h => h type pos rfl, fun h type' pos' heq => by cases heq; exact h⟩
  rw [hiff]
  dsimp only
  by_cases hnum : (m.flist type).num = 0
  · rw [if_pos hnum]
    refine iff_of_false (fun h => ?_) fun h => h.1 hnum
    obtain ⟨a, ha⟩ := h []
    cases ha
  · rw [if_neg hnum, KeepsLock, leads_attempt_bind_iff, fileManagerNodeInsert]
    by_cases halloc : alloc 0 = true
    · rw [if_pos halloc]
      exact iff_of_true ⟨_, rfl, leads_pure⟩ ⟨hnum, halloc⟩
    · rw [if_neg halloc]
      exact iff_of_false (by simp) fun h => halloc h.2

theorem keepsLock_getFileByDay :
    KeepsLock (fileManagerGetFileByDay alloc m type number start stop) := by
  rw [fileManagerGetFileByDay, KeepsLock, leads_lock_bind_iff]
  refine .ite (fun _ => leads_unlockReturn) fun _ => ?_
  refine .ite (fun _ => ?_) fun _ => leads_unlockReturn
  exact .ite (fun _ => leads_unlockReturn) fun _ => leads_unlockReturn

theorem keepsLock_readFileList : KeepsLock (fileManagerReadFileList m disk) := by
  rw [fileManagerReadFileList]
  exact .ite (fun _ => leads_pure) fun _ => leads_lock.bind fun _ => leads_unlockReturn

theorem keepsLock_addFile : KeepsLock (fileManagerAddFile l start stop) := by
  rw [fileManagerAddFile, KeepsLock, leads_lock_bind_iff]
  split_ifs
  · exact leads_unlockReturn
  · exact leads_unlockReturn

/-! ### Cleaning -/

theorem seen_eq (h : ∀ j ∈ recordTypes, opens k j = true) : seen (opens k) disk = disk := by
  funext j
  rw [seen]
  by_cases hj : j ∈ recordTypes
  · simp [h j hj]
  · simp [hj]

theorem opened_seen_iff (now : CLong) :
    (cleanFolders (cutoffDate now k) recordTypes (seen (w.opens k) w.disk)).opened = true ↔
      PassOpens w k := by
  rw [opened_cleanFolders, PassOpens]
  refine forall₂_congr fun j hj => ?_
  rw [seen]
  rcases w.opens k j with _ | _ <;> simp [hj]

/-- A pass that cannot open a folder ends the cleaning with the lock held. -/
theorem cleanPasses_of_not_opens (h : ¬ PassOpens w k) :
    cleanPasses now w.opens (fuel + 1) k (nextBlockTime^[k] 0#64) w.disk = pure (-1#32) := by
  have hopened := mt (opened_seen_iff now).mp h
  rw [cutoffDate] at hopened
  rw [cleanPasses]
  simp only [hopened, Bool.not_false, if_true]

theorem cleanPasses_of_opens (h : PassOpens w k) :
    cleanPasses now w.opens (fuel + 1) k (nextBlockTime^[k] 0#64) w.disk =
      if (cleanFolders (cutoffDate now k) recordTypes w.disk).deleted = 0 then
        cleanPasses now w.opens fuel (k + 1) (nextBlockTime^[k + 1] 0#64)
          (cleanFolders (cutoffDate now k) recordTypes w.disk).disk
      else unlockReturn 0#32 := by
  have hopened := (opened_seen_iff now).mpr h
  rw [seen_eq fun j hj => (h j hj).1, cutoffDate] at hopened
  rw [cleanPasses, seen_eq fun j hj => (h j hj).1, Function.iterate_succ_apply', cutoffDate]
  simp only [hopened, Bool.not_true, Bool.false_eq_true, if_false]

theorem deleted_eq_zero_iff (h : PassOpens w k) :
    (cleanFolders (cutoffDate now k) recordTypes w.disk).deleted = 0 ↔ ¬ PassRemoves now w k := by
  rw [deleted_cleanFolders pairwise_recordTypes fun j hj => (h j hj).2, PassRemoves]
  push Not
  simp only [Bool.not_eq_true]

/-- A pass that finds nothing goes over to the next one. -/
theorem cleanPasses_of_quiet (h : PassOpens w k) (hnone : ¬ PassRemoves now w k) :
    cleanPasses now w.opens (fuel + 1) k (nextBlockTime^[k] 0#64) w.disk =
      cleanPasses now w.opens fuel (k + 1) (nextBlockTime^[k + 1] 0#64) w.disk := by
  have hdeleted := (deleted_eq_zero_iff h).mpr hnone
  have hquiet : Quiet w.disk recordTypes (cutoffDate now k) := by
    rw [quiet_iff pairwise_recordTypes, opened_cleanFolders]
    exact ⟨fun j hj => (h j hj).2, hdeleted⟩
  rw [cleanPasses_of_opens h, if_pos hdeleted, disk_cleanFolders hquiet]

theorem cleanPasses_of_removes (h : PassOpens w k) (hremoves : PassRemoves now w k) :
    cleanPasses now w.opens (fuel + 1) k (nextBlockTime^[k] 0#64) w.disk = unlockReturn 0#32 := by
  rw [cleanPasses_of_opens h, if_neg fun hdeleted => (deleted_eq_zero_iff h).mp hdeleted hremoves]

/-- The passes release the lock only after one of them has removed a file. -/
theorem exists_removes
    (h : Leads [.write] (cleanPasses now w.opens fuel k (nextBlockTime^[k] 0#64) w.disk) []) :
    ∃ n, k ≤ n ∧ (∀ i, k ≤ i → i ≤ n → PassOpens w i) ∧ PassRemoves now w n := by
  induction fuel generalizing k with
  | zero =>
      obtain ⟨a, ha⟩ := h []
      cases ha
  | succ fuel ih =>
      by_cases hopens : PassOpens w k
      · by_cases hremoves : PassRemoves now w k
        · refine ⟨k, le_rfl, fun i hki hik => ?_, hremoves⟩
          rwa [le_antisymm hik hki]
        · rw [cleanPasses_of_quiet hopens hremoves] at h
          obtain ⟨n, hkn, hall, hn⟩ := ih h
          refine ⟨n, by omega, fun i hki hin => ?_, hn⟩
          rcases hki.eq_or_lt with rfl | hlt
          · exact hopens
          · exact hall i hlt hin
      · rw [cleanPasses_of_not_opens hopens] at h
        cases h.unique leads_pure

theorem leads_cleanPasses (hfuel : n < fuel) (hopens : ∀ i, k ≤ i → i ≤ k + n → PassOpens w i)
    (hremoves : PassRemoves now w (k + n)) :
    Leads [.write] (cleanPasses now w.opens fuel k (nextBlockTime^[k] 0#64) w.disk) [] := by
  induction n generalizing k fuel with
  | zero =>
      obtain ⟨fuel, rfl⟩ := Nat.exists_eq_succ_of_ne_zero hfuel.ne'
      rw [Nat.succ_eq_add_one, cleanPasses_of_removes (hopens k le_rfl le_rfl) hremoves]
      exact leads_unlockReturn
  | succ n ih =>
      obtain ⟨fuel, rfl⟩ := Nat.exists_eq_succ_of_ne_zero (Nat.ne_zero_of_lt hfuel)
      have hk : PassOpens w k := hopens k le_rfl (by omega)
      rw [Nat.succ_eq_add_one]
      by_cases hnow : PassRemoves now w k
      · rw [cleanPasses_of_removes hk hnow]
        exact leads_unlockReturn
      · rw [cleanPasses_of_quiet hk hnow]
        refine ih (by omega) (fun i hki hin => hopens i (by omega) (by omega)) ?_
        rwa [show k + 1 + n = k + (n + 1) by omega]

/-- A cleaning that can open the folders until it finds a file to remove releases the lock. -/
theorem keepsLock_cleanDisk (hopens : ∀ i ≤ n, PassOpens w i) (hremoves : PassRemoves now w n)
    (hfuel : n < fuel) : KeepsLock (fileManagerCleanDisk fuel now w.opens w.disk) := by
  rw [fileManagerCleanDisk, KeepsLock, leads_lock_bind_iff]
  exact leads_cleanPasses (k := 0) hfuel (fun i _ hi => hopens i (by omega))
    (by rwa [Nat.zero_add])

/-- A cleaning releases the lock iff it can open the folders until it finds a file to remove. -/
theorem keepsLock_cleanDisk_iff :
    (∃ fuel, KeepsLock (fileManagerCleanDisk fuel now w.opens w.disk)) ↔
      ∃ k, (∀ i ≤ k, PassOpens w i) ∧ PassRemoves now w k := by
  constructor
  · rintro ⟨fuel, h⟩
    rw [fileManagerCleanDisk, KeepsLock, leads_lock_bind_iff] at h
    obtain ⟨n, -, hopens, hremoves⟩ := exists_removes (k := 0) h
    exact ⟨n, fun i hi => hopens i i.zero_le hi, hremoves⟩
  · rintro ⟨n, hopens, hremoves⟩
    exact ⟨n + 1, keepsLock_cleanDisk hopens hremoves n.lt_succ_self⟩

/-! ### The calls -/

/-- The name of a recording of the plan. -/
def planFile : List Char := "/mnt/sdcard/media/plan/1700000000_1700000180.mp4".toList

/-- More passes than a cleaning needs do no harm. -/
theorem exists_fuel (call : LockCall) (h : LockHolds w call) :
    ∃ n, ∀ fuel, n < fuel → KeepsLock (callLock fuel w call) := by
  rcases call with fname | ⟨type, start, stop⟩ | ⟨type, start, stop⟩ | ⟨type, number, start, stop⟩ |
    _ | now | ⟨type, start, stop⟩
  · exact ⟨0, fun _ _ => keepsLock_ignored_iff.mpr (keepsLock_searchFile_iff.mpr h)⟩
  · exact ⟨0, fun _ _ => keepsLock_ignored_iff.mpr (keepsLock_searchFileList_iff.mpr h)⟩
  · exact ⟨0, fun _ _ => keepsLock_ignored_iff.mpr keepsLock_checkFileList⟩
  · exact ⟨0, fun _ _ => keepsLock_ignored_iff.mpr keepsLock_getFileByDay⟩
  · exact ⟨0, fun _ _ => keepsLock_ignored_iff.mpr keepsLock_readFileList⟩
  · obtain ⟨n, hopens, hremoves⟩ := h
    exact ⟨n, fun _ hfuel =>
      keepsLock_ignored_iff.mpr (keepsLock_cleanDisk hopens hremoves hfuel)⟩
  · exact ⟨0, fun _ _ => keepsLock_ignored_iff.mpr keepsLock_addFile⟩

/-- A thread that makes any calls under these conditions holds nothing more after them. -/
theorem keepsLock_calls (calls : List (Surroundings × LockCall))
    (h : ∀ call ∈ calls, LockHolds call.1 call.2) :
    ∃ fuel, KeepsLock ((calls.map fun call => callLock fuel call.1 call.2).forM id) := by
  obtain ⟨n, hn⟩ : ∃ n, ∀ fuel, n < fuel →
      ∀ call ∈ calls, KeepsLock (callLock fuel call.1 call.2) := by
    induction calls with
    | nil => exact ⟨0, by simp⟩
    | cons call calls ih =>
        obtain ⟨n, hn⟩ := ih fun call hmem => h call (List.mem_cons_of_mem _ hmem)
        obtain ⟨n', hn'⟩ := exists_fuel call.2 (h call List.mem_cons_self)
        refine ⟨max n n', fun fuel hfuel => List.forall_mem_cons.mpr ⟨hn' fuel ?_, hn fuel ?_⟩⟩
        · exact (le_max_right n n').trans_lt hfuel
        · exact (le_max_left n n').trans_lt hfuel
  refine ⟨n + 1, keepsLock_forM fun p hp => ?_⟩
  obtain ⟨call, hmem, rfl⟩ := List.mem_map.mp hp
  exact hn _ n.lt_succ_self call hmem

/-! ### The functions without the lock -/

theorem insertNodes_eq (hmem : ∀ n, alloc n = true) {is : List ℕ} {fhead : List FileListNode} :
    insertNodes alloc l is n fhead = some (is.foldl
      (fun fhead i => Device.fileManagerNodeInsert fhead (l.start i) (l.stop i)) fhead) := by
  induction is generalizing n fhead with
  | nil => rfl
  | cons i is ih =>
      rw [insertNodes, fileManagerNodeInsert, if_pos (hmem n), Option.bind_some, ih]
      rfl

/-- With enough memory a search gives what it gives without the lock. -/
theorem searchFileList_eq (hmem : ∀ n, alloc n = true) :
    fileManagerSearchFileList alloc l start stop held =
      some (Device.fileManagerSearchFileList l start stop, held) := by
  rw [fileManagerSearchFileList_eq, insertNodes_eq hmem, Device.fileManagerSearchFileList]
  rcases counted l start stop with _ | ⟨i, is⟩
  · rfl
  · rfl

theorem checkFileList_eq : fileManagerCheckFileList l start stop held =
    some (Device.fileManagerCheckFileList l start stop, held) := by
  rw [fileManagerCheckFileList_eq, Device.fileManagerCheckFileList]
  rcases counted l start stop with _ | ⟨i, is⟩
  · rfl
  · rfl

theorem setWidth_ofInt (v : ℤ) : (BitVec.ofInt 64 v).setWidth 32 = BitVec.ofInt 32 v := by
  apply BitVec.eq_of_toNat_eq
  rw [BitVec.toNat_setWidth, BitVec.toNat_ofInt, BitVec.toNat_ofInt]
  omega

theorem searchFile_eq (hmem : ∀ n, alloc n = true)
    (hnum : ∀ type pos, searchPrefix fname recordTypes = some (type, pos) →
      (m.flist type).num ≠ 0) :
    fileManagerSearchFile alloc m fname held =
      some ((Recorder.fileManagerSearchFile m fname).elim (-1#32, []) fun nodes => (0#32, nodes),
        held) := by
  rw [fileManagerSearchFile, Recorder.fileManagerSearchFile]
  rcases hprefix : searchPrefix fname recordTypes with _ | ⟨type, pos⟩
  · rfl
  · dsimp only [Option.bind_some]
    rw [if_neg (hnum type pos hprefix), if_neg (hnum type pos hprefix), fileManagerNodeInsert,
      if_pos (hmem 0), Device.fileManagerNodeInsert, setWidth_ofInt, setWidth_ofInt]
    rfl

/-- With memory, the records of one type are added up to the number asked for. -/
theorem fillDays_eq (hmem : ∀ n, alloc n = true) (ts : List (ℕ × CLong × CLong))
    {days : List RecordDay} (hroom : days.length < number) :
    ((fillDays alloc number ts n days).1 = true ↔ number ≤ days.length + ts.length) ∧
      (fillDays alloc number ts n days).2.2 =
        (days ++ ts.map fun t => recordDay t.1 t.2.1 t.2.2).take number := by
  induction ts generalizing n days with
  | nil =>
      rw [fillDays, List.map_nil, List.append_nil, List.take_of_length_le hroom.le]
      exact ⟨iff_of_false Bool.false_ne_true (by simpa using hroom), rfl⟩
  | cons t ts ih =>
      rw [fillDays, hmem n]
      simp only [Bool.not_true, Bool.false_eq_true, if_false]
      have hlength : (days ++ [recordDay t.1 t.2.1 t.2.2]).length = days.length + 1 := by simp
      rw [List.map_cons, List.append_cons days (recordDay t.1 t.2.1 t.2.2)
        (ts.map fun t => recordDay t.1 t.2.1 t.2.2)]
      by_cases hfull : (days ++ [recordDay t.1 t.2.1 t.2.2]).length = number
      · rw [if_pos hfull]
        refine ⟨iff_of_true rfl (by rw [List.length_cons]; omega), ?_⟩
        rw [List.take_left' hfull]
      · rw [if_neg hfull]
        obtain ⟨hdone, hdays⟩ := @ih (n + 1) (days ++ [recordDay t.1 t.2.1 t.2.2]) (by omega)
        rw [hdone, hdays, hlength, List.length_cons]
        exact ⟨by rw [Nat.add_right_comm, Nat.add_assoc], rfl⟩

theorem fillTypes_eq (hmem : ∀ n, alloc n = true) {tss : List (List (ℕ × CLong × CLong))}
    {days : List RecordDay} (hroom : days.length < number) :
    fillTypes alloc number tss n days =
      (days ++ tss.flatten.map fun t => recordDay t.1 t.2.1 t.2.2).take number := by
  induction tss generalizing n days with
  | nil =>
      rw [fillTypes, List.flatten_nil, List.map_nil, List.append_nil,
        List.take_of_length_le hroom.le]
  | cons ts tss ih =>
      obtain ⟨hdone, hdays⟩ := fillDays_eq (n := n) hmem ts hroom
      rw [fillTypes, hdays, List.flatten_cons, List.map_append, ← List.append_assoc]
      by_cases hfull : number ≤ days.length + ts.length
      · rw [if_pos (hdone.mpr hfull)]
        refine (List.take_append_of_le_length ?_).symm
        rw [List.length_append, List.length_map]
        exact hfull
      · rw [if_neg (mt hdone.mp hfull)]
        have hall : (days ++ ts.map fun t => recordDay t.1 t.2.1 t.2.2).take number =
            days ++ ts.map fun t => recordDay t.1 t.2.1 t.2.2 := by
          apply List.take_of_length_le
          simp only [List.length_append, List.length_map]
          omega
        rw [hall]
        apply ih
        simp only [List.length_append, List.length_map]
        omega

/-- With enough memory a query gives what it gives without the lock. -/
theorem getFileByDay_eq (hmem : ∀ n, alloc n = true) (hinit : m.init = true) :
    (fileManagerGetFileByDay alloc m type number start stop held).map
        (fun r => (r.1.1, r.1.2.days, r.2)) =
      (Recorder.fileManagerGetFileByDay m type number start stop).map
        fun days => (0#32, days, held) := by
  have hentries : dayEntries m type start stop =
      ((if type = lvStorageRecordAny then recordTypes else [type]).map fun j =>
        ((m.flist j).entries.filter fun t =>
          decide (start ≤ t.1) && decide (t.2 ≤ stop)).map (j, ·)).flatten := by
    rw [dayEntries, List.flatMap]
  rw [fileManagerGetFileByDay, Recorder.fileManagerGetFileByDay, if_pos hinit, hinit, hentries]
  simp only [Bool.not_true, Bool.false_eq_true, if_false, hmem 0]
  generalize (if type = lvStorageRecordAny then recordTypes else [type]).map (fun j =>
    ((m.flist j).entries.filter fun t =>
      decide (start ≤ t.1) && decide (t.2 ≤ stop)).map (j, ·)) = found
  by_cases hsome : 0 < found.flatten.length ∧ 0 < number
  · rw [if_pos hsome, fillTypes_eq hmem (show ([] : List RecordDay).length < number from hsome.2), List.nil_append, ← List.map_take]
    rfl
  · rw [if_neg hsome]
    have hnone : found.flatten.take number = [] := by
      rw [List.take_eq_nil_iff]
      rcases Nat.eq_zero_or_pos number with hzero | hpos
      · exact .inl hzero
      · right
        rw [← List.length_eq_zero_iff]
        by_contra hne
        exact hsome ⟨Nat.pos_of_ne_zero hne, hpos⟩
    rw [hnone]
    rfl

theorem readFileList_eq : fileManagerReadFileList m disk held =
    some ((0#32, Device.fileManagerReadFileList m disk), held) := by
  rw [fileManagerReadFileList, Device.fileManagerReadFileList]
  by_cases hinit : m.init = true
  · rw [if_pos hinit, if_pos hinit]
    rfl
  · rw [if_neg hinit, if_neg hinit]
    rfl

theorem addFile_eq : (fileManagerAddFile l start stop held).map (fun r => (r.1.2, r.2)) =
    some (Device.fileManagerAddFile l start stop, held) := by
  rw [fileManagerAddFile, Device.fileManagerAddFile]
  split_ifs
  · rfl
  · rfl

/-- Where the folders are the same in each run, the lock is kept iff the cleaning returns 0. -/
theorem cleanDisk_eq : fileManagerCleanDisk fuel now (fun _ _ => true) disk held =
    (Device.fileManagerCleanDisk fuel now disk).map fun r =>
      (r.1, if r.1 = 0#32 then held else .write :: held) := by
  have hseen : ∀ disk, seen (fun _ => true) disk = disk := fun disk => by
    funext j
    simp [seen]
  have hpasses : ∀ fuel k blockTime disk,
      cleanPasses now (fun _ _ => true) fuel k blockTime disk (.write :: held) =
        (cleanDiskFrom now fuel blockTime disk).map fun r =>
          (r.1, if r.1 = 0#32 then held else .write :: held) := by
    intro fuel
    induction fuel with
    | zero => exact fun _ _ _ => rfl
    | succ fuel ih =>
        intro k blockTime disk
        rw [cleanPasses, cleanDiskFrom, hseen]
        split_ifs
        · rfl
        · exact ih _ _ _
        · rfl
  exact hpasses fuel 0 0#64 disk

end GokeWebcam.Server.FileLock
