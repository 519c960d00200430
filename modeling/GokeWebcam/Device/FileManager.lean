import GokeWebcam.Device.Directory

/-!
# Reading the media directory

`file_manager_read_file_list` fills the lists from the names of the files, once, and removes what it
cannot use. A folder that is missing is created; it then holds no file, as one that cannot be opened.

* `readEntries_spec`: a folder adds the times of its recordings to the list, in the order of their
  names, as long as there is room.
-/

namespace GokeWebcam.Device

open Lib Common

/-- The variables of the file manager.
Source: `server/device/file_manager.c` `flist`, `init` -/
structure FileManager where
  flist : ℕ → FileList := fun _ => {}
  init : Bool := false

/-- What the reading does with a file. -/
inductive ReadVerdict
  | pass
  | remove
  | record (start stop : CLong)
  deriving DecidableEq, Repr

/-- The name with its last three characters replaced. -/
def mp4Name (name : List Char) : List Char := name.take (name.length - 3) ++ "mp4".toList

/-- What the reading does with a file of the folder in which `files` are left.
Source: `server/device/file_manager.c` `file_manager_read_file_list`, the `while` loop -/
def readVerdict (files : List DirEntry) (e : DirEntry) : ReadVerdict :=
  if e.name = ".".toList ∨ e.name = "..".toList then .pass
  else if e.type = 10 then .pass
  else if e.type = 4 then .pass
  else if !e.media then .remove
  else if e.temporary then .remove
  else if occurs e.name ".jpg".toList then
    if ∀ f ∈ files, f.name ≠ mp4Name e.name then .remove else .pass
  else
    match e.startTime, e.stopTime with
    | some start, some stop =>
      if stop ≤ start then .remove else .record (BitVec.ofInt 64 start) (BitVec.ofInt 64 stop)
    | _, _ => .pass

def ReadVerdict.times : ReadVerdict → Option (CLong × CLong)
  | .record start stop => some (start, stop)
  | _ => none

/-- The times of a recording, by its name. -/
def DirEntry.recordTimes (e : DirEntry) : Option (CLong × CLong) := (readVerdict [] e).times

/-- A file with times. -/
def isRecording (e : DirEntry) : Bool := e.recordTimes.isSome

/-- The files in the order of `alphasort`.
Source: `dirent.h` `scandir` -/
def scandir (files : List DirEntry) : List DirEntry :=
  files.mergeSort fun e f => decide (e.name ≤ f.name)

/-- The files one after the other, until the list is full. A write behind the end of the list is not
modelled.
Source: `server/device/file_manager.c` `file_manager_read_file_list`, the `while` loop -/
def readEntries : List DirEntry → FileList → List DirEntry → Option (FileList × List DirEntry)
  | [], l, files => some (l, files)
  | e :: es, l, files =>
    match readVerdict files e with
    | .pass => if maxFileNum ≤ l.num then some (l, files) else readEntries es l files
    | .remove =>
      let files := files.filter (· ≠ e)
      if maxFileNum ≤ l.num then some (l, files) else readEntries es l files
    | .record start stop =>
      if h : l.num < maxFileNum then
        let l := l.push start stop h
        if maxFileNum ≤ l.num then some (l, files) else readEntries es l files
      else none

/-- Source: `server/device/file_manager.c` `file_manager_read_file_list`, the `for` loop -/
def readFolders : List ℕ → (ℕ → FileList) → Disk → Option ((ℕ → FileList) × Disk)
  | [], flist, disk => some (flist, disk)
  | i :: is, flist, disk =>
    match disk i with
    | none => readFolders is flist disk
    | some files =>
      (readEntries (scandir files) (flist i) files).bind fun (l, files) =>
        readFolders is (Function.update flist i l) (Function.update disk i (some files))

variable (m : FileManager)

/-- Only the first list is cleared.
Source: `server/device/file_manager.c` `file_manager_read_file_list` -/
def fileManagerReadFileList (disk : Disk) : Option (FileManager × Disk) :=
  if m.init then some (m, disk)
  else (readFolders recordTypes (Function.update m.flist 0 {}) disk).map fun (flist, disk) =>
    ({ flist := flist, init := true }, disk)

/-- Source: `server/device/file_manager.c` `file_manager_set_reinit` -/
def fileManagerSetReinit : FileManager := if m.init then {} else m

/-! ### Reading a folder -/

variable {m} {e : DirEntry} {es files files' : List DirEntry} {l l' : FileList}
  {start stop : CLong} {t : CLong × CLong}

/-- The files left in the folder do not matter for a recording. -/
theorem times_readVerdict : (readVerdict files e).times = e.recordTimes := by
  rw [DirEntry.recordTimes, readVerdict, readVerdict]
  split_ifs <;> rfl

/-- Some files are removed that are not recordings. -/
structure Pruned (files files' : List DirEntry) : Prop where
  sublist : files'.Sublist files
  same : files'.filter isRecording = files.filter isRecording

theorem Pruned.refl (files : List DirEntry) : Pruned files files := ⟨.refl _, rfl⟩

theorem Pruned.trans {files'' : List DirEntry} (h₁ : Pruned files files')
    (h₂ : Pruned files' files'') : Pruned files files'' :=
  ⟨h₂.sublist.trans h₁.sublist, h₂.same.trans h₁.same⟩

theorem filter_isRecording_filter {p : DirEntry → Bool}
    (h : ∀ e ∈ files, p e = false → isRecording e = false) :
    (files.filter p).filter isRecording = files.filter isRecording := by
  rw [List.filter_filter]
  refine List.filter_congr fun e he => ?_
  rcases hp : p e with _ | _
  · rw [h e he hp]
    rfl
  · rw [Bool.and_true]

/-- What one file does to the list and to the folder. -/
structure EntryRead (e : DirEntry) (l : FileList) (files : List DirEntry) (l' : FileList)
    (files' : List DirEntry) : Prop where
  entries : l'.entries = l.entries ++ e.recordTimes.toList
  pruned : Pruned files files'

theorem readEntries_cons (h : readEntries (e :: es) l files = some (l', files')) :
    ∃ l₁ files₁, EntryRead e l files l₁ files₁ ∧
      (maxFileNum ≤ l₁.num ∧ l₁ = l' ∧ files₁ = files' ∨
        readEntries es l₁ files₁ = some (l', files')) := by
  have htimes : (readVerdict files e).times = e.recordTimes := times_readVerdict
  rw [readEntries] at h
  rcases hverdict : readVerdict files e with _ | _ | ⟨start, stop⟩ <;> rw [hverdict] at h htimes
  · refine ⟨l, files, ⟨?_, .refl _⟩, ?_⟩
    · rw [← htimes]
      exact (List.append_nil _).symm
    · dsimp only at h
      split_ifs at h with hfull
      · cases h
        exact .inl ⟨hfull, rfl, rfl⟩
      · exact .inr h
  · refine ⟨l, files.filter (· ≠ e), ⟨?_, List.filter_sublist, ?_⟩, ?_⟩
    · rw [← htimes]
      exact (List.append_nil _).symm
    · refine filter_isRecording_filter fun f _ hf => ?_
      rw [decide_eq_false_iff_not, not_not] at hf
      rw [hf, isRecording, ← htimes]
      rfl
    · dsimp only at h
      split_ifs at h with hfull
      · cases h
        exact .inl ⟨hfull, rfl, rfl⟩
      · exact .inr h
  · dsimp only at h
    split_ifs at h with hroom hfull
    all_goals refine ⟨l.push start stop hroom, files, ⟨?_, .refl _⟩, ?_⟩
    · rw [FileList.entries_push l hroom, ← htimes]
      rfl
    · cases h
      exact .inl ⟨hfull, rfl, rfl⟩
    · rw [FileList.entries_push l hroom, ← htimes]
      rfl
    · exact .inr h

/-- The list takes the recordings of the folder in their order, as long as there is room. -/
theorem entries_readEntries (h : readEntries es l files = some (l', files')) :
    l'.entries = (l.entries ++ es.filterMap DirEntry.recordTimes).take maxFileNum := by
  have hle : ∀ l : FileList, l.entries.length ≤ maxFileNum := fun l => by
    rw [FileList.length_entries]
    exact l.num_le
  induction es generalizing l files with
  | nil =>
      cases h
      rw [List.filterMap_nil, List.append_nil, List.take_of_length_le (hle l')]
  | cons e es ih =>
      obtain ⟨l₁, files₁, hread, hlater⟩ := readEntries_cons h
      have hsplit : l.entries ++ (e :: es).filterMap DirEntry.recordTimes =
          l₁.entries ++ es.filterMap DirEntry.recordTimes := by
        rw [hread.entries, List.append_assoc]
        rcases htimes : e.recordTimes with _ | t
        · rw [List.filterMap_cons_none htimes]
          rfl
        · rw [List.filterMap_cons_some htimes]
          rfl
      rw [hsplit]
      rcases hlater with ⟨hfull, rfl, rfl⟩ | hlater
      · rw [List.take_append_of_le_length (by rwa [FileList.length_entries]),
          List.take_of_length_le (hle l₁)]
      · exact ih hlater

/-- Nothing comes into a folder that is read, and its recordings stay. -/
theorem pruned_readEntries (h : readEntries es l files = some (l', files')) :
    Pruned files files' := by
  induction es generalizing l files with
  | nil =>
      cases h
      exact .refl _
  | cons e es ih =>
      obtain ⟨l₁, files₁, hread, ⟨-, -, rfl⟩ | hlater⟩ := readEntries_cons h
      · exact hread.pruned
      · exact hread.pruned.trans (ih hlater)

/-- The reading writes behind the end only if the list was full and the first file is a recording. -/
theorem readEntries_isSome_iff : (readEntries es l files).isSome ↔
    (l.num = maxFileNum → ∀ e, es.head? = some e → e.recordTimes = none) := by
  have hroom : ∀ es l files, l.num ≠ maxFileNum → (readEntries es l files).isSome := by
    intro es
    induction es with
    | nil => exact fun l files _ => rfl
    | cons e es ih =>
        intro l files hne
        have hlt : l.num < maxFileNum := lt_of_le_of_ne l.num_le hne
        rw [readEntries]
        rcases readVerdict files e with _ | _ | ⟨start, stop⟩
        · dsimp only
          rw [if_neg hlt.not_ge]
          exact ih l files hne
        · dsimp only
          rw [if_neg hlt.not_ge]
          exact ih l _ hne
        · dsimp only
          rw [dif_pos hlt]
          split_ifs with hfull
          · rfl
          · exact ih _ files (lt_of_not_ge hfull).ne
  by_cases hfull : l.num = maxFileNum
  · rcases es with _ | ⟨e, es⟩
    · simp [readEntries]
    · have htimes : (readVerdict files e).times = e.recordTimes := times_readVerdict
      rw [readEntries, List.head?_cons]
      rcases hverdict : readVerdict files e with _ | _ | ⟨start, stop⟩ <;>
        rw [hverdict, ReadVerdict.times] at htimes <;> simp [hfull, ← htimes]
  · simp [hfull, hroom es l files hfull]

/-! ### Reading the folders -/

variable {flist flist' : ℕ → FileList} {disk disk' : Disk} {is : List ℕ} {i : ℕ}

/-- A file of the folder has these times. -/
def Named (disk : Disk) (i : ℕ) (t : CLong × CLong) : Prop :=
  ∃ files, disk i = some files ∧ ∃ e ∈ files, e.recordTimes = some t

/-- Some files of a folder are removed that are not recordings. -/
def FolderPruned : Folder → Folder → Prop
  | some files, some files' => Pruned files files'
  | none, none => True
  | _, _ => False

/-- A list that is read takes the recordings of its folder, and these stay. -/
structure FolderRead (flist : ℕ → FileList) (disk : Disk) (flist' : ℕ → FileList) (disk' : Disk)
    (i : ℕ) : Prop where
  entries : (flist' i).entries = ((flist i).entries ++
    (((disk i).map scandir).getD []).filterMap DirEntry.recordTimes).take maxFileNum
  pruned : FolderPruned (disk i) (disk' i)

/-- Only the folder and the list of the type matter. -/
theorem FolderRead.congr {flist₁ : ℕ → FileList} {disk₁ : Disk}
    (h : FolderRead flist₁ disk₁ flist' disk' i) (hlist : flist₁ i = flist i)
    (hfolder : disk₁ i = disk i) : FolderRead flist disk flist' disk' i where
  entries := by rw [h.entries, hlist, hfolder]
  pruned := hfolder ▸ h.pruned

theorem mem_filter_isRecording (ht : e.recordTimes = some t) :
    e ∈ files.filter isRecording ↔ e ∈ files := by
  rw [List.mem_filter, isRecording, ht]
  exact and_iff_left rfl

/-- The times that files of a folder have stay. -/
theorem FolderPruned.named (h : FolderPruned (disk i) (disk' i)) (t : CLong × CLong) :
    Named disk' i t ↔ Named disk i t := by
  revert h
  rw [Named, Named]
  rcases disk i with _ | files <;> rcases disk' i with _ | files' <;> intro h
  · rfl
  · exact False.elim h
  · exact False.elim h
  · have hpruned : Pruned files files' := h
    simp only [Option.some.injEq, exists_eq_left']
    refine exists_congr fun e => and_congr_left fun ht => ?_
    rw [← mem_filter_isRecording ht, hpruned.same, mem_filter_isRecording ht]

theorem folderRead_of_none (hnone : disk i = none) (hlist : flist' i = flist i)
    (hfolder : disk' i = disk i) : FolderRead flist disk flist' disk' i where
  entries := by
    rw [hlist, hnone, Option.map_none, Option.getD_none, List.filterMap_nil, List.append_nil,
      List.take_of_length_le (by rw [FileList.length_entries]; exact (flist i).num_le)]
  pruned := by
    rw [hfolder, hnone]
    trivial

theorem folderRead_of_readEntries (hfiles : disk i = some files)
    (h : readEntries (scandir files) (flist i) files = some (l', files'))
    (hlist : flist' i = l') (hfolder : disk' i = some files') :
    FolderRead flist disk flist' disk' i where
  entries := by
    rw [hlist, hfiles]
    exact entries_readEntries h
  pruned := by
    rw [hfolder, hfiles]
    exact pruned_readEntries h

theorem readFolders_spec (his : is.Pairwise (· < ·))
    (h : readFolders is flist disk = some (flist', disk')) :
    (∀ i ∈ is, FolderRead flist disk flist' disk' i) ∧
      ∀ i ∉ is, flist' i = flist i ∧ disk' i = disk i := by
  induction is generalizing flist disk with
  | nil =>
      cases h
      exact ⟨by simp, fun i _ => ⟨rfl, rfl⟩⟩
  | cons i is ih =>
      obtain ⟨hlt, his⟩ := List.pairwise_cons.mp his
      have hi : i ∉ is := fun hi => (hlt i hi).ne rfl
      rw [readFolders] at h
      split at h
      case h_1 hnone =>
        obtain ⟨hread, hsame⟩ := ih his h
        refine ⟨List.forall_mem_cons.mpr ⟨?_, hread⟩, fun j hj => hsame j (by simp_all)⟩
        exact folderRead_of_none hnone (hsame i hi).1 (hsame i hi).2
      case h_2 files hfiles =>
        obtain ⟨⟨l, kept⟩, hentries, h⟩ := Option.bind_eq_some_iff.mp h
        obtain ⟨hread, hsame⟩ := ih his h
        have hother : ∀ j, j ≠ i → Function.update flist i l j = flist j ∧
            Function.update disk i (some kept) j = disk j := fun j hj =>
          ⟨Function.update_of_ne hj _ _, Function.update_of_ne hj _ _⟩
        refine ⟨List.forall_mem_cons.mpr ⟨?_, fun j hj => ?_⟩, fun j hj => ?_⟩
        · obtain ⟨hlist, hfolder⟩ := hsame i hi
          rw [Function.update_self] at hlist hfolder
          exact folderRead_of_readEntries hfiles hentries hlist hfolder
        · obtain ⟨hlist, hfolder⟩ := hother j (hlt j hj).ne'
          exact (hread j hj).congr hlist hfolder
        · rw [List.mem_cons, not_or] at hj
          obtain ⟨hlist, hfolder⟩ := hother j hj.1
          exact ⟨(hsame j hj.2).1.trans hlist, (hsame j hj.2).2.trans hfolder⟩

/-- All folders are read unless a full list meets a recording at the front of its folder. -/
theorem readFolders_isSome_iff (his : is.Pairwise (· < ·)) :
    (readFolders is flist disk).isSome ↔ ∀ i ∈ is, ∀ files, disk i = some files →
      (flist i).num = maxFileNum → ∀ e, (scandir files).head? = some e → e.recordTimes = none := by
  induction is generalizing flist disk with
  | nil => simp [readFolders]
  | cons i is ih =>
      obtain ⟨hlt, his⟩ := List.pairwise_cons.mp his
      rw [readFolders, List.forall_mem_cons]
      split
      case h_1 hnone => simp [ih his, hnone]
      case h_2 files hfiles =>
        have hhead : (readEntries (scandir files) (flist i) files).isSome ↔
            ∀ files, disk i = some files → (flist i).num = maxFileNum →
              ∀ e, (scandir files).head? = some e → e.recordTimes = none := by
          simp [readEntries_isSome_iff, hfiles]
        rw [← hhead]
        rcases hentries : readEntries (scandir files) (flist i) files with _ | ⟨l, kept⟩
        · simp
        · rw [Option.bind_some, ih his]
          simp only [Option.isSome_some, true_and]
          refine forall₂_congr fun j hj => ?_
          rw [Function.update_of_ne (hlt j hj).ne', Function.update_of_ne (hlt j hj).ne']

end GokeWebcam.Device
