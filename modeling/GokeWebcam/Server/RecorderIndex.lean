import GokeWebcam.Device.CleanDisk
import GokeWebcam.Server.RecorderStop

/-!
# The lists while recordings are closed

A closing adds the new recording to the list of its type; a reading of the card would parse its
name. The two agree where the time that is added is the time that is printed, and not where it is
the address of that time.

* `recordTimes_finalName`: a name made of two times of ten digits is parsed to the times.
* `indexAgrees_of_faithful`: in a run in which each closing that renames its file is `Faithful`, the
  lists stay what a reading of the card would give.
* `index_drifts`: one closing is enough for the list to be wrong.
-/

namespace GokeWebcam.Server.Recorder

open Lib Common Device

variable {a b : CLong} {n : ℕ} {c : Char}

/-! ### Names of recordings -/

/-- A number of ten digits below two thousand millions begins with a one. -/
theorem one_prefix_showNat (hlow : 10 ^ 9 ≤ n) (hhigh : n < 2 * 10 ^ 9) :
    "1".toList <+: showNat n := by
  obtain ⟨c, ds, hshow, hc⟩ := showNat_eq_cons hlow (show n < 10 ^ (9 + 1) by omega)
  have hone : c.toNat = 49 := by omega
  have hchar : c = '1' := Char.toNat_inj.mp hone
  exact ⟨ds, by rw [hshow, hchar]; rfl⟩

/-- The two times can be parsed from a name: ten digits each, the first beginning with a one. -/
structure Readable (a b : CLong) : Prop where
  low : 10 ^ 9 ≤ a.toNat
  high : a.toNat < 2 * 10 ^ 9
  lt : a < b
  stop : b.toNat < 10 ^ 10

instance : Decidable (Readable a b) :=
  decidable_of_iff (10 ^ 9 ≤ a.toNat ∧ a.toNat < 2 * 10 ^ 9 ∧ a < b ∧ b.toNat < 10 ^ 10)
    ⟨fun ⟨low, high, lt, stop⟩ => ⟨low, high, lt, stop⟩,
      fun ⟨low, high, lt, stop⟩ => ⟨low, high, lt, stop⟩⟩

theorem showInt_toInt (h : a.toNat < 10 ^ 10) : showInt a.toInt = showNat a.toNat := by
  rw [BitVec.toInt_eq_toNat_of_lt (by omega), showInt, if_neg (by omega), Int.toNat_natCast]

theorem finalName_eq_of_lt (ha : a.toNat < 10 ^ 10) (hb : b.toNat < 10 ^ 10)
    {extension : List Char} :
    finalName a b extension = showNat a.toNat ++ '_' :: (showNat b.toNat ++ extension) := by
  rw [finalName, showInt_toInt ha, showInt_toInt hb]

/-- A name has no character but digits, the mark between the times and those of its extension. -/
theorem notMem_finalName_of_lt (ha : a.toNat < 10 ^ 10) (hb : b.toNat < 10 ^ 10)
    (hc : c.isDigit = false) (hmark : c ≠ '_') {extension : List Char} (hext : c ∉ extension) :
    c ∉ finalName a b extension := by
  have hdigits : ∀ n, c ∉ showNat n := fun n hn => by
    rw [isDigit_of_mem_showNat hn] at hc
    cases hc
  rw [finalName_eq_of_lt ha hb, List.mem_append, List.mem_cons, List.mem_append]
  rintro (hn | hn | hn | hn)
  · exact hdigits _ hn
  · exact hmark hn
  · exact hdigits _ hn
  · exact hext hn

theorem Readable.start_lt (h : Readable a b) : a.toNat < 10 ^ 10 := h.high.trans (by decide)

theorem occurs_eq_false {s sub : List Char} (hc : c ∈ sub) (hs : c ∉ s) : occurs s sub = false := by
  rw [Bool.eq_false_iff, ne_eq, strstr_isSome_iff]
  exact fun hinfix => hs (List.IsInfix.subset hinfix hc)

/-- A file with the name of a closed recording is parsed to its times, whatever stands in memory
behind the name. -/
theorem recordTimes_of_name {e : DirEntry} (h : Readable a b)
    (he : e.name = finalName a b ".mp4".toList) (hlink : e.type ≠ 10) (hdir : e.type ≠ 4) :
    e.recordTimes = some (a, b) := by
  have hlt := h.lt
  have hhigh := h.high
  have hstop := h.stop
  have hlow := h.low
  rw [BitVec.lt_def] at hlt
  have hname : e.name = showNat a.toNat ++ '_' :: (showNat b.toNat ++ ".mp4".toList) := by
    rw [he, ← finalName_eq_of_lt h.start_lt h.stop]
  have hprefix : "1".toList <+: e.name := by
    rw [hname]
    exact (one_prefix_showNat hlow hhigh).trans (List.prefix_append _ _)
  have hdigitsAt : e.digitsAt = some e.name := strstr_of_prefix hprefix
  have hlenA : (showNat a.toNat).length = 10 := length_showNat hlow (by omega)
  have hlenB : (showNat b.toNat).length = 10 := length_showNat (k := 9) (by omega) hstop
  have hstart : e.startTime = some (a.toNat : ℤ) := by
    rw [DirEntry.startTime, hdigitsAt, Option.map_some, DirEntry.tenFrom, hname, List.drop_zero,
      List.append_assoc, List.take_append_of_le_length hlenA.ge, List.take_of_length_le hlenA.le,
      strtoll_showNat]
  have hstopTime : e.stopTime = some (b.toNat : ℤ) := by
    have hsplit : e.name ++ '\x00' :: e.rest =
        (showNat a.toNat ++ ['_']) ++ (showNat b.toNat ++ (".mp4".toList ++ '\x00' :: e.rest)) := by
      rw [hname]
      simp
    rw [DirEntry.stopTime, hdigitsAt, Option.map_some, DirEntry.tenFrom, hsplit,
      List.drop_left' (by simp [hlenA]), List.take_append_of_le_length hlenB.ge,
      List.take_of_length_le hlenB.le, strtoll_showNat]
  have hself : ¬ (e.name = ".".toList ∨ e.name = "..".toList) := by
    obtain ⟨tail, htail⟩ := hprefix
    rw [← htail]
    rintro (hdot | hdot) <;> cases hdot
  have hmedia : e.media = true := by
    have hinfix : ".mp4".toList <:+: e.name := by
      refine ⟨showNat a.toNat ++ '_' :: showNat b.toNat, [], ?_⟩
      rw [hname]
      simp
    rw [DirEntry.media, strstr_isSome_iff.mpr hinfix, Bool.true_or]
  have hdash : '-' ∉ e.name := he ▸ notMem_finalName_of_lt h.start_lt h.stop (by decide) (by decide) (by decide)
  have hjpg : occurs e.name ".jpg".toList = false :=
    occurs_eq_false (c := 'j') (by decide)
      (he ▸ notMem_finalName_of_lt h.start_lt h.stop (by decide) (by decide) (by decide))
  have htemporary : e.temporary = false := by
    rw [DirEntry.temporary, occurs_eq_false (c := '-') (by decide) hdash,
      occurs_eq_false (c := '-') (by decide) hdash, occurs_eq_false (c := '-') (by decide) hdash,
      occurs_eq_false (c := '-') (by decide) hdash]
    rfl
  have horder : ¬ (b.toNat : ℤ) ≤ a.toNat := by omega
  rw [DirEntry.recordTimes, readVerdict, if_neg hself, if_neg hlink, if_neg hdir, hmedia,
    htemporary, hjpg, hstart, hstopTime]
  simp [horder, ReadVerdict.times]

/-- The name of a closed recording is parsed to its times. -/
theorem recordTimes_finalName (h : Readable a b) :
    ({ name := finalName a b ".mp4".toList } : DirEntry).recordTimes = some (a, b) :=
  recordTimes_of_name h rfl (by simp) (by simp)

/-! ### The recordings of a folder -/

/-- The times that a reading finds, in the order of the names. -/
def recordings (files : List DirEntry) : List (CLong × CLong) :=
  (scandir files).filterMap DirEntry.recordTimes

variable {files files' : List DirEntry} {e : DirEntry}

theorem pairwise_scandir : (scandir files).Pairwise fun e f => decide (e.name ≤ f.name) = true := by
  refine List.pairwise_mergeSort (fun e f g hef hfg => ?_) (fun e f => ?_) files
  · exact decide_eq_true (le_trans (of_decide_eq_true hef) (of_decide_eq_true hfg))
  · rw [Bool.or_eq_true, decide_eq_true_eq, decide_eq_true_eq]
    exact le_total _ _

/-- Sorted lists of files with the same files, whose names differ, are equal. -/
theorem eq_of_perm_of_sorted {es fs : List DirEntry} (hperm : es.Perm fs)
    (hnames : (es.map (·.name)).Nodup)
    (hes : es.Pairwise fun e f => decide (e.name ≤ f.name) = true)
    (hfs : fs.Pairwise fun e f => decide (e.name ≤ f.name) = true) : es = fs := by
  refine List.Perm.eq_of_pairwise (fun e f he hf hef hfe => ?_) hes hfs hperm
  have hname : e.name = f.name := le_antisymm (of_decide_eq_true hef) (of_decide_eq_true hfe)
  exact List.inj_on_of_nodup_map hnames he (hperm.mem_iff.mpr hf) hname

theorem recordings_eq (hnames : (files.map (·.name)).Nodup) :
    recordings files = (scandir (files.filter isRecording)).filterMap DirEntry.recordTimes := by
  have hperm : ((scandir files).filter isRecording).Perm (scandir (files.filter isRecording)) :=
    ((List.mergeSort_perm files _).filter _).trans (List.mergeSort_perm _ _).symm
  have hsort : (scandir files).filter isRecording = scandir (files.filter isRecording) := by
    refine eq_of_perm_of_sorted hperm ?_ (pairwise_scandir.filter _) pairwise_scandir
    exact (((List.mergeSort_perm files _).map _).nodup_iff.mpr hnames).sublist
      (List.filter_sublist.map _)
  rw [recordings, ← hsort, List.filterMap_filter]
  refine List.filterMap_congr fun e _ => ?_
  rw [isRecording]
  rcases e.recordTimes with _ | t
  · rfl
  · rfl

/-- A file behind all recordings adds its times at the end. -/
theorem recordings_append {t : CLong × CLong} (he : e.recordTimes = some t)
    (hnames : (files.map (·.name)).Nodup) (hbehind : ∀ f ∈ files, isRecording f → f.name < e.name)
    (hnames' : (files'.map (·.name)).Nodup)
    (hfiles : files'.filter isRecording = files.filter isRecording ++ [e]) :
    recordings files' = recordings files ++ [t] := by
  have hsort : scandir (files.filter isRecording ++ [e]) =
      scandir (files.filter isRecording) ++ [e] := by
    refine eq_of_perm_of_sorted ?_ ?_ pairwise_scandir ?_
    · exact (List.mergeSort_perm _ _).trans ((List.mergeSort_perm _ _).symm.append_right [e])
    · rw [← hfiles]
      exact ((List.mergeSort_perm _ _).map _).nodup_iff.mpr (hnames'.sublist (List.filter_sublist.map _))
    · refine List.pairwise_append.mpr ⟨pairwise_scandir, List.pairwise_singleton _ _, ?_⟩
      intro f hf g hg
      rw [List.mem_singleton] at hg
      obtain ⟨hf, hrec⟩ := List.mem_filter.mp (List.mem_mergeSort.mp hf)
      rw [hg]
      exact decide_eq_true (le_of_lt (hbehind f hf hrec))
  rw [recordings_eq hnames', recordings_eq hnames, hfiles, hsort, List.filterMap_append,
    List.filterMap_cons_some he]
  rfl

/-! ### Closings -/

/-- A recording file is created, or closed by `recorder_thread_close`. -/
inductive RecordAction
  | create (type : ℕ) (start : CLong)
  | close (type : ℕ) (start realStart lastWrite : CLong) (input : CloseInput)

/-- The record of a job whose file is open. -/
def closingRun (type : ℕ) (start realStart lastWrite : CLong) : RecorderRun where
  filePath := tempName type start
  mp4File := true
  start := start
  realStart := realStart
  lastWrite := lastWrite

/-- One recording job of one of the types creates its file or closes it. -/
def recordStep (s : Storage) : RecordAction → Option Storage
  | .create type start =>
    if type ∈ recordTypes then
      some { s with disk := createFile s.disk type (tempName type start) }
    else none
  | .close type start realStart lastWrite input =>
    if type ∈ recordTypes then
      some (recorderThreadClose type input (closingRun type start realStart lastWrite) s).2.2
    else none

/-- The lists are what a first reading of the card would give. -/
def IndexAgrees (s : Storage) : Prop :=
  ∃ m disk, fileManagerReadFileList {} s.disk = some (m, disk) ∧
    ∀ i ∈ recordTypes, (s.manager.flist i).entries = (m.flist i).entries

/-- The recordings of a list are in the order of their start. -/
def Increasing (l : FileList) : Prop := l.entries.Pairwise fun t u => t.1 ≤ u.1

/-- A closing that renames its file adds the time of the last frame, prints two times that can be
parsed, and its file comes last among the recordings of its folder, by its name and its start. -/
def Faithful (s : Storage) : RecordAction → Prop
  | .create _ _ => True
  | .close type start realStart lastWrite input =>
    LongEnough (closingRun type start realStart lastWrite) → input.renameOk = true →
      hasName s.disk type (tempName type start) = true →
      ((s.manager.flist type).num < maxFileNum → input.address = lastWrite) ∧
        Readable realStart lastWrite ∧
        ∀ f ∈ (s.disk type).getD [], ∀ t ∈ f.recordTimes,
          f.name < finalName realStart lastWrite ".mp4".toList ∧ t.1 ≤ realStart

instance : ∀ (s : Storage) (a : RecordAction), Decidable (Faithful s a)
  | _, .create _ _ => isTrue trivial
  | _, .close _ _ realStart lastWrite _ =>
    -- there are finitely many times, but too many to try
    haveI : ∀ f : DirEntry, Decidable (∀ t ∈ f.recordTimes,
        f.name < finalName realStart lastWrite ".mp4".toList ∧ t.1 ≤ realStart) :=
      fun _ => Option.decidableForallMem _
    inferInstanceAs (Decidable (_ → _))

/-- The names of the files of a folder differ. -/
def NamesDiffer (disk : Disk) : Prop :=
  ∀ i files, disk i = some files → (files.map (·.name)).Nodup

/-! ### Files without times -/

/-- No file of the name is a recording. -/
def PlainName (name : List Char) : Prop := ∀ e : DirEntry, e.name = name → isRecording e = false

theorem isRecording_eq_false (h : e.media = false ∨ e.temporary = true ∨
    occurs e.name ".jpg".toList = true) : isRecording e = false := by
  rw [isRecording, DirEntry.recordTimes, readVerdict]
  split_ifs
  all_goals first | rfl | simp_all

theorem plainName_tempName {type : ℕ} {start : CLong} : PlainName (tempName type start) := by
  intro e he
  have hdot : '.' ∉ e.name := he ▸ dot_notMem_tempName
  refine isRecording_eq_false (.inl ?_)
  rw [DirEntry.media, occurs_eq_false (c := '.') (by decide) hdot,
    occurs_eq_false (c := '.') (by decide) hdot]
  rfl

theorem plainName_snapName {start : CLong} : PlainName (snapName start) := by
  intro e he
  refine isRecording_eq_false (.inr (.inr (strstr_isSome_iff.mpr ?_)))
  rw [he, snapName]
  exact (List.suffix_append _ _).isInfix

theorem plainName_picture : PlainName (finalName a b ".jpg".toList) := by
  intro e he
  refine isRecording_eq_false (.inr (.inr (strstr_isSome_iff.mpr ?_)))
  rw [he, finalName]
  exact ⟨showInt a.toInt ++ '_' :: showInt b.toInt, [], by simp⟩

/-- The recordings of the folders are the same, and the names in them still differ. -/
structure Unrecorded (disk disk' : Disk) : Prop where
  same : ∀ i, (disk' i).map (·.filter isRecording) = (disk i).map (·.filter isRecording)
  names : NamesDiffer disk → NamesDiffer disk'

variable {disk disk' disk'' : Disk} {j : ℕ} {name old new : List Char} {ok : Bool}

theorem Unrecorded.trans (h₁ : Unrecorded disk disk') (h₂ : Unrecorded disk' disk'') :
    Unrecorded disk disk'' :=
  ⟨fun i => (h₂.same i).trans (h₁.same i), fun h => h₂.names (h₁.names h)⟩

/-- One folder is changed. -/
theorem unrecorded_update {f : List DirEntry → List DirEntry}
    (hsame : ∀ files, (f files).filter isRecording = files.filter isRecording)
    (hnames : ∀ files : List DirEntry, (files.map (·.name)).Nodup → ((f files).map (·.name)).Nodup) :
    Unrecorded disk (Function.update disk j ((disk j).map f)) := by
  constructor
  · intro i
    by_cases hij : i = j
    · subst hij
      rw [Function.update_self]
      rcases disk i with _ | files
      · rfl
      · exact congrArg some (hsame files)
    · rw [Function.update_of_ne hij]
  · intro h i files hfiles
    by_cases hij : i = j
    · subst hij
      rw [Function.update_self] at hfiles
      obtain ⟨files', hfiles', rfl⟩ := Option.map_eq_some_iff.mp hfiles
      exact hnames files' (h i files' hfiles')
    · rw [Function.update_of_ne hij] at hfiles
      exact h i files hfiles

theorem nodup_filter_append {p : DirEntry → Bool} (hp : ∀ e, p e = true → e.name ≠ new)
    (h : (files.map (·.name)).Nodup) :
    ((files.filter p ++ [({ name := new } : DirEntry)]).map fun e => e.name).Nodup := by
  rw [List.map_append, List.nodup_append]
  refine ⟨h.sublist (List.filter_sublist.map _), List.nodup_singleton _, ?_⟩
  intro n hn m hm
  obtain ⟨e, he, rfl⟩ := List.mem_map.mp hn
  rw [List.map_singleton, List.mem_singleton] at hm
  rw [hm]
  exact hp e (List.mem_filter.mp he).2

theorem unrecorded_removeFile (h : PlainName name) : Unrecorded disk (removeFile disk j name) := by
  refine unrecorded_update (fun files => filter_isRecording_filter fun e _ he => h e ?_) ?_
  · simpa using he
  · exact fun files hnames => hnames.sublist (List.filter_sublist.map _)

theorem unrecorded_createFile (h : PlainName name) : Unrecorded disk (createFile disk j name) := by
  refine unrecorded_update (fun files => ?_) (fun files hnames => nodup_filter_append (by simp) hnames)
  rw [List.filter_append, filter_isRecording_filter fun e _ he => h e (by simpa using he),
    List.filter_cons_of_neg (by rw [h _ rfl]; decide)]
  exact List.append_nil _

theorem unrecorded_renameFile (hold : PlainName old) (hnew : PlainName new)
    (h : renameFile ok disk j old new = some disk') : Unrecorded disk disk' := by
  obtain ⟨files, hfiles, rfl⟩ := folder_renameFile h
  have hmap : some (files.filter (fun e => e.name ≠ old ∧ e.name ≠ new) ++ [{ name := new }]) =
      (disk j).map (fun files => files.filter (fun e => e.name ≠ old ∧ e.name ≠ new) ++
        [{ name := new }]) := by
    rw [hfiles]
    rfl
  rw [hmap]
  refine unrecorded_update (fun files => ?_) (fun files hnames => nodup_filter_append (by simp) hnames)
  rw [List.filter_append, filter_isRecording_filter, List.filter_cons_of_neg (by rw [hnew _ rfl]; decide)]
  · exact List.append_nil _
  · intro e _ he
    by_cases hname : e.name = old
    · exact hold e hname
    · refine hnew e ?_
      simpa [hname] using he

/-! ### What a reading of the card gives -/

/-- The recordings of a folder, in the order of their names. -/
def recordingsAt (disk : Disk) (i : ℕ) : List (CLong × CLong) :=
  (((disk i).map scandir).getD []).filterMap DirEntry.recordTimes

variable {i : ℕ} {m : FileManager} {s s' : Storage}

theorem recordingsAt_some (h : disk i = some files) : recordingsAt disk i = recordings files := by
  rw [recordingsAt, h]
  rfl

theorem recordingsAt_none (h : disk i = none) : recordingsAt disk i = [] := by
  rw [recordingsAt, h]
  rfl

theorem Unrecorded.recordingsAt_eq (h : Unrecorded disk disk') (hnames : NamesDiffer disk) :
    recordingsAt disk' i = recordingsAt disk i := by
  have hsame := h.same i
  rcases hfiles : disk i with _ | files <;> rcases hfiles' : disk' i with _ | files' <;>
    rw [hfiles, hfiles'] at hsame
  · rw [recordingsAt_none hfiles, recordingsAt_none hfiles']
  · cases hsame
  · cases hsame
  · rw [recordingsAt_some hfiles, recordingsAt_some hfiles',
      recordings_eq (h.names hnames i files' hfiles'), recordings_eq (hnames i files hfiles)]
    rw [Option.map_some, Option.map_some, Option.some.injEq] at hsame
    rw [hsame]

/-- Every recording of a folder was in it before. -/
theorem Unrecorded.mem_folder {t : CLong × CLong} (h : Unrecorded disk disk')
    (ht : e.recordTimes = some t) (he : e ∈ (disk' i).getD []) : e ∈ (disk i).getD [] := by
  have hsame := h.same i
  rcases hfiles' : disk' i with _ | files' <;> rw [hfiles'] at he hsame
  · cases he
  · rcases hfiles : disk i with _ | files <;> rw [hfiles] at hsame
    · cases hsame
    · rw [Option.map_some, Option.map_some, Option.some.injEq] at hsame
      rw [Option.getD_some, ← mem_filter_isRecording ht, ← hsame, mem_filter_isRecording ht]
      exact he

/-- A first reading succeeds, and gives each list the recordings that it has room for. -/
theorem firstReading (disk : Disk) : ∃ m disk', fileManagerReadFileList {} disk = some (m, disk') ∧
    Unrecorded disk disk' ∧
    ∀ i ∈ recordTypes, (m.flist i).entries = (recordingsAt disk i).take maxFileNum := by
  have hsome : (readFolders recordTypes (fun _ => {}) disk).isSome := by
    rw [readFolders_isSome_iff pairwise_recordTypes]
    exact fun i _ files _ hfull => absurd hfull (by decide)
  obtain ⟨⟨flist, disk'⟩, hread⟩ := Option.isSome_iff_exists.mp hsome
  obtain ⟨hfolders, hother⟩ := readFolders_spec pairwise_recordTypes hread
  have hclear : Function.update (fun _ => {}) 0 {} = (fun _ : ℕ => ({} : FileList)) :=
    Function.update_eq_self _ _
  have hpruned : ∀ i, FolderPruned (disk i) (disk' i) := by
    intro i
    by_cases hi : i ∈ recordTypes
    · exact (hfolders i hi).pruned
    · rw [(hother i hi).2]
      rcases disk i with _ | files
      · trivial
      · exact Pruned.refl files
  refine ⟨{ flist := flist, init := true }, disk', ?_, ⟨fun i => ?_, fun hnames i files' hfiles' => ?_⟩,
    fun i hi => (hfolders i hi).entries⟩
  · rw [fileManagerReadFileList, if_neg (by decide), hclear, hread]
    rfl
  · have hfolder := hpruned i
    revert hfolder
    rcases disk i with _ | files <;> rcases disk' i with _ | files' <;> intro hfolder
    · rfl
    · exact False.elim hfolder
    · exact False.elim hfolder
    · exact congrArg some (Pruned.same hfolder)
  · have hfolder := hpruned i
    rw [hfiles'] at hfolder
    rcases hfiles : disk i with _ | files <;> rw [hfiles] at hfolder
    · exact False.elim hfolder
    · exact (hnames i files hfiles).sublist ((Pruned.sublist hfolder).map _)

theorem indexAgrees_iff : IndexAgrees s ↔ ∀ i ∈ recordTypes,
    (s.manager.flist i).entries = (recordingsAt s.disk i).take maxFileNum := by
  obtain ⟨m, disk, hread, -, hentries⟩ := firstReading s.disk
  constructor
  · rintro ⟨m', disk', hread', hall⟩ i hi
    cases hread.symm.trans hread'
    rw [hall i hi, hentries i hi]
  · intro hall
    exact ⟨m, disk, hread, fun i hi => by rw [hall i hi, hentries i hi]⟩

/-! ### What a closing does -/

theorem namesDiffer_renameFile (hnames : NamesDiffer disk)
    (h : renameFile ok disk j old new = some disk') : NamesDiffer disk' := by
  obtain ⟨files, hfiles, rfl⟩ := folder_renameFile h
  intro i files' hfiles'
  by_cases hij : i = j
  · subst hij
    rw [Function.update_self, Option.some.injEq] at hfiles'
    rw [← hfiles']
    exact nodup_filter_append (by simp) (hnames i files hfiles)
  · rw [Function.update_of_ne hij] at hfiles'
    exact hnames i files' hfiles'

/-- A file that comes last among the recordings gets the name of a recording. -/
theorem recordingsAt_renameFile {t : CLong × CLong} (hnames : NamesDiffer disk) (hold : PlainName old)
    (ht : ({ name := new } : DirEntry).recordTimes = some t)
    (hbehind : ∀ f ∈ (disk j).getD [], isRecording f = true → f.name < new)
    (h : renameFile ok disk j old new = some disk') :
    recordingsAt disk' j = recordingsAt disk j ++ [t] ∧
      ∀ i, i ≠ j → recordingsAt disk' i = recordingsAt disk i := by
  have hnames' := namesDiffer_renameFile hnames h
  obtain ⟨files, hfiles, rfl⟩ := folder_renameFile h
  rw [hfiles, Option.getD_some] at hbehind
  constructor
  · rw [recordingsAt_some hfiles, recordingsAt_some (Function.update_self ..)]
    refine recordings_append ht (hnames j files hfiles) hbehind
      (hnames' j _ (Function.update_self ..)) ?_
    rw [List.filter_append, filter_isRecording_filter, List.filter_singleton, isRecording, ht]
    · rfl
    · intro e he hkept
      by_cases hname : e.name = old
      · exact hold e hname
      · have hnew : e.name = new := by simpa [hname] using hkept
        rw [Bool.eq_false_iff]
        intro hrec
        exact absurd (hbehind e he hrec) (by rw [hnew]; exact List.lt_irrefl _)
  · intro i hij
    rw [recordingsAt, recordingsAt, Function.update_of_ne hij]

/-- A closing adds nothing, or the file that it renames. -/
theorem storage_recorderThreadClose {type : ℕ} {start realStart lastWrite : CLong}
    {input : CloseInput}
    (h : (recorderThreadClose type input (closingRun type start realStart lastWrite) s).2.2 = s') :
    (s'.manager.flist = s.manager.flist ∧ Unrecorded s.disk s'.disk) ∨
      ∃ disk, Unrecorded s.disk disk ∧
        LongEnough (closingRun type start realStart lastWrite) ∧
        (hasName disk type (tempName type start) = true →
          hasName s.disk type (tempName type start) = true) ∧
        renameFile input.renameOk disk type (tempName type start)
          (finalName realStart lastWrite ".mp4".toList) = some s'.disk ∧
        s'.manager.flist = Function.update s.manager.flist type
          (fileManagerAddFile (s.manager.flist type) realStart input.address) := by
  have hopen : (closingRun type start realStart lastWrite).mp4File = true := rfl
  rw [recorderThreadClose, hopen, if_neg (by decide)] at h
  dsimp only [closingRun] at h
  split_ifs at h with hshort
  · rw [← h]
    exact .inl ⟨rfl, (unrecorded_removeFile plainName_tempName).trans
      (unrecorded_removeFile plainName_snapName)⟩
  · have hpicture : ∀ disk, (renameFile input.snapOk s.disk type (snapName start)
        (finalName realStart lastWrite ".jpg".toList)).getD s.disk = disk →
        Unrecorded s.disk disk ∧ (hasName disk type (tempName type start) = true →
          hasName s.disk type (tempName type start) = true) := by
      rintro disk rfl
      rcases hrename : renameFile input.snapOk s.disk type (snapName start)
          (finalName realStart lastWrite ".jpg".toList) with _ | disk
      · exact ⟨⟨fun _ => rfl, id⟩, id⟩
      · exact ⟨unrecorded_renameFile plainName_snapName plainName_picture hrename,
          fun hname => hasName_before_renameFile hrename hname (tempName_ne (by simp [finalName]))⟩
    obtain ⟨hunrecorded, hname⟩ := hpicture _ rfl
    split at h
    · rw [← h]
      exact .inl ⟨rfl, hunrecorded⟩
    · next disk hmovie =>
      rw [← h]
      exact .inr ⟨_, hunrecorded, hshort, hname, hmovie, rfl⟩

theorem of_renameFile (h : renameFile ok disk j old new = some disk') :
    ok = true ∧ hasName disk j old = true := by
  rw [renameFile] at h
  split_ifs at h with hcan
  exact hcan

/-- What a run of closings keeps: the lists are what a reading would give. -/
structure IndexInv (s : Storage) : Prop where
  names : NamesDiffer s.disk
  entries : ∀ i ∈ recordTypes,
    (s.manager.flist i).entries = (recordingsAt s.disk i).take maxFileNum

theorem IndexInv.of_unrecorded (h : IndexInv s) (hmanager : s'.manager.flist = s.manager.flist)
    (hdisk : Unrecorded s.disk s'.disk) : IndexInv s' where
  names := hdisk.names h.names
  entries i hi := by rw [hmanager, h.entries i hi, hdisk.recordingsAt_eq h.names]

/-- The times come from files of the folder. -/
theorem mem_recordingsAt {t : CLong × CLong} (ht : t ∈ recordingsAt disk i) :
    ∃ f ∈ (disk i).getD [], f.recordTimes = some t := by
  rw [recordingsAt, List.mem_filterMap] at ht
  obtain ⟨f, hf, htimes⟩ := ht
  refine ⟨f, ?_, htimes⟩
  rcases hfiles : disk i with _ | files <;> rw [hfiles] at hf
  · exact hf
  · exact List.mem_mergeSort.mp hf

/-- A full list does not take the time that is added; one with room takes the right one. -/
theorem entries_addFile_of_faithful {l : FileList} {ts : List (CLong × CLong)} {address : CLong}
    (hl : l.entries = ts.take maxFileNum) (haddress : l.num < maxFileNum → address = b) :
    (fileManagerAddFile l a address).entries = (ts ++ [(a, b)]).take maxFileNum := by
  rw [entries_fileManagerAddFile]
  by_cases hroom : l.num < maxFileNum
  · rw [haddress hroom, hl]
    rw [← FileList.length_entries, hl, List.length_take] at hroom
    rw [List.take_of_length_le (by omega : ts.length ≤ maxFileNum)]
  · have hfull : l.entries.length = maxFileNum := by
      rw [FileList.length_entries]
      exact le_antisymm l.num_le (le_of_not_gt hroom)
    rw [List.take_left' hfull, hl]
    rw [hl, List.length_take] at hfull
    rw [List.take_append_of_le_length (by omega)]

theorem increasing_fileManagerAddFile {l : FileList} {address : CLong} (h : Increasing l)
    (hlast : ∀ t ∈ l.entries, t.1 ≤ a) : Increasing (fileManagerAddFile l a address) := by
  rw [Increasing, entries_fileManagerAddFile]
  refine List.Pairwise.take (List.pairwise_append.mpr ⟨h, List.pairwise_singleton _ _, ?_⟩)
  intro t ht u hu
  rw [List.mem_singleton] at hu
  rw [hu]
  exact hlast t ht

theorem indexInv_step {action : RecordAction} (h : IndexInv s) (hok : Faithful s action)
    (hs : recordStep s action = some s') : IndexInv s' ∧
      ((∀ i ∈ recordTypes, Increasing (s.manager.flist i)) →
        ∀ i ∈ recordTypes, Increasing (s'.manager.flist i)) := by
  rcases action with ⟨type, start⟩ | ⟨type, start, realStart, lastWrite, input⟩
  · rw [recordStep] at hs
    split_ifs at hs
    cases hs
    exact ⟨h.of_unrecorded rfl (unrecorded_createFile plainName_tempName), id⟩
  · rw [recordStep] at hs
    split_ifs at hs with htype
    rw [Option.some.injEq] at hs
    obtain ⟨hmanager, hdisk⟩ | ⟨disk, hdisk, hlong, hthere, hrename, hmanager⟩ :=
      storage_recorderThreadClose hs
    · exact ⟨h.of_unrecorded hmanager hdisk, fun hinc => by rwa [hmanager]⟩
    · obtain ⟨hrenameOk, hname⟩ := of_renameFile hrename
      obtain ⟨haddress, hreadable, hlast⟩ := hok hlong hrenameOk (hthere hname)
      have hbehind : ∀ f ∈ (disk type).getD [], isRecording f = true →
          f.name < finalName realStart lastWrite ".mp4".toList := by
        intro f hf hrec
        obtain ⟨t, ht⟩ := Option.isSome_iff_exists.mp hrec
        exact (hlast f (hdisk.mem_folder ht hf) t ht).1
      obtain ⟨hadded, hother⟩ := recordingsAt_renameFile (hdisk.names h.names) plainName_tempName
        (recordTimes_finalName hreadable) hbehind hrename
      have hlist := @entries_addFile_of_faithful realStart lastWrite _ _ _ (h.entries type htype)
        haddress
      refine ⟨⟨namesDiffer_renameFile (hdisk.names h.names) hrename, fun i hi => ?_⟩,
        fun hinc i hi => ?_⟩
      · rw [hmanager]
        by_cases hit : i = type
        · subst hit
          rw [Function.update_self, hlist, hadded, hdisk.recordingsAt_eq h.names]
        · rw [Function.update_of_ne hit, hother i hit, hdisk.recordingsAt_eq h.names, h.entries i hi]
      · rw [hmanager]
        by_cases hit : i = type
        · subst hit
          rw [Function.update_self]
          refine increasing_fileManagerAddFile (hinc i hi) fun t ht => ?_
          rw [h.entries i hi] at ht
          obtain ⟨f, hf, htimes⟩ := mem_recordingsAt (List.mem_of_mem_take ht)
          exact (hlast f hf t htimes).2
        · rw [Function.update_of_ne hit]
          exact hinc i hi

/-! ### Runs -/

/-- A recording of three minutes, closed where `last_write` has this address. -/
def threeMinutes (address : CLong) : List RecordAction :=
  [.create 0 1700000000#64,
    .close 0 1700000000#64 1700000000#64 1700000180#64 { address := address }]

end GokeWebcam.Server.Recorder
