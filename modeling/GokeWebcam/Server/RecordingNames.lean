import GokeWebcam.Server.PlayerSamples
import GokeWebcam.Server.RecorderIndex

/-!
# The names of the recordings

The name of a recording is printed by the recorder when it closes the file, read at the next start of
the device, printed again for the cloud that asks for the recordings of a day, and read from the
cloud's request to play one of them.

* `readBack_iff`: the reading at the start gives the times that were printed iff the first of them
  begins with a one.
* `farRecording_removed`: a recording of the year 2033 is removed instead.
* `playsBack_iff`: the cloud's request for a recording plays its file iff it is one of the plan, and its
  name is the one that is printed.
* `alarm_notPlayed`: a request for a recording of an alarm looks for it in the folder of the plan.
-/

namespace GokeWebcam.Server.Recorder

open Lib Common Device

/-! ### Reading at the start -/

/-- A type of recording, and two times of ten digits in their order. -/
structure Recording where
  type : ℕ
  start : CLong
  stop : CLong
  type_mem : type ∈ recordTypes
  start_low : 10 ^ 9 ≤ start.toNat
  lt : start < stop
  stop_high : stop.toNat < 10 ^ 10

/-- Whatever else is on the card, the file of the recording stays there when the card is read, its name
gives its times, and they are in the list unless the list is full. -/
def ReadBack (recording : Recording) : Prop :=
  ∀ (disk : Disk) (e : DirEntry), e ∈ (disk recording.type).getD [] →
    e.name = finalName recording.start recording.stop ".mp4".toList → e.type ≠ 10 → e.type ≠ 4 →
      e.recordTimes = some (recording.start, recording.stop) ∧
        ∃ m disk', fileManagerReadFileList {} disk = some (m, disk') ∧
          e ∈ (disk' recording.type).getD [] ∧
          ((m.flist recording.type).num < maxFileNum →
            (recording.start, recording.stop) ∈ (m.flist recording.type).entries)

variable {recording : Recording} {disk disk' : Disk} {e : DirEntry} {start stop : CLong} {i : ℕ}

/-- A start time that is read begins with a one. -/
theorem startTime_lt {v : ℤ} (h : e.startTime = some v) : v < 2 * 10 ^ 9 := by
  rw [DirEntry.startTime, Option.map_eq_some_iff] at h
  obtain ⟨p, hp, rfl⟩ := h
  obtain ⟨⟨tail, rfl⟩, -⟩ := prefix_of_strstr hp
  have hten : e.tenFrom ("1".toList ++ tail) 0 = '1' :: (tail ++ '\x00' :: e.rest).take 9 := rfl
  have hlt : leadingDigits ('1' :: (tail ++ '\x00' :: e.rest).take 9) < 2 * 10 ^ 9 :=
    leadingDigits_one_lt (List.length_take_le _ _)
  rw [hten, strtoll_cons (by decide)]
  exact_mod_cast hlt

/-- So the times that are read are not far in the future. -/
theorem recordTimes_lt (h : e.recordTimes = some (start, stop)) : start.toNat < 2 * 10 ^ 9 := by
  rw [DirEntry.recordTimes, readVerdict] at h
  split_ifs at h
  all_goals try cases h
  rcases hstart : e.startTime with _ | v
  · rw [hstart] at h
    cases h
  · rcases hstop : e.stopTime with _ | w
    · rw [hstart, hstop] at h
      cases h
    · rw [hstart, hstop] at h
      dsimp only at h
      split_ifs at h
      · cases h
      · cases h
        obtain ⟨hlow, -⟩ := DirEntry.startTime_nonneg hstart
        have hhigh := startTime_lt hstart
        rw [BitVec.toNat_ofInt]
        omega

/-- A recording stays in its folder. -/
theorem Unrecorded.mem_of_recording (h : Unrecorded disk disk')
    (ht : e.recordTimes = some (start, stop)) (he : e ∈ (disk i).getD []) :
    e ∈ (disk' i).getD [] := by
  have hsame := h.same i
  rcases hfiles : disk i with _ | files <;> rw [hfiles] at he hsame
  · cases he
  · rcases hfiles' : disk' i with _ | files' <;> rw [hfiles'] at hsame
    · cases hsame
    · rw [Option.map_some, Option.map_some, Option.some.injEq] at hsame
      rw [Option.getD_some] at he ⊢
      rwa [← mem_filter_isRecording ht, hsame, mem_filter_isRecording ht]

theorem readBack_of_lt (h : recording.start.toNat < 2 * 10 ^ 9) : ReadBack recording := by
  intro disk e he hname hlink hdir
  have hreadable : Readable recording.start recording.stop :=
    ⟨recording.start_low, h, recording.lt, recording.stop_high⟩
  have htimes := recordTimes_of_name hreadable hname hlink hdir
  obtain ⟨m, disk', hread, hunrecorded, hentries⟩ := firstReading disk
  refine ⟨htimes, m, disk', hread, hunrecorded.mem_of_recording htimes he, fun hroom => ?_⟩
  rw [← FileList.length_entries, hentries _ recording.type_mem, List.length_take] at hroom
  rw [hentries _ recording.type_mem, List.take_of_length_le (by omega), recordingsAt,
    List.mem_filterMap]
  refine ⟨e, ?_, htimes⟩
  rcases hfiles : disk recording.type with _ | files <;> rw [hfiles] at he
  · cases he
  · exact List.mem_mergeSort.mpr he

theorem lt_of_readBack (h : ReadBack recording) : recording.start.toNat < 2 * 10 ^ 9 := by
  obtain ⟨htimes, -⟩ := h
    (fun _ => some [{ name := finalName recording.start recording.stop ".mp4".toList }])
    { name := finalName recording.start recording.stop ".mp4".toList }
    (List.mem_singleton_self _) rfl (by simp) (by simp)
  exact recordTimes_lt htimes

/-- Three minutes of the eighteenth of May 2033. -/
def farRecording : Recording where
  type := 0
  start := 2000000000#64
  stop := 2000000180#64
  type_mem := by decide
  start_low := by decide
  lt := by decide
  stop_high := by decide

/-- Source: `server/manager/config.c` `media_directory` -/
def mediaDirectory : List Char := "/mnt/sdcard/media/".toList

/-- The path of a file.
Source: `server/device/file_manager.c` `file_manager_read_file_list` -/
def filePath (type : ℕ) (name : List Char) : List Char :=
  mediaDirectory ++ (folderPrefix type ++ '/' :: name)

/-- What the cloud is told of a recording, without the size of its file.
Source: `library_goke/aliyun/linkvisual/link_visual_struct.h` `lv_query_record_response_day` -/
structure RecordDay where
  fileName : List Char
  startTime : BitVec 32
  stopTime : BitVec 32
  recordType : ℕ
  deriving DecidableEq, Repr

/-- Source: `library_goke/aliyun/linkvisual/link_visual_enum.h` `LV_STORAGE_RECORD_ANY` -/
def lvStorageRecordAny : ℕ := 99

/-- Source: `server/device/file_manager.c` `file_manager_get_file_by_day`, the last loop -/
def recordDay (type : ℕ) (start stop : CLong) : RecordDay where
  fileName := filePath type (finalName start stop ".mp4".toList)
  startTime := start.setWidth 32
  stopTime := stop.setWidth 32
  recordType := type

/-- The entries that begin and end in the time asked for. -/
def dayEntries (m : FileManager) (type : ℕ) (srStart srStop : CLong) : List (ℕ × CLong × CLong) :=
  (if type = lvStorageRecordAny then recordTypes else [type]).flatMap fun j =>
    ((m.flist j).entries.filter fun t => decide (srStart ≤ t.1) && decide (t.2 ≤ srStop)).map (j, ·)

/-- The answer, which has no more recordings than asked for; `none` where the lists are not there.
Source: `server/device/file_manager.c` `file_manager_get_file_by_day` -/
def fileManagerGetFileByDay (m : FileManager) (type number : ℕ) (srStart srStop : CLong) :
    Option (List RecordDay) :=
  if m.init then
    some (((dayEntries m type srStart srStop).take number).map fun t => recordDay t.1 t.2.1 t.2.2)
  else none

/-! ### Playing a recording -/

/-- A request to play a file.
Source: `server/player/player_interface.h` `player_init_t` -/
structure FileRequest where
  init : Player.Sample.MediaInit
  filename : List Char
  deriving DecidableEq, Repr

/-- The request starts from a record of zeros; without a name there is none.
Source: `server/aliyun/linkvisual_client.c` `start_push_streaming_cb`,
`LV_STREAM_CMD_STORAGE_RECORD_BY_FILE` -/
def startPushStreamingByFile (fileName : List Char) (seekTime : ℕ) : Option FileRequest :=
  if fileName = [] then none
  else some { init := { offset := seekTime % 256 }, filename := fileName }

/-- Ten characters of a name, whose array is filled up with zeros. -/
def tenAt (pos : List Char) : List Char := (pos ++ List.replicate 10 '\x00').take 10

/-- The type whose prefix stands in the name, and the place one character behind it.
Source: `server/device/file_manager.c` `file_manager_search_file`, the `for` loop -/
def searchPrefix (fname : List Char) : List ℕ → Option (ℕ × List Char)
  | [] => none
  | i :: is =>
    match strstr fname (folderPrefix i) with
    | some pos => some (i, pos.drop ((folderPrefix i).length + 1))
    | none => searchPrefix fname is

/-- The list of the one file with the times of the name; `none` where it returns -1.
Source: `server/device/file_manager.c` `file_manager_search_file` -/
def fileManagerSearchFile (m : FileManager) (fname : List Char) : Option (List FileListNode) :=
  (searchPrefix fname recordTypes).bind fun (type, pos) =>
    if (m.flist type).num = 0 then none
    else
      some [⟨BitVec.ofInt 32 (strtoll (tenAt pos)), BitVec.ofInt 32 (strtoll (tenAt (pos.drop 11)))⟩]

/-- An entry of the lists, the file whose name it was read from, and the bounds of its times. -/
structure IndexEntry (m : FileManager) where
  type : ℕ
  start : CLong
  stop : CLong
  file : DirEntry
  init : m.init = true
  type_mem : type ∈ recordTypes
  start_low : 10 ^ 9 ≤ start.toNat
  start_high : start.toNat < 2 ^ 31
  stop_low : 10 ^ 9 ≤ stop.toNat
  stop_high : stop.toNat < 2 ^ 31
  mem : (start, stop) ∈ (m.flist type).entries
  read : file.recordTimes = some (start, stop)

/-- An answer to the cloud has the entry at this place. -/
def Reported (m : FileManager) (entry : IndexEntry m) (day : RecordDay) : Prop :=
  ∃ (type number : ℕ) (srStart srStop : CLong) (days : List RecordDay) (i : ℕ),
    fileManagerGetFileByDay m type number srStart srStop = some days ∧ days[i]? = some day ∧
      (dayEntries m type srStart srStop)[i]? = some (entry.type, entry.start, entry.stop)

/-- The name that is reported for the entry asks for one file, with the times of the entry, and the
player opens the file that the entry was read from. -/
def PlaysBack (m : FileManager) (entry : IndexEntry m) : Prop :=
  (∃ day, Reported m entry day) ∧ ∀ day, Reported m entry day → ∀ seekTime, ∃ request node,
    startPushStreamingByFile day.fileName seekTime = some request ∧
      fileManagerSearchFile m request.filename = some [node] ∧
      node.start.toNat = entry.start.toNat ∧ node.stop.toNat = entry.stop.toNat ∧
      mediaDirectory ++ Player.Sample.playerFilePath request.init.type node =
        filePath entry.type entry.file.name

variable {m : FileManager} {entry : IndexEntry m} {day : RecordDay} {type seekTime : ℕ}
  {name : List Char}

theorem IndexEntry.start_lt (entry : IndexEntry m) : entry.start.toNat < 10 ^ 10 :=
  entry.start_high.trans (by decide)

theorem IndexEntry.stop_lt (entry : IndexEntry m) : entry.stop.toNat < 10 ^ 10 :=
  entry.stop_high.trans (by decide)

/-! ### What is reported -/

/-- What is reported for an entry. -/
theorem eq_of_reported (h : Reported m entry day) :
    day = recordDay entry.type entry.start entry.stop := by
  obtain ⟨type, number, srStart, srStop, days, i, hdays, hday, hentry⟩ := h
  rw [fileManagerGetFileByDay, if_pos entry.init, Option.some.injEq] at hdays
  rw [← hdays, List.getElem?_map, Option.map_eq_some_iff] at hday
  obtain ⟨t, ht, rfl⟩ := hday
  rw [List.getElem?_take] at ht
  split_ifs at ht
  rw [hentry] at ht
  cases ht
  rfl

/-- The entry is reported to who asks for all recordings of its type. -/
theorem reported_recordDay (entry : IndexEntry m) :
    Reported m entry (recordDay entry.type entry.start entry.stop) := by
  have hany : entry.type ≠ lvStorageRecordAny := by
    intro heq
    have hmem := entry.type_mem
    rw [heq] at hmem
    exact absurd hmem (by decide)
  have hmem : (entry.type, entry.start, entry.stop) ∈
      dayEntries m entry.type 0#64 (BitVec.allOnes 64) := by
    rw [dayEntries, if_neg hany, List.flatMap_singleton, List.mem_map]
    refine ⟨_, List.mem_filter.mpr ⟨entry.mem, ?_⟩, rfl⟩
    simp [BitVec.le_def]
    omega
  obtain ⟨i, hi, hget⟩ := List.getElem_of_mem hmem
  refine ⟨entry.type, i + 1, 0#64, BitVec.allOnes 64, _, i, if_pos entry.init, ?_, ?_⟩
  · rw [List.getElem?_map, List.getElem?_take, if_pos i.lt_succ_self, List.getElem?_eq_getElem hi,
      hget]
    rfl
  · rw [List.getElem?_eq_getElem hi, hget]

/-! ### What is looked for -/

theorem strstr_eq_none {c : Char} {s sub : List Char} (hc : c ∈ sub) (hs : c ∉ s) :
    strstr s sub = none :=
  Option.not_isSome_iff_eq_none.mp (Bool.eq_false_iff.mp (occurs_eq_false hc hs))

/-- The type and the name of a file; in a name of a recording there is no prefix. -/
theorem searchPrefix_filePath (htype : type ∈ recordTypes) (hname : 'l' ∉ name) :
    searchPrefix (filePath type name) recordTypes = some (type, name) := by
  have hplan : strstr name (folderPrefix 0) = none := strstr_eq_none (c := 'l') (by decide) hname
  have halarm : strstr name (folderPrefix 1) = none := strstr_eq_none (c := 'l') (by decide) hname
  simp only [recordTypes, List.mem_cons, List.not_mem_nil, or_false] at htype
  rcases htype with rfl | rfl | rfl
  · have hfound : strstr (filePath 0 name) (folderPrefix 0) = some ("plan/".toList ++ name) := rfl
    rw [recordTypes, searchPrefix, hfound]
    rfl
  · have hskip : strstr (filePath 1 name) (folderPrefix 0) = strstr name (folderPrefix 0) := rfl
    have hfound : strstr (filePath 1 name) (folderPrefix 1) = some ("alarm/".toList ++ name) := rfl
    rw [recordTypes, searchPrefix, hskip, hplan]
    dsimp only
    rw [searchPrefix, hfound]
    rfl
  · have hskip : strstr (filePath 2 name) (folderPrefix 0) = strstr name (folderPrefix 0) := rfl
    have hskip' : strstr (filePath 2 name) (folderPrefix 1) = strstr name (folderPrefix 1) := rfl
    have hfound : strstr (filePath 2 name) (folderPrefix 2) = some ("normal/".toList ++ name) := rfl
    rw [recordTypes, searchPrefix, hskip, hplan]
    dsimp only
    rw [searchPrefix, hskip', halarm]
    dsimp only
    rw [searchPrefix, hfound]
    rfl

/-- A number of ten digits at the front of a name. -/
theorem tenAt_showNat {n : ℕ} {rest : List Char} (hlow : 10 ^ 9 ≤ n) (hhigh : n < 10 ^ 10) :
    tenAt (showNat n ++ rest) = showNat n := by
  have hlength : (showNat n).length = 10 := length_showNat hlow hhigh
  rw [tenAt, List.append_assoc, List.take_append_of_le_length hlength.ge,
    List.take_of_length_le hlength.le]

/-- The node of an entry. -/
def IndexEntry.node (entry : IndexEntry m) : FileListNode :=
  ⟨BitVec.ofNat 32 entry.start.toNat, BitVec.ofNat 32 entry.stop.toNat⟩

theorem toNat_ofNat {n : ℕ} (h : n < 2 ^ 31) : (BitVec.ofNat 32 n).toNat = n := by
  rw [BitVec.toNat_ofNat]
  omega

theorem fileManagerSearchFile_entry (entry : IndexEntry m) :
    fileManagerSearchFile m (recordDay entry.type entry.start entry.stop).fileName =
      some [entry.node] := by
  have hname : 'l' ∉ finalName entry.start entry.stop ".mp4".toList :=
    notMem_finalName_of_lt entry.start_lt entry.stop_lt (by decide) (by decide) (by decide)
  have hnum : (m.flist entry.type).num ≠ 0 := by
    rw [← FileList.length_entries, ne_eq, List.length_eq_zero_iff]
    exact List.ne_nil_of_mem entry.mem
  have hlength : (showNat entry.start.toNat).length = 10 :=
    length_showNat entry.start_low entry.start_lt
  have hstart : tenAt (finalName entry.start entry.stop ".mp4".toList) = showNat entry.start.toNat := by
    rw [finalName_eq_of_lt entry.start_lt entry.stop_lt]
    exact tenAt_showNat entry.start_low entry.start_lt
  have hstop : tenAt ((finalName entry.start entry.stop ".mp4".toList).drop 11) =
      showNat entry.stop.toNat := by
    have hsplit : finalName entry.start entry.stop ".mp4".toList =
        (showNat entry.start.toNat ++ ['_']) ++ (showNat entry.stop.toNat ++ ".mp4".toList) := by
      rw [finalName_eq_of_lt entry.start_lt entry.stop_lt]
      simp
    rw [hsplit, List.drop_left' (by simp [hlength])]
    exact tenAt_showNat entry.stop_low entry.stop_lt
  rw [fileManagerSearchFile, recordDay, searchPrefix_filePath entry.type_mem hname, Option.bind_some]
  dsimp only
  rw [if_neg hnum, hstart, hstop, strtoll_showNat, strtoll_showNat, BitVec.ofInt_natCast,
    BitVec.ofInt_natCast, IndexEntry.node]

/-! ### What is opened -/

theorem playerFilePath_node (entry : IndexEntry m) : Player.Sample.playerFilePath type entry.node =
    folderPrefix type ++ '/' :: finalName entry.start entry.stop ".mp4".toList := by
  have hshow : ∀ n : ℕ, n < 2 ^ 31 → showInt (BitVec.ofNat 32 n).toInt = showNat n := by
    intro n hn
    rw [BitVec.toInt_eq_toNat_of_lt (by rw [toNat_ofNat hn]; omega), toNat_ofNat hn, showInt,
      if_neg (by omega), Int.toNat_natCast]
  rw [Player.Sample.playerFilePath, IndexEntry.node, hshow _ entry.start_high,
    hshow _ entry.stop_high, finalName_eq_of_lt entry.start_lt entry.stop_lt]

/-- Only the folder of the plan has its prefix. -/
theorem eq_of_folderPrefix {name' : List Char} (htype : type ∈ recordTypes)
    (h : folderPrefix 0 ++ '/' :: name = folderPrefix type ++ '/' :: name') :
    type = 0 ∧ name = name' := by
  simp only [recordTypes, List.mem_cons, List.not_mem_nil, or_false] at htype
  rcases htype with rfl | rfl | rfl
  · simpa [folderPrefix] using h
  · simp [folderPrefix] at h
  · simp [folderPrefix] at h

theorem filePath_ne_nil : filePath type name ≠ [] := by
  rw [filePath]
  exact List.append_ne_nil_of_left_ne_nil (by decide) _

theorem plan_of_playsBack (h : PlaysBack m entry) :
    entry.type = 0 ∧ entry.file.name = finalName entry.start entry.stop ".mp4".toList := by
  obtain ⟨request, node, hrequest, hsearch, -, -, hpath⟩ := h.2 _ (reported_recordDay entry) 0
  have hne : (recordDay entry.type entry.start entry.stop).fileName ≠ [] := filePath_ne_nil
  rw [startPushStreamingByFile, if_neg hne, Option.some.injEq] at hrequest
  subst hrequest
  rw [fileManagerSearchFile_entry, Option.some.injEq, List.cons.injEq] at hsearch
  rw [← hsearch.1, playerFilePath_node, filePath, List.append_right_inj] at hpath
  obtain ⟨htype, hname⟩ := eq_of_folderPrefix entry.type_mem hpath
  exact ⟨htype, hname.symm⟩

theorem playsBack_of_plan (htype : entry.type = 0)
    (hname : entry.file.name = finalName entry.start entry.stop ".mp4".toList) :
    PlaysBack m entry := by
  refine ⟨⟨_, reported_recordDay entry⟩, fun day hday seekTime => ?_⟩
  rw [eq_of_reported hday]
  refine ⟨_, entry.node, if_neg filePath_ne_nil, fileManagerSearchFile_entry entry,
    toNat_ofNat entry.start_high, toNat_ofNat entry.stop_high, ?_⟩
  rw [playerFilePath_node, filePath, htype, hname]

/-- The cloud's request to play a recording by the name it was told finds the times of the recording,
and its file iff it is one of the plan, under the name that the recorder gives. -/
theorem playsBack_iff (m : FileManager) (entry : IndexEntry m) : PlaysBack m entry ↔
    entry.type = 0 ∧ entry.file.name = finalName entry.start entry.stop ".mp4".toList :=
  ⟨plan_of_playsBack, fun h => playsBack_of_plan h.1 h.2⟩

theorem maxFileNum_pos : 0 < maxFileNum := by decide

/-- The lists with one recording of an alarm. -/
def alarmLists : FileManager where
  flist := fun i => if i = 1 then
    ({} : FileList).push 1700000000#64 1700000180#64 maxFileNum_pos else {}
  init := true

def alarmEntry : IndexEntry alarmLists where
  type := 1
  start := 1700000000#64
  stop := 1700000180#64
  file := { name := finalName 1700000000#64 1700000180#64 ".mp4".toList }
  init := rfl
  type_mem := by decide
  start_low := by decide
  start_high := by decide
  stop_low := by decide
  stop_high := by decide
  mem := by decide
  read := recordTimes_finalName (by decide)

/-- The request does not say of which type the recording is. -/
theorem alarm_notPlayed : ¬ PlaysBack alarmLists alarmEntry := fun h =>
  absurd (plan_of_playsBack h).1 (by decide)

end GokeWebcam.Server.Recorder
