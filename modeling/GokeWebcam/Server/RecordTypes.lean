import GokeWebcam.Lib.Attempt
import GokeWebcam.Device.FileSearch
import GokeWebcam.Server.RecordingNames

/-!
# The types of recordings that the cloud asks for

A query for the recordings of a day and a request to play a time carry a type of recording as a plain
number. `flist` and `folder_prefix` are arrays of three; a lookup outside of them has no result. Memory
is there.

* `served_iff`: a request is served as its type asks for iff the number is that of a type, or that of
  any type in a query, or nothing is looked up for it.
* `any_outside`: a request to play recordings of any type looks outside of the lists.
-/

namespace GokeWebcam.Server.RecordType

open Lib Common Device Recorder

/-! ### The arrays -/

/-- The index of a lookup in an array of three.
Source: `server/device/file_manager.c` `flist`, `server/manager/config.h` `folder_prefix` -/
def typeIndex (type : CInt) : Option ℕ :=
  if 0 ≤ type.toInt ∧ type.toInt ≤ 2 then some type.toNat else none

def flistAt (m : FileManager) (type : CInt) : Option FileList := (typeIndex type).map m.flist

def folderPrefixAt (type : CInt) : Option (List Char) := (typeIndex type).map folderPrefix

/-- Source: `library_goke/aliyun/linkvisual/link_visual_enum.h` `LV_STORAGE_RECORD_ANY` -/
def recordAny : CInt := BitVec.ofNat 32 lvStorageRecordAny

/-! ### The recordings of a day -/

/-- Source: `library_goke/aliyun/linkvisual/link_visual_struct.h` `lv_query_record_param_s`, `by_day` -/
structure QueryByDay where
  type : CInt
  startTime : BitVec 32
  stopTime : BitVec 32
  num : CInt
  deriving DecidableEq, Repr

/-- The entries of a list that begin and end in the time asked for. -/
def entriesBetween (l : FileList) (srStart srStop : CLong) : List (CLong × CLong) :=
  l.entries.filter fun t => decide (srStart ≤ t.1) && decide (t.2 ≤ srStop)

/-- Source: `server/device/file_manager.c` `file_manager_get_file_by_day`, the last loop -/
def recordDayAt (type : CInt) (t : CLong × CLong) : Option RecordDay :=
  (folderPrefixAt type).map fun folder => {
    fileName := mediaDirectory ++ (folder ++ '/' :: finalName t.1 t.2 ".mp4".toList)
    startTime := t.1.setWidth 32
    stopTime := t.2.setWidth 32
    recordType := type.toNat }

/-- How many recordings are asked for, at most. -/
def asked (number : CInt) : ℕ := if BitVec.slt 0#32 number then number.toNat else 0

/-- Source: `server/device/file_manager.c` `file_manager_get_file_by_day` -/
def fileManagerGetFileByDay (m : FileManager) (type number : CInt) (srStart srStop : CLong) :
    Option (CInt × List RecordDay) :=
  if !m.init then some (-1#32, [])
  else
    let types := if type = recordAny then [0#32, 1#32, 2#32] else [type]
    (types.mapM fun j => (flistAt m j).map fun l =>
        (entriesBetween l srStart srStop).map (j, ·)).bind fun found =>
      ((found.flatten.take (asked number)).mapM fun t => recordDayAt t.1 t.2).map fun days =>
        (0#32, days)

/-- What is posted to the cloud, if anything is.
Source: `server/aliyun/linkvisual_client.c` `query_storage_record_cb` -/
def queryStorageRecordCb (m : FileManager) (param : QueryByDay) :
    Option (Option (List RecordDay)) :=
  let max := if param.num = 0#32 then 32#32 else param.num
  (fileManagerGetFileByDay m param.type max (param.startTime.setWidth 64)
      (param.stopTime.setWidth 64)).map fun r =>
    if r.1 = 0#32 then some r.2 else none

/-! ### Playing a time -/

/-- Source: `library_goke/aliyun/linkvisual/link_visual_struct.h` `lv_start_push_stream_param_s`,
`by_utc` -/
structure ByUtc where
  startTime : BitVec 32
  stopTime : BitVec 32
  seekTime : BitVec 32
  recordType : CInt
  deriving DecidableEq, Repr

/-- What to play; it has no file name.
Source: `server/player/player_interface.h` `player_init_t` -/
structure TimeRequest where
  start : CLong
  stop : CLong
  type : CInt
  deriving DecidableEq, Repr

/-- Source: `server/aliyun/linkvisual_client.c` `start_push_streaming_cb`,
`LV_STREAM_CMD_STORAGE_RECORD_BY_UTC_TIME` -/
def startPushStreamingByUtc (param : ByUtc) : TimeRequest where
  start := (param.startTime + param.seekTime).setWidth 64
  stop := param.stopTime.setWidth 64
  type := param.recordType

/-- The player is running or not, and has a job for the channel or can make one. -/
structure PlayerReady where
  running : Bool
  slot : Bool
  deriving DecidableEq, Repr

/-- Source: `server/player/player.c` `player_add_job` -/
def playerAddJob (ready : PlayerReady) (m : FileManager) (init : TimeRequest) : Option CInt :=
  if !ready.running then some (-1#32)
  else (flistAt m init.type).map fun l =>
    if fileManagerCheckFileList l init.start init.stop ≠ 0#32 then -1#32
    else if !ready.slot then -1#32
    else 0#32

/-- Source: `server/player/player.c` `player_open_mp4`, `file_path` -/
def openPath (type : CInt) (node : FileListNode) : Option (List Char) :=
  (folderPrefixAt type).map fun folder => mediaDirectory ++ (folder ++ '/' ::
    (showInt node.start.toInt ++ '_' :: (showInt node.stop.toInt ++ ".mp4".toList)))

/-- What becomes of a request to play: the player refuses it, or the thread of the job finds nothing,
or it opens these files, one after the other. -/
inductive PlayOutcome
  | refused
  | failed
  | plays (files : List (List Char))
  deriving DecidableEq, Repr

/-- The request is checked in the lists `m`; the thread searches them later, as `m'`.
Source: `server/player/player.c` `player_add_job`, `player_func`, `player_open_mp4` -/
def playByTime (ready : PlayerReady) (m m' : FileManager) (param : ByUtc) : Option PlayOutcome :=
  let init := startPushStreamingByUtc param
  (playerAddJob ready m init).bind fun ret =>
    if ret ≠ 0#32 then some .refused
    else
      (flistAt m' init.type).bind fun l =>
        let found := fileManagerSearchFileList l init.start init.stop
        if found.1 ≠ 0#32 then some .failed else (found.2.mapM (openPath init.type)).map .plays

/-! ### What the types ask for -/

/-- The types that are searched for a number: its own, or all of them; none for a number that stands
for no type.
Source: none: the meaning of the types -/
def searchedTypes (type : CInt) : Option (List ℕ) :=
  if type = recordAny then some recordTypes else (typeIndex type).map fun i => [i]

/-- The recordings of all types that are searched, each in the folder of its type.
Source: none: what a query is for -/
def queryAnswer (m : FileManager) (param : QueryByDay) : Option (List RecordDay) :=
  if m.init then
    (searchedTypes param.type).map fun types =>
      let found := types.flatMap fun i =>
        (entriesBetween (m.flist i) (param.startTime.setWidth 64)
          (param.stopTime.setWidth 64)).map (i, ·)
      (found.take (asked (if param.num = 0#32 then 32#32 else param.num))).map fun t =>
        recordDay t.1 t.2.1 t.2.2
  else none

/-- The request is refused where no type that is searched has a recording of the time; the files are
those of all of them, each in the folder of its type.
Source: none: what a request to play is for -/
def playAnswer (ready : PlayerReady) (m m' : FileManager) (param : ByUtc) : PlayOutcome :=
  let init := startPushStreamingByUtc param
  if !ready.running then .refused
  else
    match searchedTypes param.recordType with
    | none => .refused
    | some types =>
      if types.all fun i => fileManagerCheckFileList (m.flist i) init.start init.stop ≠ 0#32 then
        .refused
      else if !ready.slot then .refused
      else
        let files := types.flatMap fun i =>
          (fileManagerSearchFileList (m'.flist i) init.start init.stop).2.map fun node =>
            mediaDirectory ++ Player.Sample.playerFilePath i node
        if files = [] then .failed else .plays files

/-- A request of the cloud, with what it meets. -/
inductive CloudRequest
  | query (m : FileManager) (param : QueryByDay)
  | play (ready : PlayerReady) (m m' : FileManager) (param : ByUtc)

/-- No lookup is outside of its array, and the outcome is the one the type asks for. -/
def Served : CloudRequest → Prop
  | .query m param => queryStorageRecordCb m param = some (queryAnswer m param)
  | .play ready m m' param => playByTime ready m m' param = some (playAnswer ready m m' param)

/-- The number is that of a type or, in a query, of any type; or the lists are not read, or the player
does not run. -/
def TypeHolds : CloudRequest → Prop
  | .query m param => m.init = false ∨ (searchedTypes param.type).isSome
  | .play ready _ _ param => ready.running = false ∨ (typeIndex param.recordType).isSome

variable {m m' : FileManager} {type number : CInt} {srStart srStop : CLong} {i : ℕ}
  {query : QueryByDay} {ready : PlayerReady} {param : ByUtc} {types : List ℕ}

/-! ### Queries -/

theorem typeIndex_eq_some_iff : typeIndex type = some i ↔ i ≤ 2 ∧ type = BitVec.ofNat 32 i := by
  rw [typeIndex, BitVec.toInt_eq_toNat_cond]
  have htype := type.isLt
  constructor
  · intro h
    split_ifs at h with hrange hlow
    · cases h
      refine ⟨by omega, BitVec.eq_of_toNat_eq ?_⟩
      rw [BitVec.toNat_ofNat, Nat.mod_eq_of_lt htype]
    · omega
  · rintro ⟨hi, rfl⟩
    rw [BitVec.toNat_ofNat, Nat.mod_eq_of_lt (by omega), if_pos (by omega)]

theorem typeIndex_ofNat (h : i ∈ recordTypes) : typeIndex (BitVec.ofNat 32 i) = some i :=
  typeIndex_eq_some_iff.mpr ⟨by simp [recordTypes] at h; omega, rfl⟩

/-- The numbers that the loop over the types runs through. -/
theorem searched_codes (h : searchedTypes type = some types) :
    (if type = recordAny then [0#32, 1#32, 2#32] else [type]) = types.map (BitVec.ofNat 32) ∧
      ∀ i ∈ types, typeIndex (BitVec.ofNat 32 i) = some i := by
  rw [searchedTypes] at h
  split_ifs at h ⊢ with hany
  · cases h
    exact ⟨rfl, fun i hi => typeIndex_ofNat hi⟩
  · obtain ⟨i, hi, rfl⟩ := Option.map_eq_some_iff.mp h
    obtain ⟨-, rfl⟩ := typeIndex_eq_some_iff.mp hi
    exact ⟨rfl, fun j hj => by rwa [List.mem_singleton.mp hj]⟩

/-- A record names its file in the folder of its type. -/
theorem recordDayAt_ofNat {t : CLong × CLong} (h : typeIndex (BitVec.ofNat 32 i) = some i) :
    recordDayAt (BitVec.ofNat 32 i) t = some (recordDay i t.1 t.2) := by
  have hi := (typeIndex_eq_some_iff.mp h).1
  have hcode : (BitVec.ofNat 32 i).toNat = i := by
    rw [BitVec.toNat_ofNat, Nat.mod_eq_of_lt (by omega)]
  rw [recordDayAt, folderPrefixAt, h, hcode]
  rfl

/-- The entries of the types that are searched, with their types. -/
def foundEntries (m : FileManager) (types : List ℕ) (srStart srStop : CLong) :
    List (ℕ × CLong × CLong) :=
  types.flatMap fun i => (entriesBetween (m.flist i) srStart srStop).map (i, ·)

theorem getFileByDay_of_searched (hinit : m.init = true) (h : searchedTypes type = some types) :
    fileManagerGetFileByDay m type number srStart srStop =
      some (0#32, ((foundEntries m types srStart srStop).take (asked number)).map fun t =>
        recordDay t.1 t.2.1 t.2.2) := by
  obtain ⟨hcodes, htypes⟩ := searched_codes h
  have hlists : (types.map (BitVec.ofNat 32)).mapM (fun j => (flistAt m j).map fun l =>
      (entriesBetween l srStart srStop).map (j, ·)) =
        some (types.map fun i => (entriesBetween (m.flist i) srStart srStop).map
          (BitVec.ofNat 32 i, ·)) := by
    rw [List.mapM_map]
    refine mapM_eq_map fun i hi => ?_
    rw [Function.comp_apply, flistAt, htypes i hi]
    rfl
  have hfound : (types.map fun i => (entriesBetween (m.flist i) srStart srStop).map
      (BitVec.ofNat 32 i, ·)).flatten =
        (foundEntries m types srStart srStop).map fun t => (BitVec.ofNat 32 t.1, t.2) := by
    rw [foundEntries, List.map_flatMap, ← List.flatMap_def]
    simp only [List.map_map, Function.comp_def]
  have hdays : (((foundEntries m types srStart srStop).take (asked number)).map fun t =>
      (BitVec.ofNat 32 t.1, t.2)).mapM (fun t => recordDayAt t.1 t.2) =
        some (((foundEntries m types srStart srStop).take (asked number)).map fun t =>
          recordDay t.1 t.2.1 t.2.2) := by
    rw [List.mapM_map]
    refine mapM_eq_map fun t ht => recordDayAt_ofNat (htypes _ ?_)
    obtain ⟨i, hi, hentry⟩ := List.mem_flatMap.mp (List.mem_of_mem_take ht)
    obtain ⟨x, -, rfl⟩ := List.mem_map.mp hentry
    exact hi
  rw [fileManagerGetFileByDay, hinit]
  simp only [Bool.not_true, Bool.false_eq_true, if_false]
  rw [hcodes, hlists, Option.bind_some, hfound, ← List.map_take, hdays]
  rfl

theorem getFileByDay_of_not_searched (hinit : m.init = true) (h : searchedTypes type = none) :
    fileManagerGetFileByDay m type number srStart srStop = none := by
  rw [searchedTypes] at h
  split_ifs at h with hany
  rw [fileManagerGetFileByDay, hinit]
  simp only [Bool.not_true, Bool.false_eq_true, if_false, if_neg hany]
  rw [List.mapM_cons, flistAt, Option.map_eq_none_iff.mp h]
  rfl

/-- A query is answered as its type asks for iff the lists are not read or the type is searched. -/
theorem served_query_iff : queryStorageRecordCb m query = some (queryAnswer m query) ↔
    m.init = false ∨ (searchedTypes query.type).isSome := by
  rw [queryStorageRecordCb, queryAnswer]
  rcases hinit : m.init with _ | _
  · refine iff_of_true ?_ (.inl rfl)
    rw [fileManagerGetFileByDay, hinit]
    rfl
  · rcases hsearched : searchedTypes query.type with _ | types
    · refine iff_of_false ?_ (by simp)
      rw [getFileByDay_of_not_searched hinit hsearched]
      intro h
      cases h
    · refine iff_of_true ?_ (.inr rfl)
      rw [getFileByDay_of_searched hinit hsearched]
      rfl

/-! ### Playing -/

/-- A search returns 0 iff it finds something. -/
theorem search_ne_zero_iff {l : FileList} {start stop : CLong} :
    (fileManagerSearchFileList l start stop).1 ≠ 0#32 ↔
      (fileManagerSearchFileList l start stop).2 = [] := by
  rw [ne_eq, search_zero_iff, not_not, fileManagerSearchFileList, foldl_nodeInsert]
  simp

/-- The files are opened in the folder of the type. -/
theorem mapM_openPath {nodes : List FileListNode} (h : typeIndex type = some i) :
    nodes.mapM (openPath type) =
      some (nodes.map fun node => mediaDirectory ++ Player.Sample.playerFilePath i node) := by
  refine mapM_eq_map fun node _ => ?_
  rw [openPath, folderPrefixAt, h]
  rfl

theorem any_not_index : typeIndex recordAny = none := by decide

theorem searchedTypes_of_index (h : typeIndex type = some i) : searchedTypes type = some [i] := by
  have hany : type ≠ recordAny := by
    rintro rfl
    rw [any_not_index] at h
    cases h
  rw [searchedTypes, if_neg hany, h]
  rfl

theorem playByTime_of_index (h : typeIndex param.recordType = some i) :
    playByTime ready m m' param = some (playAnswer ready m m' param) := by
  have htype : (startPushStreamingByUtc param).type = param.recordType := rfl
  rw [playByTime, playAnswer, searchedTypes_of_index h]
  simp only [playerAddJob, flistAt, htype, h, Option.map_some, mapM_openPath h]
  rcases ready.running with _ | _
  · rfl
  by_cases hcheck : fileManagerCheckFileList (m.flist i) (startPushStreamingByUtc param).start
      (startPushStreamingByUtc param).stop = 0#32
  · rcases ready.slot with _ | _
    · simp [hcheck]
    · by_cases hfound : (fileManagerSearchFileList (m'.flist i)
          (startPushStreamingByUtc param).start (startPushStreamingByUtc param).stop).2 = []
      · simp [hcheck, search_ne_zero_iff.mpr hfound, hfound]
      · have hzero := not_not.mp (mt search_ne_zero_iff.mp hfound)
        simp [hcheck, hzero, hfound]
  · simp [hcheck]

/-- A request to play is served iff its number is that of a type, or the player does not run. -/
theorem served_play_iff : playByTime ready m m' param = some (playAnswer ready m m' param) ↔
    ready.running = false ∨ (typeIndex param.recordType).isSome := by
  rcases hindex : typeIndex param.recordType with _ | i
  · rcases hrunning : ready.running with _ | _
    · refine iff_of_true ?_ (.inl rfl)
      rw [playByTime, playAnswer, playerAddJob, hrunning]
      rfl
    · refine iff_of_false ?_ (by simp)
      have htype : (startPushStreamingByUtc param).type = param.recordType := rfl
      rw [playByTime, playerAddJob, hrunning, flistAt, htype, hindex]
      intro h
      cases h
  · exact iff_of_true (playByTime_of_index hindex) (.inr rfl)

/-- A request is served as its type asks for, within the arrays, iff `TypeHolds`. -/
theorem served_iff (request : CloudRequest) : Served request ↔ TypeHolds request := by
  rcases request with ⟨m, param⟩ | ⟨ready, m, m', param⟩
  · exact served_query_iff
  · exact served_play_iff

/-- To play recordings of any type, the lists are looked up at 99, and to query a vendor's type 7, at 7. -/
theorem any_outside :
    playByTime ⟨true, true⟩ {} {} ⟨1700000000#32, 1700086400#32, 0#32, recordAny⟩ = none ∧
      ¬ Served (.play ⟨true, true⟩ {} {} ⟨1700000000#32, 1700086400#32, 0#32, recordAny⟩) ∧
      queryStorageRecordCb { init := true } ⟨7#32, 1700000000#32, 1700086400#32, 0#32⟩ = none ∧
      ¬ Served (.query { init := true } ⟨7#32, 1700000000#32, 1700086400#32, 0#32⟩) := by
  have hplay : playByTime ⟨true, true⟩ {} {} ⟨1700000000#32, 1700086400#32, 0#32, recordAny⟩ =
    none := rfl
  have hquery : queryStorageRecordCb { init := true }
    ⟨7#32, 1700000000#32, 1700086400#32, 0#32⟩ = none := rfl
  refine ⟨hplay, ?_, hquery, ?_⟩
  · rw [Served, hplay]
    exact fun h => Option.some_ne_none _ h.symm
  · rw [Served, hquery]
    exact fun h => Option.some_ne_none _ h.symm

end GokeWebcam.Server.RecordType
