import GokeWebcam.Common.Misc
import GokeWebcam.Lib.Bisect

/-!
# The lists of recorded files

`server/device/file_manager.c`: the list kept in memory for each type of recording, and the searches
in it. The times of the list are `unsigned long long`; a query comes as `long long` and is converted
to unsigned where it is compared with them.

The arrays of a list stand one behind the other, so that `start[MAX_FILE_NUM]` reads `stop[0]`.
-/

namespace GokeWebcam.Device

open Lib Common

/-- A C `long long`; also an `unsigned long long`. -/
abbrev CLong := BitVec 64

/-- Source: `server/device/file_manager.h` `MAX_FILE_NUM` -/
def maxFileNum : ℕ := 1440

/-- Source: `server/device/file_manager.h` `file_list_t` -/
structure FileList where
  start : ℕ → CLong := fun _ => 0#64
  stop : ℕ → CLong := fun _ => 0#64
  num : ℕ := 0
  num_le : num ≤ maxFileNum := by exact Nat.zero_le _

/-- Source: `server/device/file_manager.h` `file_list_node_t` -/
structure FileListNode where
  start : BitVec 32
  stop : BitVec 32
  deriving DecidableEq, Repr

namespace FileList

variable (l : FileList)

/-- What `start[i]` reads. -/
def startAt (i : ℕ) : CLong := if i < maxFileNum then l.start i else l.stop (i - maxFileNum)

/-- The times of the recordings in the list. -/
def entries : List (CLong × CLong) := (List.range l.num).map fun i => (l.start i, l.stop i)

/-- Append a recording. -/
def push (start stop : CLong) (h : l.num < maxFileNum) : FileList where
  start := Function.update l.start l.num start
  stop := Function.update l.stop l.num stop
  num := l.num + 1
  num_le := h

@[simp] theorem length_entries : l.entries.length = l.num := by simp [entries]

theorem entries_push {start stop : CLong} (h : l.num < maxFileNum) :
    (l.push start stop h).entries = l.entries ++ [(start, stop)] := by
  have hold : ∀ i ∈ List.range l.num, (Function.update l.start l.num start i,
      Function.update l.stop l.num stop i) = (l.start i, l.stop i) := by
    intro i hi
    have hne : i ≠ l.num := (List.mem_range.mp hi).ne
    rw [Function.update_of_ne hne, Function.update_of_ne hne]
  simp only [entries, push, List.range_succ, List.map_append, List.map_congr_left hold,
    List.map_cons, List.map_nil, Function.update_self]

end FileList

variable (l : FileList)

/-- Source: `server/device/file_manager.c` `file_manager_file_bisearch_start` -/
def fileManagerFileBisearchStart (key : CLong) : ℤ :=
  if key < l.startAt 0 then 0
  else
    match bisect (fun i => (l.startAt i.toNat).toNat) key.toNat 0 (l.num - 1) with
    | .found mid => mid
    | .absent low => if l.startAt low.toNat < key then low else low - 1

/-- Source: `server/device/file_manager.c` `file_manager_file_bisearch_stop` -/
def fileManagerFileBisearchStop (key : CLong) : ℤ :=
  if l.stop (l.num - 1) < key then l.num - 1
  else
    match bisect (fun i => (l.stop i.toNat).toNat) key.toNat 0 (l.num - 1) with
    | .found mid => mid
    | .absent low => if key < l.stop low.toNat then low else low + 1

/-- Append a node; the times are cut to `unsigned int`.
Source: `server/device/file_manager.c` `file_manager_node_insert` -/
def fileManagerNodeInsert (fhead : List FileListNode) (start stop : CLong) : List FileListNode :=
  fhead ++ [{ start := start.setWidth 32, stop := stop.setWidth 32 }]

/-- What the loop of a search does not pass over. -/
def overlapsAt (start stop : CLong) (i : ℕ) : Bool := start < l.stop i && l.start i < stop

/-- The indexes that the loop of a search counts; none where the function returns before it.
Source: `server/device/file_manager.c` `file_manager_search_file_list`,
`file_manager_check_file_list` -/
def counted (start stop : CLong) : List ℕ :=
  if l.num = 0 then []
  else
    let startIndex := fileManagerFileBisearchStart l start
    let stopIndex := fileManagerFileBisearchStop l stop
    if startIndex < 0 ∨ stopIndex < 0 then []
    else if (l.num : ℤ) - 1 < startIndex ∨ (l.num : ℤ) - 1 < stopIndex then []
    else if stopIndex < startIndex then []
    else (List.range' startIndex.toNat (stopIndex + 1 - startIndex).toNat).filter
      (overlapsAt l start stop)

/-- The nodes that were in the list before are freed first.
Source: `server/device/file_manager.c` `file_manager_search_file_list` -/
def fileManagerSearchFileList (start stop : CLong) : CInt × List FileListNode :=
  (if counted l start stop = [] then -1#32 else 0#32,
    (counted l start stop).foldl
      (fun fhead i => fileManagerNodeInsert fhead (l.start i) (l.stop i)) [])

/-- Source: `server/device/file_manager.c` `file_manager_check_file_list` -/
def fileManagerCheckFileList (start stop : CLong) : CInt :=
  if counted l start stop = [] then -1#32 else 0#32

/-- Source: `server/device/file_manager.c` `file_manager_add_file` -/
def fileManagerAddFile (start stop : CLong) : FileList :=
  if h : l.num < maxFileNum then l.push start stop h else l

/-- A full list stays as it is. -/
theorem entries_fileManagerAddFile {start stop : CLong} :
    (fileManagerAddFile l start stop).entries =
      (l.entries ++ [(start, stop)]).take maxFileNum := by
  rw [fileManagerAddFile]
  split_ifs with hroom
  · rw [FileList.entries_push l hroom, List.take_of_length_le]
    rw [List.length_append, FileList.length_entries]
    exact hroom
  · have hfull : l.entries.length = maxFileNum := by
      rw [FileList.length_entries]
      exact le_antisymm l.num_le (le_of_not_gt hroom)
    rw [List.take_left' hfull]

end GokeWebcam.Device
