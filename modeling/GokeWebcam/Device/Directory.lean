import GokeWebcam.Device.FileList
import GokeWebcam.Lib.CString

/-!
# The media directory

The folders of the SD card, one for each type of recording, and what `server/device/file_manager.c`
does to them when the card is full. A folder lists its files; their names differ, so that removing a
file by its name removes one entry. `remove` is taken to succeed.
-/

namespace GokeWebcam.Device

open Lib Common

/-- `struct dirent`, with what stands in memory behind the zero that ends the name.
Source: `dirent.h` -/
structure DirEntry where
  name : List Char
  type : ℕ := 8
  rest : List Char := []
  deriving DecidableEq, Repr

/-- The files of a folder; `none` where `scandir` fails. -/
abbrev Folder := Option (List DirEntry)

/-- The folders of the media directory, by the type of the recordings.
Source: `server/manager/config.c` `folder_prefix` -/
abbrev Disk := ℕ → Folder

/-- The types of recordings.
Source: `library_goke/aliyun/linkvisual/link_visual_enum.h` `LV_STORAGE_RECORD_INITIATIVE` -/
def recordTypes : List ℕ := [0, 1, 2]

namespace DirEntry

variable (e : DirEntry)

/-- The ten characters that `memcpy` takes from a place of the name, and maybe from behind it. -/
def tenFrom (p : List Char) (n : ℕ) : List Char := ((p ++ '\x00' :: e.rest).drop n).take 10

/-- The place from the first `1` of the name. -/
def digitsAt : Option (List Char) := strstr e.name "1".toList

/-- The time at the first `1`. -/
def startTime : Option ℤ := e.digitsAt.map fun p => strtoll (e.tenFrom p 0)

/-- The time one place behind the first. -/
def stopTime : Option ℤ := e.digitsAt.map fun p => strtoll (e.tenFrom p 11)

/-- `.`, `..`, links and folders. -/
def passedOver : Bool :=
  e.name = ".".toList || e.name = "..".toList || e.type = 10 || e.type = 4

/-- A file that is being written. -/
def temporary : Bool :=
  occurs e.name "snap-".toList || occurs e.name "normal-".toList ||
    occurs e.name "plan-".toList || occurs e.name "alarm-".toList

def media : Bool := occurs e.name ".mp4".toList || occurs e.name ".jpg".toList

/-- The start time of a media file, as an `unsigned long long`. -/
def mediaStart : Option CLong :=
  if e.passedOver || e.temporary || !e.media then none else e.startTime.map (BitVec.ofInt 64)

/-- A file that is neither media nor being written. -/
def junk : Bool := !e.passedOver && !e.temporary && !e.media

/-- The start time that is read begins with a `1` and has ten digits at most. -/
theorem startTime_nonneg {e : DirEntry} {start : ℤ} (h : e.startTime = some start) :
    0 ≤ start ∧ start < 10 ^ 10 := by
  rw [startTime, Option.map_eq_some_iff] at h
  obtain ⟨p, hp, rfl⟩ := h
  obtain ⟨⟨tail, rfl⟩, -⟩ := prefix_of_strstr hp
  have hten : e.tenFrom ("1".toList ++ tail) 0 = '1' :: (tail ++ '\x00' :: e.rest).take 9 := rfl
  have hlength : (e.tenFrom ("1".toList ++ tail) 0).length ≤ 10 := List.length_take_le _ _
  have hlt : leadingDigits (e.tenFrom ("1".toList ++ tail) 0) < 10 ^ 10 :=
    leadingDigits_lt.trans_le (Nat.pow_le_pow_right (by decide) hlength)
  rw [hten] at hlt ⊢
  rw [strtoll_cons (by decide)]
  exact ⟨Int.natCast_nonneg _, by exact_mod_cast hlt⟩

theorem mediaStart_lt {e : DirEntry} {start : CLong} (h : e.mediaStart = some start) :
    start.toNat < 10 ^ 10 := by
  rw [mediaStart] at h
  split_ifs at h
  obtain ⟨v, hv, rfl⟩ := Option.map_eq_some_iff.mp h
  obtain ⟨h₀, h₁⟩ := startTime_nonneg hv
  rw [BitVec.toNat_ofInt]
  omega

end DirEntry

/-! ### Cleaning -/

/-- Whether a pass with this cut-off removes the file.
Source: `server/device/file_manager.c` `file_manager_clean_disk`, the `while` loop -/
def cleans (cutoffDate : CLong) (e : DirEntry) : Bool :=
  if e.name = ".".toList || e.name = "..".toList then false
  else if e.type = 10 then false
  else if e.type = 4 then false
  else if e.temporary then false
  else if !e.media then true
  else
    match e.startTime with
    | none => false
    | some start => decide (BitVec.ofInt 64 start < cutoffDate)

/-- How a run over the folders went: the folders after it, the files removed, and whether all could
be opened. -/
structure CleanPass where
  disk : Disk
  deleted : ℕ
  opened : Bool

/-- Source: `server/device/file_manager.c` `file_manager_clean_disk`, the `for` loop -/
def cleanFolders (cutoffDate : CLong) : List ℕ → Disk → CleanPass
  | [], disk => { disk := disk, deleted := 0, opened := true }
  | j :: js, disk =>
    match disk j with
    | none => { disk := disk, deleted := 0, opened := false }
    | some files =>
      let kept := files.filter fun e => !cleans cutoffDate e
      let pass := cleanFolders cutoffDate js (Function.update disk j (some kept))
      { pass with deleted := (files.countP (cleans cutoffDate)) + pass.deleted }

/-- The shift of the cut-off for the next pass: four hours more, three from a day on.
Source: `server/device/file_manager.c` `file_manager_clean_disk` -/
def nextBlockTime (blockTime : CLong) : CLong :=
  let blockTime := blockTime + 14400#64
  if blockTime < 86400#64 then blockTime else blockTime - 3600#64

/-- The passes, from one on, for at most so many of them.
Source: `server/device/file_manager.c` `file_manager_clean_disk` -/
def cleanDiskFrom (now : CLong) : ℕ → CLong → Disk → Option (CInt × Disk)
  | 0, _, _ => none
  | fuel + 1, blockTime, disk =>
    let pass := cleanFolders (now - 86400#64 + blockTime) recordTypes disk
    if !pass.opened then some (-1#32, pass.disk)
    else if pass.deleted = 0 then cleanDiskFrom now fuel (nextBlockTime blockTime) pass.disk
    else some (0#32, pass.disk)

/-- What it returns, and the folders then; `none` if it takes more passes.
Source: `server/device/file_manager.c` `file_manager_clean_disk` -/
def fileManagerCleanDisk (fuel : ℕ) (now : CLong) (disk : Disk) : Option (CInt × Disk) :=
  cleanDiskFrom now fuel 0#64 disk

end GokeWebcam.Device
