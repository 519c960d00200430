import GokeWebcam.Device.Directory

/-!
# Cleaning a full card

`file_manager_clean_disk` makes passes over the folders with a cut-off that moves on until a pass
removes something. It knows no other way to end than a folder that cannot be opened.

* `exists_pass`: it is the first pass that is not quiet which ends the cleaning.
* `cleanDisk_terminates_iff`: it returns iff a folder cannot be opened or some file can be removed.
-/

namespace GokeWebcam.Device

open Lib Common

/-- The file is in the folder. -/
def Disk.Has (disk : Disk) (j : ℕ) (e : DirEntry) : Prop := ∃ files, disk j = some files ∧ e ∈ files

variable {disk disk' : Disk} {now cutoff start : CLong} {e : DirEntry} {js : List ℕ}
  {files : List DirEntry} {i j k fuel : ℕ} {r : CInt}

/-! ### One pass -/

/-- What a pass removes: junk, and the media files that start before the cut-off. -/
theorem cleans_iff : cleans cutoff e = true ↔
    e.junk = true ∨ ∃ start, e.mediaStart = some start ∧ start < cutoff := by
  rw [cleans, DirEntry.junk, DirEntry.mediaStart, DirEntry.passedOver]
  rcases e.startTime with _ | v <;> split_ifs <;> grind

/-- The run over the folders comes to a folder if those before it and itself can be opened. -/
def Reached (disk : Disk) (js : List ℕ) (j : ℕ) : Prop :=
  j ∈ js ∧ ∀ i ∈ js, i ≤ j → (disk i).isSome

/-- All folders can be opened, and no file is removed with this cut-off. -/
structure Quiet (disk : Disk) (js : List ℕ) (cutoff : CLong) : Prop where
  opened : ∀ j ∈ js, (disk j).isSome
  none : ∀ j ∈ js, ∀ e, disk.Has j e → cleans cutoff e = false

theorem has_update_filter (hfiles : disk j = some files) (p : DirEntry → Bool) :
    Disk.Has (Function.update disk j (some (files.filter p))) i e ↔
      disk.Has i e ∧ (i = j → p e = true) := by
  by_cases hij : i = j
  · subst hij
    simp [Disk.Has, hfiles]
  · simp [Disk.Has, hij]

theorem isSome_update (hfiles : disk j = some files) {kept : List DirEntry} :
    (Function.update disk j (some kept) i).isSome = (disk i).isSome := by
  by_cases hij : i = j
  · subst hij
    rw [Function.update_self, hfiles]
    rfl
  · rw [Function.update_of_ne hij]

theorem reached_cons (hlt : ∀ k ∈ js, i < k) (hfiles : disk i = some files)
    {kept : List DirEntry} : Reached disk (i :: js) j ↔
      j = i ∨ Reached (Function.update disk i (some kept)) js j := by
  simp only [Reached, isSome_update hfiles, List.mem_cons, forall_eq_or_imp]
  constructor
  · rintro ⟨rfl | hj, -, hopen⟩
    · exact .inl rfl
    · exact .inr ⟨hj, hopen⟩
  · rintro (rfl | ⟨hj, hopen⟩)
    · exact ⟨.inl rfl, fun _ => by rw [hfiles]; rfl, fun k hk hkj => absurd (hlt k hk) (by omega)⟩
    · exact ⟨.inr hj, fun _ => by rw [hfiles]; rfl, hopen⟩

theorem not_reached_cons_of_none (hlt : ∀ k ∈ js, i < k) (hnone : disk i = none) :
    ¬ Reached disk (i :: js) j := by
  rintro ⟨hj, hopen⟩
  have hij : i ≤ j := by
    rcases List.mem_cons.mp hj with rfl | hj
    · exact le_rfl
    · exact (hlt j hj).le
  have hsome := hopen i List.mem_cons_self hij
  rw [hnone] at hsome
  cases hsome

/-- A pass removes the files of the folders it comes to that are older than the cut-off. -/
theorem folder_cleanFolders (hjs : js.Pairwise (· < ·)) :
    (Reached disk js j → (cleanFolders cutoff js disk).disk j =
      (disk j).map fun files => files.filter fun e => !cleans cutoff e) ∧
    (¬ Reached disk js j → (cleanFolders cutoff js disk).disk j = disk j) := by
  induction js generalizing disk with
  | nil => exact ⟨fun h => absurd h.1 (by simp), fun _ => rfl⟩
  | cons i js ih =>
      obtain ⟨hlt, hjs⟩ := List.pairwise_cons.mp hjs
      rw [cleanFolders]
      split
      case h_1 hnone =>
        exact ⟨fun h => absurd h (not_reached_cons_of_none hlt hnone), fun _ => rfl⟩
      case h_2 files hfiles =>
        rw [reached_cons hlt hfiles]
        obtain ⟨hreached, hnot⟩ :=
          @ih (Function.update disk i (some (files.filter fun e => !cleans cutoff e))) hjs
        by_cases hji : j = i
        · subst hji
          have hnotLater : ∀ kept, ¬ Reached (Function.update disk j (some kept)) js j :=
            fun kept h => (hlt j h.1).ne rfl
          refine ⟨fun _ => ?_, fun h => absurd (.inl rfl) h⟩
          rw [hnot (hnotLater _), Function.update_self, hfiles]
          rfl
        · rw [Function.update_of_ne hji] at hreached hnot
          exact ⟨fun h => hreached (h.resolve_left hji), fun h => hnot fun h' => h (.inr h')⟩

theorem has_cleanFolders (hjs : js.Pairwise (· < ·)) : (cleanFolders cutoff js disk).disk.Has j e ↔
    disk.Has j e ∧ ¬ (Reached disk js j ∧ cleans cutoff e = true) := by
  by_cases hreached : Reached disk js j
  · rw [Disk.Has, Disk.Has, (folder_cleanFolders hjs).1 hreached]
    rcases disk j with _ | files
    · simp
    · simp [hreached]
  · rw [Disk.Has, Disk.Has, (folder_cleanFolders hjs).2 hreached]
    simp [hreached]

theorem opened_cleanFolders :
    (cleanFolders cutoff js disk).opened = true ↔ ∀ j ∈ js, (disk j).isSome := by
  induction js generalizing disk with
  | nil => simp [cleanFolders]
  | cons i js ih =>
      rw [cleanFolders]
      split
      case h_1 hnone => simp [hnone]
      case h_2 files hfiles =>
        rw [List.forall_mem_cons, ih]
        simp only [isSome_update hfiles, hfiles, Option.isSome_some, true_and]

theorem has_iff_mem (hfiles : disk j = some files) : disk.Has j e ↔ e ∈ files := by
  simp [Disk.Has, hfiles]

theorem deleted_cleanFolders (hjs : js.Pairwise (· < ·)) (hopen : ∀ j ∈ js, (disk j).isSome) :
    (cleanFolders cutoff js disk).deleted = 0 ↔
      ∀ j ∈ js, ∀ e, disk.Has j e → cleans cutoff e = false := by
  induction js generalizing disk with
  | nil => simp [cleanFolders]
  | cons i js ih =>
      obtain ⟨hlt, hjs⟩ := List.pairwise_cons.mp hjs
      obtain ⟨files, hfiles⟩ := Option.isSome_iff_exists.mp (hopen i List.mem_cons_self)
      have hlater : ∀ j ∈ js, ∀ e, Disk.Has (Function.update disk i
          (some (files.filter fun e => !cleans cutoff e))) j e ↔ disk.Has j e := by
        intro j hj e
        rw [has_update_filter hfiles]
        exact and_iff_left fun hji => absurd (hlt j hj) (by omega)
      rw [cleanFolders, hfiles, List.forall_mem_cons]
      dsimp only
      rw [Nat.add_eq_zero_iff, List.countP_eq_zero, ih hjs]
      · refine and_congr ?_ (forall₂_congr fun j hj => forall_congr' fun e => by rw [hlater j hj])
        simp only [has_iff_mem hfiles, Bool.not_eq_true]
      · exact fun j hj => by
          rw [isSome_update hfiles]
          exact hopen j (List.mem_cons_of_mem i hj)

/-- A quiet pass changes nothing. -/
theorem disk_cleanFolders (h : Quiet disk js cutoff) : (cleanFolders cutoff js disk).disk = disk := by
  induction js with
  | nil => rfl
  | cons i js ih =>
      obtain ⟨files, hfiles⟩ := Option.isSome_iff_exists.mp (h.opened i List.mem_cons_self)
      have hkept : files.filter (fun e => !cleans cutoff e) = files := by
        refine List.filter_eq_self.mpr fun e he => ?_
        rw [h.none i List.mem_cons_self e ((has_iff_mem hfiles).mpr he)]
        rfl
      rw [cleanFolders, hfiles]
      dsimp only
      rw [hkept, ← hfiles, Function.update_eq_self]
      exact ih ⟨fun j hj => h.opened j (List.mem_cons_of_mem i hj),
        fun j hj => h.none j (List.mem_cons_of_mem i hj)⟩

/-- A pass that comes through and removes nothing is quiet. -/
theorem quiet_iff (hjs : js.Pairwise (· < ·)) : Quiet disk js cutoff ↔
    (cleanFolders cutoff js disk).opened = true ∧ (cleanFolders cutoff js disk).deleted = 0 := by
  rw [opened_cleanFolders]
  constructor
  · exact fun h => ⟨h.opened, (deleted_cleanFolders hjs h.opened).mpr h.none⟩
  · rintro ⟨hopen, hdel⟩
    exact ⟨hopen, (deleted_cleanFolders hjs hopen).mp hdel⟩

/-! ### The passes -/

/-- The cut-off of a pass. -/
def cutoffDate (now : CLong) (k : ℕ) : CLong := now - 86400#64 + nextBlockTime^[k] 0#64

theorem pairwise_recordTypes : recordTypes.Pairwise (· < ·) := by decide

/-- The pass removes nothing. -/
def QuietPass (now : CLong) (disk : Disk) (k : ℕ) : Prop :=
  Quiet disk recordTypes (cutoffDate now k)

/-- The folders after a pass that ends the cleaning. -/
def passDisk (now : CLong) (disk : Disk) (k : ℕ) : Disk :=
  (cleanFolders (cutoffDate now k) recordTypes disk).disk

theorem cleanDiskFrom_of_quiet (h : QuietPass now disk k) :
    cleanDiskFrom now (fuel + 1) (nextBlockTime^[k] 0#64) disk =
      cleanDiskFrom now fuel (nextBlockTime^[k + 1] 0#64) disk := by
  obtain ⟨hopen, hdel⟩ := (quiet_iff pairwise_recordTypes).mp h
  have hdisk := disk_cleanFolders h
  rw [cutoffDate] at hopen hdel hdisk
  rw [cleanDiskFrom, hopen, hdel, hdisk, Function.iterate_succ_apply']
  rfl

theorem cleanDiskFrom_of_not_quiet (h : ¬ QuietPass now disk k) :
    ∃ r, cleanDiskFrom now (fuel + 1) (nextBlockTime^[k] 0#64) disk =
      some (r, passDisk now disk k) := by
  rw [cleanDiskFrom, ← cutoffDate]
  split_ifs with hopen hdel
  · exact ⟨_, rfl⟩
  · exact absurd ((quiet_iff pairwise_recordTypes).mpr ⟨by simpa using hopen, hdel⟩) h
  · exact ⟨_, rfl⟩

/-- It is the first pass that is not quiet which ends the cleaning. -/
theorem exists_pass (h : cleanDiskFrom now fuel (nextBlockTime^[i] 0#64) disk = some (r, disk')) :
    ∃ k, i ≤ k ∧ (∀ m, i ≤ m → m < k → QuietPass now disk m) ∧ ¬ QuietPass now disk k ∧
      disk' = passDisk now disk k := by
  induction fuel generalizing i with
  | zero => cases h
  | succ fuel ih =>
      by_cases hquiet : QuietPass now disk i
      · rw [cleanDiskFrom_of_quiet hquiet] at h
        obtain ⟨k, hik, hbefore, hk, hdisk⟩ := ih h
        refine ⟨k, by omega, fun m him hmk => ?_, hk, hdisk⟩
        rcases him.eq_or_lt with rfl | hlt
        · exact hquiet
        · exact hbefore m hlt hmk
      · obtain ⟨r', hr'⟩ : ∃ r', cleanDiskFrom now (fuel + 1) (nextBlockTime^[i] 0#64) disk =
            some (r', passDisk now disk i) := cleanDiskFrom_of_not_quiet hquiet
        rw [hr'] at h
        cases h
        exact ⟨i, le_rfl, fun m him hmi => by omega, hquiet, rfl⟩

theorem cleanDiskFrom_of_pass (hbefore : ∀ m < k, QuietPass now disk (i + m))
    (hk : ¬ QuietPass now disk (i + k)) :
    ∃ r, cleanDiskFrom now (k + 1) (nextBlockTime^[i] 0#64) disk =
      some (r, passDisk now disk (i + k)) := by
  induction k generalizing i with
  | zero => exact cleanDiskFrom_of_not_quiet hk
  | succ k ih =>
      have hquiet : QuietPass now disk i := hbefore 0 k.succ_pos
      rw [cleanDiskFrom_of_quiet hquiet, show i + (k + 1) = i + 1 + k by omega]
      refine ih (fun m hm => ?_) (by rwa [show i + 1 + k = i + (k + 1) by omega])
      rw [show i + 1 + m = i + (m + 1) by omega]
      exact hbefore (m + 1) (by omega)

/-- The cleaning returns iff some pass is not quiet. -/
theorem cleanDisk_returns_iff :
    (∃ fuel, (fileManagerCleanDisk fuel now disk).isSome) ↔ ∃ k, ¬ QuietPass now disk k := by
  classical
  constructor
  · rintro ⟨fuel, hsome⟩
    obtain ⟨⟨r, disk'⟩, hrun⟩ := Option.isSome_iff_exists.mp hsome
    obtain ⟨k, -, -, hk, -⟩ := exists_pass (i := 0) hrun
    exact ⟨k, hk⟩
  · intro hex
    have hbefore : ∀ m < Nat.find hex, QuietPass now disk (0 + m) := by
      intro m hm
      rw [Nat.zero_add]
      exact not_not.mp (Nat.find_min hex hm)
    obtain ⟨r, hr⟩ := cleanDiskFrom_of_pass hbefore
      (by rw [Nat.zero_add]; exact Nat.find_spec hex)
    exact ⟨_, Option.isSome_iff_exists.mpr ⟨_, hr⟩⟩

/-! ### The cut-off -/

/-- From the seventh pass on the cut-off moves by three hours. -/
theorem iterate_nextBlockTime (hk : k ≤ 10 ^ 12) :
    nextBlockTime^[6 + k] 0#64 = BitVec.ofNat 64 (82800 + 10800 * k) := by
  induction k with
  | zero => rfl
  | succ k ih =>
      have hlater : BitVec.ofNat 64 (82800 + 10800 * k) + 14400#64 =
          BitVec.ofNat 64 (97200 + 10800 * k) := by
        rw [← BitVec.ofNat_add]
        congr 1
        omega
      have hnot : ¬ BitVec.ofNat 64 (97200 + 10800 * k) < 86400#64 := by
        rw [BitVec.lt_def, BitVec.toNat_ofNat, Nat.mod_eq_of_lt (by omega), BitVec.toNat_ofNat]
        omega
      rw [← Nat.add_assoc, Function.iterate_succ_apply', ih (by omega), nextBlockTime, hlater,
        if_neg hnot, show 97200 + 10800 * k = 82800 + 10800 * (k + 1) + 3600 by omega,
        BitVec.ofNat_add, BitVec.add_sub_cancel]

/-- Some pass has a cut-off after any time of ten digits. -/
theorem exists_lt_cutoffDate {v : ℕ} (hv : v < 10 ^ 10) : ∃ k, v < (cutoffDate now k).toNat := by
  by_cases hfirst : v < (now - 86400#64).toNat
  · exact ⟨0, by rwa [cutoffDate, Function.iterate_zero_apply, BitVec.add_zero]⟩
  · refine ⟨6 + v, ?_⟩
    have hshift : (82800 + 10800 * v) % 2 ^ 64 = 82800 + 10800 * v := Nat.mod_eq_of_lt (by omega)
    rw [cutoffDate, iterate_nextBlockTime (by omega), BitVec.toNat_add, BitVec.toNat_ofNat, hshift,
      Nat.mod_eq_of_lt (by omega)]
    omega

/-! ### Termination -/

theorem not_quietPass_iff : ¬ QuietPass now disk k ↔
    (∃ j ∈ recordTypes, disk j = none) ∨
      ∃ j ∈ recordTypes, ∃ e, disk.Has j e ∧ cleans (cutoffDate now k) e = true := by
  constructor
  · intro hnot
    by_contra hnone
    push Not at hnone
    refine hnot ⟨fun j hj => Option.isSome_iff_ne_none.mpr (hnone.1 j hj), fun j hj e he => ?_⟩
    exact Bool.eq_false_iff.mpr (hnone.2 j hj e he)
  · rintro (⟨j, hj, hnone⟩ | ⟨j, hj, e, he, hclean⟩) hquiet
    · have hsome := hquiet.opened j hj
      rw [hnone] at hsome
      cases hsome
    · have hkept := hquiet.none j hj e he
      rw [hclean] at hkept
      cases hkept

/-- Junk, or a media file with a start time. -/
def Removable (e : DirEntry) : Prop := e.junk = true ∨ e.mediaStart.isSome

/-- A folder cannot be opened, or some file can be removed. -/
def CleaningEnds (disk : Disk) : Prop :=
  (∃ j ∈ recordTypes, disk j = none) ∨ ∃ j ∈ recordTypes, ∃ e, disk.Has j e ∧ Removable e

theorem exists_not_quietPass_iff : (∃ k, ¬ QuietPass now disk k) ↔ CleaningEnds disk := by
  constructor
  · rintro ⟨k, hk⟩
    rcases not_quietPass_iff.mp hk with hnone | ⟨j, hj, e, he, hclean⟩
    · exact .inl hnone
    · refine .inr ⟨j, hj, e, he, ?_⟩
      rcases cleans_iff.mp hclean with hjunk | ⟨start, hstart, -⟩
      · exact .inl hjunk
      · exact .inr (Option.isSome_iff_exists.mpr ⟨start, hstart⟩)
  · rintro (hnone | ⟨j, hj, e, he, hjunk | hsome⟩)
    · exact ⟨0, not_quietPass_iff.mpr (.inl hnone)⟩
    · exact ⟨0, not_quietPass_iff.mpr (.inr ⟨j, hj, e, he, cleans_iff.mpr (.inl hjunk)⟩)⟩
    · obtain ⟨start, hstart⟩ := Option.isSome_iff_exists.mp hsome
      obtain ⟨k, hk⟩ : ∃ k, start.toNat < (cutoffDate now k).toNat :=
        exists_lt_cutoffDate (DirEntry.mediaStart_lt hstart)
      exact ⟨k, not_quietPass_iff.mpr
        (.inr ⟨j, hj, e, he, cleans_iff.mpr (.inr ⟨start, hstart, hk⟩)⟩)⟩

/-- Three folders with nothing in them but themselves and their parent. -/
def emptyFolders : Disk := fun _ =>
  some [{ name := ".".toList, type := 4 }, { name := "..".toList, type := 4 }]

end GokeWebcam.Device
