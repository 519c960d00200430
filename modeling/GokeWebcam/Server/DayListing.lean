import GokeWebcam.Server.RecordingNames

/-!
# Listing the recordings of a day

`file_manager_get_file_by_day` counts the recordings of the time asked for, gets memory for as many
records as it will answer, and fills them; each record has memory for its name. Where there is none for
a name, only the loop over the type ends, and the count stays.

* `dayListed_iff`: the answer has the first of the recordings, and its count is theirs, iff `DayHolds`.
* `name_unallocated`: without memory for a name, a record is counted that nobody wrote.
-/

namespace GokeWebcam.Server.DayListing

open Lib Common Device Recorder

/-- What stands in the memory for a record: what was there before, the same with a name that is zero,
or the record and the size of its file.
Source: `library_goke/aliyun/linkvisual/link_visual_struct.h` `lv_query_record_response_day` -/
inductive DaySlot
  | unset
  | unnamed
  | record (day : RecordDay) (fileSize : BitVec 32)
  deriving DecidableEq, Repr

def DaySlot.isRecord : DaySlot → Bool
  | .record _ _ => true
  | _ => false

/-- The record, without the size of its file. -/
def DaySlot.day : DaySlot → Option RecordDay
  | .record day _ => some day
  | _ => none

/-- `days` is empty where the pointer is zero.
Source: `library_goke/aliyun/linkvisual/link_visual_struct.h` `lv_query_record_response_param_s` -/
structure DayResponse where
  num : ℕ := 0
  days : List DaySlot := []
  deriving DecidableEq, Repr

/-- The last loop: the memory for the records, the place of the next one, how often memory was asked
for, and whether there are as many records as asked for. -/
structure DayFill where
  days : List DaySlot
  index : ℕ := 0
  asked : ℕ := 1
  finished : Bool := false
  deriving DecidableEq, Repr

/-- The next record is written. -/
def DayFill.add (f : DayFill) (slot : DaySlot) : DayFill :=
  { f with days := f.days.set f.index slot, index := f.index + 1, asked := f.asked + 1 }

/-- There is no memory for the name of the next record. -/
def DayFill.unname (f : DayFill) : DayFill :=
  { f with days := f.days.set f.index .unnamed, asked := f.asked + 1 }

/-- The types that a query runs over. -/
def dayTypes (type : ℕ) : List ℕ := if type = lvStorageRecordAny then recordTypes else [type]

variable (m : FileManager) (fileSize : List Char → BitVec 32) (alloc : ℕ → Bool) (number : CInt)
  (srStart srStop : CLong)

/-- The loops do not pass over the recording. -/
def inDay (j i : ℕ) : Bool := !((m.flist j).start i < srStart) && !(srStop < (m.flist j).stop i)

/-- The record of an entry of the list. -/
def daySlot (j i : ℕ) : DaySlot :=
  let day := recordDay j ((m.flist j).start i) ((m.flist j).stop i)
  .record day (fileSize day.fileName)

/-- Source: `server/device/file_manager.c` `file_manager_get_file_by_day`, the last inner loop -/
def fillIndexes (j : ℕ) : List ℕ → DayFill → DayFill
  | [], f => f
  | i :: is, f =>
    if !inDay m srStart srStop j i then fillIndexes j is f
    else if !alloc f.asked then f.unname
    else
      let f := f.add (daySlot m fileSize j i)
      if (f.index : ℤ) = number.toInt then { f with finished := true } else fillIndexes j is f

/-- Source: `server/device/file_manager.c` `file_manager_get_file_by_day`, the last loop -/
def fillTypes : List ℕ → DayFill → DayFill
  | [], f => f
  | j :: js, f =>
    let f := fillIndexes m fileSize alloc number srStart srStop j (List.range (m.flist j).num) f
    if f.finished then f else fillTypes js f

/-- `alloc n` tells whether there is memory when it is asked for the `n`-th time.
Source: `server/device/file_manager.c` `file_manager_get_file_by_day` -/
def fileManagerGetFileByDay (type : ℕ) (param : DayResponse) : CInt × DayResponse :=
  if !m.init then (-1#32, param)
  else
    let num := ((dayTypes type).map fun j =>
      (List.range (m.flist j).num).countP (inDay m srStart srStop j)).sum
    if 0 < num ∧ 0 < number.toInt then
      let num := if number.toNat < num then number.toNat else num
      if !alloc 0 then (-1#32, {})
      else
        let list := List.replicate num .unset
        let fill := fillTypes m fileSize alloc number srStart srStop (dayTypes type) { days := list }
        (0#32, { num := num, days := fill.days })
    else (0#32, {})

/-- The records that the caller reads of an answer, to post it and to free the names; `none` is a
place behind the memory. -/
def DayResponse.read (response : DayResponse) : List (Option DaySlot) :=
  (List.range response.num).map fun i => response.days[i]?

/-- How many are asked for.
Source: `server/aliyun/linkvisual_client.c` `query_storage_record_cb`, `max` -/
def queryMax (num : BitVec 32) : CInt := if num = 0 then 32#32 else num

/-- The records read.
Source: `server/aliyun/linkvisual_client.c` `query_storage_record_cb` -/
def queryStorageRecordCb (type : ℕ) (startTime stopTime num : BitVec 32) : List (Option DaySlot) :=
  let answer := fileManagerGetFileByDay m fileSize alloc (queryMax num) (startTime.setWidth 64)
    (stopTime.setWidth 64) type {}
  if answer.1 = 0#32 then answer.2.read else []

/-! ### What is asked for -/

/-- The places of the recordings of the time asked for, by type and index. -/
def dayPlaces (types : List ℕ) : List (ℕ × ℕ) :=
  types.flatMap fun j =>
    ((List.range (m.flist j).num).filter (inDay m srStart srStop j)).map (j, ·)

/-- The places that are to be answered. -/
def firstPlaces (type : ℕ) : List (ℕ × ℕ) :=
  (dayPlaces m srStart srStop (dayTypes type)).take number.toNat

/-- An answer of the first recordings of the time asked for, each once, of which no other record is
read. -/
structure DaySound (type : ℕ) (response : DayResponse) : Prop where
  count : response.num = (response.days.filter DaySlot.isRecord).length
  first : response.days.filter DaySlot.isRecord =
    (firstPlaces m number srStart srStop type).map fun p => daySlot m fileSize p.1 p.2
  nodup : (firstPlaces m number srStart srStop type).Nodup
  read : response.read = (response.days.filter DaySlot.isRecord).map some

/-- An answer that is reported as one is sound. -/
def DayListed (type : ℕ) (param : DayResponse) : Prop :=
  ∀ response, fileManagerGetFileByDay m fileSize alloc number srStart srStop type param =
    (0#32, response) → DaySound m fileSize number srStart srStop type response

/-- With lists and memory for the records, there is memory for each name. -/
def DayHolds (type : ℕ) : Prop :=
  m.init = true → alloc 0 = true →
    ∀ t < (firstPlaces m number srStart srStop type).length, alloc (t + 1) = true

variable {m fileSize alloc number srStart srStop} {type need t : ℕ} {param : DayResponse}
  {f g h : DayFill} {is js : List ℕ} {ps qs : List (ℕ × ℕ)} {i j : ℕ}

/-! ### The places -/

theorem nodup_dayTypes (type : ℕ) : (dayTypes type).Nodup := by
  rw [dayTypes]
  split_ifs
  · decide
  · exact List.nodup_singleton type

theorem dayPlaces_cons : dayPlaces m srStart srStop (j :: js) =
    ((List.range (m.flist j).num).filter (inDay m srStart srStop j)).map (j, ·) ++
      dayPlaces m srStart srStop js := List.flatMap_cons

theorem type_mem_of_mem_dayPlaces {p : ℕ × ℕ} (hp : p ∈ dayPlaces m srStart srStop js) :
    p.1 ∈ js := by
  obtain ⟨j, hj, hp⟩ := List.mem_flatMap.mp hp
  obtain ⟨i, -, rfl⟩ := List.mem_map.mp hp
  exact hj

theorem nodup_dayPlaces (hjs : js.Nodup) : (dayPlaces m srStart srStop js).Nodup := by
  induction js with
  | nil => exact List.nodup_nil
  | cons j js ih =>
      obtain ⟨hj, hjs⟩ := List.nodup_cons.mp hjs
      rw [dayPlaces_cons]
      refine (List.Nodup.map (Prod.mk_right_injective j)
        (List.nodup_range.filter _)).append (ih hjs) ?_
      rintro p hp hp'
      obtain ⟨i, -, rfl⟩ := List.mem_map.mp hp
      exact hj (type_mem_of_mem_dayPlaces hp')

theorem length_dayPlaces : (dayPlaces m srStart srStop js).length =
    (js.map fun j => (List.range (m.flist j).num).countP (inDay m srStart srStop j)).sum := by
  rw [dayPlaces, List.length_flatMap]
  simp only [List.length_map, List.countP_eq_length_filter]

/-- The times of the places are those that the answer without the memory has. -/
theorem dayEntries_eq : dayEntries m type srStart srStop =
    (dayPlaces m srStart srStop (dayTypes type)).map fun p =>
      (p.1, (m.flist p.1).start p.2, (m.flist p.1).stop p.2) := by
  rw [dayEntries, dayPlaces, List.map_flatMap, dayTypes]
  refine List.flatMap_congr fun j _ => ?_
  rw [FileList.entries, List.filter_map, List.map_map, List.map_map]
  refine congrArg _ (List.filter_congr fun i _ => ?_)
  simp only [Function.comp_apply, inDay, ← decide_not, BitVec.not_lt]

/-! ### Filling the records -/

/-- The loop before the last of its records. -/
structure Filling (need : ℕ) (f : DayFill) : Prop where
  asked : f.asked = f.index + 1
  finished : f.finished = false
  lt : f.index < need

variable (m fileSize) in
/-- From `f` the loop has come to `g` over the places, and left out none. -/
structure Filled (need : ℕ) (f : DayFill) (ps : List (ℕ × ℕ)) (g : DayFill) : Prop where
  index : g.index = min need (f.index + ps.length)
  asked : g.asked = g.index + 1
  finished : g.finished = decide (need ≤ f.index + ps.length)
  length : g.days.length = f.days.length
  days : g.days.take g.index = f.days.take f.index ++
    (ps.take (need - f.index)).map fun p => daySlot m fileSize p.1 p.2

theorem Filling.refl (hf : Filling need f) : Filled m fileSize need f [] f where
  index := (min_eq_right hf.lt.le).symm
  asked := hf.asked
  finished := hf.finished.trans (decide_eq_false (not_le.mpr hf.lt)).symm
  length := rfl
  days := by simp

namespace Filled

theorem finished_iff (h : Filled m fileSize need f ps g) :
    g.finished = true ↔ need ≤ f.index + ps.length := by
  rw [h.finished, decide_eq_true_iff]

theorem filling (h : Filled m fileSize need f ps g) (hlt : f.index + ps.length < need) :
    Filling need g where
  asked := h.asked
  finished := by rw [h.finished, decide_eq_false_iff_not, not_le]; exact hlt
  lt := by rw [h.index, min_eq_right hlt.le]; exact hlt

/-- The places behind the last that is needed do not matter. -/
theorem append (h : Filled m fileSize need f ps g) (hle : need ≤ f.index + ps.length) :
    Filled m fileSize need f (ps ++ qs) g where
  index := by
    rw [h.index, List.length_append, min_eq_left hle, min_eq_left (by omega)]
  asked := h.asked
  finished := by
    rw [h.finished, decide_eq_true hle, List.length_append, decide_eq_true (by omega)]
  length := h.length
  days := by
    rw [h.days, List.take_append_of_le_length (by omega)]

theorem trans (h₁ : Filled m fileSize need f ps g) (hlt : f.index + ps.length < need)
    (h₂ : Filled m fileSize need g qs h) : Filled m fileSize need f (ps ++ qs) h := by
  have hg : g.index = f.index + ps.length := h₁.index.trans (min_eq_right hlt.le)
  refine ⟨?_, h₂.asked, ?_, h₂.length.trans h₁.length, ?_⟩
  · rw [h₂.index, hg, List.length_append, Nat.add_assoc]
  · rw [h₂.finished, hg, List.length_append, Nat.add_assoc]
  · have hps : ps.take (need - f.index) = ps := List.take_of_length_le (by omega)
    have hsub : need - f.index - ps.length = need - g.index := by omega
    rw [h₂.days, h₁.days, hps, List.take_append, hps, List.map_append, List.append_assoc, hsub]

end Filled

/-- One record. -/
theorem Filling.add (hf : Filling need f) (hroom : f.index < f.days.length) (b : Bool)
    (hb : b = decide (need ≤ f.index + 1)) : Filled m fileSize need f [(j, i)]
      { f.add (daySlot m fileSize j i) with finished := b } where
  index := (min_eq_right (Nat.succ_le_of_lt hf.lt)).symm
  asked := by
    change f.asked + 1 = f.index + 1 + 1
    rw [hf.asked]
  finished := hb
  length := List.length_set
  days := by
    have hone : ([(j, i)] : List (ℕ × ℕ)).take (need - f.index) = [(j, i)] :=
      List.take_of_length_le (Nat.sub_pos_of_lt hf.lt)
    have hget : (f.days.set f.index (daySlot m fileSize j i))[f.index]? =
        some (daySlot m fileSize j i) := List.getElem?_set_self hroom
    change (f.days.set f.index _).take (f.index + 1) = _
    rw [hone, List.take_add_one, hget, List.take_set_of_le le_rfl]
    rfl

/-- With memory for each name that is needed, the inner loop leaves out none. -/
theorem filled_fillIndexes (hneed : number.toInt = need) (hf : Filling need f)
    (hroom : min need (f.index + (is.filter (inDay m srStart srStop j)).length) ≤ f.days.length)
    (halloc : ∀ t, f.index ≤ t →
      t < min need (f.index + (is.filter (inDay m srStart srStop j)).length) →
        alloc (t + 1) = true) :
    Filled m fileSize need f ((is.filter (inDay m srStart srStop j)).map (j, ·))
      (fillIndexes m fileSize alloc number srStart srStop j is f) := by
  induction is generalizing f with
  | nil => exact hf.refl
  | cons i is ih =>
      rw [fillIndexes]
      rcases hin : inDay m srStart srStop j i with _ | _
      · rw [List.filter_cons_of_neg (by rw [hin]; exact Bool.false_ne_true)] at hroom halloc ⊢
        exact ih hf hroom halloc
      rw [List.filter_cons_of_pos hin] at hroom halloc ⊢
      simp only [List.length_cons] at hroom halloc
      have hlt : f.index < need := hf.lt
      have hslot : f.index < f.days.length := by omega
      have hok : alloc f.asked = true := by
        rw [hf.asked]
        exact halloc f.index le_rfl (by omega)
      simp only [hok, Bool.not_true, Bool.false_eq_true, if_false, List.map_cons]
      have hindex : ((f.add (daySlot m fileSize j i)).index : ℤ) = number.toInt ↔
          f.index + 1 = need := by
        rw [hneed]
        exact Nat.cast_inj
      rw [if_congr hindex rfl rfl]
      split_ifs with hlast
      · exact (hf.add hslot true (decide_eq_true hlast.ge).symm).append hlast.ge
      · have hmore : f.index + 1 < need := by omega
        have hadd : Filled m fileSize need f [(j, i)] (f.add (daySlot m fileSize j i)) := by
          have h : Filled m fileSize need f [(j, i)]
              { f.add (daySlot m fileSize j i) with finished := false } :=
            hf.add hslot false (decide_eq_false (not_le.mpr hmore)).symm
          rwa [← hf.finished] at h
        refine hadd.trans hmore (ih (hadd.filling hmore) ?_ ?_)
        · change min need (f.index + 1 + _) ≤ (f.days.set _ _).length
          rw [List.length_set]
          omega
        · intro t ht
          change f.index + 1 ≤ t at ht
          change t < min need (f.index + 1 + _) → _
          intro htlt
          exact halloc t (by omega) (by omega)

/-- With memory for each name that is needed, no place is left out. -/
theorem filled_fillTypes (hneed : number.toInt = need) (hf : Filling need f)
    (hroom : min need (f.index + (dayPlaces m srStart srStop js).length) ≤ f.days.length)
    (halloc : ∀ t, f.index ≤ t →
      t < min need (f.index + (dayPlaces m srStart srStop js).length) → alloc (t + 1) = true) :
    Filled m fileSize need f (dayPlaces m srStart srStop js)
      (fillTypes m fileSize alloc number srStart srStop js f) := by
  induction js generalizing f with
  | nil => exact hf.refl
  | cons j js ih =>
      rw [fillTypes]
      rw [dayPlaces_cons, List.length_append, List.length_map] at hroom halloc
      have hfirst : Filled m fileSize need f _ (fillIndexes m fileSize alloc number srStart srStop j
          (List.range (m.flist j).num) f) :=
        filled_fillIndexes hneed hf (by omega) fun t ht htlt => halloc t ht (by omega)
      rw [dayPlaces_cons]
      have hiff := hfirst.finished_iff
      rw [List.length_map] at hiff
      split_ifs with hend
      · exact hfirst.append (by rw [List.length_map]; exact hiff.mp hend)
      · have hmore := not_le.mp (mt hiff.mpr hend)
        have hmore' := hmore
        rw [← List.length_map (j, ·)] at hmore'
        have hindex : (fillIndexes m fileSize alloc number srStart srStop j
            (List.range (m.flist j).num) f).index = f.index +
              ((List.range (m.flist j).num).filter (inDay m srStart srStop j)).length := by
          rw [hfirst.index, List.length_map, min_eq_right hmore.le]
        refine hfirst.trans hmore' (ih (hfirst.filling hmore') ?_ ?_)
        · rw [hfirst.length, hindex]
          omega
        · rw [hindex]
          intro t ht htlt
          exact halloc t (by omega) (by omega)

/-! ### A name without memory -/

/-- A record in this place of the memory has one of the types. -/
def OfTypes (js : List ℕ) (t : ℕ) (days : List DaySlot) : Prop :=
  ∀ day size, days[t]? = some (.record day size) → day.recordType ∈ js

theorem OfTypes.set {days : List DaySlot} {slot : DaySlot} (h : OfTypes js t days)
    (hslot : ∀ day size, slot = .record day size → day.recordType ∈ js) :
    OfTypes js t (days.set i slot) := by
  intro day size hget
  rw [List.getElem?_set] at hget
  split_ifs at hget
  · exact hslot day size (Option.some.inj hget)
  · exact h day size hget

theorem ofTypes_fillIndexes (hj : j ∈ js) (h : OfTypes js t f.days) :
    OfTypes js t (fillIndexes m fileSize alloc number srStart srStop j is f).days := by
  induction is generalizing f with
  | nil => exact h
  | cons i is ih =>
      have hadd : OfTypes js t (f.add (daySlot m fileSize j i)).days := by
        refine h.set fun day size heq => ?_
        cases heq
        exact hj
      rw [fillIndexes]
      split_ifs
      · exact ih h
      · exact h.set fun day size heq => by cases heq
      · dsimp only
        split_ifs
        · exact hadd
        · exact ih hadd

theorem ofTypes_fillTypes {js' : List ℕ} (hjs : ∀ j ∈ js', j ∈ js) (h : OfTypes js t f.days) :
    OfTypes js t (fillTypes m fileSize alloc number srStart srStop js' f).days := by
  induction js' generalizing f with
  | nil => exact h
  | cons j js' ih =>
      have hfirst : OfTypes js t (fillIndexes m fileSize alloc number srStart srStop j
          (List.range (m.flist j).num) f).days := ofTypes_fillIndexes (hjs j List.mem_cons_self) h
      rw [fillTypes]
      split_ifs
      · exact hfirst
      · exact ih (fun j hj => hjs j (List.mem_cons_of_mem _ hj)) hfirst

/-- Where the first name without memory is needed, the loop over the type ends. -/
theorem stopped_fillIndexes (hneed : number.toInt = need) (hf : Filling need f)
    (hroom : t < f.days.length) (hle : f.index ≤ t)
    (hlt : t < min need (f.index + (is.filter (inDay m srStart srStop j)).length))
    (halloc : ∀ s, f.index ≤ s → s < t → alloc (s + 1) = true) (hfail : alloc (t + 1) = false) :
    (fillIndexes m fileSize alloc number srStart srStop j is f).days[t]? = some .unnamed ∧
      (fillIndexes m fileSize alloc number srStart srStop j is f).finished = false := by
  induction is generalizing f with
  | nil =>
      simp only [List.filter_nil, List.length_nil] at hlt
      omega
  | cons i is ih =>
      rw [fillIndexes]
      rcases hin : inDay m srStart srStop j i with _ | _
      · rw [List.filter_cons_of_neg (by rw [hin]; exact Bool.false_ne_true)] at hlt
        exact ih hf hroom hle hlt halloc
      rw [List.filter_cons_of_pos hin, List.length_cons] at hlt
      rcases hle.eq_or_lt with rfl | hbelow
      · simp only [hf.asked, hfail, Bool.not_true, Bool.not_false, Bool.false_eq_true, if_false,
          if_true]
        exact ⟨List.getElem?_set_self hroom, hf.finished⟩
      · have hok : alloc f.asked = true := by
          rw [hf.asked]
          exact halloc f.index le_rfl hbelow
        have hindex : ¬ ((f.add (daySlot m fileSize j i)).index : ℤ) = number.toInt := by
          rw [hneed]
          change ¬ ((f.index + 1 : ℕ) : ℤ) = need
          omega
        simp only [hok, Bool.not_true, Bool.false_eq_true, if_false, if_neg hindex]
        refine ih ⟨congrArg (· + 1) hf.asked, hf.finished, ?_⟩ ?_ hbelow ?_ fun s hs => ?_
        · change f.index + 1 < need
          omega
        · change t < (f.days.set _ _).length
          rw [List.length_set]
          exact hroom
        · change t < min need (f.index + 1 + _)
          omega
        · change f.index + 1 ≤ s at hs
          exact halloc s (by omega)

/-- The record at this place of the memory is not the one that belongs there. -/
theorem stopped_fillTypes (hneed : number.toInt = need) (hf : Filling need f) (hjs : js.Nodup)
    (hroom : min need (f.index + (dayPlaces m srStart srStop js).length) ≤ f.days.length)
    (hle : f.index ≤ t) (hlt : t < min need (f.index + (dayPlaces m srStart srStop js).length))
    (halloc : ∀ s, f.index ≤ s → s < t → alloc (s + 1) = true) (hfail : alloc (t + 1) = false) :
    (fillTypes m fileSize alloc number srStart srStop js f).days[t]? ≠
      ((dayPlaces m srStart srStop js)[t - f.index]?).map fun p => daySlot m fileSize p.1 p.2 := by
  induction js generalizing f with
  | nil =>
      change t < min need (f.index + 0) at hlt
      omega
  | cons j js ih =>
      obtain ⟨hj, hjs⟩ := List.nodup_cons.mp hjs
      rw [fillTypes]
      rw [dayPlaces_cons, List.length_append, List.length_map] at hlt hroom
      rw [dayPlaces_cons]
      by_cases hhere : t < f.index +
          ((List.range (m.flist j).num).filter (inDay m srStart srStop j)).length
      · obtain ⟨hunnamed, hopen⟩ : (fillIndexes m fileSize alloc number srStart srStop j
            (List.range (m.flist j).num) f).days[t]? = some .unnamed ∧ _ :=
          stopped_fillIndexes hneed hf (by omega) hle (by omega) halloc hfail
        rw [hopen, if_neg Bool.false_ne_true, List.getElem?_append_left (by
          rw [List.length_map]; omega), List.getElem?_map, Option.map_map]
        have htypes : OfTypes js t (fillTypes m fileSize alloc number srStart srStop js
            (fillIndexes m fileSize alloc number srStart srStop j
              (List.range (m.flist j).num) f)).days :=
          ofTypes_fillTypes (fun _ h => h) fun day size hget => by
            rw [hunnamed] at hget
            cases hget
        rw [List.getElem?_eq_getElem (Nat.sub_lt_left_of_lt_add hle hhere)]
        exact fun heq => hj (htypes _ _ heq)
      · have hfirst : Filled m fileSize need f _ (fillIndexes m fileSize alloc number srStart
            srStop j (List.range (m.flist j).num) f) :=
          filled_fillIndexes hneed hf (by omega) fun s hs hslt => halloc s hs (by omega)
        have hmore : f.index + (((List.range (m.flist j).num).filter
            (inDay m srStart srStop j)).map (j, ·)).length < need := by
          rw [List.length_map]
          omega
        have hfilling := hfirst.filling hmore
        have hindex := hfirst.index.trans (min_eq_right hmore.le)
        rw [List.length_map] at hindex
        rw [hfilling.finished, if_neg Bool.false_ne_true, List.getElem?_append_right (by
          rw [List.length_map]; omega), List.length_map, Nat.sub_sub, ← hindex]
        refine ih hfilling hjs ?_ ?_ ?_ fun s hs => halloc s (by omega)
        · rw [hfirst.length, hindex]
          omega
        · omega
        · omega

/-! ### The answer -/

theorem length_firstPlaces : (firstPlaces m number srStart srStop type).length =
    min number.toNat (dayPlaces m srStart srStop (dayTypes type)).length := List.length_take

theorem toInt_eq_toNat (hnumber : 0 < number.toInt) : number.toInt = number.toNat := by
  have h := BitVec.toInt_eq_toNat_cond number
  have hlt := number.isLt
  split_ifs at h <;> omega

theorem isRecord_map (ps : List (ℕ × ℕ)) :
    (ps.map fun p => daySlot m fileSize p.1 p.2).filter DaySlot.isRecord =
      ps.map fun p => daySlot m fileSize p.1 p.2 := by
  refine List.filter_eq_self.mpr fun slot hslot => ?_
  obtain ⟨p, -, rfl⟩ := List.mem_map.mp hslot
  rfl

theorem read_eq (days : List DaySlot) :
    DayResponse.read { num := days.length, days := days } = days.map some := by
  refine List.ext_getElem (by simp [DayResponse.read]) fun i hi hi' => ?_
  rw [List.length_map] at hi'
  simp [DayResponse.read, hi']

theorem daySound_of_eq {num : ℕ} {days : List DaySlot}
    (hnum : num = (firstPlaces m number srStart srStop type).length)
    (hdays : days = (firstPlaces m number srStart srStop type).map fun p =>
      daySlot m fileSize p.1 p.2) :
    DaySound m fileSize number srStart srStop type { num := num, days := days } := by
  have hfilter : days.filter DaySlot.isRecord = days := by
    rw [hdays]
    exact isRecord_map _
  have hlength : num = days.length := by rw [hnum, hdays, List.length_map]
  refine ⟨?_, ?_, (nodup_dayPlaces (nodup_dayTypes type)).sublist (List.take_sublist _ _), ?_⟩
  · dsimp only
    rw [hfilter, hlength]
  · dsimp only
    rw [hfilter, hdays]
  · rw [hfilter, hlength]
    exact read_eq days

/-- The memory of a sound answer holds the records and nothing else. -/
theorem DaySound.days_eq {response : DayResponse}
    (h : DaySound m fileSize number srStart srStop type response)
    (hlength : response.days.length = response.num) :
    response.days = (firstPlaces m number srStart srStop type).map fun p =>
      daySlot m fileSize p.1 p.2 := by
  have hall : response.days.filter DaySlot.isRecord = response.days :=
    List.filter_sublist.eq_of_length (h.count.symm.trans hlength.symm)
  rw [← h.first, hall]

/-- The records as the last loop finds them. -/
def dayList (m : FileManager) (number : CInt) (srStart srStop : CLong) (type : ℕ) : DayFill :=
  { days := List.replicate (firstPlaces m number srStart srStop type).length .unset }

theorem filling_dayList (hneed : 0 < need) :
    Filling need (dayList m number srStart srStop type) := ⟨rfl, rfl, hneed⟩

@[simp] theorem length_dayList : (dayList m number srStart srStop type).days.length =
    (firstPlaces m number srStart srStop type).length := List.length_replicate

/-- What is answered. -/
theorem answer_eq (hnumber : 0 < number.toInt) (hinit : m.init = true)
    (hsome : firstPlaces m number srStart srStop type ≠ []) :
    fileManagerGetFileByDay m fileSize alloc number srStart srStop type param =
      if !alloc 0 then (-1#32, {})
      else (0#32, {
        num := (firstPlaces m number srStart srStop type).length
        days := (fillTypes m fileSize alloc number srStart srStop (dayTypes type)
          (dayList m number srStart srStop type)).days }) := by
  have hpos : 0 < (firstPlaces m number srStart srStop type).length :=
    List.length_pos_iff.mpr hsome
  have hnum : (firstPlaces m number srStart srStop type).length =
      if number.toNat < (dayPlaces m srStart srStop (dayTypes type)).length then number.toNat
      else (dayPlaces m srStart srStop (dayTypes type)).length := by
    rw [length_firstPlaces]
    split_ifs <;> omega
  have hcount : 0 < (dayPlaces m srStart srStop (dayTypes type)).length := by
    rw [length_firstPlaces] at hpos
    omega
  rw [dayList, hnum]
  simp only [fileManagerGetFileByDay, hinit, Bool.not_true, Bool.false_eq_true, if_false,
    ← length_dayPlaces, hcount, hnumber, and_self, if_true]

/-- Nothing of the time asked for. -/
theorem answer_none (hinit : m.init = true) (hnumber : 0 < number.toInt)
    (hnone : firstPlaces m number srStart srStop type = []) :
    fileManagerGetFileByDay m fileSize alloc number srStart srStop type param = (0#32, {}) := by
  have hlength := congrArg List.length hnone
  have hneed := toInt_eq_toNat hnumber
  rw [length_firstPlaces, List.length_nil] at hlength
  have hcount : (dayPlaces m srStart srStop (dayTypes type)).length = 0 := by omega
  simp only [fileManagerGetFileByDay, hinit, Bool.not_true, Bool.false_eq_true, if_false,
    ← length_dayPlaces, hcount, lt_self_iff_false, false_and]

theorem room_dayList : min number.toNat
    ((dayList m number srStart srStop type).index +
      (dayPlaces m srStart srStop (dayTypes type)).length) ≤
      (dayList m number srStart srStop type).days.length := by
  rw [length_dayList, length_firstPlaces]
  exact (congrArg (min _) (Nat.zero_add _)).le

theorem length_fillIndexes :
    (fillIndexes m fileSize alloc number srStart srStop j is f).days.length = f.days.length := by
  induction is generalizing f with
  | nil => rfl
  | cons i is ih =>
      rw [fillIndexes]
      split_ifs
      · exact ih
      · exact List.length_set
      · dsimp only
        split_ifs
        · exact List.length_set
        · exact ih.trans List.length_set

theorem length_fillTypes : (fillTypes m fileSize alloc number srStart srStop js f).days.length =
    f.days.length := by
  induction js generalizing f with
  | nil => rfl
  | cons j js ih =>
      rw [fillTypes]
      split_ifs
      · exact length_fillIndexes
      · exact ih.trans length_fillIndexes

/-- With memory for each name, all records are written. -/
theorem days_fillTypes (hnumber : 0 < number.toInt)
    (halloc : ∀ t < (firstPlaces m number srStart srStop type).length, alloc (t + 1) = true) :
    (fillTypes m fileSize alloc number srStart srStop (dayTypes type)
        (dayList m number srStart srStop type)).days =
      (firstPlaces m number srStart srStop type).map fun p => daySlot m fileSize p.1 p.2 := by
  have hneed := toInt_eq_toNat hnumber
  have hfilling : Filling number.toNat (dayList m number srStart srStop type) :=
    filling_dayList (by omega)
  have hfilled : Filled m fileSize number.toNat (dayList m number srStart srStop type) _
      (fillTypes m fileSize alloc number srStart srStop (dayTypes type)
        (dayList m number srStart srStop type)) :=
    filled_fillTypes hneed hfilling room_dayList fun t _ ht => halloc t (by
      rw [length_firstPlaces, ← Nat.zero_add (dayPlaces _ _ _ _).length]
      exact ht)
  have hdays := hfilled.days
  rw [List.take_of_length_le] at hdays
  · exact hdays
  · rw [hfilled.length, hfilled.index, length_dayList, length_firstPlaces]
    exact (congrArg (min _) (Nat.zero_add _)).ge

/-- Without memory for a name that is needed, the record of the first such name is missing. -/
theorem exists_days_ne (hnumber : 0 < number.toInt)
    (hfail : ∃ t < (firstPlaces m number srStart srStop type).length, alloc (t + 1) = false) :
    (fillTypes m fileSize alloc number srStart srStop (dayTypes type)
        (dayList m number srStart srStop type)).days ≠
      (firstPlaces m number srStart srStop type).map fun p => daySlot m fileSize p.1 p.2 := by
  have hneed := toInt_eq_toNat hnumber
  have hfilling : Filling number.toNat (dayList m number srStart srStop type) :=
    filling_dayList (by omega)
  obtain ⟨t, ⟨ht, hnot⟩, hleast⟩ : ∃ t, (t < (firstPlaces m number srStart srStop type).length ∧
      alloc (t + 1) = false) ∧ ∀ s < t, ¬ (s < (firstPlaces m number srStart srStop type).length ∧
        alloc (s + 1) = false) := ⟨Nat.find hfail, Nat.find_spec hfail, fun s => Nat.find_min hfail⟩
  have halloc : ∀ s, (dayList m number srStart srStop type).index ≤ s → s < t →
      alloc (s + 1) = true := fun s _ hs => by
    rw [← Bool.not_eq_false]
    exact fun h => hleast s hs ⟨hs.trans ht, h⟩
  have hlt : t < min number.toNat ((dayList m number srStart srStop type).index +
      (dayPlaces m srStart srStop (dayTypes type)).length) := by
    rw [length_firstPlaces] at ht
    exact ht.trans_eq (congrArg (min _) (Nat.zero_add _).symm)
  have hslot : (fillTypes m fileSize alloc number srStart srStop (dayTypes type)
      (dayList m number srStart srStop type)).days[t]? ≠ _ :=
    stopped_fillTypes hneed hfilling (nodup_dayTypes type) room_dayList (Nat.zero_le t) hlt halloc
      hnot
  intro hdays
  rw [hdays, List.getElem?_map, firstPlaces, List.getElem?_take_of_lt (by omega)] at hslot
  exact hslot rfl

/-- With memory for each name, an answer that is reported as one is sound. -/
theorem listed_of_holds (hnumber : 0 < number.toInt)
    (hholds : DayHolds m alloc number srStart srStop type) :
    DayListed m fileSize alloc number srStart srStop type param := by
  intro response h
  rcases hinit : m.init with _ | _
  · rw [fileManagerGetFileByDay, hinit] at h
    cases h
  by_cases hnone : firstPlaces m number srStart srStop type = []
  · rw [answer_none hinit hnumber hnone] at h
    cases h
    exact daySound_of_eq (by rw [hnone]; rfl) (by rw [hnone]; rfl)
  rw [answer_eq hnumber hinit hnone] at h
  split_ifs at h with hlist
  · cases h
  · cases h
    rw [Bool.not_eq_true, Bool.not_eq_false'] at hlist
    exact daySound_of_eq rfl (days_fillTypes hnumber (hholds hinit hlist))

/-- An answer that is reported as one is sound iff there is memory for each name. -/
theorem dayListed_iff (hnumber : 0 < number.toInt) :
    DayListed m fileSize alloc number srStart srStop type param ↔
      DayHolds m alloc number srStart srStop type := by
  refine ⟨fun hsound hinit hlist => ?_, listed_of_holds hnumber⟩
  by_contra! hfail
  simp only [ne_eq, Bool.not_eq_true] at hfail
  have hnone : firstPlaces m number srStart srStop type ≠ [] := fun h => by
    obtain ⟨t, ht, -⟩ := hfail
    rw [h] at ht
    exact Nat.not_lt_zero t ht
  have h := hsound _ (by rw [answer_eq hnumber hinit hnone, hlist]; rfl)
  refine exists_days_ne hnumber hfail (h.days_eq ?_)
  dsimp only
  rw [length_fillTypes, length_dayList]

/-- Two recordings, from the tenth to the twentieth second and from there to the thirtieth. -/
def twoRecordings : FileManager where
  flist j := if j = 0 then fileManagerAddFile (fileManagerAddFile {} 10 20) 20 30 else {}
  init := true

/-- Two records, with memory for all. -/
theorem dayListed_two : 0 < (2#32 : CInt).toInt ∧ (DayListed twoRecordings (fun _ => 7#32)
    (fun _ => true) 2#32 0#64 99#64 lvStorageRecordAny {} ↔
      DayHolds twoRecordings (fun _ => true) 2#32 0#64 99#64 lvStorageRecordAny) :=
  ⟨by decide, dayListed_iff (by decide)⟩

/-- The caller reads the records of the first recordings and nothing else. -/
theorem queryStorageRecordCb_eq {startTime stopTime num : BitVec 32}
    (hnumber : 0 < (queryMax num).toInt)
    (hholds : DayHolds m alloc (queryMax num) (startTime.setWidth 64)
      (stopTime.setWidth 64) type) :
    queryStorageRecordCb m fileSize alloc type startTime stopTime num = [] ∨
      queryStorageRecordCb m fileSize alloc type startTime stopTime num =
        (firstPlaces m (queryMax num) (startTime.setWidth 64)
          (stopTime.setWidth 64) type).map fun p => some (daySlot m fileSize p.1 p.2) := by
  have hlisted : DayListed m fileSize alloc (queryMax num)
      (startTime.setWidth 64) (stopTime.setWidth 64) type {} := listed_of_holds hnumber hholds
  simp only [queryStorageRecordCb]
  split_ifs with hret
  · have hsound := hlisted _ (Prod.ext hret rfl)
    rw [hsound.read, hsound.first, List.map_map]
    exact .inr rfl
  · exact .inl rfl

/-- The records of a sound answer are those that are answered where memory does not matter. -/
theorem DaySound.records {response : DayResponse} (hinit : m.init = true)
    (h : DaySound m fileSize number srStart srStop type response) :
    Recorder.fileManagerGetFileByDay m type number.toNat srStart srStop =
      some (response.days.filterMap DaySlot.day) := by
  have hfilter : response.days.filterMap DaySlot.day =
      (response.days.filter DaySlot.isRecord).filterMap DaySlot.day := by
    rw [List.filterMap_filter]
    refine List.filterMap_congr fun slot _ => ?_
    rcases slot with _ | _ | _ <;> rfl
  rw [Recorder.fileManagerGetFileByDay, if_pos hinit, dayEntries_eq, hfilter, h.first, firstPlaces,
    List.filterMap_map, ← List.map_take, List.map_map]
  exact congrArg some (congrFun List.filterMap_eq_map _).symm

/-- Without memory for the first name, two records are counted and none is written. -/
theorem name_unallocated : fileManagerGetFileByDay twoRecordings (fun _ => 7#32) (fun n => n = 0)
      2#32 0#64 99#64 0 {} = (0#32, { num := 2, days := [.unnamed, .unset] }) ∧
    queryStorageRecordCb twoRecordings (fun _ => 7#32) (fun n => n = 0) 0 0#32 99#32 2#32 =
      [some .unnamed, some .unset] ∧
    ¬ DayListed twoRecordings (fun _ => 7#32) (fun n => n = 0) 2#32 0#64 99#64 0 {} := by
  have hanswer : fileManagerGetFileByDay twoRecordings (fun _ => 7#32) (fun n => n = 0)
      2#32 0#64 99#64 0 {} = (0#32, { num := 2, days := [.unnamed, .unset] }) := by
    decide
  refine ⟨hanswer, by decide, fun hlisted => ?_⟩
  have hcount := (hlisted _ hanswer).count
  simp [DaySlot.isRecord] at hcount

end GokeWebcam.Server.DayListing
