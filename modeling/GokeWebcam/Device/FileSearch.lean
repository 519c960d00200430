import GokeWebcam.Device.FileList

/-!
# Searching the list of recorded files

In a sorted list a search counts the entries that the query overlaps, by its times read as unsigned
(`counted_eq`), unless it starts behind the start of the last one and behind what stands in the slot
after it.

* `searchExact_iff`: when the search gives what the query asks for.
* `lastFile_notFound`: a query that starts within the last recording finds nothing.
-/

namespace GokeWebcam.Device

open Lib Common

/-- The recordings are in order and none overlaps the next. -/
structure FileList.Sorted (l : FileList) : Prop where
  lt : ∀ i < l.num, l.start i < l.stop i
  le : ∀ i, i + 1 < l.num → l.stop i ≤ l.start (i + 1)

/-- The query starts behind the start of the last entry and behind the time in the slot after it. -/
def StartsPast (l : FileList) (start : CLong) : Prop :=
  l.start (l.num - 1) < start ∧ l.startAt l.num < start

instance (l : FileList) (start : CLong) : Decidable (StartsPast l start) :=
  inferInstanceAs (Decidable (_ ∧ _))

variable {l : FileList} {start stop key : CLong} {i j : ℕ}

namespace FileList.Sorted

theorem stop_le_start (hl : l.Sorted) (hij : i < j) (hj : j < l.num) : l.stop i ≤ l.start j := by
  induction j, hij using Nat.le_induction with
  | base => exact hl.le i hj
  | succ j hij ih =>
      have hlt : l.start j ≤ l.stop j := BitVec.le_of_lt (hl.lt j (by omega))
      exact BitVec.le_trans (ih (by omega)) (BitVec.le_trans hlt (hl.le j hj))

theorem start_mono (hl : l.Sorted) (hij : i ≤ j) (hj : j < l.num) : l.start i ≤ l.start j := by
  rcases hij.eq_or_lt with rfl | hlt
  · exact BitVec.le_refl _
  · have hstop : l.start i ≤ l.stop i := BitVec.le_of_lt (hl.lt i (hlt.trans hj))
    exact BitVec.le_trans hstop (hl.stop_le_start hlt hj)

theorem stop_mono (hl : l.Sorted) (hij : i ≤ j) (hj : j < l.num) : l.stop i ≤ l.stop j := by
  rcases hij.eq_or_lt with rfl | hlt
  · exact BitVec.le_refl _
  · exact BitVec.le_trans (hl.stop_le_start hlt hj) (BitVec.le_of_lt (hl.lt j hj))

end FileList.Sorted

theorem startAt_of_lt (hi : i < l.num) : l.startAt i = l.start i :=
  if_pos (hi.trans_le l.num_le)

/-! ### The two bisections -/

/-- The starts, as the table that the first bisection reads. -/
theorem monotoneOn_startAt (hl : l.Sorted) :
    MonotoneOn (fun i : ℤ => (l.startAt i.toNat).toNat) (Set.Icc 0 ((l.num : ℤ) - 1)) := by
  rintro a ⟨ha₀, ha₁⟩ b ⟨hb₀, hb₁⟩ hab
  dsimp only
  rw [startAt_of_lt (by omega), startAt_of_lt (by omega)]
  exact hl.start_mono (by omega) (by omega)

theorem monotoneOn_stop (hl : l.Sorted) :
    MonotoneOn (fun i : ℤ => (l.stop i.toNat).toNat) (Set.Icc 0 ((l.num : ℤ) - 1)) := by
  rintro a ⟨ha₀, ha₁⟩ b ⟨hb₀, hb₁⟩ hab
  exact hl.stop_mono (by omega) (by omega)

/-- Below the place found every recording has stopped by the time of the key. -/
theorem bisearchStart_spec (hl : l.Sorted) (hpos : 0 < l.num)
    (hpast : ¬ StartsPast l key) :
    ∃ p : ℕ, fileManagerFileBisearchStart l key = p ∧ p < l.num ∧ ∀ k < p, l.stop k ≤ key := by
  rw [fileManagerFileBisearchStart, startAt_of_lt hpos]
  split_ifs with hfirst
  · exact ⟨0, rfl, hpos, by simp⟩
  rcases hsearch : bisect (fun i => (l.startAt i.toNat).toNat) key.toNat 0 (l.num - 1) with mid | low
  · obtain ⟨h₀, h₁, heq⟩ := bisect_found hsearch
    obtain ⟨p, rfl⟩ := Int.eq_ofNat_of_zero_le h₀
    refine ⟨p, rfl, by omega, fun k hk => ?_⟩
    have hstart : l.start p = key := by
      rw [← startAt_of_lt (by omega)]
      exact BitVec.eq_of_toNat_eq heq
    rw [← hstart]
    exact hl.stop_le_start hk (by omega)
  · obtain ⟨⟨h₀, h₁⟩, hbelow, habove⟩ :=
      bisect_absent (monotoneOn_startAt hl) (by omega) hsearch
    obtain ⟨p, rfl⟩ := Int.eq_ofNat_of_zero_le h₀
    -- the first start is not above the key, so the place is not the first one
    have hp : 0 < p := by
      by_contra hp
      have hlt : key.toNat < (l.startAt 0).toNat := habove 0 (by omega) (by omega)
      rw [startAt_of_lt hpos] at hlt
      exact hfirst hlt
    have hprev : l.start (p - 1) < key := by
      have hlt := hbelow (p - 1 : ℕ) (by omega) (by omega)
      rwa [Int.toNat_natCast, startAt_of_lt (by omega)] at hlt
    have hslot : ¬ l.startAt p < key := by
      intro hslot
      by_cases hlast : p < l.num
      · have hlt : key.toNat < (l.startAt p).toNat := habove p (by omega) (by omega)
        exact absurd hslot (by bv_omega)
      · obtain rfl : p = l.num := by omega
        exact hpast ⟨hprev, hslot⟩
    refine ⟨p - 1, ?_, by omega, fun k hk => ?_⟩
    · simp only [Int.toNat_natCast, if_neg hslot]
      omega
    · exact BitVec.le_trans (hl.stop_le_start hk (by omega)) (BitVec.le_of_lt hprev)

/-- Behind the last entry the bisection ends at the slot after it. -/
theorem bisearchStart_of_startsPast (hl : l.Sorted) (hpos : 0 < l.num)
    (hpast : StartsPast l key) : fileManagerFileBisearchStart l key = l.num := by
  obtain ⟨hlast, hslot⟩ := hpast
  have hbelow : ∀ i < l.num, l.startAt i < key := by
    intro i hi
    have hmono := hl.start_mono (Nat.le_sub_one_of_lt hi) (by omega)
    rw [startAt_of_lt hi]
    bv_omega
  rw [fileManagerFileBisearchStart, if_neg (by have := hbelow 0 hpos; bv_omega)]
  rcases hsearch : bisect (fun i => (l.startAt i.toNat).toNat) key.toNat 0 (l.num - 1) with mid | low
  · obtain ⟨h₀, h₁, heq⟩ := bisect_found hsearch
    have hlt : (l.startAt mid.toNat).toNat < key.toNat := hbelow mid.toNat (by omega)
    omega
  · obtain ⟨⟨h₀, h₁⟩, -, habove⟩ :=
      bisect_absent (monotoneOn_startAt hl) (by omega) hsearch
    have hlow : low = l.num := by
      by_contra hne
      have hlt : (l.startAt low.toNat).toNat < key.toNat := hbelow low.toNat (by omega)
      have hgt := habove low le_rfl (by omega)
      omega
    subst hlow
    exact if_pos hslot

/-- Above the place found every recording starts at the time of the key or later. -/
theorem bisearchStop_spec (hl : l.Sorted) (hpos : 0 < l.num) :
    ∃ p : ℕ, fileManagerFileBisearchStop l key = p ∧ p < l.num ∧
      ∀ k, p < k → k < l.num → key ≤ l.start k := by
  rw [fileManagerFileBisearchStop]
  split_ifs with hlast
  · exact ⟨l.num - 1, by omega, by omega, fun k hk hkn => by omega⟩
  rcases hsearch : bisect (fun i => (l.stop i.toNat).toNat) key.toNat 0 (l.num - 1) with mid | low
  · obtain ⟨h₀, h₁, heq⟩ := bisect_found hsearch
    obtain ⟨p, rfl⟩ := Int.eq_ofNat_of_zero_le h₀
    refine ⟨p, rfl, by omega, fun k hk hkn => ?_⟩
    have hstop : l.stop p = key := BitVec.eq_of_toNat_eq heq
    rw [← hstop]
    exact hl.stop_le_start hk hkn
  · obtain ⟨⟨h₀, h₁⟩, hbelow, habove⟩ := bisect_absent (monotoneOn_stop hl) (by omega) hsearch
    obtain ⟨p, rfl⟩ := Int.eq_ofNat_of_zero_le h₀
    -- the last stop is not below the key, so the place is not behind it
    have hp : p < l.num := by
      by_contra hp
      have hlt := hbelow (l.num - 1 : ℕ) (by omega) (by omega)
      exact hlast hlt
    have hstop : key < l.stop p := habove p le_rfl (by omega)
    refine ⟨p, if_pos hstop, hp, fun k hk hkn => ?_⟩
    exact BitVec.le_trans (BitVec.le_of_lt hstop) (hl.stop_le_start hk hkn)

/-! ### What a search counts -/

/-- A range of indexes outside of which nothing passes keeps all that pass. -/
theorem filter_range'_eq {p : ℕ → Bool} {n a b : ℕ} (hbn : b < n)
    (hlow : ∀ k < a, p k = false) (hhigh : ∀ k, b < k → k < n → p k = false) :
    (List.range' a (b + 1 - a)).filter p = (List.range n).filter p := by
  have hnil : ∀ s m, (∀ k, s ≤ k → k < s + m → p k = false) →
      (List.range' s m).filter p = [] := by
    intro s m hnone
    rw [List.filter_eq_nil_iff]
    intro k hk
    rw [List.mem_range'_1] at hk
    rw [hnone k hk.1 hk.2]
    exact Bool.false_ne_true
  rw [List.range_eq_range']
  by_cases hab : a ≤ b + 1
  · obtain ⟨m, hm⟩ := Nat.exists_eq_add_of_le hab
    obtain ⟨d, hd⟩ := Nat.exists_eq_add_of_le hbn
    have hn : n = a + (m + d) := by omega
    rw [hn, ← List.range'_append_1, ← List.range'_append_1, List.filter_append, List.filter_append,
      hnil 0 a fun k _ hk => hlow k (by omega),
      hnil (0 + a + m) d fun k hk hkd => hhigh k (by omega) (by omega), List.nil_append,
      List.append_nil, show b + 1 - a = m by omega, Nat.zero_add]
  · have hall : ∀ k, 0 ≤ k → k < 0 + n → p k = false := by
      intro k _ hk
      rcases lt_or_ge k a with hka | hak
      · exact hlow k hka
      · exact hhigh k (by omega) (by omega)
    rw [show b + 1 - a = 0 by omega, hnil 0 n hall]
    rfl

/-- A search counts every entry that the query overlaps, or nothing. -/
theorem counted_eq (hl : l.Sorted) (hpos : 0 < l.num) :
    counted l start stop =
      if StartsPast l start then [] else (List.range l.num).filter (overlapsAt l start stop) := by
  rw [counted, if_neg hpos.ne']
  obtain ⟨j, hj, hjn, habove⟩ : ∃ p : ℕ, fileManagerFileBisearchStop l stop = p ∧ p < l.num ∧
      ∀ k, p < k → k < l.num → stop ≤ l.start k := bisearchStop_spec hl hpos
  dsimp only
  rw [hj]
  by_cases hpast : StartsPast l start
  · rw [if_pos hpast, bisearchStart_of_startsPast hl hpos hpast, if_neg (by omega),
      if_pos (.inl (by omega))]
  · obtain ⟨i, hi, hin, hbelow⟩ := bisearchStart_spec hl hpos hpast
    have hlow : ∀ k < i, overlapsAt l start stop k = false := by
      intro k hk
      have hstop := hbelow k hk
      rw [overlapsAt, decide_eq_false (by bv_omega), Bool.false_and]
    have hhigh : ∀ k, j < k → k < l.num → overlapsAt l start stop k = false := by
      intro k hk hkn
      have hstart := habove k hk hkn
      rw [overlapsAt, decide_eq_false (p := l.start k < stop) (by bv_omega), Bool.and_false]
    rw [if_neg hpast, hi, if_neg (by omega), if_neg (by omega),
      ← filter_range'_eq hjn hlow hhigh]
    have hcount : ((j : ℤ) + 1 - i).toNat = j + 1 - i := by omega
    split_ifs with hgap
    · rw [show j + 1 - i = 0 by omega]
      rfl
    · rw [hcount, Int.toNat_natCast]

/-! ### What a query asks for -/

/-- The entry overlaps the query, all times read as numbers. -/
def Overlaps (l : FileList) (start stop : CLong) (i : ℕ) : Prop :=
  start.toInt < (l.stop i).toNat ∧ ((l.start i).toNat : ℤ) < stop.toInt

instance (l : FileList) (start stop : CLong) : DecidablePred (Overlaps l start stop) :=
  fun _ => inferInstanceAs (Decidable (_ ∧ _))

/-- The times of the entries that the query overlaps, in their order. -/
def overlapping (l : FileList) (start stop : CLong) : List (ℕ × ℕ) :=
  ((List.range l.num).filter (Overlaps l start stop)).map fun i =>
    ((l.start i).toNat, (l.stop i).toNat)

/-- A search returns 0 exactly when an entry overlaps the query, else -1, produces exactly these
entries, and a check returns 0 on exactly the same queries. -/
structure SearchExact (l : FileList) (start stop : CLong) : Prop where
  zero : (fileManagerSearchFileList l start stop).1 = 0#32 ↔ ∃ i < l.num, Overlaps l start stop i
  fail : (fileManagerSearchFileList l start stop).1 = 0#32 ∨
    (fileManagerSearchFileList l start stop).1 = -1#32
  nodes : (fileManagerSearchFileList l start stop).2.map
      (fun node => (node.start.toNat, node.stop.toNat)) = overlapping l start stop
  check : fileManagerCheckFileList l start stop = 0#32 ↔
    (fileManagerSearchFileList l start stop).1 = 0#32

/-- Where the search meets the query: it does not start behind the slot after the last entry while
an entry overlaps it, the unsigned times of the query tell the same entries apart, and the entries
it overlaps have times that an `unsigned int` holds. -/
def SearchHolds (l : FileList) (start stop : CLong) : Prop :=
  if StartsPast l start then ∀ i < l.num, ¬ Overlaps l start stop i
  else ∀ i < l.num, (overlapsAt l start stop i ↔ Overlaps l start stop i) ∧
    (Overlaps l start stop i → (l.start i).toNat < 2 ^ 32 ∧ (l.stop i).toNat < 2 ^ 32)

theorem foldl_nodeInsert (fhead : List FileListNode) (is : List ℕ) :
    is.foldl (fun fhead i => fileManagerNodeInsert fhead (l.start i) (l.stop i)) fhead =
      fhead ++ is.map fun i =>
        { start := (l.start i).setWidth 32, stop := (l.stop i).setWidth 32 } := by
  induction is generalizing fhead with
  | nil => simp
  | cons i is ih => rw [List.foldl_cons, ih, fileManagerNodeInsert, List.append_assoc]; rfl

theorem search_nodes :
    (fileManagerSearchFileList l start stop).2.map
        (fun node => (node.start.toNat, node.stop.toNat)) =
      (counted l start stop).map fun i =>
        ((l.start i).toNat % 2 ^ 32, (l.stop i).toNat % 2 ^ 32) := by
  rw [fileManagerSearchFileList, foldl_nodeInsert, List.nil_append, List.map_map]
  simp only [Function.comp_def, BitVec.toNat_setWidth]

theorem search_zero_iff :
    (fileManagerSearchFileList l start stop).1 = 0#32 ↔ counted l start stop ≠ [] := by
  rw [fileManagerSearchFileList]
  split_ifs with h
  · exact iff_of_false (show ¬ -1#32 = 0#32 by decide) fun hne => hne h
  · exact iff_of_true rfl h

theorem overlapping_eq_nil : overlapping l start stop = [] ↔ ∀ i < l.num, ¬ Overlaps l start stop i := by
  simp [overlapping]

/-- The nodes decide the rest. -/
theorem searchExact_iff_nodes : SearchExact l start stop ↔
    (counted l start stop).map
        (fun i => ((l.start i).toNat % 2 ^ 32, (l.stop i).toNat % 2 ^ 32)) =
      overlapping l start stop := by
  rw [← search_nodes]
  refine ⟨SearchExact.nodes, fun hnodes => ⟨?_, ?_, hnodes, Iff.rfl⟩⟩
  · have hnil : counted l start stop = [] ↔ overlapping l start stop = [] := by
      rw [← hnodes, search_nodes, List.map_eq_nil_iff]
    rw [search_zero_iff, ne_eq, hnil, overlapping_eq_nil]
    push Not
    rfl
  · rw [fileManagerSearchFileList]
    split_ifs
    · exact .inr rfl
    · exact .inl rfl

/-- A conversion to unsigned loses entries or it finds more of them, never both. -/
theorem overlapsAt_or (hquery : start.toInt < stop.toInt) :
    (∀ i, overlapsAt l start stop i = true → decide (Overlaps l start stop i) = true) ∨
      ∀ i, decide (Overlaps l start stop i) = true → overlapsAt l start stop i = true := by
  simp only [overlapsAt, Bool.and_eq_true, decide_eq_true_eq, BitVec.lt_def]
  simp only [Overlaps]
  have hstart := BitVec.toInt_eq_toNat_cond start
  have hstop := BitVec.toInt_eq_toNat_cond stop
  have hstartLt := start.isLt
  have hstopLt := stop.isLt
  by_cases hneg : start.toInt < 0 ∧ 0 ≤ stop.toInt
  · left
    rintro i ⟨-, hi⟩
    refine ⟨by omega, ?_⟩
    split_ifs at hstop <;> omega
  · right
    rintro i ⟨h₁, h₂⟩
    split_ifs at hstart hstop <;> omega

/-- The entries that a search counts, and those that the query overlaps. -/
theorem filter_overlapsAt_eq_iff : (List.range l.num).filter (overlapsAt l start stop) =
      (List.range l.num).filter (Overlaps l start stop) ↔
    ∀ i < l.num, (overlapsAt l start stop i ↔ Overlaps l start stop i) := by
  constructor
  · intro heq i hi
    have hmem : i ∈ (List.range l.num).filter (overlapsAt l start stop) ↔
        i ∈ (List.range l.num).filter (Overlaps l start stop) := by rw [heq]
    simpa [hi] using hmem
  · intro hagree
    refine List.filter_congr fun i hi => Bool.eq_iff_iff.mpr ?_
    rw [hagree i (List.mem_range.mp hi), decide_eq_true_eq]

/-- The two ways to read a query agree on every entry once they select equally many. -/
theorem filter_overlapsAt_eq_of_length (hquery : start.toInt < stop.toInt)
    (hlength : ((List.range l.num).filter (overlapsAt l start stop)).length =
      ((List.range l.num).filter (Overlaps l start stop)).length) :
    (List.range l.num).filter (overlapsAt l start stop) =
      (List.range l.num).filter (Overlaps l start stop) := by
  rcases overlapsAt_or (l := l) hquery with hsub | hsub
  · exact (List.monotone_filter_right _ hsub).eq_of_length hlength
  · exact ((List.monotone_filter_right _ hsub).eq_of_length hlength.symm).symm

/-- The nodes hold the times of the entries exactly when an `unsigned int` does. -/
theorem map_cut_eq_overlapping : ((List.range l.num).filter (Overlaps l start stop)).map
      (fun i => ((l.start i).toNat % 2 ^ 32, (l.stop i).toNat % 2 ^ 32)) =
        overlapping l start stop ↔
    ∀ i < l.num, Overlaps l start stop i →
      (l.start i).toNat < 2 ^ 32 ∧ (l.stop i).toNat < 2 ^ 32 := by
  rw [overlapping, List.map_inj_left]
  simp

/-- In a sorted list a search meets a query exactly when `SearchHolds` does. -/
theorem searchExact_iff (hl : l.Sorted) (hpos : 1 ≤ l.num)
    (hquery : start.toInt < stop.toInt) :
    SearchExact l start stop ↔ SearchHolds l start stop := by
  rw [searchExact_iff_nodes, counted_eq hl hpos, SearchHolds]
  split_ifs with hpast
  · rw [← overlapping_eq_nil, List.map_nil]
    exact eq_comm
  constructor
  · intro hnodes
    have hlength := congrArg List.length hnodes
    rw [overlapping, List.length_map, List.length_map] at hlength
    have heq := filter_overlapsAt_eq_of_length hquery hlength
    rw [heq, map_cut_eq_overlapping] at hnodes
    exact fun i hi => ⟨filter_overlapsAt_eq_iff.mp heq i hi, hnodes i hi⟩
  · intro hholds
    rw [filter_overlapsAt_eq_iff.mpr fun i hi => (hholds i hi).1, map_cut_eq_overlapping]
    exact fun i hi => (hholds i hi).2

/-- A list of one recording of three minutes. -/
def oneFile : FileList := FileList.push {} 1700000000#64 1700000180#64 (by decide)

theorem sorted_oneFile : oneFile.Sorted where
  lt := by decide
  le i hi := absurd hi (show ¬ i + 1 < 1 by omega)

/-- A query from the start of the recording meets it. -/
theorem searchExact_oneFile : SearchExact oneFile 1700000000#64 1700000200#64 :=
  (searchExact_iff sorted_oneFile (by decide) (by decide)).mpr
    (by rw [SearchHolds]; decide)

/-- A query that starts within the recording finds nothing. -/
theorem lastFile_notFound : oneFile.Sorted ∧ 1 ≤ oneFile.num ∧
    (1700000090#64).toInt < (1700000200#64).toInt ∧
    Overlaps oneFile 1700000090#64 1700000200#64 0 ∧
    fileManagerSearchFileList oneFile 1700000090#64 1700000200#64 = (-1#32, []) ∧
    ¬ SearchExact oneFile 1700000090#64 1700000200#64 := by
  have hover : Overlaps oneFile 1700000090#64 1700000200#64 0 := by decide
  have hsearch : fileManagerSearchFileList oneFile 1700000090#64 1700000200#64 = (-1#32, []) := by
    decide +kernel
  refine ⟨sorted_oneFile, by decide, by decide, hover, hsearch, fun hexact => ?_⟩
  have hzero := hexact.zero.mpr ⟨0, by decide, hover⟩
  rw [hsearch] at hzero
  exact absurd hzero (by decide)

end GokeWebcam.Device
