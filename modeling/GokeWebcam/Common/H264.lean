import GokeWebcam.Common.Misc
import GokeWebcam.Lib.ByteMemory

/-!
# NAL units of a frame

`common/h264.c`: a frame is a run of NAL units, each behind the four bytes `00 00 00 01`. A pointer
into a frame is its place; a frame is what is behind its pointer, as long as its length says, and a
read behind it has no result.

* `h264ReadNalu`: the next unit behind a place.
* `naluLoop`: the loop its callers run over a frame, in which `pos` is advanced by what was read.
* `NalUnit`, `annexB`: the units that a coder makes, and the frame that holds them.
* `naluLoop_annexB`: the loop over such a frame is the fold over its units.
* `readNalus_annexB`: its units are read in order, to the end of the frame.
-/

namespace GokeWebcam.Common

open Lib

/-- Source: `common/h264.h` `nalu_unit_t` -/
structure NaluUnit where
  type : Byte := 0#8
  size : ℕ := 0
  data : ℕ := 0
  deriving DecidableEq, Repr

/-- The bytes that separate the units. -/
def startCode : List Byte := [0x00#8, 0x00#8, 0x00#8, 0x01#8]

/-- Whether the bytes from a place on are `code`, and the place behind the last one compared.
Source: `common/h264.c` `h264_read_nalu`, `pPack[i++] == 0x00 && ...` -/
def readCode (pack : List Byte) : List Byte → ℕ → Option (Bool × ℕ)
  | [], i => some (true, i)
  | b :: code, i =>
    pack[i]?.bind fun a => if a = b then readCode pack code (i + 1) else some (false, i + 1)

/-- Source: `common/h264.c` `h264_read_nalu`, `while (i < nPackLen)` -/
def seekStartCode (pack : List Byte) : ℕ → ℕ → Option (Bool × ℕ)
  | 0, _ => none
  | fuel + 1, i =>
    if i < pack.length then
      (readCode pack startCode i).bind fun r =>
        if r.1 then some (true, r.2) else seekStartCode pack fuel r.2
    else some (false, i)

/-- What it returns, and the unit it was given a pointer to.
Source: `common/h264.c` `h264_read_nalu` -/
def h264ReadNalu (pack : List Byte) (offSet : ℕ) (unit : NaluUnit) : Option (ℕ × NaluUnit) :=
  (seekStartCode pack (pack.length + 1) offSet).bind fun r =>
    if r.1 then
      let i := r.2
      (seekStartCode pack (pack.length + 1) i).bind fun r =>
        let pos := r.2
        let size := if pos = pack.length then pos - i else pos - 4 - i
        pack[i]?.map fun a => (size + i - offSet, { type := a &&& 0x1f#8, size := size, data := i })
    else some (0, unit)

/-- `while ((len = h264_read_nalu(p, length, pos, &nalu)) != 0) { ...; pos += len; }`, with what it
leaves and the place it has come to, or what its body returns.
Source: `server/recorder/recorder.c` `recorder_thread_write_mp4_video` -/
def naluLoop {ε σ : Type} (pack : List Byte) (body : σ → NaluUnit → Except ε σ) :
    ℕ → ℕ → NaluUnit → σ → Option (Except ε (σ × ℕ))
  | 0, _, _, _ => none
  | fuel + 1, pos, unit, s =>
    (h264ReadNalu pack pos unit).bind fun r =>
      if r.1 = 0 then some (.ok (s, pos))
      else
        match body s r.2 with
        | .error e => some (.error e)
        | .ok s => naluLoop pack body fuel (pos + r.1) r.2 s

/-- The units of a frame, and the place where no more is read. -/
def readNalus (pack : List Byte) : Option (Except Empty (List NaluUnit × ℕ)) :=
  naluLoop pack (fun units unit => .ok (units ++ [unit])) (pack.length + 1) 0 {} []

/-- The loop over a frame is the fold over the units that are read of it. -/
theorem naluLoop_eq_foldlM {pack : List Byte} {fuel pos n : ℕ} {nalu : NaluUnit}
    {read all : List NaluUnit}
    (h : naluLoop pack (fun units unit => (.ok (units ++ [unit]) : Except Empty (List NaluUnit)))
      fuel pos nalu read = some (.ok (all, n))) :
    ∃ nalus, all = read ++ nalus ∧ ∀ {ε σ : Type} (body : σ → NaluUnit → Except ε σ) (s : σ),
      naluLoop pack body fuel pos nalu s = some ((nalus.foldlM body s).map fun s => (s, n)) := by
  induction fuel generalizing pos nalu read with
  | zero => cases h
  | succ fuel ih =>
      rw [naluLoop] at h
      rcases hread : h264ReadNalu pack pos nalu with _ | r
      · rw [hread] at h
        cases h
      rw [hread, Option.bind_some] at h
      by_cases hzero : r.1 = 0
      · rw [if_pos hzero] at h
        cases h
        refine ⟨[], (List.append_nil _).symm, fun body s => ?_⟩
        rw [naluLoop, hread, Option.bind_some, if_pos hzero]
        rfl
      · rw [if_neg hzero] at h
        obtain ⟨nalus, hall, hbody⟩ := ih h
        refine ⟨r.2 :: nalus, by simpa using hall, fun body s => ?_⟩
        rw [naluLoop, hread, Option.bind_some, if_neg hzero, List.foldlM_cons]
        rcases body s r.2 with e | s'
        · rfl
        · exact hbody body s'

/-- What the body of the loop keeps holds at its end, and what it returns has what it gives then. -/
theorem naluLoop_inv {ε σ : Type} {P : σ → Prop} {R : ε → Prop} {pack : List Byte}
    {body : σ → NaluUnit → Except ε σ} {fuel pos : ℕ} {nalu : NaluUnit} {s : σ}
    {result : Except ε (σ × ℕ)}
    (hbody : ∀ s unit, P s →
      (∀ s', body s unit = .ok s' → P s') ∧ ∀ e, body s unit = .error e → R e)
    (h0 : P s) (h : naluLoop pack body fuel pos nalu s = some result) :
    (∀ s' n, result = .ok (s', n) → P s') ∧ ∀ e, result = .error e → R e := by
  induction fuel generalizing pos nalu s with
  | zero => cases h
  | succ fuel ih =>
      rw [naluLoop, Option.bind_eq_some_iff] at h
      obtain ⟨r, -, h⟩ := h
      split_ifs at h with hzero
      · cases h
        refine ⟨fun s' n heq => ?_, by simp⟩
        cases heq
        exact h0
      · obtain ⟨hok, herror⟩ := hbody s r.2 h0
        rcases hstep : body s r.2 with e | s'
        · rw [hstep] at h
          cases h
          refine ⟨by simp, fun e' heq => ?_⟩
          cases heq
          exact herror e hstep
        · rw [hstep] at h
          exact ih (hok s' hstep) h

/-! ### Frames -/

/-- A unit as a coder makes it: not empty, without three zeros in a row, and without a zero at its
end. -/
structure NalUnit where
  bytes : List Byte
  ne_nil : bytes ≠ []
  no_zeros : ¬ [0#8, 0#8, 0#8] <:+: bytes
  last_ne : bytes.getLast ne_nil ≠ 0#8

/-- Source: `common/h264.c` `h264_read_nalu`, `pPack[i] & 0x1f` -/
def NalUnit.type (unit : NalUnit) : Byte := unit.bytes.head unit.ne_nil &&& 0x1f#8

/-- Each unit behind a start code. -/
def annexB (units : List NalUnit) : List Byte := units.flatMap fun unit => startCode ++ unit.bytes

/-- Where the units of a frame stand, from a place on. -/
def unitsAt : ℕ → List NalUnit → List NaluUnit
  | _, [] => []
  | pos, unit :: units =>
    { type := unit.type, size := unit.bytes.length, data := pos + 4 } ::
      unitsAt (pos + 4 + unit.bytes.length) units

variable {pack front rest code bs : List Byte} {unit : NalUnit} {units : List NalUnit}
  {nalu : NaluUnit} {i fuel : ℕ}

@[simp] theorem annexB_nil : annexB [] = [] := rfl

@[simp] theorem annexB_cons : annexB (unit :: units) = startCode ++ (unit.bytes ++ annexB units) := by
  simp [annexB]

/-! ### The search for a start code -/

/-- Bytes between which no start code can begin: no three zeros in a row, no zero at the end. -/
def Clean (bs : List Byte) : Prop := ¬ [0#8, 0#8, 0#8] <:+: bs ∧ bs.getLast? ≠ some 0#8

theorem NalUnit.clean (unit : NalUnit) : Clean unit.bytes := by
  refine ⟨unit.no_zeros, ?_⟩
  rw [List.getLast?_eq_some_getLast unit.ne_nil]
  simpa using unit.last_ne

/-- An end of clean bytes is clean. -/
theorem Clean.of_suffix (h : Clean bs) (hs : rest <:+ bs) : Clean rest := by
  refine ⟨fun hz => h.1 (hz.trans hs.isInfix), ?_⟩
  obtain ⟨front, rfl⟩ := hs
  rcases List.eq_nil_or_concat rest with rfl | ⟨l, b, rfl⟩
  · simp
  · have hlast := h.2
    simpa [← List.append_assoc] using hlast

theorem readCode_cons_self {b : Byte} :
    readCode (front ++ b :: rest) (b :: code) front.length =
      readCode ((front ++ [b]) ++ rest) code (front ++ [b]).length := by
  simp [readCode]

/-- The comparison ends behind the first byte that differs. -/
theorem readCode_break (same : List Byte) {a b : Byte} (hab : a ≠ b) :
    readCode (front ++ ((same ++ [a]) ++ rest)) (same ++ b :: code) front.length =
      some (false, (front ++ (same ++ [a])).length) := by
  induction same generalizing front with
  | nil => simp [readCode, hab]
  | cons c same ih =>
      rw [List.cons_append, List.cons_append, List.cons_append, readCode_cons_self, ih]
      simp

theorem readCode_append :
    readCode (front ++ (code ++ rest)) code front.length = some (true, front.length + code.length) := by
  induction code generalizing front with
  | nil => simp [readCode]
  | cons b code ih =>
      rw [List.cons_append, readCode_cons_self, ih]
      simp only [List.length_append, List.length_cons, List.length_nil]
      congr 2
      omega

/-- What is compared without success is passed over. -/
theorem seekStartCode_pass {jump : List Byte} (hne : jump ≠ [])
    (h : readCode (front ++ (jump ++ rest)) startCode front.length =
      some (false, (front ++ jump).length)) :
    seekStartCode (front ++ (jump ++ rest)) (fuel + 1) front.length =
      seekStartCode ((front ++ jump) ++ rest) fuel (front ++ jump).length := by
  have hlt : front.length < (front ++ (jump ++ rest)).length := by
    have hpos := List.length_pos_iff.mpr hne
    simp only [List.length_append]
    omega
  rw [seekStartCode, if_pos hlt, h]
  simp [List.append_assoc]

/-- Clean bytes are passed over. A comparison in them ends at a byte that is not zero, before which
at most two zeros have been read. -/
theorem seekStartCode_clean (front rest : List Byte) (fuel : ℕ) (hclean : Clean bs) :
    ∃ fuel' ≥ fuel, seekStartCode (front ++ (bs ++ rest)) (bs.length + fuel) front.length =
      seekStartCode ((front ++ bs) ++ rest) fuel' (front ++ bs).length := by
  induction hn : bs.length using Nat.strong_induction_on generalizing bs front fuel with
  | h n ih =>
    have hjump : ∀ jump tail : List Byte, bs = jump ++ tail → jump ≠ [] →
        readCode (front ++ (jump ++ (tail ++ rest))) startCode front.length =
          some (false, (front ++ jump).length) →
        ∃ fuel' ≥ fuel, seekStartCode (front ++ (bs ++ rest)) (n + fuel) front.length =
          seekStartCode ((front ++ bs) ++ rest) fuel' (front ++ bs).length := by
      intro jump tail hbs hne hread
      have hpos := List.length_pos_iff.mpr hne
      have hlength : n = jump.length + tail.length := by rw [← hn, hbs, List.length_append]
      have htail : Clean tail := hclean.of_suffix ⟨jump, hbs.symm⟩
      obtain ⟨fuel', hfuel, hseek⟩ := ih tail.length (by omega) (front ++ jump)
        (fuel + (jump.length - 1)) htail rfl
      refine ⟨fuel', by omega, ?_⟩
      have hsum : n + fuel = tail.length + (fuel + (jump.length - 1)) + 1 := by omega
      rw [hsum, hbs, List.append_assoc, seekStartCode_pass hne hread, hseek]
      simp only [List.append_assoc]
    rcases bs with _ | ⟨b, bs⟩
    · subst hn
      exact ⟨fuel, le_rfl, by simp⟩
    by_cases hb : b = 0#8
    · subst hb
      rcases bs with _ | ⟨c, bs⟩
      · exact absurd rfl hclean.2
      by_cases hc : c = 0#8
      · subst hc
        rcases bs with _ | ⟨d, bs⟩
        · exact absurd rfl hclean.2
        have hd : d ≠ 0#8 := by
          rintro rfl
          exact hclean.1 ⟨[], bs, rfl⟩
        exact hjump [0#8, 0#8, d] bs rfl (by simp) (readCode_break [0#8, 0#8] hd)
      · exact hjump [0#8, c] bs rfl (by simp) (readCode_break [0#8] hc)
    · exact hjump [b] bs rfl (by simp) (readCode_break [] hb)

/-- A start code is found where it stands. -/
theorem seekStartCode_found :
    seekStartCode (front ++ (startCode ++ rest)) (fuel + 1) front.length =
      some (true, front.length + 4) := by
  have hlt : front.length < (front ++ (startCode ++ rest)).length := by
    simp [startCode]
  rw [seekStartCode, if_pos hlt, readCode_append]
  rfl

/-- At the end of the frame nothing is found. -/
theorem seekStartCode_end :
    seekStartCode pack (fuel + 1) pack.length = some (false, pack.length) := by
  rw [seekStartCode, if_neg (lt_irrefl _)]

/-! ### The units of a frame -/

/-- Behind the start code of a unit the search ends at the next start code, and behind it, or at the
end of the frame. -/
theorem seekStartCode_unit :
    seekStartCode (front ++ (unit.bytes ++ annexB units))
        ((front ++ (unit.bytes ++ annexB units)).length + 1) front.length =
      if units = [] then some (false, (front ++ unit.bytes).length)
      else some (true, (front ++ unit.bytes).length + 4) := by
  obtain ⟨fuel', hfuel, hseek⟩ := seekStartCode_clean front (annexB units)
    (front.length + (annexB units).length + 1) unit.clean
  have hlength : (front ++ (unit.bytes ++ annexB units)).length + 1 =
      unit.bytes.length + (front.length + (annexB units).length + 1) := by
    simp only [List.length_append]
    omega
  obtain ⟨fuel, rfl⟩ : ∃ k, fuel' = k + 1 := ⟨fuel' - 1, by omega⟩
  rw [hlength, hseek]
  rcases units with _ | ⟨next, units⟩
  · rw [annexB_nil, List.append_nil, seekStartCode_end, if_pos rfl]
  · rw [annexB_cons, seekStartCode_found, if_neg (List.cons_ne_nil _ _)]

/-- A unit is read whole, and what is returned leads behind it. -/
theorem h264ReadNalu_unit :
    h264ReadNalu (front ++ annexB (unit :: units)) front.length nalu =
      some (4 + unit.bytes.length,
        { type := unit.type, size := unit.bytes.length, data := front.length + 4 }) := by
  have hfront : front.length + 4 = (front ++ startCode).length := by simp [startCode]
  have hpack : front ++ annexB (unit :: units) =
      (front ++ startCode) ++ (unit.bytes ++ annexB units) := by
    rw [annexB_cons, List.append_assoc]
  have hhead : ((front ++ startCode) ++ (unit.bytes ++ annexB units))[(front ++ startCode).length]? =
      some (unit.bytes.head unit.ne_nil) := by
    rw [List.getElem?_append_right le_rfl, Nat.sub_self, ← List.head?_eq_getElem?,
      List.head?_append_of_ne_nil _ unit.ne_nil, List.head?_eq_some_head]
  rw [h264ReadNalu, annexB_cons, seekStartCode_found, ← annexB_cons, hpack, hfront]
  simp only [Option.bind_some, if_pos, seekStartCode_unit, hhead, Option.map_some]
  have hcode : startCode.length = 4 := rfl
  rcases units with _ | ⟨next, units⟩
  · simp [NalUnit.type]
    omega
  · have hne : (front ++ startCode ++ unit.bytes).length + 4 ≠
        (front ++ startCode ++ (unit.bytes ++ annexB (next :: units))).length := by
      have hpos := List.length_pos_iff.mpr next.ne_nil
      simp only [annexB_cons, List.length_append]
      omega
    rw [if_neg (List.cons_ne_nil _ _), Option.bind_some, if_neg hne]
    simp [NalUnit.type]
    omega

/-- At the end of the frame there is no unit. -/
theorem h264ReadNalu_end : h264ReadNalu pack pack.length nalu = some (0, nalu) := by
  rw [h264ReadNalu, seekStartCode_end]
  rfl

/-- The loop over the rest of a frame is the fold over its units. -/
theorem naluLoop_annexB {ε σ : Type} (front : List Byte) (body : σ → NaluUnit → Except ε σ)
    (nalu : NaluUnit) (s : σ) (hfuel : units.length < fuel) :
    naluLoop (front ++ annexB units) body fuel front.length nalu s =
      some (((unitsAt front.length units).foldlM body s).map
        fun s => (s, (front ++ annexB units).length)) := by
  induction units generalizing front fuel nalu s with
  | nil =>
      obtain ⟨fuel, rfl⟩ : ∃ k, fuel = k + 1 := ⟨fuel - 1, by simp at hfuel; omega⟩
      rw [annexB_nil, List.append_nil, naluLoop, h264ReadNalu_end]
      rfl
  | cons unit units ih =>
      obtain ⟨fuel, rfl⟩ : ∃ k, fuel = k + 1 := ⟨fuel - 1, by simp at hfuel; omega⟩
      have hpack : front ++ annexB (unit :: units) =
          (front ++ (startCode ++ unit.bytes)) ++ annexB units := by
        simp [annexB_cons, List.append_assoc]
      have hpos : front.length + (4 + unit.bytes.length) =
          (front ++ (startCode ++ unit.bytes)).length := by
        simp [startCode]
        omega
      have hnext : front.length + 4 + unit.bytes.length =
          (front ++ (startCode ++ unit.bytes)).length := by
        rw [← hpos, Nat.add_assoc]
      rw [naluLoop, h264ReadNalu_unit, Option.bind_some, if_neg (by omega), unitsAt, hnext,
        List.foldlM_cons]
      rcases hbody : body s { type := unit.type, size := unit.bytes.length, data := front.length + 4 }
        with e | s'
      · rfl
      · dsimp only
        rw [hpos, hpack, ih _ _ _ (by simpa using hfuel)]
        rfl

/-- A frame is at least as long as it has units. -/
theorem length_lt_annexB : units.length < (annexB units).length + 1 := by
  induction units with
  | nil => simp
  | cons unit units ih =>
      rw [annexB_cons]
      simp only [List.length_append, List.length_cons]
      have hpos := List.length_pos_iff.mpr unit.ne_nil
      omega

/-- What is read of a unit of a frame. -/
structure Placed (pack : List Byte) (nalu : NaluUnit) (unit : NalUnit) : Prop where
  type : nalu.type = unit.type
  size : nalu.size = unit.bytes.length
  bytes : (pack.drop nalu.data).take nalu.size = unit.bytes

/-- The units of a frame are where they are said to stand. -/
theorem placed_unitsAt (front : List Byte) (units : List NalUnit) :
    List.Forall₂ (Placed (front ++ annexB units)) (unitsAt front.length units) units := by
  induction units generalizing front with
  | nil => exact .nil
  | cons unit units ih =>
      have hpack : front ++ annexB (unit :: units) =
          (front ++ (startCode ++ unit.bytes)) ++ annexB units := by
        simp [annexB_cons, List.append_assoc]
      have hnext : front.length + 4 + unit.bytes.length =
          (front ++ (startCode ++ unit.bytes)).length := by
        simp [startCode]
        omega
      have hbytes : ((front ++ annexB (unit :: units)).drop (front.length + 4)).take
          unit.bytes.length = unit.bytes := by
        have hcode : front.length + 4 = (front ++ startCode).length := by simp [startCode]
        rw [annexB_cons, ← List.append_assoc, hcode, List.drop_left, List.take_left]
      rw [unitsAt, hnext]
      refine .cons ⟨rfl, rfl, hbytes⟩ ?_
      rw [hpack]
      exact ih _

/-- The units of a frame are read in order, and then nothing, at the end of the frame. -/
theorem readNalus_annexB (units : List NalUnit) :
    readNalus (annexB units) = some (.ok (unitsAt 0 units, (annexB units).length)) := by
  have hcollect : ∀ (nalus read : List NaluUnit),
      nalus.foldlM (fun units unit => (.ok (units ++ [unit]) : Except Empty (List NaluUnit))) read =
        .ok (read ++ nalus) := by
    intro nalus
    induction nalus with
    | nil =>
        intro read
        rw [List.append_nil]
        rfl
    | cons nalu nalus ih =>
        intro read
        rw [List.append_cons, ← ih]
        rfl
  have hloop := naluLoop_annexB []
    (fun units unit => (.ok (units ++ [unit]) : Except Empty (List NaluUnit))) {} []
    (@length_lt_annexB units)
  rw [readNalus]
  refine hloop.trans ?_
  rw [hcollect]
  rfl

end GokeWebcam.Common
