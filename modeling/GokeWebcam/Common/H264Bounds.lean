import GokeWebcam.Common.H264

/-!
# The bounds of a unit

`h264_read_nalu` compares four bytes without looking at the length of the frame. A byte that differs
ends a comparison and is passed over, so that the bytes are read one by one, with how many of the start
code have been compared as the state.

* `seekStartCode_eq`: the search is this scan; it reads behind the frame iff the frame ends within a
  comparison.
* `naluBounded_iff`: what is read and what is returned lie in the frame iff `ReadsInside`.
* `oneZero_overread`: a unit that ends with a zero.
-/

namespace GokeWebcam.Common

open Lib

/-- The bytes behind the first start code, or how many bytes of a start code have been compared at the
end. -/
def scanCode : ℕ → List Byte → ℕ ⊕ List Byte
  | z, [] => .inl z
  | z, b :: bs =>
    if startCode[z]? = some b then if z = 3 then .inr bs else scanCode (z + 1) bs else scanCode 0 bs

/-- What stands behind the first start code that is found. -/
def behindCode (bs : List Byte) : Option (List Byte) := (scanCode 0 bs).getRight?

/-- How many zeros there are at the end. -/
def zerosAtEnd (bs : List Byte) : ℕ := (bs.reverse.takeWhile (· = 0#8)).length

/-- Nothing behind the frame is read, and the unit that is found lies in it, as far as the caller is to
advance. -/
def NaluBounded (pack : List Byte) (offSet : ℕ) (unit : NaluUnit) : Prop :=
  ∃ n nalu, h264ReadNalu pack offSet unit = some (n, nalu) ∧
    (n ≠ 0 → n ≤ pack.length - offSet ∧ offSet ≤ nalu.data ∧ nalu.data + nalu.size ≤ pack.length)

/-- The search for the next start code does not end within a comparison: there is one, or the number of
zeros at the end is a multiple of four. -/
def SeeksInside (bs : List Byte) : Prop := (behindCode bs).isSome ∨ 4 ∣ zerosAtEnd bs

/-- Both searches do not, and the first start code, if there is one, is not at the very end. -/
def ReadsInside (bs : List Byte) : Prop :=
  SeeksInside bs ∧ ∀ rest ∈ behindCode bs, rest ≠ [] ∧ SeeksInside rest

variable {pack bs rest : List Byte} {b : Byte} {z w i fuel offSet : ℕ} {unit : NaluUnit}

/-! ### Zeros at the end -/

theorem zerosAtEnd_append_cons (hb : b ≠ 0#8) (front : List Byte) :
    zerosAtEnd (front ++ b :: bs) = zerosAtEnd bs := by
  rw [zerosAtEnd, zerosAtEnd, List.reverse_append, List.reverse_cons, List.append_assoc,
    List.takeWhile_append]
  split_ifs with hall
  · simp [hb, hall]
  · rfl

theorem zerosAtEnd_replicate_append (n : ℕ) : zerosAtEnd (List.replicate n 0#8 ++ bs) =
    if zerosAtEnd bs = bs.length then n + bs.length else zerosAtEnd bs := by
  rw [zerosAtEnd, zerosAtEnd, List.reverse_append, List.takeWhile_append, List.length_reverse]
  split_ifs with hall
  · simp [Nat.add_comm]
  · rfl

/-- Four more zeros in front make one more comparison. -/
theorem four_dvd_zerosAtEnd : zerosAtEnd (List.replicate 4 0#8 ++ bs) % 4 = zerosAtEnd bs % 4 := by
  rw [zerosAtEnd_replicate_append]
  split_ifs with hall
  · omega
  · rfl

theorem startCode_get (hz : z < 3) : startCode[z]? = some 0#8 := by
  interval_cases z <;> rfl

theorem scanCode_of_ne (h : startCode[z]? ≠ some b) : scanCode z (b :: bs) = scanCode 0 bs := by
  rw [scanCode, if_neg h]

theorem scanCode_zero (hz : z < 3) : scanCode z (0#8 :: bs) = scanCode (z + 1) bs := by
  rw [scanCode, if_pos (startCode_get hz), if_neg hz.ne]

theorem scanCode_one : scanCode 3 (1#8 :: bs) = .inr bs := rfl

/-- What has been compared at the end are zeros. -/
theorem scanCode_inl (hz : z < 4) (h : scanCode z bs = .inl w) :
    w = zerosAtEnd (List.replicate z 0#8 ++ bs) % 4 := by
  induction bs generalizing z with
  | nil =>
      cases h
      rw [zerosAtEnd_replicate_append]
      simp [zerosAtEnd, Nat.mod_eq_of_lt hz]
  | cons b bs ih =>
      by_cases hsame : startCode[z]? = some b
      · by_cases hlast : z = 3
        · subst hlast
          cases hsame
          rw [scanCode_one] at h
          cases h
        · have hlt : z < 3 := by omega
          rw [startCode_get hlt] at hsame
          cases hsame
          rw [scanCode_zero hlt] at h
          rw [ih (by omega) h, List.replicate_succ', List.append_assoc, List.singleton_append]
      · rw [scanCode_of_ne hsame] at h
        have hrest : w = zerosAtEnd bs % 4 := ih (by omega) h
        by_cases hb : b = 0#8
        · have hlast : z = 3 := by
            by_contra hne
            exact hsame (hb ▸ startCode_get (by omega))
          subst hlast hb
          exact hrest.trans four_dvd_zerosAtEnd.symm
        · rw [zerosAtEnd_append_cons hb, hrest]

/-- A start code takes up the rest of its four bytes. -/
theorem length_of_scanCode (hz : z < 4) (h : scanCode z bs = .inr rest) :
    rest.length + 4 ≤ bs.length + z ∧ rest <:+ bs := by
  induction bs generalizing z with
  | nil => cases h
  | cons b bs ih =>
      by_cases hsame : startCode[z]? = some b
      · by_cases hlast : z = 3
        · subst hlast
          cases hsame
          rw [scanCode_one] at h
          cases h
          exact ⟨by simp only [List.length_cons]; omega, List.suffix_cons _ _⟩
        · have hlt : z < 3 := by omega
          rw [startCode_get hlt] at hsame
          cases hsame
          rw [scanCode_zero hlt] at h
          obtain ⟨hlength, hsuffix⟩ := ih (by omega) h
          exact ⟨by simp only [List.length_cons]; omega, hsuffix.trans (List.suffix_cons _ _)⟩
      · rw [scanCode_of_ne hsame] at h
        obtain ⟨hlength, hsuffix⟩ := ih (by omega) h
        exact ⟨by simp only [List.length_cons]; omega, hsuffix.trans (List.suffix_cons _ _)⟩

/-! ### The search -/

/-- What a search comes to: the end of the frame, a place behind it, or a start code. -/
def scanResult (pack : List Byte) : ℕ ⊕ List Byte → Option (Bool × ℕ)
  | .inl 0 => some (false, pack.length)
  | .inl (_ + 1) => none
  | .inr rest => some (true, pack.length - rest.length)

/-- A comparison under way, and the search behind it. -/
theorem readCode_bind_eq (hz : z < 4) (hplace : i < pack.length ∨ i = pack.length ∧ 0 < z)
    (hseek : ∀ j, i < j → j ≤ pack.length → seekStartCode pack fuel j =
      scanResult pack (scanCode 0 (pack.drop j))) :
    ((readCode pack (startCode.drop z) i).bind fun r =>
      if r.1 then some (true, r.2) else seekStartCode pack fuel r.2) =
      scanResult pack (scanCode z (pack.drop i)) := by
  have hdrop : startCode.drop z = startCode[z] :: startCode.drop (z + 1) :=
    List.drop_eq_getElem_cons hz
  have hget : startCode[z]? = some startCode[z] := List.getElem?_eq_getElem hz
  induction hn : pack.length - i generalizing i z with
  | zero =>
      obtain ⟨rfl, hpos⟩ := hplace.resolve_left (by omega)
      obtain ⟨w, rfl⟩ := Nat.exists_eq_succ_of_ne_zero hpos.ne'
      rw [hdrop, readCode, List.getElem?_eq_none le_rfl, List.drop_length]
      rfl
  | succ n ih =>
      have hlt : i < pack.length := by omega
      rw [hdrop, readCode, List.getElem?_eq_getElem hlt, List.drop_eq_getElem_cons hlt,
        Option.bind_some]
      by_cases hsame : pack[i] = startCode[z]
      · rw [if_pos hsame]
        by_cases hlast : z = 3
        · subst hlast
          have hone : pack[i] = 1#8 := hsame
          rw [hone, scanCode_one, scanResult]
          change some (true, i + 1) = _
          rw [List.length_drop]
          congr 2
          omega
        · have hlt3 : z < 3 := by omega
          have hzero : pack[i] = 0#8 := by
            rw [hsame]
            exact Option.some.inj (hget.symm.trans (startCode_get hlt3))
          rw [hzero, scanCode_zero hlt3]
          have hz' : z + 1 < startCode.length := by
            change z + 1 < 4
            omega
          exact ih hz' (by omega) (fun j hj => hseek j (by omega)) (List.drop_eq_getElem_cons hz')
            (List.getElem?_eq_getElem hz') (by omega)
      · rw [if_neg hsame, Option.bind_some, if_neg Bool.false_ne_true,
          hseek (i + 1) (by omega) (by omega), scanCode_of_ne]
        rw [hget]
        exact fun heq => hsame (Option.some.inj heq).symm

/-- The search of the code is the scan. -/
theorem seekStartCode_eq (hi : i ≤ pack.length) (hfuel : pack.length - i < fuel) :
    seekStartCode pack fuel i = scanResult pack (scanCode 0 (pack.drop i)) := by
  induction fuel generalizing i with
  | zero => omega
  | succ fuel ih =>
      rw [seekStartCode]
      by_cases hlt : i < pack.length
      · rw [if_pos hlt]
        exact readCode_bind_eq (z := 0) (by omega) (.inl hlt) fun j hj hle => ih hle (by omega)
      · obtain rfl : i = pack.length := by omega
        rw [if_neg hlt, List.drop_length]
        rfl

/-! ### The unit -/

theorem seeksInside_iff : SeeksInside bs ↔ ∀ z, scanCode 0 bs = .inl z → z = 0 := by
  rw [SeeksInside, behindCode]
  rcases hscan : scanCode 0 bs with z | rest
  · have hz := scanCode_inl (by omega) hscan
    simp only [Sum.getRight?_inl, Option.isSome_none, Bool.false_eq_true, false_or,
      Sum.inl.injEq, forall_eq']
    rw [hz, Nat.dvd_iff_mod_eq_zero]
    rfl
  · simp

theorem behindCode_eq_some : behindCode bs = some rest ↔ scanCode 0 bs = .inr rest := by
  rw [behindCode, Sum.getRight?_eq_some_iff]

theorem behindCode_eq_none {z : ℕ} (h : scanCode 0 bs = .inl z) : behindCode bs = none := by
  rw [behindCode, h, Sum.getRight?_inl]

/-- A search that does not end within a comparison has a result. -/
theorem seekStartCode_isSome_iff (hi : i ≤ pack.length) (hfuel : pack.length - i < fuel) :
    (seekStartCode pack fuel i).isSome ↔ SeeksInside (pack.drop i) := by
  rw [seekStartCode_eq hi hfuel, seeksInside_iff]
  rcases scanCode 0 (pack.drop i) with (_ | z) | rest <;> simp [scanResult]

/-- Where a search that finds a start code has come to. -/
theorem place_of_scanCode {code : List Byte} (hi : i ≤ pack.length)
    (h : scanCode 0 (pack.drop i) = .inr code) :
    i + 4 ≤ pack.length - code.length ∧ code = pack.drop (pack.length - code.length) := by
  obtain ⟨hlength, hsuffix⟩ := length_of_scanCode (by omega) h
  rw [List.length_drop] at hlength
  exact ⟨by omega, List.suffix_iff_eq_drop.mp (hsuffix.trans (List.drop_suffix i pack))⟩

/-- A search that has found a start code ends four bytes behind the place, so that the difference is not
negative.
Source: `common/h264.c` `h264_read_nalu`, `if (pos == nPackLen)` -/
def unitSize (length i pos : ℕ) : ℕ := if pos = length then pos - i else pos - 4 - i

/-- A unit behind a start code is read if the search for its end stays inside. -/
theorem naluBounded_of_code {code : List Byte} (hi : offSet ≤ pack.length)
    (h : scanCode 0 (pack.drop offSet) = .inr code) :
    NaluBounded pack offSet unit ↔ code ≠ [] ∧ SeeksInside code := by
  obtain ⟨hplace, hcode⟩ := place_of_scanCode hi h
  have hread : h264ReadNalu pack offSet unit =
      (scanResult pack (scanCode 0 code)).bind fun r =>
        pack[pack.length - code.length]?.map fun a => (unitSize pack.length (pack.length - code.length) r.2 +
            (pack.length - code.length) - offSet,
          { type := a &&& 0x1f#8, size := unitSize pack.length (pack.length - code.length) r.2
            data := pack.length - code.length }) := by
    rw [h264ReadNalu, seekStartCode_eq hi (by omega), h, scanResult, Option.bind_some, if_pos rfl]
    dsimp only
    rw [seekStartCode_eq (by omega) (by omega), ← hcode]
    rfl
  rw [NaluBounded, hread]
  rcases hcons : code with _ | ⟨c, cs⟩
  · refine iff_of_false ?_ (fun h => h.1 rfl)
    rintro ⟨n, nalu, heq, -⟩
    simp [scanCode, scanResult] at heq
  rw [← hcons]
  have hlt : pack.length - code.length < pack.length := by
    have : 0 < code.length := by rw [hcons]; exact Nat.succ_pos _
    omega
  rw [List.getElem?_eq_getElem hlt, and_iff_right (by rw [hcons]; exact List.cons_ne_nil c cs),
    seeksInside_iff]
  rcases hscan : scanCode 0 code with (_ | z) | rest
  · refine iff_of_true ⟨_, _, rfl, fun _ => ?_⟩ (by simp)
    rw [unitSize, if_pos rfl]
    dsimp only
    omega
  · refine iff_of_false ?_ (by simp)
    rintro ⟨n, nalu, heq, -⟩
    cases heq
  · rw [hcode] at hscan
    obtain ⟨hend, -⟩ := place_of_scanCode (by omega) hscan
    refine iff_of_true ⟨_, _, rfl, fun _ => ?_⟩ (by simp)
    rw [unitSize]
    dsimp only
    split_ifs <;> omega

/-- What is read and what is returned lie in the frame iff the searches do not end within a start code,
nor the first one at the end. -/
theorem naluBounded_iff (pack : List Byte) (offSet : ℕ) (unit : NaluUnit) :
    NaluBounded pack offSet unit ↔ ReadsInside (pack.drop offSet) := by
  by_cases hi : offSet ≤ pack.length
  · rcases hscan : scanCode 0 (pack.drop offSet) with z | code
    · have hread : h264ReadNalu pack offSet unit =
          (scanResult pack (.inl z)).bind fun _ => some (0, unit) := by
        rw [h264ReadNalu, seekStartCode_eq hi (by omega), hscan]
        rcases z with _ | z <;> rfl
      have hinside : SeeksInside (pack.drop offSet) ↔ z = 0 := by
        rw [seeksInside_iff, hscan]
        simp
      rw [NaluBounded, hread, ReadsInside, hinside, behindCode_eq_none hscan]
      rcases z with _ | z
      · exact iff_of_true ⟨0, unit, rfl, fun h => absurd rfl h⟩ ⟨rfl, by simp⟩
      · refine iff_of_false ?_ (by simp)
        rintro ⟨n, nalu, heq, -⟩
        cases heq
    · have hbehind : behindCode (pack.drop offSet) = some code := behindCode_eq_some.mpr hscan
      have hinside : SeeksInside (pack.drop offSet) := .inl (by rw [hbehind]; rfl)
      rw [naluBounded_of_code hi hscan, ReadsInside, hbehind, and_iff_right hinside]
      simp
  · rw [List.drop_eq_nil_of_le (by omega)]
    refine iff_of_true ⟨0, unit, ?_, fun h => absurd rfl h⟩ ⟨.inr ⟨0, rfl⟩, by simp [behindCode, scanCode]⟩
    rw [h264ReadNalu, seekStartCode, if_neg (by omega)]
    rfl

/-- A unit of two bytes of which the last one is zero: the byte behind the frame is read. -/
theorem oneZero_overread : ¬ NaluBounded [0x00#8, 0x00#8, 0x00#8, 0x01#8, 0x65#8, 0x00#8] 0 {} := by
  rintro ⟨n, nalu, heq, -⟩
  have hnone : h264ReadNalu [0x00#8, 0x00#8, 0x00#8, 0x01#8, 0x65#8, 0x00#8] 0 {} = none := by decide
  rw [hnone] at heq
  cases heq

end GokeWebcam.Common
