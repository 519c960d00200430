import GokeWebcam.Lib.CString

/-!
# The window of the sleep scheduler

`server/manager/sleep.c`: the start and the stop of the daily window come as `HH:MM`, and a timer asks
each minute whether the local time lies in it. A window that passes midnight is cut off at 23:59:00,
and what follows midnight is not looked at.

* `schedulerExact_iff`: the check reports the window iff `SchedulerHolds`.
* `night_missed`: two o'clock in a window from 22:00 to 06:00.
-/

namespace GokeWebcam.Manager

open Lib

/-- Source: `common/time.h` `scheduler_time_t` -/
structure SchedulerTime where
  startHour : ℤ := 0
  startMin : ℤ := 0
  startSec : ℤ := 0
  stopHour : ℤ := 0
  stopMin : ℤ := 0
  stopSec : ℤ := 0
  deriving DecidableEq, Repr

/-- The members of `struct tm` that are read. -/
structure DayTime where
  tmHour : Fin 24
  tmMin : Fin 60
  tmSec : Fin 60
  deriving DecidableEq, Repr

/-- A setting of the form `HH:MM`. -/
structure HourMin where
  hour : Fin 24
  min : Fin 60
  deriving DecidableEq, Repr

def SchedulerTime.stopAt (st : SchedulerTime) (hour min : ℤ) : SchedulerTime :=
  { st with stopHour := hour, stopMin := min, stopSec := 0 }

/-- The number in the two characters at a place of the string. -/
def twoAt (input : List Char) (i : ℕ) : ℤ := strtoll ((input.drop i).take 2)

/-- The scheduler and its mode. The string is copied to an array of sixteen characters, of which eleven
are read.
Source: `server/manager/sleep.c` `sleep_get_scheduler_time` -/
def sleepGetSchedulerTime (input : List Char) (st : SchedulerTime) : Option (SchedulerTime × ℤ) :=
  if input.length = 0 then some (st, 0)
  else if input.length < 11 ∨ 16 < input.length then none
  else
    let startHour := twoAt input 0
    let startMin := twoAt input 3
    let endHour := twoAt input 6
    let endMin := twoAt input 9
    if startHour = 0 ∧ startMin = 0 ∧ endHour = 0 ∧ endMin = 0 then some (st, 0)
    else
      let st := { st with startHour := startHour, startMin := startMin, startSec := 0 }
      if startHour < endHour then some (st.stopAt endHour endMin, 1)
      else if endHour = startHour then
        if startMin < endMin then some (st.stopAt endHour endMin, 1)
        else if endMin = startMin then some (st.stopAt endHour endMin, 0)
        else some (st.stopAt 23 59, 1)
      else some (st.stopAt 23 59, 1)

/-- Source: `server/manager/sleep.c` `sleep_scheduler_init` -/
def sleepSchedulerInit (start stop : List Char) (st : SchedulerTime) : Option (SchedulerTime × ℤ) :=
  sleepGetSchedulerTime (start ++ '-' :: stop) st

/-- Source: `server/manager/sleep.c` `sleep_check_scheduler_time`, `now` -/
def DayTime.seconds (t : DayTime) : ℤ := t.tmHour.val * 3600 + t.tmMin.val * 60 + t.tmSec.val

/-- Source: `server/manager/sleep.c` `sleep_check_scheduler_time` -/
def sleepCheckSchedulerTime (st : SchedulerTime) (mode : ℤ) (t : DayTime) : ℤ :=
  if mode = 0 then 1
  else
    let start := st.startHour * 3600 + st.startMin * 60 + st.startSec
    let stop := st.stopHour * 3600 + st.stopMin * 60 + st.stopSec
    let now := t.seconds
    if start ≤ now ∧ now ≤ stop then 1
    else if stop < now then 2
    else 0

/-! ### Settings -/

def digit (n : ℕ) : Char := Nat.digitChar n

def twoDigits (n : ℕ) : List Char := [digit (n / 10), digit (n % 10)]

def HourMin.text (t : HourMin) : List Char := twoDigits t.hour.val ++ ':' :: twoDigits t.min.val

def HourMin.seconds (t : HourMin) : ℤ := t.hour.val * 3600 + t.min.val * 60

/-- The daily window, which passes midnight when its stop is not after its start. -/
def InDaily (start stop : HourMin) (t : DayTime) : Prop :=
  if start.seconds < stop.seconds then start.seconds ≤ t.seconds ∧ t.seconds ≤ stop.seconds
  else start.seconds ≤ t.seconds ∨ t.seconds ≤ stop.seconds

/-- The check reports 1 exactly in the window. -/
def SchedulerExact (start stop : HourMin) (t : DayTime) : Prop :=
  ∃ st mode, sleepSchedulerInit start.text stop.text {} = some (st, mode) ∧
    (sleepCheckSchedulerTime st mode t = 1 ↔ InDaily start stop t)

/-- In a window that passes midnight the time is after its stop, and not in the last minute of the day
after its first second. -/
def SchedulerHolds (start stop : HourMin) (t : DayTime) : Prop :=
  stop.seconds < start.seconds → stop.seconds < t.seconds ∧ t.seconds ≤ 23 * 3600 + 59 * 60

variable {start stop : HourMin} {t : DayTime}

/-! ### Reading a setting -/

theorem strtoll_twoDigits (n : Fin 60) : strtoll (twoDigits n.val) = n.val := by
  decide +revert

theorem twoAt_text (start stop : HourMin) :
    twoAt (start.text ++ '-' :: stop.text) 0 = start.hour.val ∧
      twoAt (start.text ++ '-' :: stop.text) 3 = start.min.val ∧
      twoAt (start.text ++ '-' :: stop.text) 6 = stop.hour.val ∧
      twoAt (start.text ++ '-' :: stop.text) 9 = stop.min.val := by
  have hhour : ∀ h : Fin 24, strtoll (twoDigits h.val) = h.val := fun h =>
    strtoll_twoDigits ⟨h.val, h.isLt.trans (by decide)⟩
  exact ⟨hhour start.hour, strtoll_twoDigits start.min, hhour stop.hour, strtoll_twoDigits stop.min⟩

/-- What a setting is read as: a window that does not pass midnight, all times, or a window up to the
last minute. -/
theorem sleepSchedulerInit_cases (start stop : HourMin) :
    ∃ st mode, sleepSchedulerInit start.text stop.text {} = some (st, mode) ∧
      (start.seconds = stop.seconds ∧ mode = 0 ∨
        (mode = 1 ∧ st.startHour = start.hour.val ∧ st.startMin = start.min.val ∧ st.startSec = 0 ∧
          st.stopSec = 0 ∧
          (start.seconds < stop.seconds ∧ st.stopHour = stop.hour.val ∧ st.stopMin = stop.min.val ∨
            stop.seconds < start.seconds ∧ st.stopHour = 23 ∧ st.stopMin = 59))) := by
  obtain ⟨hstartHour, hstartMin, hstopHour, hstopMin⟩ := twoAt_text start stop
  have hlength : (start.text ++ '-' :: stop.text).length = 11 := rfl
  have hstart := start.min.isLt
  have hstop := stop.min.isLt
  rw [sleepSchedulerInit, sleepGetSchedulerTime, if_neg (by rw [hlength]; decide),
    if_neg (by rw [hlength]; decide)]
  simp only [hstartHour, hstartMin, hstopHour, hstopMin, HourMin.seconds]
  split_ifs with hzero hhour hsame hmin heq
  · exact ⟨_, _, rfl, .inl ⟨by omega, rfl⟩⟩
  · exact ⟨_, _, rfl, .inr ⟨rfl, rfl, rfl, rfl, rfl, .inl ⟨by omega, rfl, rfl⟩⟩⟩
  · exact ⟨_, _, rfl, .inr ⟨rfl, rfl, rfl, rfl, rfl, .inl ⟨by omega, rfl, rfl⟩⟩⟩
  · exact ⟨_, _, rfl, .inl ⟨by omega, rfl⟩⟩
  · exact ⟨_, _, rfl, .inr ⟨rfl, rfl, rfl, rfl, rfl, .inr ⟨by omega, rfl, rfl⟩⟩⟩
  · exact ⟨_, _, rfl, .inr ⟨rfl, rfl, rfl, rfl, rfl, .inr ⟨by omega, rfl, rfl⟩⟩⟩

/-- The check reports the window of a setting at a time iff the window does not pass midnight, or the
time is neither in its part after midnight nor in the last minute of the day. -/
theorem schedulerExact_iff (start stop : HourMin) (t : DayTime) :
    SchedulerExact start stop t ↔ SchedulerHolds start stop t := by
  obtain ⟨st, mode, hinit, hcase⟩ := sleepSchedulerInit_cases start stop
  have hexact : SchedulerExact start stop t ↔
      (sleepCheckSchedulerTime st mode t = 1 ↔ InDaily start stop t) := by
    rw [SchedulerExact, hinit]
    simp
  rw [hexact, SchedulerHolds, InDaily]
  rcases hcase with ⟨hsame, rfl⟩ | ⟨rfl, hhour, hmin, hsec, hstopSec, hcase⟩
  · rw [sleepCheckSchedulerTime, if_pos rfl, if_neg hsame.not_lt]
    exact iff_of_true (iff_of_true rfl (by omega)) fun hlt => absurd hsame hlt.ne'
  have hcheck : ∀ stopSeconds, st.stopHour * 3600 + st.stopMin * 60 = stopSeconds →
      (sleepCheckSchedulerTime st 1 t = 1 ↔ start.seconds ≤ t.seconds ∧ t.seconds ≤ stopSeconds) := by
    rintro stopSeconds rfl
    rw [sleepCheckSchedulerTime, if_neg one_ne_zero, hhour, hmin, hsec, hstopSec, add_zero, add_zero]
    dsimp only [HourMin.seconds]
    split_ifs with hin hafter
    · exact iff_of_true rfl hin
    · exact iff_of_false (by decide) hin
    · exact iff_of_false (by decide) hin
  rcases hcase with ⟨hlt, hstopHour, hstopMin⟩ | ⟨hlt, hstopHour, hstopMin⟩
  · rw [hcheck stop.seconds (by rw [hstopHour, hstopMin]; rfl), if_pos hlt]
    exact iff_of_true Iff.rfl fun hgt => absurd hgt hlt.asymm
  · rw [hcheck (23 * 3600 + 59 * 60) (by rw [hstopHour, hstopMin]), if_neg hlt.asymm]
    have hstart : start.seconds ≤ 23 * 3600 + 59 * 60 := by
      have hhours := start.hour.isLt
      have hmins := start.min.isLt
      rw [HourMin.seconds]
      omega
    constructor
    · intro h hgt
      by_contra hnot
      omega
    · intro h
      have hbounds := h hlt
      omega

/-- Two o'clock in a window from ten in the evening to six. -/
theorem night_missed : ¬ SchedulerExact ⟨22, 0⟩ ⟨6, 0⟩ ⟨2, 0, 0⟩ := by
  rintro ⟨st, mode, hinit, h⟩
  have heq : sleepSchedulerInit (HourMin.text ⟨22, 0⟩) (HourMin.text ⟨6, 0⟩) {} =
      some ({ startHour := 22, stopHour := 23, stopMin := 59 }, 1) := by decide
  rw [heq] at hinit
  cases hinit
  have hin : InDaily ⟨22, 0⟩ ⟨6, 0⟩ ⟨2, 0, 0⟩ := by
    rw [InDaily, if_neg (by decide)]
    exact .inr (by decide)
  exact absurd (h.mpr hin) (by decide)

end GokeWebcam.Manager
