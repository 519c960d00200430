import GokeWebcam.Manager.Timer

/-!
# The timers and the clock

Time is counted in milliseconds without bound; the code sees its last 32 bits. A timer is added at a
time with a delay and an interval, and `timer_proc` looks at its slot at some later times.

* `timerDue_of_lt`, `timerDue_of_le`: what the two comparisons of `timer_proc` say, by the time the
  current period counts from.
* `AtPolls`: a property of every look at a timer that is there and whose owner runs.
* `OnTime`: the timer fires after it is due and not before.
* `PollOk`: the poll does not come before the delay is over, and the words do not go round.
* `onTime_iff`: all looks are on time exactly when all polls are `PollOk`.
* `delayed_fires_early`: a timer with a delay fires at once.

A timer is first due a certain time after its delay, `first`; the code takes the interval there.
-/

namespace GokeWebcam.Manager

open Common Global

/-- The clock at a time.
Source: `server/manager/timer.c` `timer_get_ms` -/
def timerGetMs (t : ℕ) : BitVec 32 := BitVec.ofNat 32 t

/-- A call of `timer_proc`: the word of running servers, and the times at which it reads the clock for
one slot. -/
structure TimerPoll where
  server : CInt
  time : ℕ
  again : ℕ
  deriving DecidableEq, Repr

/-- The iteration of the call that looks at the slot `i`. -/
def TimerPoll.look (poll : TimerPoll) (table : TimerTable) (i : Fin timerNumber) :
    TimerTable × Option TimerStruct :=
  timerProcSlot poll.server (timerGetMs poll.time) (timerGetMs poll.again) table i

/-- The slot holds a timer whose owner runs. -/
def TimerPoll.Finds (poll : TimerPoll) (table : TimerTable) (i : Fin timerNumber) : Prop :=
  (table.timers i).Active ∧ ownerGone poll.server (table.timers i) = false

/-- Time does not go back. -/
def Forward : ℕ → List TimerPoll → Prop
  | _, [] => True
  | now, poll :: polls => now ≤ poll.time ∧ poll.time ≤ poll.again ∧ Forward poll.again polls

/-- The time from which a timer counts, and how long after it the timer is due. -/
structure TimerPeriod where
  base : ℕ
  wait : ℕ
  deriving DecidableEq, Repr

/-- A timer with the interval `p` that fires counts anew. -/
def TimerPeriod.next (p : ℕ) (poll : TimerPoll) (fired : Bool) (period : TimerPeriod) :
    TimerPeriod :=
  if fired then ⟨poll.again, p⟩ else period

/-- `P` holds at every look at the timer in the slot `i`, of the period before the look, the poll, and
whether the timer fires. -/
def AtPolls (i : Fin timerNumber) (p : ℕ) (P : TimerPeriod → TimerPoll → Bool → Prop) :
    List TimerPoll → TimerPeriod → TimerTable → Prop
  | [], _, _ => True
  | poll :: polls, period, table =>
    let r := poll.look table i
    (poll.Finds table i → P period poll r.2.isSome) ∧
      AtPolls i p P polls (period.next p poll r.2.isSome) r.1

/-- The timer does not fire before it is due, and it fires at a poll after that. -/
structure OnTime (period : TimerPeriod) (poll : TimerPoll) (fired : Bool) : Prop where
  early : poll.time < period.base + period.wait → fired = false
  late : period.base + period.wait < poll.time → fired = true

/-- The delay is over, `tick + interval` does not go round while the timer is not due, and the 32-bit
difference to `tick` exceeds the interval once it is. -/
structure PollOk (p : ℕ) (period : TimerPeriod) (poll : TimerPoll) : Prop where
  delayed : period.base ≤ poll.time
  early : poll.time < period.base + period.wait → period.base % 2 ^ 32 + p < 2 ^ 32
  late : period.base + period.wait < poll.time →
    2 ^ 32 ≤ period.base % 2 ^ 32 + p ∨ p < (poll.time - period.base) % 2 ^ 32

/-! ### The comparisons -/

variable {p base time now : ℕ} {t : TimerStruct}

theorem timerDue_iff (htick : t.tick = timerGetMs base) (hp : t.interval.toNat = p) :
    timerDue (timerGetMs time) t = true ↔
      time % 2 ^ 32 < base % 2 ^ 32 ∨ (base % 2 ^ 32 + p) % 2 ^ 32 < time % 2 ^ 32 := by
  rw [timerDue, htick]
  simp [BitVec.lt_def, timerGetMs, BitVec.toNat_add, hp]

/-- Before `base` the timer fires. -/
theorem timerDue_of_lt (htick : t.tick = timerGetMs base) (hp : t.interval.toNat = p)
    (hlt : p < 2 ^ 31) (hbefore : time < base) (hnear : base < time + 2 ^ 31) :
    timerDue (timerGetMs time) t = true := by
  rw [timerDue_iff htick hp]
  omega

/-- From `base` on it fires if its deadline goes round, or once more than the interval is over. -/
theorem timerDue_of_le (htick : t.tick = timerGetMs base) (hp : t.interval.toNat = p)
    (hlt : p < 2 ^ 31) (hafter : base ≤ time) : timerDue (timerGetMs time) t = true ↔
      2 ^ 32 ≤ base % 2 ^ 32 + p ∨ p < (time - base) % 2 ^ 32 := by
  rw [timerDue_iff htick hp]
  omega

/-! ### One look -/

variable {table : TimerTable} {i : Fin timerNumber} {period : TimerPeriod} {poll : TimerPoll}

/-- The entry counts from the base of the period, which is at most a delay ahead of `now`. -/
structure Counting (p now : ℕ) (period : TimerPeriod) (t : TimerStruct) : Prop where
  tick_eq : t.tick = timerGetMs period.base
  interval_eq : t.interval.toNat = p
  base_lt : period.base < now + 2 ^ 31
  wait_le : period.wait ≤ p

theorem Counting.mono (h : Counting p now period t) (hle : now ≤ time) :
    Counting p time period t :=
  ⟨h.tick_eq, h.interval_eq, by have := h.base_lt; omega, h.wait_le⟩

/-- A look at a timer whose owner runs fires it when it is due by the comparisons. -/
theorem look_fired (h : poll.Finds table i) :
    (poll.look table i).2.isSome = timerDue (timerGetMs poll.time) (table.timers i) := by
  rw [TimerPoll.look, timerProcSlot_here _ _ h.1 h.2]
  rcases hdue : timerDue (timerGetMs poll.time) (table.timers i) with _ | _
  · simp
  · simp

/-- Whatever is in the slot after a look counts from the base of the next period. -/
theorem Counting.look (hcount : (table.timers i).Active → Counting p now period (table.timers i))
    (hnow : now ≤ poll.time) (hagain : poll.time ≤ poll.again) :
    ((poll.look table i).1.timers i).Active →
      Counting p poll.again (period.next p poll (poll.look table i).2.isSome)
        ((poll.look table i).1.timers i) := by
  intro hafter
  by_cases hactive : (table.timers i).Active
  · have hc := hcount hactive
    rcases hgone : ownerGone poll.server (table.timers i) with _ | _
    · rw [TimerPoll.look, timerProcSlot_here _ _ hactive hgone] at hafter ⊢
      by_cases hdue : timerDue (timerGetMs poll.time) (table.timers i) = true
      · rw [if_pos hdue] at hafter ⊢
        by_cases hone : (table.timers i).oneshot = 1#32
        · simp [hone] at hafter
        · simp only [hone, if_false, TimerTable.set_timers, if_true, Option.isSome_some,
            TimerPeriod.next]
          exact ⟨rfl, hc.interval_eq, by simp, le_refl _⟩
      · rw [if_neg hdue] at hafter ⊢
        exact hc.mono (hnow.trans hagain)
    · rw [TimerPoll.look, timerProcSlot_gone _ _ hactive hgone] at hafter
      simp at hafter
  · rw [TimerPoll.look, timerProcSlot_free _ _ _ hactive] at hafter
    exact absurd hafter hactive

/-- A look is on time exactly when its poll is fine. -/
theorem onTime_look_iff (hcount : Counting p now period (table.timers i)) (hp : p < 2 ^ 31)
    (hnow : now ≤ poll.time) (hfinds : poll.Finds table i) :
    OnTime period poll (poll.look table i).2.isSome ↔ PollOk p period poll := by
  rw [look_fired hfinds]
  have hbase := hcount.base_lt
  have hwait := hcount.wait_le
  by_cases hbefore : poll.time < period.base
  · have hdue := timerDue_of_lt hcount.tick_eq hcount.interval_eq hp hbefore (by omega)
    constructor
    · intro h
      rw [h.early (by omega)] at hdue
      cases hdue
    · intro h
      exact absurd h.delayed (by omega)
  · have hdue := timerDue_of_le hcount.tick_eq hcount.interval_eq hp (not_lt.mp hbefore)
    constructor
    · intro h
      refine ⟨not_lt.mp hbefore, fun hlt => ?_, fun hlt => hdue.mp (h.late hlt)⟩
      by_contra hround
      have hfired := hdue.mpr (.inl (by omega))
      rw [h.early hlt] at hfired
      cases hfired
    · intro h
      refine ⟨fun hlt => ?_, fun hlt => hdue.mpr (h.late hlt)⟩
      have hround := h.early hlt
      rw [Bool.eq_false_iff, ne_eq, hdue]
      omega

/-! ### All looks -/

/-- From an entry that counts, all looks are on time exactly when all polls are fine. -/
theorem atPolls_iff (hp : p < 2 ^ 31) (polls : List TimerPoll)
    (hcount : (table.timers i).Active → Counting p now period (table.timers i))
    (hforward : Forward now polls) :
    AtPolls i p OnTime polls period table ↔
      AtPolls i p (fun period poll _ => PollOk p period poll) polls period table := by
  induction polls generalizing now period table with
  | nil => exact Iff.rfl
  | cons poll polls ih =>
      obtain ⟨hnow, hagain, hrest⟩ := hforward
      have hnext := ih (Counting.look hcount hnow hagain) hrest
      constructor
      · rintro ⟨hlook, hpolls⟩
        refine ⟨fun hfinds => ?_, hnext.mp hpolls⟩
        exact (onTime_look_iff (hcount hfinds.1) hp hnow hfinds).mp (hlook hfinds)
      · rintro ⟨hlook, hpolls⟩
        refine ⟨fun hfinds => ?_, hnext.mpr hpolls⟩
        exact (onTime_look_iff (hcount hfinds.1) hp hnow hfinds).mpr (hlook hfinds)

/-- The table after the call that adds a timer. -/
theorem timerAdd_eq {handler : Handler} (hrun : table.run = true)
    (hslot : timerSlot table handler = some i) (now : BitVec 32)
    (interval delay oneshot sender : CInt) (arg : MessageArg) :
    (timerAdd table now (some handler) interval delay oneshot sender arg).1 =
      table.set i (timerEntry now handler interval delay oneshot sender arg i) := by
  simp [timerAdd, hrun, hslot]

/-- The entry of a new timer counts from the end of its delay. -/
theorem counting_timerEntry {handler : Handler} {interval delay oneshot sender : CInt}
    {arg : MessageArg} {start first : ℕ} (hdelay : delay.toNat < 2 ^ 31)
    (hfirst : first ≤ interval.toNat) :
    Counting interval.toNat start ⟨start + delay.toNat, first⟩
      (timerEntry (timerGetMs start) handler interval delay oneshot sender arg i) := by
  have hne : ¬ delay = -1#32 := by
    intro h
    rw [h] at hdelay
    exact absurd hdelay (by decide)
  have htick : timerGetMs (start + delay.toNat) = timerGetMs start + delay := by
    rw [timerGetMs, timerGetMs, BitVec.ofNat_add, BitVec.ofNat_toNat, BitVec.setWidth_eq]
  refine ⟨?_, rfl, by simpa using hdelay, hfirst⟩
  rw [timerEntry, if_neg hne, htick]

/-- Let a timer with the delay `delay` and the interval `interval`, both not negative, be added at
`start`, and let it be due first `first` after its delay, where the code takes the interval. Then it
fires on time at all polls exactly when all polls are `PollOk`. -/
theorem onTime_iff {handler : Handler} (hrun : table.run = true)
    (hslot : timerSlot table handler = some i) {interval delay : CInt} (oneshot sender : CInt)
    (arg : MessageArg) {start first : ℕ} (hdelay : delay.toNat < 2 ^ 31)
    (hinterval : interval.toNat < 2 ^ 31) (hfirst : first ≤ interval.toNat)
    {polls : List TimerPoll} (hforward : Forward start polls) :
    AtPolls i interval.toNat OnTime polls ⟨start + delay.toNat, first⟩
        (timerAdd table (timerGetMs start) (some handler) interval delay oneshot sender arg).1 ↔
      AtPolls i interval.toNat (fun period poll _ => PollOk interval.toNat period poll) polls
        ⟨start + delay.toNat, first⟩
        (timerAdd table (timerGetMs start) (some handler) interval delay oneshot sender arg).1 := by
  apply atPolls_iff hinterval polls _ hforward
  intro _
  rw [timerAdd_eq hrun hslot, TimerTable.set_timers, if_pos rfl]
  exact counting_timerEntry hdelay hfirst

/-- An empty table in use. -/
def emptyTimers : TimerTable where
  run := true

/-- With the interval 100 and no delay, a timer added at 5000 is polled too soon and in time, fires,
and is polled again. -/
def somePolls : List TimerPoll := [⟨0#32, 5050, 5050⟩, ⟨0#32, 5101, 5101⟩, ⟨0#32, 5150, 5150⟩]

/-- A timer of the owner 32 in the first slot of an empty table. -/
theorem onTime_somePolls :
    AtPolls 0 100 OnTime somePolls ⟨5000, 100⟩
      (timerAdd emptyTimers (timerGetMs 5000) (some .sleepCheckScheduler) 100#32 0#32 0#32 32#32
        {}).1 := by
  have hok : AtPolls 0 100 (fun period poll _ => PollOk 100 period poll) somePolls ⟨5000, 100⟩
      (timerAdd emptyTimers (timerGetMs 5000) (some .sleepCheckScheduler) 100#32 0#32 0#32 32#32
        {}).1 := by
    refine ⟨fun _ => ⟨?_, ?_, ?_⟩, fun _ => ⟨?_, ?_, ?_⟩, fun _ => ⟨?_, ?_, ?_⟩, trivial⟩
    all_goals decide
  have hforward : Forward 5000 somePolls :=
    ⟨by decide, by decide, by decide, by decide, by decide, by decide, trivial⟩
  exact (@onTime_iff emptyTimers 0 .sleepCheckScheduler rfl (by decide) 100#32 0#32 0#32
    32#32 {} 5000 100 (by decide) (by decide) (by decide) somePolls hforward).mpr hok

/-- With a delay of a second, the timer fires one millisecond after it was added, whether it should
wait for the delay alone or for the interval too. -/
theorem delayed_fires_early :
    ¬ AtPolls 0 100 OnTime [⟨0#32, 5001, 5001⟩] ⟨6000, 0⟩
        (timerAdd emptyTimers (timerGetMs 5000) (some .sleepCheckScheduler) 100#32 1000#32 0#32
          32#32 {}).1 ∧
      ¬ AtPolls 0 100 OnTime [⟨0#32, 5001, 5001⟩] ⟨6000, 100⟩
        (timerAdd emptyTimers (timerGetMs 5000) (some .sleepCheckScheduler) 100#32 1000#32 0#32
          32#32 {}).1 := by
  have hfires : (TimerPoll.look ⟨0#32, 5001, 5001⟩ (timerAdd emptyTimers (timerGetMs 5000)
      (some .sleepCheckScheduler) 100#32 1000#32 0#32 32#32 {}).1 0).2.isSome = true := by
    decide
  have hfinds : TimerPoll.Finds ⟨0#32, 5001, 5001⟩ (timerAdd emptyTimers (timerGetMs 5000)
      (some .sleepCheckScheduler) 100#32 1000#32 0#32 32#32 {}).1 0 := by
    refine ⟨?_, ?_⟩ <;> decide
  refine ⟨fun h => ?_, fun h => ?_⟩
  · have hearly := (h.1 hfinds).early (by decide)
    rw [hfires] at hearly
    cases hearly
  · have hearly := (h.1 hfinds).early (by decide)
    rw [hfires] at hearly
    cases hearly

end GokeWebcam.Manager
