import GokeWebcam.Global.Interface

/-!
# The timer table

`server/manager/timer.c`: 32 slots, a slot being in use when its `tid` is not zero.

* `timerAdd`: the slot of a timer with the same handler is overwritten, else the first free slot
  is taken.
* `timerRemove`: the first timer with the handler is cleared.
* `timerProcSlot`: one iteration of the loop of `timer_proc`, given the word of running servers the
  call was made with and what the clock shows.
* `timerAdd_cases`, `timerRemove_cases`, `timerProcSlot_cases`: all each operation can do.

A slot is examined, cleared or overwritten under `timer_lock`, so one iteration is one step of
the timer thread.
-/

namespace GokeWebcam.Manager

open Common Global

/-- Source: `server/manager/manager_interface.h` `TIMER_NUMBER` -/
abbrev timerNumber : ℕ := 32

/-- Source: `server/manager/manager_interface.h` `timer_struct_t` -/
structure TimerStruct where
  tid : CInt := 0#32
  sender : CInt := 0#32
  tick : BitVec 32 := 0#32
  delay : CInt := 0#32
  interval : BitVec 32 := 0#32
  oneshot : CInt := 0#32
  fpcallback : Option Handler := none
  arg : MessageArg := {}
  deriving DecidableEq, Repr

/-- The slot holds a timer. -/
def TimerStruct.Active (t : TimerStruct) : Prop := t.tid ≠ 0#32

instance (t : TimerStruct) : Decidable t.Active := inferInstanceAs (Decidable (_ ≠ _))

@[simp] theorem not_active_zero : ¬ ({} : TimerStruct).Active := fun h => h rfl

/-- The static variables of `timer.c`. -/
structure TimerTable where
  run : Bool := false
  timers : Fin timerNumber → TimerStruct := fun _ => {}

/-- Overwrite one slot. -/
def TimerTable.set (table : TimerTable) (i : Fin timerNumber) (t : TimerStruct) : TimerTable :=
  { table with timers := Function.update table.timers i t }

@[simp] theorem TimerTable.set_timers {table : TimerTable} {i j : Fin timerNumber}
    {t : TimerStruct} : (table.set i t).timers j = if j = i then t else table.timers j :=
  Function.update_apply _ _ _ _

@[simp] theorem TimerTable.set_run {table : TimerTable} {i : Fin timerNumber} {t : TimerStruct} :
    (table.set i t).run = table.run := rfl

/-- The first slot that satisfies `p`. -/
def TimerTable.find (table : TimerTable) (p : TimerStruct → Bool) : Option (Fin timerNumber) :=
  (List.finRange timerNumber).find? fun i => p (table.timers i)

theorem TimerTable.find_some {table : TimerTable} {p : TimerStruct → Bool} {i : Fin timerNumber}
    (h : table.find p = some i) : p (table.timers i) = true := by
  rw [find] at h
  simpa using List.find?_some h

/-- The timer in the slot has this handler. -/
def TimerStruct.hasHandler (handler : Handler) (t : TimerStruct) : Bool :=
  t.Active && t.fpcallback = some handler

/-- The slot `timer_add` writes: the timer with the same handler, else the first free one.
Source: `server/manager/timer.c` `timer_add`, the search loop -/
def timerSlot (table : TimerTable) (handler : Handler) : Option (Fin timerNumber) :=
  match table.find (·.hasHandler handler) with
  | some i => some i
  | none => table.find fun t => !t.Active

/-- The entry `timer_add` writes into the slot `i`.
Source: `server/manager/timer.c` `timer_add` -/
def timerEntry (now : BitVec 32) (handler : Handler) (interval delay oneshot sender : CInt)
    (arg : MessageArg) (i : Fin timerNumber) : TimerStruct where
  fpcallback := some handler
  tid := BitVec.ofNat 32 (i + 1)
  interval := interval
  oneshot := oneshot
  delay := delay
  sender := sender
  arg := arg
  tick := if delay = -1#32 then 0#32 else now + delay

/-- The table after the call, and whether it returned 0. `now` is what `timer_get_ms` returns.
Source: `server/manager/timer.c` `timer_add` -/
def timerAdd (table : TimerTable) (now : BitVec 32) (handler : Option Handler)
    (interval delay oneshot sender : CInt) (arg : MessageArg) : TimerTable × Bool :=
  match handler with
  | none => (table, false)
  | some handler =>
    if table.run = false then (table, false)
    else
      match timerSlot table handler with
      | none => (table, false)
      | some i => (table.set i (timerEntry now handler interval delay oneshot sender arg i), true)

/-- Source: `server/manager/timer.c` `timer_remove` -/
def timerRemove (table : TimerTable) (handler : Option Handler) : TimerTable × Bool :=
  match handler with
  | none => (table, false)
  | some handler =>
    if table.run = false then (table, false)
    else
      match table.find (·.hasHandler handler) with
      | none => (table, true)
      | some i => (table.set i {}, true)

/-- Source: `server/manager/timer.c` `timer_init` -/
def timerInit (table : TimerTable) : TimerTable :=
  if table.run = false then { run := true, timers := fun _ => {} } else table

/-- Source: `server/manager/timer.c` `timer_release` -/
def timerRelease (table : TimerTable) : TimerTable :=
  if table.run then { run := false, timers := fun _ => {} } else table

/-- The owner of the timer is gone, as `timer_proc` decides it: its bit in the word of running
servers is clear and it is not the number 32.
Source: `server/manager/timer.c` `timer_proc` -/
def ownerGone (server : CInt) (t : TimerStruct) : Bool :=
  miscGetBit server t.sender.toNat = 0#32 && t.sender != 32#32

/-- The clock has reached the timer.
Source: `server/manager/timer.c` `timer_proc` -/
def timerDue (now : BitVec 32) (t : TimerStruct) : Bool :=
  now < t.tick || t.tick + t.interval < now

/-- The message a firing timer sends to its owner.
Source: `server/manager/timer.c` `timer_proc` -/
def timerOn (t : TimerStruct) : Message where
  message := msgManagerTimerOn
  sender := ServerType.manager.toInt
  receiver := t.sender
  argIn := { handler := t.fpcallback }
  argPass := t.arg

/-- One iteration of the loop: the table after it and the timer that fired, if one did. `server` is
the argument of the call, `now` and `again` what the clock shows when it is read.
Source: `server/manager/timer.c` `timer_proc` -/
def timerProcSlot (server : CInt) (now again : BitVec 32) (table : TimerTable)
    (i : Fin timerNumber) : TimerTable × Option TimerStruct :=
  let timer := table.timers i
  if ¬ timer.Active then (table, none)
  else if ownerGone server timer then (table.set i {}, none)
  else if timerDue now timer then
    if timer.oneshot = 1#32 then (table.set i {}, some timer)
    else (table.set i { timer with tick := again }, some timer)
  else (table, none)

/-! ### What the operations can do -/

variable {table : TimerTable} {i j : Fin timerNumber} {handler : Handler}

/-- `timer_add` does nothing, or it writes one slot, which is free or has the same handler. -/
theorem timerAdd_cases (table : TimerTable) (now : BitVec 32) (handler : Option Handler)
    (interval delay oneshot sender : CInt) (arg : MessageArg) :
    (timerAdd table now handler interval delay oneshot sender arg).1 = table ∨
      ∃ h i, handler = some h ∧
        (¬ (table.timers i).Active ∨ (table.timers i).hasHandler h = true) ∧
        (timerAdd table now handler interval delay oneshot sender arg).1 =
          table.set i (timerEntry now h interval delay oneshot sender arg i) := by
  rcases handler with _ | h
  · exact .inl rfl
  · by_cases hrun : table.run = false
    · simp [timerAdd, hrun]
    · rcases hslot : timerSlot table h with _ | i
      · simp [timerAdd, hslot]
      · refine .inr ⟨h, i, rfl, ?_, by simp [timerAdd, hrun, hslot]⟩
        rw [timerSlot] at hslot
        rcases hfind : table.find (·.hasHandler h) with _ | i'
        · rw [hfind] at hslot
          exact .inl (by simpa using TimerTable.find_some hslot)
        · rw [hfind] at hslot
          cases hslot
          exact .inr (TimerTable.find_some hfind)

/-- `timer_remove` does nothing, or it clears one slot, which has the handler. -/
theorem timerRemove_cases (table : TimerTable) (handler : Option Handler) :
    (timerRemove table handler).1 = table ∨
      ∃ h i, handler = some h ∧ (table.timers i).hasHandler h = true ∧
        (timerRemove table handler).1 = table.set i {} := by
  rcases handler with _ | h
  · exact .inl rfl
  · by_cases hrun : table.run = false
    · simp [timerRemove, hrun]
    · rcases hfind : table.find (·.hasHandler h) with _ | i
      · simp [timerRemove, hrun, hfind]
      · exact .inr ⟨h, i, rfl, TimerTable.find_some hfind, by simp [timerRemove, hrun, hfind]⟩

/-- An iteration that examines a free slot does nothing. -/
theorem timerProcSlot_free (server : CInt) (now again : BitVec 32)
    (h : ¬ (table.timers i).Active) : timerProcSlot server now again table i = (table, none) := by
  simp [timerProcSlot, h]

/-- The timer of a server that is gone is discarded. -/
theorem timerProcSlot_gone {server : CInt} (now again : BitVec 32) (h : (table.timers i).Active)
    (hgone : ownerGone server (table.timers i) = true) :
    timerProcSlot server now again table i = (table.set i {}, none) := by
  simp [timerProcSlot, h, hgone]

/-- A timer of a running server stays, fires and goes, or fires and stays. -/
theorem timerProcSlot_here {server : CInt} (now again : BitVec 32) (h : (table.timers i).Active)
    (hhere : ownerGone server (table.timers i) = false) :
    timerProcSlot server now again table i =
      if timerDue now (table.timers i) then
        (table.set i (if (table.timers i).oneshot = 1#32 then {}
          else { table.timers i with tick := again }), some (table.timers i))
      else (table, none) := by
  by_cases hdue : timerDue now (table.timers i) = true
  · by_cases hone : (table.timers i).oneshot = 1#32
    · simp [timerProcSlot, h, hhere, hdue, hone]
    · simp [timerProcSlot, h, hhere, hdue, hone]
  · simp [timerProcSlot, h, hhere, hdue]

/-- An iteration touches only the slot it examines. -/
theorem timerProcSlot_other {server : CInt} {now again : BitVec 32} (h : j ≠ i) :
    (timerProcSlot server now again table i).1.timers j = table.timers j := by
  by_cases hactive : (table.timers i).Active
  · rcases hgone : ownerGone server (table.timers i) with _ | _
    · rw [timerProcSlot_here now again hactive hgone]
      split_ifs <;> simp [h]
    · rw [timerProcSlot_gone now again hactive hgone]
      simp [h]
  · rw [timerProcSlot_free server now again hactive]

/-- Only the timer examined fires, and only if its owner is taken to be running. -/
theorem timerProcSlot_fired {server : CInt} {now again : BitVec 32} {t : TimerStruct}
    (h : (timerProcSlot server now again table i).2 = some t) :
    t = table.timers i ∧ ownerGone server t = false := by
  by_cases hactive : (table.timers i).Active
  · rcases hgone : ownerGone server (table.timers i) with _ | _
    · rw [timerProcSlot_here now again hactive hgone] at h
      split_ifs at h <;> cases h <;> exact ⟨rfl, hgone⟩
    · rw [timerProcSlot_gone now again hactive hgone] at h
      cases h
  · rw [timerProcSlot_free server now again hactive] at h
    cases h

/-- The entry `timer_add` writes is in use. -/
theorem active_timerEntry {now : BitVec 32} {interval delay oneshot sender : CInt}
    {arg : MessageArg} :
    (timerEntry now handler interval delay oneshot sender arg i).Active := by
  intro h
  have htid : (i.val + 1) % 2 ^ 32 = 0 := congrArg BitVec.toNat h
  have hi : i.val < 32 := i.isLt
  omega

end GokeWebcam.Manager
