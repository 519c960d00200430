import GokeWebcam.Manager.Timer

/-!
# The timer table and any number of handlers

The handlers the program itself registers are fewer than the slots. Here a handler is of any type, so
that the table can be full; at the type `Handler` the functions are those of the timer table before.

* `searchLoop`: the loop of `timer_add` that looks for the handler and for a free slot at once.
* `timerAdd`, `timerRemove`, `timerProc`: the calls, whole.
* `TableInv`: one active slot for each handler, and the slot `i` has the id `i + 1`.
* `tableInv_run`: every sequence of calls keeps it; `AddSpec`, `RemoveSpec`: what a call changes.
* `table_sequence`: all of it after any sequence of calls.
* `timerAdd_ofTable`, `timerRemove_ofTable`, `timerProcSlot_ofTable`: the functions at `Handler`.
-/

namespace GokeWebcam.Manager.AnyHandler

open Common Global

/-- Source: `server/manager/manager_interface.h` `timer_struct_t` -/
structure TimerStruct (η : Type) where
  tid : CInt := 0#32
  sender : CInt := 0#32
  tick : BitVec 32 := 0#32
  delay : CInt := 0#32
  interval : BitVec 32 := 0#32
  oneshot : CInt := 0#32
  fpcallback : Option η := none
  arg : MessageArg := {}
  deriving DecidableEq, Repr

/-- The static variables of `timer.c`. -/
structure TimerTable (η : Type) where
  run : Bool := false
  timers : Fin timerNumber → TimerStruct η := fun _ => {}

variable {η : Type}

/-- The slot holds a timer. -/
def TimerStruct.Active (t : TimerStruct η) : Prop := t.tid ≠ 0#32

instance (t : TimerStruct η) : Decidable t.Active := inferInstanceAs (Decidable (_ ≠ _))

@[simp] theorem not_active_zero : ¬ ({} : TimerStruct η).Active := fun h => h rfl

/-- Overwrite one slot. -/
def TimerTable.set (table : TimerTable η) (i : Fin timerNumber) (t : TimerStruct η) : TimerTable η :=
  { table with timers := Function.update table.timers i t }

@[simp] theorem TimerTable.set_timers {table : TimerTable η} {i j : Fin timerNumber}
    {t : TimerStruct η} : (table.set i t).timers j = if j = i then t else table.timers j :=
  Function.update_apply _ _ _ _

/-! ### The calls -/

/-- The entry `timer_add` writes into the slot `i`.
Source: `server/manager/timer.c` `timer_add` -/
def timerEntry (now : BitVec 32) (handler : η) (interval delay oneshot sender : CInt)
    (arg : MessageArg) (i : Fin timerNumber) : TimerStruct η where
  fpcallback := some handler
  tid := BitVec.ofNat 32 (i + 1)
  interval := interval
  oneshot := oneshot
  delay := delay
  sender := sender
  arg := arg
  tick := if delay = -1#32 then 0#32 else now + delay

/-- Source: `server/manager/timer.c` `timer_init` -/
def timerInit (table : TimerTable η) : TimerTable η :=
  if table.run = false then { run := true, timers := fun _ => {} } else table

/-- Source: `server/manager/timer.c` `timer_release` -/
def timerRelease (table : TimerTable η) : TimerTable η :=
  if table.run then { run := false, timers := fun _ => {} } else table

/-- The owner of the timer is gone.
Source: `server/manager/timer.c` `timer_proc` -/
def ownerGone (server : CInt) (t : TimerStruct η) : Bool :=
  miscGetBit server t.sender.toNat = 0#32 && t.sender != 32#32

/-- Source: `server/manager/timer.c` `timer_proc` -/
def timerDue (now : BitVec 32) (t : TimerStruct η) : Bool :=
  now < t.tick || t.tick + t.interval < now

/-- One iteration of the loop: the table after it and the timer that fired, if one did. `now` and
`again` are what the clock shows when it is read.
Source: `server/manager/timer.c` `timer_proc` -/
def timerProcSlot (server : CInt) (now again : BitVec 32) (table : TimerTable η)
    (i : Fin timerNumber) : TimerTable η × Option (TimerStruct η) :=
  let timer := table.timers i
  if ¬ timer.Active then (table, none)
  else if ownerGone server timer then (table.set i {}, none)
  else if timerDue now timer then
    if timer.oneshot = 1#32 then (table.set i {}, some timer)
    else (table.set i { timer with tick := again }, some timer)
  else (table, none)

/-- The iterations over the slots `is`, with the timers that fired.
Source: `server/manager/timer.c` `timer_proc`, the loop -/
def timerProcFrom (server : CInt) (clock : Fin timerNumber → BitVec 32 × BitVec 32) :
    List (Fin timerNumber) → TimerTable η → TimerTable η × List (TimerStruct η)
  | [], table => (table, [])
  | i :: is, table =>
    let r := timerProcSlot server (clock i).1 (clock i).2 table i
    let rest := timerProcFrom server clock is r.1
    (rest.1, r.2.toList ++ rest.2)

/-- Source: `server/manager/timer.c` `timer_proc` -/
def timerProc (server : CInt) (clock : Fin timerNumber → BitVec 32 × BitVec 32)
    (table : TimerTable η) : TimerTable η × List (TimerStruct η) :=
  timerProcFrom server clock (List.finRange timerNumber) table

variable [DecidableEq η]

/-- The timer in the slot has this handler. -/
def TimerStruct.hasHandler (handler : η) (t : TimerStruct η) : Bool :=
  t.Active && t.fpcallback = some handler

/-- The loop over the slots `is`: the slot at the `break`, if it is reached, and `usable_id`, `none`
standing for 1110.
Source: `server/manager/timer.c` `timer_add`, the `for` loop -/
def searchLoop (timers : Fin timerNumber → TimerStruct η) (handler : η) :
    List (Fin timerNumber) → Option (Fin timerNumber) →
      Option (Fin timerNumber) × Option (Fin timerNumber)
  | [], usable => (none, usable)
  | i :: is, usable =>
    let usable := if ¬ (timers i).Active ∧ usable = none then some i else usable
    if (timers i).hasHandler handler then (some i, none)
    else searchLoop timers handler is usable

/-- The table after the call, and whether it returned 0. `now` is what `timer_get_ms` returns.
Source: `server/manager/timer.c` `timer_add` -/
def timerAdd (table : TimerTable η) (now : BitVec 32) (handler : Option η)
    (interval delay oneshot sender : CInt) (arg : MessageArg) : TimerTable η × Bool :=
  match handler with
  | none => (table, false)
  | some handler =>
    if table.run = false then (table, false)
    else
      let found := searchLoop table.timers handler (List.finRange timerNumber) none
      match found.1.or found.2 with
      | none => (table, false)
      | some i => (table.set i (timerEntry now handler interval delay oneshot sender arg i), true)

/-- Source: `server/manager/timer.c` `timer_remove` -/
def timerRemove (table : TimerTable η) (handler : Option η) : TimerTable η × Bool :=
  match handler with
  | none => (table, false)
  | some handler =>
    if table.run = false then (table, false)
    else
      match (List.finRange timerNumber).find? fun i => (table.timers i).hasHandler handler with
      | none => (table, true)
      | some i => (table.set i {}, true)

/-- A call. -/
inductive TimerOp (η : Type)
  | init
  | release
  | add (now : BitVec 32) (handler : Option η) (interval delay oneshot sender : CInt)
      (arg : MessageArg)
  | remove (handler : Option η)
  | proc (server : CInt) (clock : Fin timerNumber → BitVec 32 × BitVec 32)

/-- The table after a call. -/
def timerStep (table : TimerTable η) : TimerOp η → TimerTable η
  | .init => timerInit table
  | .release => timerRelease table
  | .add now handler interval delay oneshot sender arg =>
    (timerAdd table now handler interval delay oneshot sender arg).1
  | .remove handler => (timerRemove table handler).1
  | .proc server clock => (timerProc server clock table).1

/-! ### The search -/

variable {table : TimerTable η} {i j : Fin timerNumber} {handler : η}

theorem hasHandler_iff {t : TimerStruct η} :
    t.hasHandler handler = true ↔ t.Active ∧ t.fpcallback = some handler := by
  simp [TimerStruct.hasHandler]

/-- The loop ends at the handler if it is there, and has else remembered the first free slot. -/
theorem searchLoop_eq (timers : Fin timerNumber → TimerStruct η) (handler : η)
    (is : List (Fin timerNumber)) (usable : Option (Fin timerNumber)) :
    searchLoop timers handler is usable =
      match is.find? fun i => (timers i).hasHandler handler with
      | some i => (some i, none)
      | none => (none, usable.or (is.find? fun i => !(timers i).Active)) := by
  induction is generalizing usable with
  | nil => simp [searchLoop]
  | cons i is ih =>
      rw [searchLoop]
      rcases hhas : (timers i).hasHandler handler with _ | _
      · rw [List.find?_cons_of_neg (by simp [hhas])]
        simp only [Bool.false_eq_true, if_false]
        rw [ih]
        rcases is.find? fun i => (timers i).hasHandler handler with _ | i'
        · -- the slot is not the handler's: it may be the first free one
          by_cases hactive : (timers i).Active
          · simp [hactive]
          · rcases usable with _ | u <;> simp [hactive]
        · rfl
      · simp [hhas]

/-- The search of a whole table: the slot of the handler, else a free slot, else nothing. -/
theorem searchLoop_cases (timers : Fin timerNumber → TimerStruct η) (handler : η) :
    (∃ i, (timers i).hasHandler handler = true ∧
        searchLoop timers handler (List.finRange timerNumber) none = (some i, none)) ∨
      ((∀ i, (timers i).hasHandler handler = false) ∧
        ((∃ i, ¬ (timers i).Active ∧
            searchLoop timers handler (List.finRange timerNumber) none = (none, some i)) ∨
          ((∀ i, (timers i).Active) ∧
            searchLoop timers handler (List.finRange timerNumber) none = (none, none)))) := by
  have hloop := searchLoop_eq timers handler (List.finRange timerNumber) none
  rcases hfind : (List.finRange timerNumber).find? fun i => (timers i).hasHandler handler with _ | i
  · rw [hfind] at hloop
    have hnone : ∀ i, (timers i).hasHandler handler = false := fun i => by
      simpa using List.find?_eq_none.mp hfind i (List.mem_finRange i)
    refine .inr ⟨hnone, ?_⟩
    rcases hfree : (List.finRange timerNumber).find? fun i => !(timers i).Active with _ | i
    · rw [hfree] at hloop
      have hall : ∀ i, (timers i).Active := fun i => by
        simpa using List.find?_eq_none.mp hfree i (List.mem_finRange i)
      exact .inr ⟨hall, hloop⟩
    · rw [hfree] at hloop
      exact .inl ⟨i, by simpa using List.find?_some hfree, hloop⟩
  · rw [hfind] at hloop
    exact .inl ⟨i, by simpa using List.find?_some hfind, hloop⟩

/-! ### The invariant -/

/-- No two active slots have one handler, an active slot has a handler, and its id is its index plus
one. -/
structure TableInv (table : TimerTable η) : Prop where
  tid : ∀ i, (table.timers i).Active → (table.timers i).tid = BitVec.ofNat 32 (i + 1)
  callback : ∀ i, (table.timers i).Active → (table.timers i).fpcallback ≠ none
  unique : ∀ i j, (table.timers i).Active → (table.timers j).Active →
    (table.timers i).fpcallback = (table.timers j).fpcallback → i = j

omit [DecidableEq η] in
theorem tableInv_empty {run : Bool} :
    TableInv ({ run := run, timers := fun _ => {} } : TimerTable η) :=
  ⟨fun _ h => absurd h not_active_zero, fun _ h => absurd h not_active_zero,
    fun _ _ h => absurd h not_active_zero⟩

namespace TableInv

omit [DecidableEq η]

/-- A slot may get an entry with its id and a handler that no other active slot has. -/
theorem set (h : TableInv table) {t : TimerStruct η}
    (htid : t.Active → t.tid = BitVec.ofNat 32 (i + 1)) (hcallback : t.Active → t.fpcallback ≠ none)
    (hnew : t.Active → ∀ j, j ≠ i → (table.timers j).Active →
      (table.timers j).fpcallback ≠ t.fpcallback) : TableInv (table.set i t) := by
  refine ⟨fun j hj => ?_, fun j hj => ?_, fun a b ha hb hab => ?_⟩
  · rw [TimerTable.set_timers] at hj ⊢
    by_cases hji : j = i
    · rw [if_pos hji] at hj ⊢
      rw [hji]
      exact htid hj
    · rw [if_neg hji] at hj ⊢
      exact h.tid j hj
  · rw [TimerTable.set_timers] at hj ⊢
    by_cases hji : j = i
    · rw [if_pos hji] at hj ⊢
      exact hcallback hj
    · rw [if_neg hji] at hj ⊢
      exact h.callback j hj
  · rw [TimerTable.set_timers] at ha hb
    rw [TimerTable.set_timers, TimerTable.set_timers] at hab
    by_cases hai : a = i
    · by_cases hbi : b = i
      · rw [hai, hbi]
      · rw [if_pos hai] at ha hab
        rw [if_neg hbi] at hb hab
        exact absurd hab.symm (hnew ha b hbi hb)
    · rw [if_neg hai] at ha hab
      by_cases hbi : b = i
      · rw [if_pos hbi] at hb hab
        exact absurd hab (hnew hb a hai ha)
      · rw [if_neg hbi] at hb hab
        exact h.unique a b ha hb hab

/-- A slot may be cleared. -/
theorem clear (h : TableInv table) (i : Fin timerNumber) : TableInv (table.set i {}) :=
  h.set (fun ha => absurd ha not_active_zero) (fun ha => absurd ha not_active_zero)
    fun ha => absurd ha not_active_zero

/-- The slot of an active timer may get another time. -/
theorem setTick (h : TableInv table) (hi : (table.timers i).Active) (tick : BitVec 32) :
    TableInv (table.set i { table.timers i with tick := tick }) := by
  apply h.set
  · intro _
    exact h.tid i hi
  · intro _
    exact h.callback i hi
  · intro _ j hji hj heq
    exact hji (h.unique j i hj hi heq)

theorem timerProcSlot (h : TableInv table) (server : CInt) (now again : BitVec 32)
    (i : Fin timerNumber) : TableInv (timerProcSlot server now again table i).1 := by
  unfold AnyHandler.timerProcSlot
  by_cases hactive : (table.timers i).Active
  · simp only [hactive, not_true_eq_false, if_false]
    by_cases hgone : ownerGone server (table.timers i) = true
    · rw [if_pos hgone]
      exact h.clear i
    · rw [if_neg hgone]
      by_cases hdue : timerDue now (table.timers i) = true
      · rw [if_pos hdue]
        by_cases hone : (table.timers i).oneshot = 1#32
        · rw [if_pos hone]
          exact h.clear i
        · rw [if_neg hone]
          exact h.setTick hactive again
      · rw [if_neg hdue]
        exact h
  · simp only [hactive, not_false_eq_true, if_true]
    exact h

theorem timerProcFrom (server : CInt) (clock : Fin timerNumber → BitVec 32 × BitVec 32)
    (is : List (Fin timerNumber)) (h : TableInv table) :
    TableInv (timerProcFrom server clock is table).1 := by
  induction is generalizing table with
  | nil => exact h
  | cons i is ih => exact ih (h.timerProcSlot server _ _ i)

end TableInv

/-! ### What a call changes -/

/-- What `timer_add` answers, `r`, for a handler and the entry it makes for a slot. -/
structure AddSpec (table : TimerTable η) (handler : Option η)
    (entry : η → Fin timerNumber → TimerStruct η) (r : TimerTable η × Bool) : Prop where
  /-- The slot of a registered handler is written and no other slot. -/
  replaces : ∀ h i, handler = some h → table.run = true → (table.timers i).Active →
    (table.timers i).fpcallback = some h → r = (table.set i (entry h i), true)
  /-- A handler that is not registered gets a free slot. -/
  takes : ∀ h, handler = some h → (∀ i, (table.timers i).Active →
    (table.timers i).fpcallback ≠ some h) → r.2 = true →
    ∃ i, ¬ (table.timers i).Active ∧ r.1 = table.set i (entry h i)
  fails : r.2 = false ↔ table.run = false ∨ handler = none ∨
    ∀ i, (table.timers i).Active ∧ (table.timers i).fpcallback ≠ handler
  unchanged : r.2 = false → r.1 = table

/-- What `timer_remove` answers, `r`. -/
structure RemoveSpec (table : TimerTable η) (handler : Option η) (r : TimerTable η × Bool) :
    Prop where
  /-- The slot of a registered handler is cleared and no other slot. -/
  frees : ∀ h i, handler = some h → table.run = true → (table.timers i).Active →
    (table.timers i).fpcallback = some h → r = (table.set i {}, true)
  unchanged : table.run = false ∨ (∀ h, handler = some h → ∀ i, (table.timers i).Active →
    (table.timers i).fpcallback ≠ some h) → r.1 = table

theorem not_hasHandler_iff {t : TimerStruct η} :
    t.hasHandler handler = false ↔ (t.Active → t.fpcallback ≠ some handler) := by
  rw [← Bool.not_eq_true, hasHandler_iff, not_and]

variable (now : BitVec 32) (interval delay oneshot sender : CInt) (arg : MessageArg)

theorem timerAdd_of_stopped (hrun : table.run = false) (handler : Option η) :
    timerAdd table now handler interval delay oneshot sender arg = (table, false) := by
  rcases handler with _ | f
  · rfl
  · rw [timerAdd, if_pos hrun]

/-- A call in a running table writes the slot of the handler, or a free one, or there is neither. -/
theorem timerAdd_cases (hrun : table.run = true) (handler : η) :
    (∃ i, (table.timers i).hasHandler handler = true ∧
        timerAdd table now (some handler) interval delay oneshot sender arg =
          (table.set i (timerEntry now handler interval delay oneshot sender arg i), true)) ∨
      ((∀ i, (table.timers i).hasHandler handler = false) ∧
        ((∃ i, ¬ (table.timers i).Active ∧
            timerAdd table now (some handler) interval delay oneshot sender arg =
              (table.set i (timerEntry now handler interval delay oneshot sender arg i), true)) ∨
          ((∀ i, (table.timers i).Active) ∧
            timerAdd table now (some handler) interval delay oneshot sender arg =
              (table, false)))) := by
  obtain ⟨i, hhas, hloop⟩ | ⟨hnone, ⟨i, hfree, hloop⟩ | ⟨hall, hloop⟩⟩ :=
    searchLoop_cases table.timers handler
  · exact .inl ⟨i, hhas, by simp [timerAdd, hrun, hloop]⟩
  · exact .inr ⟨hnone, .inl ⟨i, hfree, by simp [timerAdd, hrun, hloop]⟩⟩
  · exact .inr ⟨hnone, .inr ⟨hall, by simp [timerAdd, hrun, hloop]⟩⟩

theorem timerRemove_of_stopped (hrun : table.run = false) (handler : Option η) :
    timerRemove table handler = (table, false) := by
  rcases handler with _ | f
  · rfl
  · rw [timerRemove, if_pos hrun]

/-- A call in a running table clears the slot of the handler, or there is none. -/
theorem timerRemove_cases (hrun : table.run = true) (handler : η) :
    (∃ i, (table.timers i).hasHandler handler = true ∧
        timerRemove table (some handler) = (table.set i {}, true)) ∨
      ((∀ i, (table.timers i).hasHandler handler = false) ∧
        timerRemove table (some handler) = (table, true)) := by
  have hrun : ¬ table.run = false := by simp [hrun]
  rw [timerRemove, if_neg hrun]
  rcases hfind : (List.finRange timerNumber).find?
      fun i => (table.timers i).hasHandler handler with _ | i
  · refine .inr ⟨fun i => ?_, rfl⟩
    simpa using List.find?_eq_none.mp hfind i (List.mem_finRange i)
  · have hhas := @List.find?_some _ _ _ _ hfind
    exact .inl ⟨i, hhas, rfl⟩

theorem addSpec (h : TableInv table) (handler : Option η) :
    AddSpec table handler (fun f i => timerEntry now f interval delay oneshot sender arg i)
      (timerAdd table now handler interval delay oneshot sender arg) := by
  rcases handler with _ | f
  · refine ⟨fun _ _ hf => ?_, fun _ hf => ?_, ?_, fun _ => rfl⟩
    · cases hf
    · cases hf
    · simp [timerAdd]
  · rcases hrun : table.run with _ | _
    · rw [timerAdd_of_stopped now interval delay oneshot sender arg hrun]
      refine ⟨fun _ _ _ ht => ?_, fun _ _ _ hok => ?_, ?_, fun _ => rfl⟩
      · rw [hrun] at ht
        cases ht
      · cases hok
      · simp [hrun]
    · obtain ⟨i, hhas, hr⟩ | ⟨hnone, ⟨i, hfree, hr⟩ | ⟨hall, hr⟩⟩ :=
        timerAdd_cases now interval delay oneshot sender arg hrun f
      · obtain ⟨hactive, hcb⟩ := hasHandler_iff.mp hhas
        rw [hr]
        refine ⟨fun g j hg _ hj hjcb => ?_, fun g hg hno => ?_, ?_, fun hf => ?_⟩
        · obtain rfl := Option.some.inj hg
          rw [h.unique i j hactive hj (hcb.trans hjcb.symm)]
        · obtain rfl := Option.some.inj hg
          exact absurd hcb (hno i hactive)
        · simp only [hrun, Bool.true_eq_false, false_or, reduceCtorEq, false_iff, not_forall]
          exact ⟨i, fun hi => hi.2 hcb⟩
        · cases hf
      · rw [hr]
        refine ⟨fun g j hg _ hj hjcb => ?_, fun g hg _ _ => ?_, ?_, fun hf => ?_⟩
        · obtain rfl := Option.some.inj hg
          exact absurd hjcb (not_hasHandler_iff.mp (hnone j) hj)
        · obtain rfl := Option.some.inj hg
          exact ⟨i, hfree, rfl⟩
        · simp only [hrun, Bool.true_eq_false, false_or, reduceCtorEq, false_iff, not_forall]
          exact ⟨i, fun hi => hfree hi.1⟩
        · cases hf
      · rw [hr]
        refine ⟨fun g j hg _ hj hjcb => ?_, fun _ _ _ hok => ?_, ?_, fun _ => rfl⟩
        · obtain rfl := Option.some.inj hg
          exact absurd hjcb (not_hasHandler_iff.mp (hnone j) hj)
        · cases hok
        · refine iff_of_true rfl (.inr (.inr fun i => ⟨hall i, ?_⟩))
          exact not_hasHandler_iff.mp (hnone i) (hall i)

theorem removeSpec (h : TableInv table) (handler : Option η) :
    RemoveSpec table handler (timerRemove table handler) := by
  rcases handler with _ | f
  · refine ⟨fun _ _ hf => ?_, fun _ => rfl⟩
    cases hf
  · rcases hrun : table.run with _ | _
    · rw [timerRemove_of_stopped hrun]
      refine ⟨fun _ _ _ ht => ?_, fun _ => rfl⟩
      rw [hrun] at ht
      cases ht
    · obtain ⟨i, hhas, hr⟩ | ⟨hnone, hr⟩ := timerRemove_cases hrun f
      · obtain ⟨hactive, hcb⟩ := hasHandler_iff.mp hhas
        rw [hr]
        refine ⟨fun g j hg _ hj hjcb => ?_, fun hor => ?_⟩
        · obtain rfl := Option.some.inj hg
          rw [h.unique i j hactive hj (hcb.trans hjcb.symm)]
        · rcases hor with hf | hno
          · rw [hrun] at hf
            cases hf
          · exact absurd hcb (hno f rfl i hactive)
      · rw [hr]
        refine ⟨fun g j hg _ hj hjcb => ?_, fun _ => rfl⟩
        obtain rfl := Option.some.inj hg
        exact absurd hjcb (not_hasHandler_iff.mp (hnone j) hj)

/-! ### Sequences of calls -/

theorem TableInv.timerAdd (h : TableInv table) (handler : Option η) :
    TableInv (timerAdd table now handler interval delay oneshot sender arg).1 := by
  rcases hrun : table.run with _ | _
  · rw [timerAdd_of_stopped now interval delay oneshot sender arg hrun]
    exact h
  · rcases handler with _ | f
    · exact h
    · obtain ⟨i, hhas, hr⟩ | ⟨hnone, ⟨i, hfree, hr⟩ | ⟨-, hr⟩⟩ :=
        timerAdd_cases now interval delay oneshot sender arg hrun f
      · obtain ⟨hactive, hcb⟩ := hasHandler_iff.mp hhas
        rw [hr]
        apply h.set
        · intro _
          rfl
        · intro _ hno
          cases hno
        · intro _ j hji hj heq
          exact hji (h.unique j i hj hactive (heq.trans hcb.symm))
      · rw [hr]
        apply h.set
        · intro _
          rfl
        · intro _ hno
          cases hno
        · intro _ j _ hj
          exact not_hasHandler_iff.mp (hnone j) hj
      · rw [hr]
        exact h

theorem TableInv.timerRemove (h : TableInv table) (handler : Option η) :
    TableInv (timerRemove table handler).1 := by
  rcases hrun : table.run with _ | _
  · rw [timerRemove_of_stopped hrun]
    exact h
  · rcases handler with _ | f
    · exact h
    · obtain ⟨i, -, hr⟩ | ⟨-, hr⟩ := timerRemove_cases hrun f
      · rw [hr]
        exact h.clear i
      · rw [hr]
        exact h

/-- Every call keeps the invariant. -/
theorem tableInv_step (h : TableInv table) (op : TimerOp η) : TableInv (timerStep table op) := by
  cases op with
  | init =>
      rw [timerStep, timerInit]
      by_cases hrun : table.run = false
      · rw [if_pos hrun]
        exact tableInv_empty
      · rw [if_neg hrun]
        exact h
  | release =>
      rw [timerStep, timerRelease]
      by_cases hrun : table.run = true
      · rw [if_pos hrun]
        exact tableInv_empty
      · rw [if_neg hrun]
        exact h
  | add now handler interval delay oneshot sender arg =>
      exact h.timerAdd now interval delay oneshot sender arg handler
  | remove handler => exact h.timerRemove handler
  | proc server clock => exact h.timerProcFrom server clock _

/-- Every sequence of calls keeps the invariant. -/
theorem tableInv_run (h : TableInv table) (ops : List (TimerOp η)) :
    TableInv (ops.foldl timerStep table) := by
  induction ops generalizing table with
  | nil => exact h
  | cons op ops ih => exact ih (tableInv_step h op)

/-- After any sequence of calls, from the zeroed statics on, the table keeps the invariant, and the
next call to add or to remove a handler changes what it says. -/
theorem table_sequence (ops : List (TimerOp η)) (now : BitVec 32) (handler : Option η)
    (interval delay oneshot sender : CInt) (arg : MessageArg) :
    let table : TimerTable η := ops.foldl timerStep {}
    TableInv table ∧
      AddSpec table handler (fun f i => timerEntry now f interval delay oneshot sender arg i)
        (timerAdd table now handler interval delay oneshot sender arg) ∧
      RemoveSpec table handler (timerRemove table handler) := by
  have h : TableInv (ops.foldl timerStep ({} : TimerTable η)) := tableInv_run tableInv_empty ops
  exact ⟨h, addSpec now interval delay oneshot sender arg h handler, removeSpec h handler⟩

/-- The null handler is refused by an empty table. -/
theorem timerAdd_null_fails :
    ¬ ∀ (ops : List (TimerOp ℕ)) (now : BitVec 32) (handler : Option ℕ)
      (interval delay oneshot sender : CInt) (arg : MessageArg),
      (timerAdd (ops.foldl timerStep {}) now handler interval delay oneshot sender arg).2 = false →
        ∀ i, ((ops.foldl timerStep ({} : TimerTable ℕ)).timers i).Active ∧
          ((ops.foldl timerStep ({} : TimerTable ℕ)).timers i).fpcallback ≠ handler := by
  intro h
  have hnull := h [.init] 0#32 none 0#32 0#32 0#32 0#32 {} rfl 0
  exact not_active_zero hnull.1

/-! ### The functions at `Handler` -/

/-- A timer of the program. -/
def ofTimer (t : Manager.TimerStruct) : TimerStruct Handler where
  tid := t.tid
  sender := t.sender
  tick := t.tick
  delay := t.delay
  interval := t.interval
  oneshot := t.oneshot
  fpcallback := t.fpcallback
  arg := t.arg

/-- The table of the program. -/
def ofTable (table : Manager.TimerTable) : TimerTable Handler where
  run := table.run
  timers := fun i => ofTimer (table.timers i)

theorem ofTable_set (table : Manager.TimerTable) (i : Fin timerNumber) (t : Manager.TimerStruct) :
    ofTable (table.set i t) = (ofTable table).set i (ofTimer t) := by
  have htimers : (fun j => ofTimer ((table.set i t).timers j)) =
      Function.update (fun j => ofTimer (table.timers j)) i (ofTimer t) := by
    funext j
    rw [Manager.TimerTable.set_timers, Function.update_apply]
    split_ifs <;> rfl
  rw [ofTable, htimers]
  rfl

/-- The slots the two searches look for. -/
theorem find_hasHandler (table : Manager.TimerTable) (handler : Handler) :
    ((List.finRange timerNumber).find? fun i =>
        ((ofTable table).timers i).hasHandler handler) =
      table.find (·.hasHandler handler) := rfl

theorem timerSlot_ofTable (table : Manager.TimerTable) (handler : Handler) :
    let found := searchLoop (ofTable table).timers handler (List.finRange timerNumber) none
    found.1.or found.2 = timerSlot table handler := by
  simp only [searchLoop_eq, find_hasHandler, timerSlot]
  rcases table.find (·.hasHandler handler) with _ | i
  · exact Option.none_or
  · rfl

theorem timerAdd_ofTable (table : Manager.TimerTable) (handler : Option Handler) :
    timerAdd (ofTable table) now handler interval delay oneshot sender arg =
      (ofTable (Manager.timerAdd table now handler interval delay oneshot sender arg).1,
        (Manager.timerAdd table now handler interval delay oneshot sender arg).2) := by
  rcases handler with _ | f
  · rfl
  · rcases hrun : table.run with _ | _
    · have hrun' : (ofTable table).run = false := hrun
      simp [timerAdd, Manager.timerAdd, hrun, hrun']
    · have hrun' : (ofTable table).run = true := hrun
      have hslot := timerSlot_ofTable table f
      simp only at hslot
      simp only [timerAdd, Manager.timerAdd, hrun, hrun', hslot, Bool.true_eq_false, if_false]
      rcases timerSlot table f with _ | i
      · rfl
      · simp only [ofTable_set]
        rfl

theorem timerRemove_ofTable (table : Manager.TimerTable) (handler : Option Handler) :
    timerRemove (ofTable table) handler =
      (ofTable (Manager.timerRemove table handler).1, (Manager.timerRemove table handler).2) := by
  rcases handler with _ | f
  · rfl
  · rcases hrun : table.run with _ | _
    · have hrun' : (ofTable table).run = false := hrun
      simp [timerRemove, Manager.timerRemove, hrun, hrun']
    · have hrun' : (ofTable table).run = true := hrun
      simp only [timerRemove, Manager.timerRemove, hrun, hrun', find_hasHandler,
        Bool.true_eq_false, if_false]
      rcases table.find (·.hasHandler f) with _ | i
      · rfl
      · simp only [ofTable_set]
        rfl

theorem timerProcSlot_ofTable (server : CInt) (now again : BitVec 32) (table : Manager.TimerTable)
    (i : Fin timerNumber) :
    timerProcSlot server now again (ofTable table) i =
      (ofTable (Manager.timerProcSlot server now again table i).1,
        (Manager.timerProcSlot server now again table i).2.map ofTimer) := by
  have hactive : ((ofTable table).timers i).Active ↔ (table.timers i).Active := Iff.rfl
  have hgone : ownerGone server ((ofTable table).timers i) =
      Manager.ownerGone server (table.timers i) := rfl
  have hdue : timerDue now ((ofTable table).timers i) = Manager.timerDue now (table.timers i) := rfl
  have hone : ((ofTable table).timers i).oneshot = (table.timers i).oneshot := rfl
  simp only [timerProcSlot, Manager.timerProcSlot, hactive, hgone, hdue, hone]
  split_ifs
  · simp only [ofTable_set]
    rfl
  · simp only [ofTable_set]
    rfl
  · simp only [ofTable_set]
    rfl
  · rfl
  · rfl

end GokeWebcam.Manager.AnyHandler
