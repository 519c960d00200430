import GokeWebcam.Common.Misc

/-!
# The driver of the two motors

`module/hi_ptz/hi_ptz.c`: a kernel timer drives the coils of two stepper motors, a pattern of four
lines in each tick; an `ioctl` sets a motor's direction and steps, or stops both motors. A tick and an
`ioctl` hold the spin lock. The static counters of the timer function are kept with the motors.

* `ptzStep`: a tick or a call, on both motors.
* `motor_running`: a tick treats each motor by itself.
* `Motor.left`: the patterns a motor has still to be driven; a tick takes one of them, or switches
  the coils off.
* `StepOk`: neighbouring patterns in consecutive ticks, and four patterns for each step that is asked
  for. `StepCond`: what this needs of the phase counter.
* `stepOk_iff`: in every run the first holds throughout iff the second does.
* `turn_and_stop_fail`: a turn in the middle of a step, and a stop in the middle of one.
-/

namespace GokeWebcam.Module

open Common

set_option maxRecDepth 2048

/-! ### The driver -/

/-- Source: `module/hi_ptz/hi_ptz.h` `stMotorCtrl` -/
structure StMotorCtrl where
  iEnable : CInt := 0#32
  iDir : CInt := 0#32
  iSteps : CInt := 0#32
  deriving DecidableEq, Repr

/-- The two motors of `stPtzRun` and `stPtzCtrlInfo`. -/
inductive Axis
  | x | y
  deriving DecidableEq, Repr

/-- Source: `module/hi_ptz/hi_ptz.c` `iForewardTiming` -/
def iForewardTiming : Fin 4 → BitVec 4 := ![3#4, 6#4, 12#4, 9#4]

/-- Source: `module/hi_ptz/hi_ptz.c` `iBackwardTiming` -/
def iBackwardTiming : Fin 4 → BitVec 4 := ![9#4, 12#4, 6#4, 3#4]

/-- Source: `module/hi_ptz/hi_ptz.h` `MOTOR_FOREWARD` -/
def motorForeward : CInt := 1#32

/-- Source: `module/hi_ptz/hi_ptz.c` `hi_ptz_running`, `piTimingX` and `piTimingY` -/
def piTiming (iDir : CInt) : Fin 4 → BitVec 4 :=
  if iDir = motorForeward then iForewardTiming else iBackwardTiming

/-- A motor: `xMotor`, `xx` and `x_idle`, and what its four lines are set to, or the same of `y`. -/
structure Motor where
  ctrl : StMotorCtrl := {}
  phase : Fin 4 := 0
  idle : Bool := false
  coils : BitVec 4 := 0#4
  deriving DecidableEq, Repr

namespace Motor

/-- Source: `module/hi_ptz/hi_ptz.c` `hi_ptz_running`, the test of `iSteps` -/
def check (m : Motor) : Motor :=
  if BitVec.sle m.ctrl.iSteps 0#32 then { m with ctrl := { m.ctrl with iEnable := 0#32 } } else m

/-- The next pattern; after the fourth the step is counted.
Source: `module/hi_ptz/hi_ptz.c` `hi_ptz_running`, a motor that is enabled -/
def advance (m : Motor) : Motor where
  coils := piTiming m.ctrl.iDir m.phase
  idle := false
  phase := if m.phase = 3 then 0 else m.phase + 1
  ctrl :=
    if m.phase = 3 ∧ m.ctrl.iSteps ≠ 0#32 then { m.ctrl with iSteps := m.ctrl.iSteps - 1#32 }
    else m.ctrl

/-- The lines are cleared unless they were in the tick before.
Source: `module/hi_ptz/hi_ptz.c` `hi_ptz_running`, a motor that is not enabled -/
def rest (m : Motor) : Motor :=
  { m with phase := 0, coils := if m.idle then m.coils else 0#4, idle := true }

/-- Source: `module/hi_ptz/hi_ptz.c` `hi_ptz_running`, the branch on `iEnable` -/
def drive (m : Motor) : Motor := if m.ctrl.iEnable ≠ 0#32 then m.advance else m.rest

/-- `iEnable = 0` and the lines of a motor at rest.
Source: `module/hi_ptz/hi_ptz.c` `hi_ptz_running`, the branch of `iRuning = 0` -/
def halt (m : Motor) : Motor := ({ m with ctrl := { m.ctrl with iEnable := 0#32 } } : Motor).rest

/-- A request for this motor, if it is one.
Source: `module/hi_ptz/hi_ptz.c` `hi_ptz_ctrl_ioctl`, `HI_PTZ_IOC_RUN` -/
def load (info : StMotorCtrl) (m : Motor) : Motor :=
  if info.iEnable ≠ 0#32 then { m with ctrl := info } else m

end Motor

/-- Source: `module/hi_ptz/hi_ptz.c` `stPtzRun` -/
structure StPtzRun where
  iRuning : Bool := false
  iTimerUse : Bool := false
  motor : Axis → Motor := fun _ => {}

/-- A tick of the timer.
Source: `module/hi_ptz/hi_ptz.c` `hi_ptz_running` -/
def hiPtzRunning (s : StPtzRun) : StPtzRun :=
  let motor := fun a => (s.motor a).check
  let iRuning :=
    if (motor .x).ctrl.iEnable = 0#32 ∧ (motor .y).ctrl.iEnable = 0#32 then false else s.iRuning
  if iRuning then { s with iRuning := iRuning, motor := fun a => (motor a).drive }
  else { iRuning := iRuning, iTimerUse := false, motor := fun a => (motor a).halt }

/-- A call of the driver, `HI_PTZ_IOC_RUN` with what is copied from the caller, `none` if that fails,
or `HI_PTZ_IOC_STOP`; or a tick. -/
inductive PtzEvent
  | run (info : Option (Axis → StMotorCtrl))
  | stop
  | tick

/-- Source: `module/hi_ptz/hi_ptz.c` `hi_ptz_ctrl_ioctl`, the end -/
def armTimer (s : StPtzRun) : StPtzRun := { s with iTimerUse := true }

/-- Source: `module/hi_ptz/hi_ptz.c` `hi_ptz_ctrl_ioctl` -/
def hiPtzCtrlIoctl (s : StPtzRun) : PtzEvent → StPtzRun
  | .run none => armTimer s
  | .run (some info) =>
    armTimer { s with
      iRuning := s.iRuning || (info .x).iEnable != 0#32 || (info .y).iEnable != 0#32
      motor := fun a => (s.motor a).load (info a) }
  | .stop => armTimer { s with iRuning := false, motor := fun a => { s.motor a with ctrl := {} } }
  | .tick => s

def ptzStep (s : StPtzRun) : PtzEvent → StPtzRun
  | .tick => hiPtzRunning s
  | event => hiPtzCtrlIoctl s event

/-- The state after some events. -/
def ptzRun (s : StPtzRun) (events : List PtzEvent) : StPtzRun := events.foldl ptzStep s

/-! ### What is asked of it -/

/-- Equal or next to each other in the cycle 3, 6, 12, 9. -/
def Neighbours (p q : BitVec 4) : Prop :=
  ∃ i, p = iForewardTiming i ∧
    (q = iForewardTiming i ∨ q = iForewardTiming (i + 1) ∨ q = iForewardTiming (i - 1))

instance {p q : BitVec 4} : Decidable (Neighbours p q) := inferInstanceAs (Decidable (∃ _, _))

/-- The motor is enabled and has steps to go. -/
def Motor.Running (m : Motor) : Prop := m.ctrl.iEnable ≠ 0#32 ∧ BitVec.slt 0#32 m.ctrl.iSteps = true

instance {m : Motor} : Decidable m.Running := inferInstanceAs (Decidable (_ ∧ _))

/-- A call that sets the motor. -/
def overrides (a : Axis) : PtzEvent → Bool
  | .run (some info) => (info a).iEnable != 0#32
  | .stop => true
  | _ => false

def isTick : PtzEvent → Bool
  | .tick => true
  | _ => false

/-- The patterns the motor is driven in some events. -/
def patterns (a : Axis) : StPtzRun → List PtzEvent → ℕ
  | _, [] => 0
  | s, event :: events =>
    (if isTick event ∧ ((ptzStep s event).motor a).coils ≠ 0#4 then 1 else 0) +
      patterns a (ptzStep s event) events

/-- From `s` on the motor is driven `k` patterns and then switched off, unless a call sets it anew;
the timer stays in use until it is off. -/
structure Drives (s : StPtzRun) (a : Axis) (k : ℕ) : Prop where
  counted : ∀ events : List PtzEvent, (∀ event ∈ events, overrides a event = false) →
    patterns a s events = min (events.countP isTick) k
  off : ∀ events : List PtzEvent, (∀ event ∈ events, overrides a event = false) →
    k < events.countP isTick → ((ptzRun s events).motor a).coils = 0#4
  timer : ∀ events : List PtzEvent, (∀ event ∈ events, overrides a event = false) →
    events.countP isTick ≤ k → (ptzRun s events).iTimerUse = true

/-- In a tick the pattern of a motor is a neighbour of the one before, if neither is off. A request
for a motor that is not running drives it four patterns a step. To a motor that is not asked for
nothing happens that would not happen without the request. -/
def StepOk (s : StPtzRun) : PtzEvent → Prop
  | .tick => ∀ a, (s.motor a).coils ≠ 0#4 → ((hiPtzRunning s).motor a).coils ≠ 0#4 →
      Neighbours (s.motor a).coils ((hiPtzRunning s).motor a).coils
  | .run (some info) =>
    (∀ a, (info a).iEnable ≠ 0#32 → BitVec.slt 0#32 (info a).iSteps = true →
      ¬ (s.motor a).Running →
        Drives (hiPtzCtrlIoctl s (.run (some info))) a (4 * (info a).iSteps.toNat)) ∧
      ∀ a, (info a).iEnable = 0#32 → ∀ events,
        (ptzRun (hiPtzCtrlIoctl s (.run (some info))) events).motor a = (ptzRun s events).motor a
  | _ => True

/-- In a tick the coils of a running motor are off, or its phase counter is even, or the pattern is
the one before in the table of its direction. A request for a motor that is not running finds the
phase counter at zero. -/
def StepCond (s : StPtzRun) : PtzEvent → Prop
  | .tick => ∀ a, (s.motor a).Running → (s.motor a).coils = 0#4 ∨ (s.motor a).phase = 0 ∨
      (s.motor a).phase = 2 ∨
      (s.motor a).coils = piTiming (s.motor a).ctrl.iDir ((s.motor a).phase - 1)
  | .run (some info) => ∀ a, (info a).iEnable ≠ 0#32 → BitVec.slt 0#32 (info a).iSteps = true →
      ¬ (s.motor a).Running → (s.motor a).phase = 0
  | _ => True

/-- `P` holds of every event and the state before it. -/
def Throughout (P : StPtzRun → PtzEvent → Prop) : StPtzRun → List PtzEvent → Prop
  | _, [] => True
  | s, event :: events => P s event ∧ Throughout P (ptzStep s event) events

/-! ### The steps to go -/

variable {n : CInt} {m : Motor} {s : StPtzRun} {a : Axis} {events : List PtzEvent} {k : ℕ}

theorem slt_zero_iff : BitVec.slt 0#32 n = true ↔ 0 < n.toNat ∧ n.toNat < 2 ^ 31 := by
  rw [BitVec.slt_iff_toInt_lt, BitVec.toInt_zero, BitVec.toInt_eq_toNat_cond]
  have hn := n.isLt
  split_ifs with h <;> omega

theorem sle_zero_iff : BitVec.sle n 0#32 = true ↔ ¬ BitVec.slt 0#32 n = true := by
  simp [BitVec.sle_eq_not_slt]

theorem piTiming_ne_zero (iDir : CInt) (i : Fin 4) : piTiming iDir i ≠ 0#4 := by
  have hall : ∀ i, iForewardTiming i ≠ 0#4 ∧ iBackwardTiming i ≠ 0#4 := by decide
  rw [piTiming]
  split_ifs
  · exact (hall i).1
  · exact (hall i).2

namespace Motor

/-- A tick, as far as one motor goes. -/
def tick (m : Motor) : Motor := m.check.drive

/-- The patterns that are still to be driven. -/
def left (m : Motor) : ℕ := if m.Running then 4 * m.ctrl.iSteps.toNat - m.phase else 0

theorem left_of_running (h : m.Running) : m.left = 4 * m.ctrl.iSteps.toNat - m.phase := if_pos h

theorem left_of_not_running (h : ¬ m.Running) : m.left = 0 := if_neg h

theorem left_pos_iff : 0 < m.left ↔ m.Running := by
  by_cases h : m.Running
  · rw [left_of_running h]
    have hsteps := slt_zero_iff.mp h.2
    have hphase := m.phase.isLt
    exact iff_of_true (by omega) h
  · rw [left_of_not_running h]
    exact iff_of_false (lt_irrefl 0) h

theorem tick_of_running (h : m.Running) : m.tick = m.advance := by
  have hcheck : m.check = m := if_neg fun hle => sle_zero_iff.mp hle h.2
  rw [tick, hcheck, drive, if_pos h.1]

/-- A motor without steps is disabled. -/
theorem check_of_not_running (h : ¬ m.Running) :
    m.check = { m with ctrl := { m.ctrl with iEnable := 0#32 } } := by
  by_cases hle : BitVec.sle m.ctrl.iSteps 0#32 = true
  · exact if_pos hle
  · have hzero : m.ctrl.iEnable = 0#32 := by
      by_contra hne
      exact h ⟨hne, not_not.mp (mt sle_zero_iff.mpr hle)⟩
    rw [check, if_neg hle, ← hzero]

theorem tick_of_not_running (h : ¬ m.Running) : m.tick = m.halt := by
  rw [tick, check_of_not_running h, drive, if_neg (by simp), halt]

theorem advance_enable : m.advance.ctrl.iEnable = m.ctrl.iEnable := by
  rw [advance]
  split_ifs <;> rfl

/-- The fourth pattern ends a step. -/
theorem advance_last (hlast : m.phase = 3) (hpos : 0 < m.ctrl.iSteps.toNat) :
    m.advance.phase = 0 ∧ m.advance.ctrl.iSteps.toNat = m.ctrl.iSteps.toNat - 1 := by
  have hne : m.ctrl.iSteps ≠ 0#32 := by
    intro hzero
    rw [hzero] at hpos
    exact absurd hpos (by decide)
  simp only [advance, hlast, hne, if_true, ne_eq, not_false_eq_true, and_self, true_and]
  bv_omega

/-- The other three do not. -/
theorem advance_mid (hlast : m.phase ≠ 3) :
    (m.advance.phase : ℕ) = m.phase + 1 ∧ m.advance.ctrl.iSteps = m.ctrl.iSteps := by
  have hthree : (m.phase : ℕ) ≠ 3 := fun heq => hlast (Fin.ext heq)
  have hphase := m.phase.isLt
  simp only [advance, hlast, if_false, false_and, and_true]
  exact Fin.val_add_one_of_lt (Fin.lt_def.mpr (by simp; omega))

/-- A tick of a running motor takes one of its patterns. -/
theorem left_tick : m.tick.left = m.left - 1 := by
  by_cases h : m.Running
  · rw [tick_of_running h, left_of_running h]
    obtain ⟨hpos, hlt⟩ := slt_zero_iff.mp h.2
    have henable : m.advance.ctrl.iEnable ≠ 0#32 := by
      rw [advance_enable]
      exact h.1
    by_cases hlast : m.phase = 3
    · -- the step is counted, and the next one begins
      obtain ⟨hphase, hsteps⟩ := advance_last hlast hpos
      have hthree : (m.phase : ℕ) = 3 := congrArg Fin.val hlast
      by_cases hone : m.ctrl.iSteps.toNat = 1
      · rw [left_of_not_running, hone, hthree]
        rintro ⟨-, hrest⟩
        have hrest := (slt_zero_iff.mp hrest).1
        omega
      · rw [left_of_running ⟨henable, slt_zero_iff.mpr ⟨by omega, by omega⟩⟩, hphase, hsteps,
          hthree, Fin.val_zero]
        omega
    · obtain ⟨hphase, hsteps⟩ := advance_mid hlast
      rw [left_of_running ⟨henable, hsteps ▸ h.2⟩, hphase, hsteps]
      omega
  · rw [tick_of_not_running h, left_of_not_running h, left_of_not_running]
    intro hrunning
    exact hrunning.1 rfl

/-- The enabled motor stays enabled while patterns are left. -/
theorem enable_tick (h : m.Running) : m.tick.ctrl.iEnable ≠ 0#32 := by
  rw [tick_of_running h, advance_enable]
  exact h.1

end Motor

/-! ### The coils -/

/-- The coils are off while the motor is idle, and are off or at the last pattern of some direction. -/
structure MotorInv (m : Motor) : Prop where
  idle : m.idle = true → m.coils = 0#4
  last : m.coils = 0#4 ∨ ∃ iDir, m.coils = piTiming iDir (m.phase - 1)

namespace MotorInv

/-- Requests do not touch the coils. -/
theorem setCtrl (h : MotorInv m) (ctrl : StMotorCtrl) : MotorInv { m with ctrl := ctrl } :=
  ⟨h.idle, h.last⟩

theorem load (h : MotorInv m) (info : StMotorCtrl) : MotorInv (m.load info) := by
  rw [Motor.load]
  split_ifs
  · exact h.setCtrl info
  · exact h

theorem coils_halt (h : MotorInv m) : m.halt.coils = 0#4 := by
  rw [Motor.halt, Motor.rest]
  split_ifs with hidle
  · exact h.idle hidle
  · rfl

theorem coils_tick_iff (h : MotorInv m) : m.tick.coils ≠ 0#4 ↔ m.Running := by
  by_cases hrunning : m.Running
  · rw [Motor.tick_of_running hrunning]
    exact iff_of_true (piTiming_ne_zero _ _) hrunning
  · rw [Motor.tick_of_not_running hrunning]
    exact iff_of_false (not_not.mpr h.coils_halt) hrunning

theorem tick (h : MotorInv m) : MotorInv m.tick := by
  by_cases hrunning : m.Running
  · rw [Motor.tick_of_running hrunning]
    refine ⟨fun hidle => ?_, .inr ⟨m.ctrl.iDir, ?_⟩⟩
    · cases hidle
    · have hback : ∀ i : Fin 4, (if i = 3 then 0 else i + 1) - 1 = i := by decide
      simp only [Motor.advance, hback]
  · rw [Motor.tick_of_not_running hrunning]
    exact ⟨fun _ => h.coils_halt, .inl h.coils_halt⟩

theorem iterate_tick (h : MotorInv m) (j : ℕ) : MotorInv (Motor.tick^[j] m) := by
  induction j generalizing m with
  | zero => exact h
  | succ j ih => exact ih h.tick

end MotorInv

theorem Motor.left_iterate (j : ℕ) : (Motor.tick^[j] m).left = m.left - j := by
  induction j generalizing m with
  | zero => rfl
  | succ j ih =>
      rw [Function.iterate_succ_apply, ih, left_tick]
      omega

/-- Once no pattern is left a tick finds the motor off or switches it off. -/
theorem MotorInv.coils_iterate (h : MotorInv m) {j : ℕ} (hj : m.left < j) :
    (Motor.tick^[j] m).coils = 0#4 := by
  obtain ⟨j, rfl⟩ : ∃ i, j = i + 1 := ⟨j - 1, by omega⟩
  rw [Function.iterate_succ_apply']
  by_contra hne
  have hrunning := (h.iterate_tick j).coils_tick_iff.mp hne
  rw [← Motor.left_pos_iff, Motor.left_iterate] at hrunning
  omega

theorem Motor.enable_iterate (h : m.ctrl.iEnable ≠ 0#32) {j : ℕ} (hj : j ≤ m.left) :
    (Motor.tick^[j] m).ctrl.iEnable ≠ 0#32 := by
  rcases j with _ | j
  · exact h
  · rw [Function.iterate_succ_apply']
    apply enable_tick
    rw [← left_pos_iff, left_iterate]
    omega

/-- The pattern after the last one of any direction is its neighbour at an even place, and at an odd
place if the direction is the same. -/
theorem neighbours_iff (iDir iDir' : CInt) (i : Fin 4) :
    Neighbours (piTiming iDir' (i - 1)) (piTiming iDir i) ↔
      i = 0 ∨ i = 2 ∨ piTiming iDir' (i - 1) = piTiming iDir (i - 1) := by
  have hff : ∀ i, Neighbours (iForewardTiming (i - 1)) (iForewardTiming i) ↔
      i = 0 ∨ i = 2 ∨ iForewardTiming (i - 1) = iForewardTiming (i - 1) := by decide
  have hfb : ∀ i, Neighbours (iForewardTiming (i - 1)) (iBackwardTiming i) ↔
      i = 0 ∨ i = 2 ∨ iForewardTiming (i - 1) = iBackwardTiming (i - 1) := by decide
  have hbf : ∀ i, Neighbours (iBackwardTiming (i - 1)) (iForewardTiming i) ↔
      i = 0 ∨ i = 2 ∨ iBackwardTiming (i - 1) = iForewardTiming (i - 1) := by decide
  have hbb : ∀ i, Neighbours (iBackwardTiming (i - 1)) (iBackwardTiming i) ↔
      i = 0 ∨ i = 2 ∨ iBackwardTiming (i - 1) = iBackwardTiming (i - 1) := by decide
  rw [piTiming, piTiming]
  split_ifs
  · exact hff i
  · exact hfb i
  · exact hbf i
  · exact hbb i

/-! ### Both motors -/

/-- An enabled motor has the timer running. -/
structure PtzInv (s : StPtzRun) : Prop where
  motor : ∀ a, MotorInv (s.motor a)
  enabled : ∀ a, (s.motor a).ctrl.iEnable ≠ 0#32 → s.iRuning = true ∧ s.iTimerUse = true

theorem ptzInv_init : PtzInv {} :=
  ⟨fun _ => ⟨fun _ => rfl, .inl rfl⟩, fun _ hne => absurd rfl hne⟩

theorem Motor.enable_of_check (h : m.check.ctrl.iEnable ≠ 0#32) : m.ctrl.iEnable ≠ 0#32 := by
  rw [check] at h
  split_ifs at h
  · exact absurd rfl h
  · exact h

theorem Motor.halt_of_disabled (h : m.ctrl.iEnable = 0#32) : m.halt = m.drive := by
  rw [halt, drive, if_neg (not_not.mpr h), ← h]

/-- A tick treats each motor by itself. -/
theorem motor_running (h : PtzInv s) (a : Axis) :
    (hiPtzRunning s).motor a = (s.motor a).tick := by
  rw [hiPtzRunning]
  by_cases hboth : (s.motor .x).check.ctrl.iEnable = 0#32 ∧ (s.motor .y).check.ctrl.iEnable = 0#32
  · have ha : (s.motor a).check.ctrl.iEnable = 0#32 := by
      rcases a with _ | _
      · exact hboth.1
      · exact hboth.2
    simp only [hboth, and_self, if_true, Bool.false_eq_true, if_false]
    exact Motor.halt_of_disabled ha
  · simp only [hboth, if_false]
    rcases hrun : s.iRuning with _ | _
    · -- then no motor is enabled, whatever its steps
      have hzero : ∀ b, (s.motor b).check.ctrl.iEnable = 0#32 := by
        intro b
        by_contra hne
        have hon := (h.enabled b (Motor.enable_of_check hne)).1
        rw [hrun] at hon
        cases hon
      exact absurd ⟨hzero .x, hzero .y⟩ hboth
    · simp only [if_true]
      rfl

theorem Motor.enable_of_tick (h : m.tick.ctrl.iEnable ≠ 0#32) : m.Running := by
  by_contra hnot
  rw [tick_of_not_running hnot] at h
  exact h rfl

theorem ptzInv_tick (h : PtzInv s) : PtzInv (hiPtzRunning s) := by
  refine ⟨fun a => ?_, fun a hne => ?_⟩
  · rw [motor_running h]
    exact (h.motor a).tick
  · rw [motor_running h] at hne
    have hrunning := Motor.enable_of_tick hne
    obtain ⟨hon, htimer⟩ := h.enabled a hrunning.1
    have hcheck : (s.motor a).check.ctrl.iEnable ≠ 0#32 := by
      rw [Motor.check, if_neg fun hle => sle_zero_iff.mp hle hrunning.2]
      exact hrunning.1
    have hboth : ¬ ((s.motor .x).check.ctrl.iEnable = 0#32 ∧
        (s.motor .y).check.ctrl.iEnable = 0#32) := by
      rintro ⟨hx, hy⟩
      rcases a with _ | _
      · exact hcheck hx
      · exact hcheck hy
    rw [hiPtzRunning]
    simp only [hboth, if_false, hon, if_true]
    exact ⟨trivial, htimer⟩

theorem ptzInv_step (h : PtzInv s) (event : PtzEvent) : PtzInv (ptzStep s event) := by
  rcases event with (_ | info) | _ | _
  · exact ⟨h.motor, fun a hne => ⟨(h.enabled a hne).1, rfl⟩⟩
  · refine ⟨fun a => (h.motor a).load (info a), fun a hne => ⟨?_, rfl⟩⟩
    rcases hload : (info a).iEnable != 0#32 with _ | _
    · -- the motor keeps its own request
      have hzero : (info a).iEnable = 0#32 := by simpa using hload
      have hkeep : (s.motor a).load (info a) = s.motor a := if_neg (not_not.mpr hzero)
      have hold : (s.motor a).ctrl.iEnable ≠ 0#32 := hkeep ▸ hne
      simp [ptzStep, hiPtzCtrlIoctl, armTimer, (h.enabled a hold).1]
    · rcases a with _ | _ <;> simp [ptzStep, hiPtzCtrlIoctl, armTimer, hload]
  · exact ⟨fun a => (h.motor a).setCtrl {}, fun a hne => absurd rfl hne⟩
  · exact ptzInv_tick h

/-! ### A motor that is not set anew -/

theorem motor_of_not_overrides (h : PtzInv s) {event : PtzEvent} (hno : overrides a event = false) :
    (ptzStep s event).motor a =
      if isTick event then (s.motor a).tick else s.motor a := by
  rcases event with (_ | info) | _ | _
  · rfl
  · have hzero : (info a).iEnable = 0#32 := by simpa [overrides] using hno
    exact if_neg (not_not.mpr hzero)
  · cases hno
  · exact motor_running h a

theorem ptzInv_run (h : PtzInv s) (events : List PtzEvent) : PtzInv (ptzRun s events) := by
  induction events generalizing s with
  | nil => exact h
  | cons event events ih => exact ih (ptzInv_step h event)

theorem motor_run (h : PtzInv s) (hno : ∀ event ∈ events, overrides a event = false) :
    (ptzRun s events).motor a = Motor.tick^[events.countP isTick] (s.motor a) := by
  induction events generalizing s with
  | nil => rfl
  | cons event events ih =>
      rw [List.forall_mem_cons] at hno
      have hrest : (ptzRun s (event :: events)).motor a =
          Motor.tick^[events.countP isTick] ((ptzStep s event).motor a) :=
        ih (ptzInv_step h event) hno.2
      rw [hrest, motor_of_not_overrides h hno.1, List.countP_cons]
      rcases isTick event with _ | _ <;> rfl

/-- What happens to a motor depends on this motor alone. -/
theorem motor_run_congr {s' : StPtzRun} (h : PtzInv s) (h' : PtzInv s')
    (heq : s.motor a = s'.motor a) (events : List PtzEvent) :
    (ptzRun s events).motor a = (ptzRun s' events).motor a := by
  induction events generalizing s s' with
  | nil => exact heq
  | cons event events ih =>
      apply ih (ptzInv_step h event) (ptzInv_step h' event)
      rcases event with (_ | info) | _ | _
      · exact heq
      · exact congrArg (Motor.load (info a)) heq
      · exact congrArg (fun m : Motor => { m with ctrl := {} }) heq
      · exact (motor_running h a).trans (heq ▸ (motor_running h' a).symm)

/-- Each tick drives a pattern until none is left. -/
theorem patterns_eq (h : PtzInv s) (hno : ∀ event ∈ events, overrides a event = false) :
    patterns a s events = min (events.countP isTick) (s.motor a).left := by
  induction events generalizing s with
  | nil => simp [patterns]
  | cons event events ih =>
      rw [List.forall_mem_cons] at hno
      rw [patterns, ih (ptzInv_step h event) hno.2, motor_of_not_overrides h hno.1,
        List.countP_cons]
      rcases htick : isTick event with _ | _
      · simp
      · simp only [if_true, true_and, (h.motor a).coils_tick_iff, Motor.left_tick]
        have hpos := @Motor.left_pos_iff (s.motor a)
        by_cases hrunning : (s.motor a).Running
        · rw [if_pos hrunning]
          have := hpos.mpr hrunning
          omega
        · rw [if_neg hrunning, Motor.left_of_not_running hrunning]
          omega

/-- An enabled motor is driven the patterns that are left. -/
theorem drives_left (h : PtzInv s) (henable : (s.motor a).ctrl.iEnable ≠ 0#32) :
    Drives s a (s.motor a).left := by
  refine ⟨fun events hno => patterns_eq h hno, fun events hno hlt => ?_, fun events hno hle => ?_⟩
  · rw [motor_run h hno]
    exact (h.motor a).coils_iterate hlt
  · apply ((ptzInv_run h events).enabled a _).2
    rw [motor_run h hno]
    exact Motor.enable_iterate henable hle

/-- It is driven no other number of them. -/
theorem drives_iff (h : PtzInv s) (henable : (s.motor a).ctrl.iEnable ≠ 0#32)
    (hle : (s.motor a).left ≤ k) : Drives s a k ↔ (s.motor a).left = k := by
  constructor
  · intro hdrives
    have hno : ∀ event ∈ List.replicate k PtzEvent.tick, overrides a event = false := by
      intro event hevent
      rw [List.eq_of_mem_replicate hevent]
      rfl
    have hcount := hdrives.counted _ hno
    have htick : isTick .tick = true := rfl
    rw [patterns_eq h hno, List.countP_replicate, if_pos htick, min_self, min_eq_right hle]
      at hcount
    exact hcount
  · rintro rfl
    exact drives_left h henable

/-! ### Whole runs -/

/-- A tick is as asked iff its condition holds. -/
theorem stepOk_tick_iff (h : PtzInv s) : StepOk s .tick ↔ StepCond s .tick := by
  refine forall_congr' fun a => ?_
  have hinv := h.motor a
  rw [motor_running h, hinv.coils_tick_iff]
  rcases hinv.last with hoff | ⟨iDir, hlast⟩
  · exact iff_of_true (fun hne => absurd hoff hne) fun _ => .inl hoff
  · have hne : (s.motor a).coils ≠ 0#4 := hlast ▸ piTiming_ne_zero _ _
    have hcoils : (s.motor a).Running →
        (s.motor a).tick.coils = piTiming (s.motor a).ctrl.iDir (s.motor a).phase := by
      intro hrunning
      rw [Motor.tick_of_running hrunning]
      rfl
    constructor
    · intro hok hrunning
      have hnb := hok hne hrunning
      rw [hcoils hrunning, hlast, neighbours_iff] at hnb
      rw [hlast]
      exact .inr hnb
    · intro hcond _ hrunning
      rw [hcoils hrunning, hlast, neighbours_iff]
      rcases hcond hrunning with hoff | hphase
      · exact absurd hoff hne
      · rw [hlast] at hphase
        exact hphase

/-- A request is as asked iff its condition holds. -/
theorem stepOk_run_iff (h : PtzInv s) (info : Axis → StMotorCtrl) :
    StepOk s (.run (some info)) ↔ StepCond s (.run (some info)) := by
  have hinv : PtzInv (hiPtzCtrlIoctl s (.run (some info))) := ptzInv_step h (.run (some info))
  have hother : ∀ a, (info a).iEnable = 0#32 → ∀ events,
      (ptzRun (hiPtzCtrlIoctl s (.run (some info))) events).motor a = (ptzRun s events).motor a :=
    fun a hzero events => motor_run_congr hinv h (if_neg (not_not.mpr hzero)) events
  rw [StepOk, and_iff_left hother]
  refine forall_congr' fun a => ?_
  refine imp_congr_right fun henable => ?_
  refine imp_congr_right fun hsteps => ?_
  refine imp_congr_right fun _ => ?_
  have hload : (hiPtzCtrlIoctl s (.run (some info))).motor a =
      { s.motor a with ctrl := info a } := if_pos henable
  have hleft : ((hiPtzCtrlIoctl s (.run (some info))).motor a).left =
      4 * (info a).iSteps.toNat - (s.motor a).phase := by
    rw [hload]
    exact Motor.left_of_running ⟨henable, hsteps⟩
  have hpos := (slt_zero_iff.mp hsteps).1
  have hphase := (s.motor a).phase.isLt
  rw [drives_iff hinv (by rw [hload]; exact henable) (by rw [hleft]; omega), hleft]
  constructor
  · intro heq
    apply Fin.ext
    simp only [Fin.val_zero]
    omega
  · intro hzero
    rw [hzero, Fin.val_zero]
    omega

theorem stepOk_step_iff (h : PtzInv s) (event : PtzEvent) : StepOk s event ↔ StepCond s event := by
  rcases event with (_ | info) | _ | _
  · exact Iff.rfl
  · exact stepOk_run_iff h info
  · exact Iff.rfl
  · exact stepOk_tick_iff h

theorem throughout_iff (h : PtzInv s) (events : List PtzEvent) :
    Throughout StepOk s events ↔ Throughout StepCond s events := by
  induction events generalizing s with
  | nil => exact Iff.rfl
  | cons event events ih => exact and_congr (stepOk_step_iff h event) (ih (ptzInv_step h event))

/-- In every run of the driver all ticks and requests are as asked iff every one of them meets its
condition. -/
theorem stepOk_iff (events : List PtzEvent) :
    Throughout StepOk {} events ↔ Throughout StepCond {} events := throughout_iff ptzInv_init events

/-- A request for the motor `x`. -/
def runX (iDir : CInt) : PtzEvent :=
  .run (some fun a => match a with
    | .x => ⟨1#32, iDir, 5#32⟩
    | .y => {})

/-- A turn after the first pattern of a step puts the opposite pattern on the coils; a request after a
stop in the middle of a step is driven a pattern less. -/
theorem turn_and_stop_fail :
    ¬ Throughout StepOk {} [runX 1#32, .tick, runX 2#32, .tick] ∧
      ¬ Throughout StepOk {} [runX 1#32, .tick, .stop, runX 1#32] := by
  refine ⟨fun h => ?_, fun h => ?_⟩
  · have htick := h.2.2.2.1 .x (by decide) (by decide)
    exact absurd htick (by decide)
  · have hrun := h.2.2.2.1.1 .x (by decide) (by decide) (by decide)
    have hcount := hrun.counted (List.replicate 20 .tick) (by decide)
    exact absurd hcount (by decide)

end GokeWebcam.Module
