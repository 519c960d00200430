import Mathlib

/-!
# A thread that waits at a condition variable

`Waiter` is where such a thread is. A signal is lost unless the thread is blocked; a blocked thread
that gets one is `signalled` until it runs again.

* `Waiter.Idle P`: if the thread is blocked without a signal, then `P`: there is nothing to do for it.
* `Waiter.Idle.signalIf`: what a change of the guarded data has to see to.
-/

namespace GokeWebcam.Lib

/-- A thread is running, blocked, or blocked with a signal pending. -/
inductive Waiter
  | awake | blocked | signalled
  deriving DecidableEq, Repr

namespace Waiter

/-- A signal. -/
def signal : Waiter → Waiter
  | .blocked => .signalled
  | w => w

/-- A signal under a condition. -/
def signalIf (b : Bool) (w : Waiter) : Waiter := if b then w.signal else w

/-- The test before a wait. -/
def await (b : Bool) : Waiter := if b then .blocked else .awake

/-- A thread that is blocked without a signal has nothing to do. -/
def Idle (P : Prop) (w : Waiter) : Prop := w = .blocked → P

variable {P Q : Prop} {b : Bool} {w : Waiter}

@[simp] theorem signal_awake : signal .awake = .awake := rfl

@[simp] theorem signalIf_awake : signalIf b .awake = .awake := by
  cases b <;> rfl

theorem signal_ne_blocked : w.signal ≠ .blocked := by
  cases w <;> decide

theorem idle_awake : Idle P .awake := by
  intro h
  cases h

theorem idle_signal : Idle P w.signal := fun h => absurd h signal_ne_blocked

theorem Idle.imp (h : Idle P w) (hPQ : P → Q) : Idle Q w := fun hw => hPQ (h hw)

/-- Whoever makes something to do for the thread signals it. -/
theorem Idle.signalIf (h : Idle P w) (hPQ : b = false → P → Q) : Idle Q (w.signalIf b) := by
  rw [Waiter.signalIf]
  split_ifs with hb
  · exact idle_signal
  · exact h.imp (hPQ (by simpa using hb))

end Waiter

end GokeWebcam.Lib
