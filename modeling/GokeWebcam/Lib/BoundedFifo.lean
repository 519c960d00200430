import Mathlib

/-!
# Bounded queues

A queue of at most `cap` entries is a list, oldest entry first. A push on a full queue either
displaces the oldest entry (`overwrite = true`) or is refused.

* `push`, `PushOutcome`: the push and what it reports.
* `Step`, `run`: pushes and pops in any order, and the entries they remove.
* `fate_run`: after any run an entry is still queued, was popped, or was displaced, the last only
  if at least `cap - m` pushes happened, `m` being the entries that were behind it.
-/

namespace GokeWebcam.Lib.BoundedFifo

variable {α : Type*} {cap : ℕ} {overwrite : Bool} {q : List α} {x y : α}

/-- What a push reports: room was left, the oldest entry made room, nothing was stored. -/
inductive PushOutcome
  | stored | displaced | refused
  deriving DecidableEq, Repr

/-- Append within the bound. -/
def push (cap : ℕ) (overwrite : Bool) (q : List α) (x : α) : List α × PushOutcome :=
  if q.length < cap then (q ++ [x], .stored)
  else if overwrite then (q.tail ++ [x], .displaced)
  else (q, .refused)

theorem push_of_lt (h : q.length < cap) : push cap overwrite q x = (q ++ [x], .stored) :=
  if_pos h

theorem push_of_full (h : ¬ q.length < cap) :
    push cap overwrite q x = if overwrite then (q.tail ++ [x], .displaced) else (q, .refused) :=
  if_neg h

/-! ### Runs -/

/-- A push or a pop. -/
inductive Step (α : Type*)
  | push (x : α)
  | pop
  deriving DecidableEq, Repr

/-- How an entry left the queue. -/
inductive Removal (α : Type*)
  | popped (x : α)
  | displaced (x : α)
  deriving DecidableEq, Repr

/-- One step, with the entry it removes. -/
def step (cap : ℕ) (overwrite : Bool) (q : List α) : Step α → List α × List (Removal α)
  | .push x =>
    ((push cap overwrite q x).1,
      if (push cap overwrite q x).2 = .displaced then q.head?.toList.map .displaced else [])
  | .pop => (q.tail, q.head?.toList.map .popped)

theorem step_push_of_lt (h : q.length < cap) : step cap overwrite q (.push y) = (q ++ [y], []) := by
  rw [step, push_of_lt h, if_neg (by simp)]

theorem step_push_of_full (h : ¬ q.length < cap) :
    step cap overwrite q (.push y) =
      if overwrite then (q.tail ++ [y], q.head?.toList.map .displaced) else (q, []) := by
  rw [step, push_of_full h]
  cases overwrite <;> simp

/-- A sequence of steps, with the entries they remove in order. -/
def run (cap : ℕ) (overwrite : Bool) : List α → List (Step α) → List α × List (Removal α)
  | q, [] => (q, [])
  | q, s :: ss =>
    ((run cap overwrite (step cap overwrite q s).1 ss).1,
      (step cap overwrite q s).2 ++ (run cap overwrite (step cap overwrite q s).1 ss).2)

theorem run_append (ss ss' : List (Step α)) :
    run cap overwrite q (ss ++ ss') =
      ((run cap overwrite (run cap overwrite q ss).1 ss').1,
        (run cap overwrite q ss).2 ++ (run cap overwrite (run cap overwrite q ss).1 ss').2) := by
  induction ss generalizing q with
  | nil => rfl
  | cons s ss ih => rw [List.cons_append, run, ih, run, List.append_assoc]

/-- The number of pushes in a sequence of steps. -/
def pushes : List (Step α) → ℕ
  | [] => 0
  | .push _ :: ss => pushes ss + 1
  | .pop :: ss => pushes ss

/-- What can have become of an entry `x` that had `before` entries before it: it is still queued,
or it is the `before`-th entry removed, by a pop or by a displacement; `canLose` is what is known
in the last case. -/
def Fate (x : α) (before : ℕ) (canLose : Prop) (r : List α × List (Removal α)) : Prop :=
  (r.2.length ≤ before ∧ r.1[before - r.2.length]? = some x) ∨
    r.2[before]? = some (.popped x) ∨ (r.2[before]? = some (.displaced x) ∧ canLose)

theorem Fate.mono {x : α} {i : ℕ} {P Q : Prop} {r : List α × List (Removal α)} (hPQ : P → Q)
    (h : Fate x i P r) : Fate x i Q r := by
  rcases h with h | h | ⟨h, hP⟩
  · exact .inl h
  · exact .inr (.inl h)
  · exact .inr (.inr ⟨h, hPQ hP⟩)

/-- One removal in front counts one entry more before `x`. -/
theorem Fate.cons {x : α} {i : ℕ} {P : Prop} {q : List α} {rs : List (Removal α)}
    (h : Fate x i P (q, rs)) (r : Removal α) : Fate x (i + 1) P (q, r :: rs) := by
  rcases h with ⟨hle, hx⟩ | h | ⟨h, hP⟩
  · refine .inl ⟨Nat.succ_le_succ hle, ?_⟩
    rw [← hx]
    simp
  · exact .inr (.inl h)
  · exact .inr (.inr ⟨h, hP⟩)

/-- An entry with `after` entries behind it is displaced only if `cap - after` pushes happen. -/
theorem fate_run (ss : List (Step α)) (before after : List α)
    (hlen : (before ++ x :: after).length ≤ cap) :
    Fate x before.length (cap ≤ after.length + pushes ss)
      (run cap overwrite (before ++ x :: after) ss) := by
  induction ss generalizing before after with
  | nil => exact .inl ⟨Nat.zero_le _, by simp [run]⟩
  | cons s ss ih =>
      rw [run]
      rcases s with y | _
      · have hpush : pushes (.push y :: ss) = pushes ss + 1 := rfl
        by_cases hlt : (before ++ x :: after).length < cap
        · -- stored: one entry more behind `x`
          have h := ih before (after ++ [y]) (by simp at hlt ⊢; omega)
          rw [step_push_of_lt hlt, List.append_assoc, List.cons_append, List.nil_append]
          exact h.mono (by simp; omega)
        · rw [step_push_of_full hlt]
          cases overwrite with
          | false =>
            -- refused: nothing changes
            exact (ih before after hlen).mono (by omega)
          | true =>
            rw [List.length_append, List.length_cons] at hlt hlen
            rcases before with _ | ⟨z, before⟩
            · -- `x` itself is the oldest
              rw [List.length_nil] at hlt
              exact .inr (.inr ⟨by simp, by omega⟩)
            · rw [List.length_cons] at hlt hlen
              have h := ih before (after ++ [y]) (by simp; omega)
              simp only [List.cons_append, List.tail_cons, List.append_assoc, List.head?_cons,
                Option.toList_some, List.map_cons, List.map_nil, List.nil_append, if_true]
              exact (h.mono (by simp; omega)).cons _
      · rcases before with _ | ⟨z, before⟩
        · exact .inr (.inl (by simp [step]))
        · have h := ih before after (by simp at hlen ⊢; omega)
          exact h.cons _

end GokeWebcam.Lib.BoundedFifo
