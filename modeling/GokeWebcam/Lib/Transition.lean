import Mathlib

/-!
# Guarded runs of a partial step function

A system is a step function `step : σ → α → Option σ` (`none`: the action is not enabled) and a
start state. A *guard* `ok : σ → α → Prop` is a condition on the state before a step and on the
action; `Reach step ok s₀` is the set of states reached by runs all of whose steps satisfy the
guard, and `AllRuns` is the trivial guard.

* `Reach.inv`: an invariant that each guarded step keeps holds in every reached state.
* `AllSteps`: a property of steps holds of every step of a run given as a list of actions;
  `allSteps_iff`: two such properties agree on all runs when they agree, step by step, under an
  invariant.
* `exec`: run a list of actions under a decidable guard. `Reach.of_exec` turns an evaluated list
  into a reached state, which is how a concrete run is exhibited.
-/

namespace GokeWebcam.Lib

universe u v

variable {σ : Type u} {α : Type v}

/-- The guard that excludes nothing. -/
def AllRuns : σ → α → Prop := fun _ _ => True

/-- The states reached from `s₀` by steps that all satisfy the guard `ok`. -/
inductive Reach (step : σ → α → Option σ) (ok : σ → α → Prop) (s₀ : σ) : σ → Prop
  | start : Reach step ok s₀ s₀
  | snoc {s s' : σ} {a : α} :
      Reach step ok s₀ s → ok s a → step s a = some s' → Reach step ok s₀ s'

namespace Reach

variable {step : σ → α → Option σ} {ok : σ → α → Prop} {s₀ s s' : σ}

/-- What holds at the start and is kept by every guarded step holds in every reached state. -/
theorem inv {I : σ → Prop} (h0 : I s₀)
    (hstep : ∀ s a s', I s → ok s a → step s a = some s' → I s') (h : Reach step ok s₀ s) : I s := by
  induction h with
  | start => exact h0
  | snoc _ hok hs ih => exact hstep _ _ _ ih hok hs

/-- Runs compose. -/
theorem trans (h₁ : Reach step ok s₀ s) (h₂ : Reach step ok s s') : Reach step ok s₀ s' := by
  induction h₂ with
  | start => exact h₁
  | snoc _ hok hs ih => exact .snoc ih hok hs

end Reach

/-- `P` holds of every step of the run; a run ends at an action that is not enabled. -/
def AllSteps (step : σ → α → Option σ) (P : σ → α → σ → Prop) : σ → List α → Prop
  | _, [] => True
  | s, a :: as =>
    match step s a with
    | none => True
    | some s' => P s a s' ∧ AllSteps step P s' as

instance AllSteps.decidable {step : σ → α → Option σ} {P : σ → α → σ → Prop}
    [∀ s a s', Decidable (P s a s')] : ∀ s as, Decidable (AllSteps step P s as)
  | _, [] => isTrue trivial
  | s, a :: as =>
    match h : step s a with
    | none => isTrue (by rw [AllSteps, h]; trivial)
    | some s' =>
      have : Decidable (AllSteps step P s' as) := AllSteps.decidable s' as
      decidable_of_iff (P s a s' ∧ AllSteps step P s' as) (by rw [AllSteps, h])

/-- Step properties that agree under an invariant agree on whole runs. -/
theorem allSteps_iff {step : σ → α → Option σ} {P Q : σ → α → σ → Prop} {I : σ → Prop}
    (hI : ∀ s a s', I s → step s a = some s' → I s')
    (hPQ : ∀ s a s', I s → step s a = some s' → (P s a s' ↔ Q s a s')) {s : σ} (h0 : I s)
    (as : List α) : AllSteps step P s as ↔ AllSteps step Q s as := by
  induction as generalizing s with
  | nil => exact Iff.rfl
  | cons a as ih =>
      rw [AllSteps, AllSteps]
      rcases hs : step s a with _ | s'
      · exact Iff.rfl
      · exact and_congr (hPQ s a s' h0 hs) (ih (hI s a s' h0 hs))

/-- A step property follows from another one on whole runs when it does, step by step, under an
invariant that the steps with the other one keep. -/
theorem AllSteps.imp {step : σ → α → Option σ} {P Q : σ → α → σ → Prop} {I : σ → Prop}
    (h : ∀ s a s', I s → step s a = some s' → Q s a s' → I s' ∧ P s a s') {s : σ} (h0 : I s)
    {as : List α} (hQ : AllSteps step Q s as) : AllSteps step P s as := by
  induction as generalizing s with
  | nil => trivial
  | cons a as ih =>
      rw [AllSteps] at hQ ⊢
      rcases hs : step s a with _ | s'
      · trivial
      · rw [hs] at hQ
        obtain ⟨hI, hP⟩ := h s a s' h0 hs hQ.1
        exact ⟨hP, ih hI hQ.2⟩

/-- A step property that every step under an invariant has. -/
theorem AllSteps.of_inv {step : σ → α → Option σ} {P : σ → α → σ → Prop} {I : σ → Prop}
    (hI : ∀ s a s', I s → step s a = some s' → I s')
    (hP : ∀ s a s', I s → step s a = some s' → P s a s') {s : σ} (h0 : I s) (as : List α) :
    AllSteps step P s as := by
  induction as generalizing s with
  | nil => trivial
  | cons a as ih =>
      rw [AllSteps]
      rcases hs : step s a with _ | s'
      · trivial
      · exact ⟨hP s a s' h0 hs, ih (hI s a s' h0 hs)⟩

/-- Run a list of actions under a guard, failing at the first one that is not enabled or that
the guard refuses; computable when the guard is decidable. -/
def exec (step : σ → α → Option σ) (ok : σ → α → Bool) : σ → List α → Option σ
  | s, [] => some s
  | s, a :: as => if ok s a then (step s a).bind fun s' => exec step ok s' as else none

/-- A successful evaluation is a guarded run. -/
theorem Reach.of_exec {step : σ → α → Option σ} {ok : σ → α → Prop} {okb : σ → α → Bool}
    (hb : ∀ s a, okb s a = true → ok s a) {s s' : σ} {as : List α}
    (h : exec step okb s as = some s') : Reach step ok s s' := by
  induction as generalizing s with
  | nil =>
      cases h
      exact .start
  | cons a as ih =>
      rw [exec] at h
      split_ifs at h with hok
      rw [Option.bind_eq_some_iff] at h
      obtain ⟨t, ht, h⟩ := h
      exact (Reach.snoc .start (hb s a hok) ht).trans (ih h)

/-- A run evaluated to a state with a decidable property exhibits a reached state with it. -/
theorem Reach.exists_of_exec {step : σ → α → Option σ} {ok : σ → α → Prop} {okb : σ → α → Bool}
    (hb : ∀ s a, okb s a = true → ok s a) {s : σ} {as : List α} {P : σ → Prop} [DecidablePred P]
    (h : (exec step okb s as).any (fun t => decide (P t)) = true) :
    ∃ t, Reach step ok s t ∧ P t := by
  rw [Option.any_eq_true] at h
  obtain ⟨t, ht, hP⟩ := h
  exact ⟨t, .of_exec hb ht, of_decide_eq_true hP⟩

/-- The same for a property of the step that follows. -/
theorem Reach.exists_step_of_exec {step : σ → α → Option σ} {ok : σ → α → Prop} {okb : σ → α → Bool}
    (hb : ∀ s a, okb s a = true → ok s a) {s : σ} {as : List α} {a : α} {P : σ → σ → Prop}
    [∀ t t', Decidable (P t t')]
    (h : (exec step okb s as).any (fun t => (step t a).any fun t' => decide (P t t')) = true) :
    ∃ t t', Reach step ok s t ∧ step t a = some t' ∧ P t t' := by
  rw [Option.any_eq_true] at h
  obtain ⟨t, ht, h⟩ := h
  rw [Option.any_eq_true] at h
  obtain ⟨t', ht', hP⟩ := h
  exact ⟨t, t', .of_exec hb ht, ht', of_decide_eq_true hP⟩

end GokeWebcam.Lib
