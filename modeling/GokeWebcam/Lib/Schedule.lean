import GokeWebcam.Lib.Transition

/-!
# What every schedule comes to

A schedule gives the action of each step, for ever. `LeadsTo step ok P Q`: from a state with `P`, every
schedule of actions with `ok` comes to a state with `Q` after finitely many steps, all of them enabled.

* `LeadsTo.trans`, `LeadsTo.or`: the rules for sequences and cases.
* `LeadsTo.of_weight`: where each step makes a weight smaller or comes to the goal.
* `reach_of_after`: the states on the way are reached.
* `eq_of_after`, `le_of_after`: a schedule comes to one last state.
-/

namespace GokeWebcam.Lib

universe u v

variable {σ : Type u} {α : Type v}

/-- The state after so many steps of a schedule. -/
def after (step : σ → α → Option σ) : ℕ → (ℕ → α) → σ → Option σ
  | 0, _, s => some s
  | n + 1, acts, s => (step s (acts 0)).bind (after step n fun k => acts (k + 1))

/-- Every schedule comes from the one to the other. -/
def LeadsTo (step : σ → α → Option σ) (ok : α → Prop) (P Q : σ → Prop) : Prop :=
  ∀ s, P s → ∀ acts : ℕ → α, (∀ k, ok (acts k)) → ∃ n s', after step n acts s = some s' ∧ Q s'

variable {step : σ → α → Option σ} {ok : α → Prop} {P Q R : σ → Prop} {s s' : σ} {n m : ℕ}
  {acts : ℕ → α}

theorem after_add (h : after step n acts s = some s') :
    after step (n + m) acts s = after step m (fun k => acts (n + k)) s' := by
  induction n generalizing s acts with
  | zero =>
      cases h
      simp only [Nat.zero_add]
  | succ n ih =>
      obtain ⟨s₁, hs₁, h⟩ := Option.bind_eq_some_iff.mp h
      rw [Nat.add_right_comm, after, hs₁, Option.bind_some, ih h]
      simp only [Nat.add_right_comm n _ 1]

theorem reach_of_after (h : after step n acts s = some s') : Reach step AllRuns s s' := by
  induction n generalizing s acts with
  | zero =>
      cases h
      exact .start
  | succ n ih =>
      obtain ⟨s₁, hs₁, h⟩ := Option.bind_eq_some_iff.mp h
      exact (Reach.snoc .start trivial hs₁).trans (ih h)

/-- Nothing changes once every action leaves the state. -/
theorem after_of_stays (h : ∀ a, step s a = some s) : after step n acts s = some s := by
  induction n generalizing acts with
  | zero => rfl
  | succ n ih => rw [after, h, Option.bind_some, ih]

/-- What a schedule comes to before it comes to another state: that state is left again. -/
theorem eq_of_after {t : σ} (h : after step n acts s = some s') (ht : after step m acts s = some t)
    (hstays : ∀ a, step s' a = some s') (hle : n ≤ m) : t = s' := by
  obtain ⟨k, rfl⟩ := Nat.exists_eq_add_of_le hle
  rw [after_add h, after_of_stays hstays] at ht
  exact (Option.some.inj ht).symm

/-- A schedule that has come to a state without further steps goes no further. -/
theorem le_of_after {t : σ} (h : after step n acts s = some s') (ht : after step m acts s = some t)
    (hhalts : ∀ a, step s' a = none) : m ≤ n := by
  by_contra hlt
  obtain ⟨k, rfl⟩ := Nat.exists_eq_add_of_lt (not_le.mp hlt)
  rw [Nat.add_assoc, after_add h, after, hhalts] at ht
  cases ht

namespace LeadsTo

theorem of_imp (h : ∀ s, P s → Q s) : LeadsTo step ok P Q :=
  fun s hs _ _ => ⟨0, s, rfl, h s hs⟩

theorem trans (h₁ : LeadsTo step ok P Q) (h₂ : LeadsTo step ok Q R) : LeadsTo step ok P R := by
  intro s hs acts hok
  obtain ⟨n, t, hn, ht⟩ := h₁ s hs acts hok
  obtain ⟨m, r, hm, hr⟩ := h₂ t ht (fun k => acts (n + k)) fun k => hok (n + k)
  exact ⟨n + m, r, by rw [after_add hn, hm], hr⟩

theorem or (h₁ : LeadsTo step ok P R) (h₂ : LeadsTo step ok Q R) :
    LeadsTo step ok (fun s => P s ∨ Q s) R := by
  rintro s (hs | hs)
  · exact h₁ s hs
  · exact h₂ s hs

theorem of_step (h : ∀ s a, P s → ok a → ∃ s', step s a = some s' ∧ Q s') :
    LeadsTo step ok P Q := by
  intro s hs acts hok
  obtain ⟨s', hs', hQ⟩ := h s (acts 0) hs (hok 0)
  exact ⟨1, s', by rw [after, hs']; rfl, hQ⟩

/-- Each step comes to the goal, or keeps the invariant with a smaller weight. -/
theorem of_weight (weight : σ → ℕ)
    (h : ∀ s a, P s → ok a → ∃ s', step s a = some s' ∧ (Q s' ∨ P s' ∧ weight s' < weight s)) :
    LeadsTo step ok P Q := by
  intro s
  induction hw : weight s using Nat.strong_induction_on generalizing s with
  | _ w ih =>
      intro hs acts hok
      obtain ⟨s', hs', hnext⟩ := h s (acts 0) hs (hok 0)
      rcases hnext with hQ | ⟨hP, hlt⟩
      · exact ⟨1, s', by rw [after, hs']; rfl, hQ⟩
      · obtain ⟨n, t, hn, ht⟩ :=
          ih _ (hw ▸ hlt) s' rfl hP (fun k => acts (k + 1)) fun k => hok (k + 1)
        exact ⟨n + 1, t, by rw [after, hs', Option.bind_some, hn], ht⟩

end LeadsTo

end GokeWebcam.Lib
