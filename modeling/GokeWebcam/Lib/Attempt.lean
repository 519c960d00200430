import Mathlib

/-!
# Steps that may fail half-way

A sequence of steps on a state stops at the first one that fails, and the state is the one it had
reached then: `Except σ σ`, with the state in both cases.

* `reached`: the state, whether all steps succeeded or not.
* `Keeps P`: the state has `P`; `Keeps.ite`, `Keeps.bind`, `Keeps.foldlM`: the rules for branches,
  sequences and loops.
* `mapM_eq_map`: steps on the members of a list that all succeed.
-/

namespace GokeWebcam.Lib

universe u v

variable {σ : Type u} {ι : Type v}

/-- The state that was reached. -/
def reached : Except σ σ → σ
  | .ok s => s
  | .error s => s

/-- The state that was reached has the property. -/
def Keeps (P : σ → Prop) (x : Except σ σ) : Prop := P (reached x)

namespace Keeps

variable {P : σ → Prop} {x : Except σ σ} {f : σ → Except σ σ} {s : σ}

theorem ok (h : P s) : Keeps P (.ok s) := h

theorem error (h : P s) : Keeps P (.error s) := h

theorem ite {c : Prop} [Decidable c] {y : Except σ σ} (hx : Keeps P x) (hy : Keeps P y) :
    Keeps P (if c then x else y) := by
  split_ifs
  · exact hx
  · exact hy

theorem bind (h : Keeps P x) (hf : ∀ s, P s → Keeps P (f s)) : Keeps P (x >>= f) := by
  rcases x with s | s
  · exact h
  · exact hf s h

theorem map {g : σ → σ} (h : Keeps P x) (hg : ∀ s, P s → P (g s)) : Keeps P (x.map g) := by
  rcases x with s | s
  · exact h
  · exact hg s h

theorem foldlM {g : σ → ι → Except σ σ} {l : List ι} (h : P s)
    (hg : ∀ s i, P s → Keeps P (g s i)) : Keeps P (l.foldlM g s) := by
  induction l generalizing s with
  | nil => exact h
  | cons i l ih =>
      rw [List.foldlM_cons]
      exact (hg s i h).bind fun s hs => ih hs

end Keeps

/-- Where every step succeeds, the results are those of a function. -/
theorem mapM_eq_map {α β : Type} {l : List α} {f : α → Option β} {g : α → β}
    (h : ∀ a ∈ l, f a = some (g a)) : l.mapM f = some (l.map g) := by
  induction l with
  | nil => rfl
  | cons a l ih =>
      rw [List.mapM_cons, h a (by simp), ih fun b hb => h b (by simp [hb])]
      rfl

end GokeWebcam.Lib
