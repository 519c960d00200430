import Mathlib

/-!
# A lock that a thread takes and releases

`LockM` is a piece of a thread's program; its state is what the thread holds of one reader-writer
lock. It has no result where it does not come to its end, and where it releases a lock that the thread
does not hold. How long a thread waits for the lock is left out.

* `Leads pre p post`: with `pre` held on top of anything, `p` comes to its end and leaves `post`;
  `leads_pure`, `leads_lock`, `leads_unlock`, `Leads.bind`, `Leads.ite`: the rules.
* `KeepsLock`: the thread holds at the end what it held before; `keepsLock_forM`: so do many of them.
-/

namespace GokeWebcam.Lib

/-- How a thread holds the lock. -/
inductive LockMode
  | read | write
  deriving DecidableEq, Repr

/-- A piece of a program. The state is what its thread holds, the latest first. -/
abbrev LockM (α : Type) := StateT (List LockMode) Option α

namespace LockM

/-- The thread gets the lock. -/
def lock (mode : LockMode) : LockM Unit := fun held => some (⟨⟩, mode :: held)

/-- The thread gives back what it got last. -/
def unlock : LockM Unit
  | [] => none
  | _ :: held => some (⟨⟩, held)

/-- Something that may not come to its end, and does not touch the lock. -/
def attempt {α : Type} (x : Option α) : LockM α := fun held => x.map fun a => (a, held)

/-- The last two statements of a section under the lock. -/
def unlockReturn {α : Type} (a : α) : LockM α := unlock >>= fun _ => pure a

/-- The result is not used. -/
def ignored {α : Type} (p : LockM α) : LockM Unit := p >>= fun _ => pure ()

/-- With `pre` held on top of anything, the program comes to its end and leaves `post` instead. -/
def Leads {α : Type} (pre : List LockMode) (p : LockM α) (post : List LockMode) : Prop :=
  ∀ held, ∃ a, p (pre ++ held) = some (a, post ++ held)

/-- The program comes to its end, and the thread holds then what it held before. -/
def KeepsLock {α : Type} (p : LockM α) : Prop := Leads [] p []

variable {α β : Type} {p : LockM α} {q : α → LockM β} {a : α} {mode : LockMode}
  {pre mid post held : List LockMode}

theorem bind_eq (h : p held = some (a, mid)) : (p >>= q) held = q a mid := by
  change Option.bind (p held) _ = _
  rw [h]
  rfl

theorem leads_pure : Leads pre (pure a : LockM α) pre := fun _ => ⟨a, rfl⟩

theorem leads_lock : Leads pre (lock mode) (mode :: pre) := fun _ => ⟨⟨⟩, rfl⟩

theorem leads_unlock : Leads (mode :: pre) unlock pre := fun _ => ⟨⟨⟩, rfl⟩

namespace Leads

theorem bind (hp : Leads pre p mid) (hq : ∀ a, Leads mid (q a) post) : Leads pre (p >>= q) post := by
  intro held
  obtain ⟨a, ha⟩ := hp held
  obtain ⟨b, hb⟩ := hq a held
  exact ⟨b, by rw [bind_eq ha, hb]⟩

theorem ite {c : Prop} [Decidable c] {p' : LockM α} (hp : c → Leads pre p post)
    (hp' : ¬ c → Leads pre p' post) : Leads pre (if c then p else p') post := by
  split_ifs with hc
  · exact hp hc
  · exact hp' hc

/-- What a program leaves is determined. -/
theorem unique (h : Leads pre p mid) (h' : Leads pre p post) : mid = post := by
  obtain ⟨a, ha⟩ := h []
  obtain ⟨b, hb⟩ := h' []
  rw [ha] at hb
  simpa using congrArg Prod.snd (Option.some.inj hb)

end Leads

theorem leads_unlockReturn : Leads (mode :: pre) (unlockReturn a) pre :=
  leads_unlock.bind fun _ => leads_pure

/-- From there on the lock is held. -/
theorem leads_lock_bind_iff {q : Unit → LockM β} :
    Leads pre (lock mode >>= q) post ↔ Leads (mode :: pre) (q ()) post := Iff.rfl

/-- Where something does not come to its end, the program does not. -/
theorem leads_attempt_bind_iff {x : Option α} :
    Leads pre (attempt x >>= q) post ↔ ∃ a, x = some a ∧ Leads pre (q a) post := by
  rcases x with _ | a
  · refine iff_of_false (fun h => ?_) (by simp)
    obtain ⟨b, hb⟩ := h []
    cases hb
  · simp only [Option.some.injEq, exists_eq_left']
    rfl

theorem keepsLock_ignored_iff : KeepsLock (ignored p) ↔ KeepsLock p := by
  refine ⟨fun h held => ?_, fun h => h.bind fun _ => leads_pure⟩
  obtain ⟨b, hb⟩ := h held
  rcases hp : p ([] ++ held) with _ | ⟨a, left⟩
  · have hnone : ignored p ([] ++ held) = none := by
      change Option.bind (p ([] ++ held)) _ = _
      rw [hp]
      rfl
    rw [hnone] at hb
    cases hb
  · rw [ignored, bind_eq hp] at hb
    cases hb
    exact ⟨a, rfl⟩

/-- Pieces that leave nothing behind, one after the other. -/
theorem keepsLock_forM {ps : List (LockM Unit)} (h : ∀ p ∈ ps, KeepsLock p) :
    KeepsLock (ps.forM id) := by
  induction ps with
  | nil => exact leads_pure
  | cons p ps ih =>
      change KeepsLock (p >>= fun _ => ps.forM id)
      exact (h p List.mem_cons_self).bind fun _ => ih fun p hp => h p (List.mem_cons_of_mem _ hp)

end LockM

end GokeWebcam.Lib
