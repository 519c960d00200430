import Mathlib

/-!
# Walks over the numbers below a bound

A walk starts at a number and goes from each to the one that follows it, until it is at the bound or
behind it.

* `walk_eq_some_iff`: what a walk comes over that ends.
* `visitsOnce_iff`: the walk from 0 comes over each number once iff no two of them have the same
  follower, every follower behind the bound being one, and none comes after itself.
* `onePath_iff_of_succ`: where all but one are followed by the next number.
-/

namespace GokeWebcam.Lib

/-- The numbers that the walk comes over, in so many steps. -/
def walk (next : ℕ → ℕ) (n : ℕ) : ℕ → ℕ → Option (List ℕ)
  | 0, _ => none
  | fuel + 1, i => if n ≤ i then some [] else (walk next n fuel (next i)).map (i :: ·)

/-- The follower of a number; the bound stands for all that is behind it. -/
def follower (next : ℕ → ℕ) (n i : ℕ) : ℕ := if i < n then min (next i) n else n

/-- The walk ends and comes over each number below the bound once. -/
def VisitsOnce (next : ℕ → ℕ) (n : ℕ) : Prop :=
  ∃ fuel l, walk next n fuel 0 = some l ∧ l.Perm (List.range n)

/-- The numbers below the bound lie on one path. -/
structure OnePath (next : ℕ → ℕ) (n : ℕ) : Prop where
  injective : ∀ i < n, ∀ j < n, follower next n i = follower next n j → i = j
  acyclic : ∀ i < n, ∀ k, 0 < k → (follower next n)^[k] i ≠ i

variable {next : ℕ → ℕ} {n fuel i k m v : ℕ} {l : List ℕ}

theorem follower_of_lt (hi : i < n) : follower next n i = min (next i) n := if_pos hi

theorem follower_bound : follower next n n = n := if_neg (lt_irrefl n)

theorem follower_le : follower next n i ≤ n := by
  rw [follower]
  split_ifs
  · exact min_le_right _ _
  · exact le_rfl

theorem iterate_le (hi : i ≤ n) : (follower next n)^[k] i ≤ n := by
  rcases k with _ | k
  · exact hi
  · rw [Function.iterate_succ_apply']
    exact follower_le

/-- From the bound on the walk stays there. -/
theorem iterate_of_le (hm : (follower next n)^[m] i = n) (hmk : m ≤ k) :
    (follower next n)^[k] i = n := by
  rw [← Nat.sub_add_cancel hmk, Function.iterate_add_apply, hm]
  exact Function.iterate_fixed follower_bound _

/-- What a walk comes over that ends. -/
theorem walk_eq_some_iff : walk next n fuel i = some l ↔ ∃ m < fuel,
    (follower next n)^[m] (min i n) = n ∧ (∀ k < m, (follower next n)^[k] (min i n) < n) ∧
      l = (List.range m).map fun k => (follower next n)^[k] (min i n) := by
  induction fuel generalizing i l with
  | zero => simp [walk]
  | succ fuel ih =>
      rw [walk]
      by_cases hend : n ≤ i
      · rw [if_pos hend, min_eq_right hend, Option.some.injEq]
        constructor
        · rintro rfl
          exact ⟨0, Nat.succ_pos _, rfl, by simp, rfl⟩
        · rintro ⟨m, -, -, hbelow, rfl⟩
          rcases m with _ | m
          · rfl
          · exact absurd (hbelow 0 (Nat.succ_pos _)) (lt_irrefl n)
      · have hi : i < n := not_le.mp hend
        have hfollow : min (next i) n = follower next n i := (follower_of_lt hi).symm
        rw [if_neg hend, min_eq_left hi.le, Option.map_eq_some_iff]
        simp only [ih, hfollow]
        constructor
        · rintro ⟨l, ⟨m, hm, hlast, hbelow, rfl⟩, rfl⟩
          refine ⟨m + 1, Nat.succ_lt_succ hm, hlast, fun k hk => ?_, ?_⟩
          · rcases k with _ | k
            · exact hi
            · exact hbelow k (Nat.lt_of_succ_lt_succ hk)
          · rw [List.range_succ_eq_map, List.map_cons, List.map_map]
            rfl
        · rintro ⟨m, hm, hlast, hbelow, rfl⟩
          rcases m with _ | m
          · exact absurd hlast hi.ne
          refine ⟨_, ⟨m, Nat.lt_of_succ_lt_succ hm, hlast,
            fun k hk => hbelow (k + 1) (Nat.succ_lt_succ hk), rfl⟩, ?_⟩
          rw [List.range_succ_eq_map, List.map_cons, List.map_map]
          rfl

/-- The walk from 0 ends iff it comes to the bound. -/
theorem visitsOnce_iff_exists : VisitsOnce next n ↔ ∃ m, (follower next n)^[m] 0 = n ∧
    (∀ k < m, (follower next n)^[k] 0 < n) ∧
      ((List.range m).map fun k => (follower next n)^[k] 0).Perm (List.range n) := by
  simp only [VisitsOnce, walk_eq_some_iff, Nat.zero_min]
  constructor
  · rintro ⟨fuel, l, ⟨m, -, hlast, hbelow, rfl⟩, hperm⟩
    exact ⟨m, hlast, hbelow, hperm⟩
  · rintro ⟨m, hlast, hbelow, hperm⟩
    exact ⟨m + 1, _, ⟨m, Nat.lt_succ_self m, hlast, hbelow, rfl⟩, hperm⟩

namespace OnePath

/-- No number is come to twice. -/
theorem ne_of_lt (h : OnePath next n) (hk : (follower next n)^[k] i < n) (hkm : k < m) :
    (follower next n)^[m] i ≠ (follower next n)^[k] i := by
  rw [← Nat.sub_add_cancel hkm.le, Function.iterate_add_apply]
  exact h.acyclic _ hk _ (Nat.sub_pos_of_lt hkm)

/-- Every number leads to the bound. -/
theorem exists_iterate (h : OnePath next n) (hi : i ≤ n) : ∃ m, (follower next n)^[m] i = n := by
  by_contra! hnever
  have hlt : ∀ m, (follower next n)^[m] i < n := fun m =>
    lt_of_le_of_ne (iterate_le hi) (hnever m)
  -- The numbers below the bound are finitely many.
  obtain ⟨a, b, hab, heq⟩ := Finite.exists_ne_map_eq_of_infinite
    fun m => (⟨(follower next n)^[m] i, hlt m⟩ : Fin n)
  rw [Fin.mk.injEq] at heq
  rcases hab.lt_or_gt with hlt' | hlt'
  · exact h.ne_of_lt (hlt a) hlt' heq.symm
  · exact h.ne_of_lt (hlt b) hlt' heq

/-- Every number that leads to the bound is one of the walk from 0. -/
theorem exists_of_iterate (h : OnePath next n) (hpos : ∀ i, 0 < next i)
    (hlast : (follower next n)^[m] 0 = n) (hbelow : ∀ k < m, (follower next n)^[k] 0 < n)
    (hi : i < n) (hk : (follower next n)^[k] i = n) :
    ∃ p < m, (follower next n)^[p] 0 = i := by
  have hback : ∀ p ≤ m, ∀ i < n, (follower next n)^[p] 0 = follower next n i →
      ∃ p < m, (follower next n)^[p] 0 = i := by
    intro p hp i hi heq
    rcases p with _ | p
    · rw [follower_of_lt hi] at heq
      have hzero : 0 < min (next i) n := lt_min (hpos i) (Nat.zero_lt_of_lt hi)
      exact absurd heq hzero.ne
    · rw [Function.iterate_succ_apply'] at heq
      exact ⟨p, hp, h.injective _ (hbelow p hp) i hi heq⟩
  induction k generalizing i with
  | zero => exact absurd hk hi.ne
  | succ k ih =>
      rw [Function.iterate_succ_apply] at hk
      have hle : follower next n i ≤ n := follower_le
      rcases hle.lt_or_eq with hlt | heq
      · obtain ⟨p, hp, hpi⟩ := ih hlt hk
        exact hback p hp.le i hi hpi
      · exact hback m le_rfl i hi (hlast.trans heq.symm)

theorem visitsOnce (h : OnePath next n) (hpos : ∀ i, 0 < next i) : VisitsOnce next n := by
  have hends := h.exists_iterate (Nat.zero_le n)
  have hlast := Nat.find_spec hends
  have hbelow : ∀ k < Nat.find hends, (follower next n)^[k] 0 < n := fun k hk =>
    lt_of_le_of_ne (iterate_le (Nat.zero_le n)) (Nat.find_min hends hk)
  refine visitsOnce_iff_exists.mpr ⟨_, hlast, hbelow, ?_⟩
  have hnodup : ((List.range (Nat.find hends)).map fun k => (follower next n)^[k] 0).Nodup := by
    refine List.Nodup.map_on (fun a ha b hb heq => ?_) List.nodup_range
    rw [List.mem_range] at ha hb
    rcases lt_trichotomy a b with hab | hab | hab
    · exact absurd heq.symm (h.ne_of_lt (hbelow a ha) hab)
    · exact hab
    · exact absurd heq (h.ne_of_lt (hbelow b hb) hab)
  rw [List.perm_ext_iff_of_nodup hnodup List.nodup_range]
  intro i
  rw [List.mem_map, List.mem_range]
  constructor
  · rintro ⟨k, hk, rfl⟩
    exact hbelow k (List.mem_range.mp hk)
  · intro hi
    obtain ⟨k, hk⟩ := h.exists_iterate hi.le
    obtain ⟨p, hp, hpi⟩ := h.exists_of_iterate hpos hlast hbelow hi hk
    exact ⟨p, List.mem_range.mpr hp, hpi⟩

end OnePath

theorem VisitsOnce.onePath (h : VisitsOnce next n) : OnePath next n := by
  obtain ⟨m, hlast, hbelow, hperm⟩ := visitsOnce_iff_exists.mp h
  have hnodup := hperm.nodup_iff.mpr List.nodup_range
  -- Up to the bound the walk is at different numbers.
  have hinj : ∀ p ≤ m, ∀ q ≤ m, (follower next n)^[p] 0 = (follower next n)^[q] 0 → p = q := by
    intro p hp q hq heq
    rcases hp.lt_or_eq with hp | rfl <;> rcases hq.lt_or_eq with hq | rfl
    · exact List.inj_on_of_nodup_map hnodup (List.mem_range.mpr hp) (List.mem_range.mpr hq) heq
    · exact absurd (heq.trans hlast) (hbelow p hp).ne
    · exact absurd (heq.symm.trans hlast) (hbelow q hq).ne
    · rfl
  have hplace : ∀ i < n, ∃ p < m, (follower next n)^[p] 0 = i := by
    intro i hi
    obtain ⟨p, hp, hpi⟩ := List.mem_map.mp (hperm.mem_iff.mpr (List.mem_range.mpr hi))
    exact ⟨p, List.mem_range.mp hp, hpi⟩
  constructor
  · intro i hi j hj heq
    obtain ⟨p, hp, rfl⟩ := hplace i hi
    obtain ⟨q, hq, rfl⟩ := hplace j hj
    have hnext : (follower next n)^[p + 1] 0 = (follower next n)^[q + 1] 0 := by
      rw [Function.iterate_succ_apply', Function.iterate_succ_apply', heq]
    rw [Nat.succ_injective (hinj (p + 1) hp (q + 1) hq hnext)]
  · intro i hi k hk heq
    obtain ⟨p, hp, rfl⟩ := hplace i hi
    rw [← Function.iterate_add_apply] at heq
    rcases le_or_gt (k + p) m with hle | hgt
    · have hsame := hinj (k + p) hle p hp.le heq
      omega
    · rw [iterate_of_le hlast hgt.le] at heq
      exact hi.ne heq.symm

/-- The walk from 0 comes over each number once iff they lie on one path. -/
theorem visitsOnce_iff (hpos : ∀ i, 0 < next i) : VisitsOnce next n ↔ OnePath next n :=
  ⟨VisitsOnce.onePath, fun h => h.visitsOnce hpos⟩

/-- Numbers that are each followed by the next lie on one path. -/
theorem onePath_of_succ (h : ∀ i < n, follower next n i = i + 1) : OnePath next n := by
  have hiter : ∀ k i, i ≤ n → (follower next n)^[k] i = min (i + k) n := by
    intro k
    induction k with
    | zero => exact fun i hi => (min_eq_left hi).symm
    | succ k ih =>
        intro i hi
        rw [Function.iterate_succ_apply', ih i hi]
        rcases lt_or_ge (i + k) n with hlt | hge
        · rw [min_eq_left hlt.le, h _ hlt, min_eq_left (by omega)]
          rfl
        · rw [min_eq_right hge, min_eq_right (by omega)]
          exact follower_bound
  constructor
  · intro i hi j hj heq
    rw [h i hi, h j hj] at heq
    exact Nat.succ_injective heq
  · intro i hi k hk
    rw [hiter k i hi.le]
    omega

/-- Where all but one are followed by the next number, they lie on one path iff this one is, too. -/
theorem onePath_iff_of_succ (hpos : ∀ i, 0 < next i) (hv : v < n)
    (hnext : ∀ i < n, i ≠ v → next i = i + 1) : OnePath next n ↔ follower next n v = v + 1 := by
  have hsucc : ∀ i < n, i ≠ v → follower next n i = i + 1 := by
    intro i hi hne
    rw [follower_of_lt hi, hnext i hi hne]
    exact min_eq_left hi
  refine ⟨fun h => ?_, fun h => onePath_of_succ fun i hi => ?_⟩
  · by_contra hne
    have hbefore : 0 < follower next n v := by
      rw [follower_of_lt hv]
      exact lt_min (hpos v) (Nat.zero_lt_of_lt hv)
    have hle : follower next n v ≤ n := follower_le
    have hother : follower next n v - 1 ≠ v := by omega
    have hsame := hsucc (follower next n v - 1) (by omega) hother
    exact hother (h.injective _ (by omega) v hv (by omega))
  · by_cases hiv : i = v
    · rw [hiv, h]
    · exact hsucc i hi hiv

end GokeWebcam.Lib
