import Mathlib

/-!
# Rings addressed through a mask

A ring of `n` slots with a write index `head` and a read index `tail`, both below `n`, holds the
slots from `tail` up to but excluding `head`, cyclically; one slot is always left free, so that
`head = tail` means empty.

* `idx n tail i`: the slot of the `i`-th entry; `len n head tail`: the number of entries;
  `contents n slot head tail`: the entries, oldest first.
* `contents_push`, `contents_pop`, `contents_update_tail`: what writing at `head` and advancing an
  index does to the entries.
* `contents_swap`: exchanging two entries' slots exchanges the entries.
* `toNat_and_mask`, `toNat_sub_and_mask`, `toNat_add_and_mask`: with `n = 2 ^ k` the reduction
  modulo `n` is what `&&& (size - 1)` computes on machine words.
-/

namespace GokeWebcam.Lib.Ring

variable {α : Type*} {n head tail i j : ℕ} {slot slot' : ℕ → α}

/-- The slot of the `i`-th entry. -/
def idx (n tail i : ℕ) : ℕ := (tail + i) % n

/-- The number of entries. -/
def len (n head tail : ℕ) : ℕ := (head + (n - tail)) % n

/-- The entries, oldest first. -/
def contents (n : ℕ) (slot : ℕ → α) (head tail : ℕ) : List α :=
  (List.range (len n head tail)).map fun i => slot (idx n tail i)

/-! ### Index arithmetic -/

theorem idx_lt (hn : 0 < n) : idx n tail i < n := Nat.mod_lt _ hn

theorem len_lt (hn : 0 < n) : len n head tail < n := Nat.mod_lt _ hn

/-- The wrap of a sum below `2 n`, by cases. -/
theorem mod_cases {m : ℕ} (hm : m < 2 * n) : (m < n ∧ m % n = m) ∨ (n ≤ m ∧ m % n = m - n) := by
  by_cases h : m < n
  · exact .inl ⟨h, Nat.mod_eq_of_lt h⟩
  · right
    rw [Nat.mod_eq_sub_mod (by omega), Nat.mod_eq_of_lt (by omega)]
    exact ⟨by omega, rfl⟩

theorem idx_zero (ht : tail < n) : idx n tail 0 = tail := Nat.mod_eq_of_lt ht

theorem len_eq_zero_iff (hh : head < n) (ht : tail < n) : len n head tail = 0 ↔ head = tail := by
  have := mod_cases (m := head + (n - tail)) (n := n) (by omega)
  unfold len
  omega

/-- Counting `len` entries from `tail` ends at `head`. -/
theorem idx_len (hh : head < n) (ht : tail < n) : idx n tail (len n head tail) = head := by
  have h₁ := mod_cases (m := head + (n - tail)) (n := n) (by omega)
  have h₂ := mod_cases (m := tail + (head + (n - tail)) % n) (n := n) (by omega)
  unfold idx len
  omega

/-- Different positions are different slots. -/
theorem idx_inj (ht : tail < n) (hi : i < n) (hj : j < n) :
    idx n tail i = idx n tail j ↔ i = j := by
  have h₁ := mod_cases (m := tail + i) (n := n) (by omega)
  have h₂ := mod_cases (m := tail + j) (n := n) (by omega)
  unfold idx
  omega

theorem idx_succ (ht : tail < n) (hi : i + 1 < n) :
    idx n (idx n tail 1) i = idx n tail (i + 1) := by
  have h₁ := mod_cases (m := tail + 1) (n := n) (by omega)
  have h₂ := mod_cases (m := (tail + 1) % n + i) (n := n) (by omega)
  have h₃ := mod_cases (m := tail + (i + 1)) (n := n) (by omega)
  unfold idx
  omega

/-- One position back. -/
theorem idx_pred (ht : tail < n) (hi : i + 1 < n) :
    (idx n tail (i + 1) + (n - 1)) % n = idx n tail i := by
  have h₁ := mod_cases (m := tail + (i + 1)) (n := n) (by omega)
  have h₂ := mod_cases (m := (tail + (i + 1)) % n + (n - 1)) (n := n) (by omega)
  have h₃ := mod_cases (m := tail + i) (n := n) (by omega)
  unfold idx
  omega

theorem len_push (hh : head < n) (ht : tail < n) (hroom : len n head tail + 1 < n) :
    len n (idx n head 1) tail = len n head tail + 1 := by
  have h₁ := mod_cases (m := head + (n - tail)) (n := n) (by omega)
  have h₂ := mod_cases (m := head + 1) (n := n) (by omega)
  have h₃ := mod_cases (m := (head + 1) % n + (n - tail)) (n := n) (by omega)
  unfold idx len at *
  omega

theorem len_pop (hh : head < n) (ht : tail < n) (hne : head ≠ tail) :
    len n head (idx n tail 1) + 1 = len n head tail := by
  have h₁ := mod_cases (m := head + (n - tail)) (n := n) (by omega)
  have h₂ := mod_cases (m := tail + 1) (n := n) (by omega)
  have h₃ := mod_cases (m := head + (n - (tail + 1) % n)) (n := n) (by omega)
  unfold idx len at *
  omega

/-! ### Entries -/

@[simp] theorem length_contents : (contents n slot head tail).length = len n head tail := by
  simp [contents]

theorem getElem_contents (h : i < (contents n slot head tail).length) :
    (contents n slot head tail)[i] = slot (idx n tail i) := by
  simp [contents]

theorem contents_eq_nil_iff (slot : ℕ → α) (hh : head < n) (ht : tail < n) :
    contents n slot head tail = [] ↔ head = tail := by
  rw [← List.length_eq_zero_iff, length_contents, len_eq_zero_iff hh ht]

/-- Only the slots of the entries matter. -/
theorem contents_congr
    (h : ∀ i, i < len n head tail → slot (idx n tail i) = slot' (idx n tail i)) :
    contents n slot head tail = contents n slot' head tail := by
  apply List.map_congr_left
  intro i hi
  exact h i (List.mem_range.mp hi)

/-- Writing the free slot at `head` and advancing `head` appends. -/
theorem contents_push (hh : head < n) (ht : tail < n) (hroom : len n head tail + 1 < n) (x : α) :
    contents n (Function.update slot head x) (idx n head 1) tail =
      contents n slot head tail ++ [x] := by
  have hlast : idx n tail (len n head tail) = head := idx_len hh ht
  have hold : ∀ i, i < len n head tail → idx n tail i ≠ head := by
    intro i hi heq
    rw [← hlast, idx_inj ht (by omega) (by omega)] at heq
    omega
  unfold contents
  rw [len_push hh ht hroom, List.range_succ, List.map_append, List.map_singleton, hlast,
    Function.update_self]
  congr 1
  apply List.map_congr_left
  intro i hi
  rw [Function.update_of_ne (hold i (List.mem_range.mp hi))]

/-- The entry at `tail` is the oldest; advancing `tail` drops it. -/
theorem contents_pop (hh : head < n) (ht : tail < n) (hne : head ≠ tail) :
    contents n slot head tail = slot tail :: contents n slot head (idx n tail 1) := by
  unfold contents
  rw [← len_pop hh ht hne, List.range_succ_eq_map, List.map_cons, idx_zero ht, List.map_map]
  congr 1
  apply List.map_congr_left
  intro i hi
  have hlen := len_pop hh ht hne
  have hlt : len n head tail < n := len_lt (by omega)
  simp only [Function.comp_apply]
  rw [idx_succ ht (by have := List.mem_range.mp hi; omega)]

/-- After `tail` was advanced, the slot it left holds no entry. -/
theorem contents_update_tail (hh : head < n) (ht : tail < n) (hne : head ≠ tail) (x : α) :
    contents n (Function.update slot tail x) head (idx n tail 1) =
      contents n slot head (idx n tail 1) := by
  apply contents_congr
  intro i hi
  have hlen := len_pop hh ht hne
  have hlt : len n head tail < n := len_lt (by omega)
  rw [idx_succ ht (by omega), Function.update_of_ne]
  intro heq
  have h0 : i + 1 = 0 := (idx_inj ht (by omega) (by omega)).mp (heq.trans (idx_zero ht).symm)
  omega

/-- The slots after exchanging `a` and `b`. -/
def swapped (slot : ℕ → α) (a b : ℕ) : ℕ → α :=
  Function.update (Function.update slot a (slot b)) b (slot a)

/-- Exchanging the slots of the entries `i` and `j` exchanges those entries. -/
theorem slot_swapped (ht : tail < n) (hi : i < n) (hj : j < n) {m : ℕ} (hm : m < n) :
    swapped slot (idx n tail i) (idx n tail j) (idx n tail m) =
      if m = j then slot (idx n tail i) else if m = i then slot (idx n tail j)
      else slot (idx n tail m) := by
  unfold swapped
  by_cases hmj : m = j
  · subst hmj
    simp
  · rw [Function.update_of_ne (by rwa [ne_eq, idx_inj ht hm hj]), if_neg hmj]
    by_cases hmi : m = i
    · subst hmi
      simp
    · rw [Function.update_of_ne (by rwa [ne_eq, idx_inj ht hm hi]), if_neg hmi]

/-! ### Masks on machine words -/

section mask

variable {w k : ℕ} {size x y : BitVec w}

/-- `& (size - 1)` reduces modulo a power-of-two size. -/
theorem toNat_and_mask (hsize : size.toNat = 2 ^ k) :
    (x &&& (size - 1#w)).toNat = x.toNat % 2 ^ k := by
  have hlt : 2 ^ k < 2 ^ w := hsize ▸ size.isLt
  have hk : 0 < 2 ^ k := Nat.two_pow_pos k
  have hw : 0 < w := by
    rcases Nat.eq_zero_or_pos w with rfl | h
    · rw [pow_zero] at hlt
      omega
    · exact h
  have hone : (1#w).toNat = 1 := by
    rw [BitVec.toNat_ofNat, Nat.mod_eq_of_lt (Nat.one_lt_two_pow (by omega))]
  have hmask : (size - 1#w).toNat = 2 ^ k - 1 := by
    rw [BitVec.toNat_sub, hsize, hone, Nat.add_comm, ← Nat.add_sub_assoc (by omega),
      Nat.add_comm, Nat.add_sub_assoc hk, Nat.add_mod_left, Nat.mod_eq_of_lt (by omega)]
  rw [BitVec.toNat_and, hmask, Nat.and_two_pow_sub_one_eq_mod]

theorem two_pow_dvd (hsize : size.toNat = 2 ^ k) : 2 ^ k ∣ 2 ^ w := by
  have hlt : 2 ^ k < 2 ^ w := hsize ▸ size.isLt
  exact Nat.pow_dvd_pow 2 ((Nat.pow_lt_pow_iff_right Nat.one_lt_two).mp hlt).le

/-- The masked sum is the slot index. -/
theorem toNat_add_and_mask (hsize : size.toNat = 2 ^ k) :
    ((x + y) &&& (size - 1#w)).toNat = idx (2 ^ k) x.toNat y.toNat := by
  rw [toNat_and_mask hsize, BitVec.toNat_add, Nat.mod_mod_of_dvd _ (two_pow_dvd hsize), idx]

/-- The masked difference is the number of entries. -/
theorem toNat_sub_and_mask (hsize : size.toNat = 2 ^ k) (hy : y.toNat < 2 ^ k) :
    ((x - y) &&& (size - 1#w)).toNat = len (2 ^ k) x.toNat y.toNat := by
  have hdvd := two_pow_dvd hsize
  obtain ⟨c, hc⟩ := hdvd
  have hcpos : 0 < c := Nat.pos_of_ne_zero fun h => by
    have := Nat.two_pow_pos w
    rw [hc, h, mul_zero] at this
    omega
  rw [toNat_and_mask hsize, BitVec.toNat_sub, Nat.mod_mod_of_dvd _ ⟨c, hc⟩, len, hc]
  have hsplit : 2 ^ k * c - y.toNat + x.toNat =
      x.toNat + (2 ^ k - y.toNat) + 2 ^ k * (c - 1) := by
    have : 2 ^ k * c = 2 ^ k * (c - 1) + 2 ^ k := by
      rw [← Nat.mul_succ, Nat.succ_eq_add_one, Nat.sub_add_cancel hcpos]
    omega
  rw [hsplit, Nat.add_mul_mod_self_left]

end mask

end GokeWebcam.Lib.Ring
