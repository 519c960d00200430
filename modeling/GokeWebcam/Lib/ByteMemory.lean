import Mathlib

/-!
# Bytes in memory

Memory is a function of the address; addresses are counted from the start of the object they are
about. A number of `n` bytes is stored with its lowest byte first, a string with a zero behind it.

* `leValue_leBytes`: what is loaded of a number is its value modulo `256 ^ n`.
* `load_store`: what is read where something was written.
* `loadStr_storeStr`, `loadStr_congr`: the same of strings.
-/

namespace GokeWebcam.Lib

abbrev Byte := BitVec 8

abbrev Memory := ℕ → Byte

variable {m m' : Memory} {a b i k n v : ℕ} {bytes : List Byte}

/-! ### Loads and stores -/

/-- The bytes from the address `a` on are replaced. -/
def store (m : Memory) (a : ℕ) (bytes : List Byte) : Memory :=
  fun i => if a ≤ i then bytes.getD (i - a) (m i) else m i

/-- The `n` bytes from the address `a` on. -/
def load (m : Memory) (a n : ℕ) : List Byte := (List.range n).map fun k => m (a + k)

theorem store_of_lt (h : i < a) : store m a bytes i = m i := if_neg (by omega)

theorem store_of_le (h : a + bytes.length ≤ i) : store m a bytes i = m i := by
  unfold store
  split_ifs with hle
  · exact List.getD_eq_default _ _ (by omega)
  · rfl

theorem store_add (h : k < bytes.length) : store m a bytes (a + k) = bytes[k] := by
  unfold store
  rw [if_pos (Nat.le_add_right a k)]
  simp [h]

@[simp] theorem length_load : (load m a n).length = n := by simp [load]

theorem getElem_load (h : k < (load m a n).length) : (load m a n)[k] = m (a + k) := by simp [load]

theorem load_store : load (store m a bytes) a bytes.length = bytes := by
  apply List.ext_getElem
  · simp
  · intro k _ hk
    rw [getElem_load, store_add hk]

theorem load_succ : load m a (n + 1) = load m a n ++ [m (a + n)] := by
  rw [load, List.range_succ, List.map_append]
  rfl

theorem load_add : load m a (n + k) = load m a n ++ load m (a + n) k := by
  induction k with
  | zero => exact (List.append_nil _).symm
  | succ k ih =>
    rw [← Nat.add_assoc, load_succ, ih, load_succ, List.append_assoc, Nat.add_assoc]

theorem take_load (h : k ≤ n) : (load m a n).take k = load m a k := by
  obtain ⟨r, rfl⟩ := Nat.exists_eq_add_of_le h
  rw [load_add]
  exact List.take_left' length_load

theorem drop_load (h : k ≤ n) : (load m a n).drop k = load m (a + k) (n - k) := by
  obtain ⟨r, rfl⟩ := Nat.exists_eq_add_of_le h
  rw [load_add, Nat.add_sub_cancel_left]
  exact List.drop_left' length_load

theorem load_congr (h : ∀ i, a ≤ i → i < a + n → m i = m' i) : load m a n = load m' a n := by
  apply List.ext_getElem
  · simp
  · intro k hk _
    rw [length_load] at hk
    rw [getElem_load, getElem_load, h (a + k) (by omega) (by omega)]

/-! ### Numbers -/

/-- The `n` lowest bytes of a number, the lowest first. -/
def leBytes : ℕ → ℕ → List Byte
  | 0, _ => []
  | n + 1, v => BitVec.ofNat 8 v :: leBytes n (v / 256)

/-- The number whose bytes these are. -/
def leValue : List Byte → ℕ
  | [] => 0
  | b :: bytes => b.toNat + 256 * leValue bytes

@[simp] theorem length_leBytes : (leBytes n v).length = n := by
  induction n generalizing v with
  | zero => rfl
  | succ n ih => simp [leBytes, ih]

theorem leValue_leBytes : leValue (leBytes n v) = v % 256 ^ n := by
  induction n generalizing v with
  | zero => simp [leBytes, leValue, Nat.mod_one]
  | succ n ih =>
      have hbyte : (BitVec.ofNat 8 v).toNat = v % 256 := BitVec.toNat_ofNat v 8
      rw [leBytes, leValue, ih, hbyte, pow_succ', Nat.mod_mul]

/-- A number is read back modulo what its bytes hold. -/
theorem leValue_load_store : leValue (load (store m a (leBytes n v)) a n) = v % 256 ^ n := by
  have h : load (store m a (leBytes n v)) a (leBytes n v).length = leBytes n v := load_store
  rw [length_leBytes] at h
  rw [h, leValue_leBytes]

/-! ### Strings -/

/-- A string of C: its bytes before the zero that ends it. -/
structure CStr where
  bytes : List Byte
  noNul : ∀ b ∈ bytes, b ≠ 0#8
  deriving DecidableEq, Repr

namespace CStr

variable {s : CStr}

def empty : CStr := ⟨[], by simp⟩

def cons (b : Byte) (hb : b ≠ 0#8) (s : CStr) : CStr :=
  ⟨b :: s.bytes, by simpa [hb] using s.noNul⟩

/-- Source: `strlen` -/
def strlen (s : CStr) : ℕ := s.bytes.length

/-- A string literal. -/
def ofChars (chars : List Char) : CStr :=
  ⟨(chars.map fun c => BitVec.ofNat 8 c.toNat).takeWhile (· ≠ 0#8),
    fun b hb => by simpa using List.mem_takeWhile_imp hb⟩

end CStr

variable {s t : CStr}

/-- The bytes of a string and the zero behind them. -/
def storeStr (m : Memory) (a : ℕ) (s : CStr) : Memory := store m a (s.bytes ++ [0#8])

/-- The string at `a`, if it ends within `n` bytes. -/
def loadStr (m : Memory) (a : ℕ) : ℕ → Option CStr
  | 0 => none
  | n + 1 => if hb : m a = 0#8 then some .empty else (loadStr m (a + 1) n).map (.cons (m a) hb)

theorem storeStr_of_lt (h : i < a) : storeStr m a s i = m i := store_of_lt h

theorem storeStr_of_le (h : a + s.strlen < i) : storeStr m a s i = m i := by
  apply store_of_le
  rw [List.length_append]
  exact h

/-- The zero stands behind the string. -/
theorem storeStr_strlen : storeStr m a s (a + s.strlen) = 0#8 := by
  unfold storeStr CStr.strlen
  rw [store_add (by simp)]
  simp

/-- Before it there is none. -/
theorem storeStr_ne_zero (h : k < s.strlen) : storeStr m a s (a + k) ≠ 0#8 := by
  unfold storeStr CStr.strlen at *
  rw [store_add (by simp; omega), List.getElem_append_left h]
  exact s.noNul _ (List.getElem_mem h)

/-- A string is read where its bytes and a zero stand. -/
theorem loadStr_of_bytes (hbytes : ∀ k (hk : k < s.bytes.length), m (a + k) = s.bytes[k])
    (hzero : m (a + s.strlen) = 0#8) (hlt : s.strlen < n) : loadStr m a n = some s := by
  induction n generalizing a s with
  | zero => exact absurd hlt (Nat.not_lt_zero _)
  | succ n ih =>
      obtain ⟨bytes, hnoNul⟩ := s
      rw [loadStr]
      cases bytes with
      | nil =>
          rw [dif_pos (by simpa [CStr.strlen] using hzero)]
          rfl
      | cons b bytes =>
          have hb : m a = b := hbytes 0 (by simp)
          have hrest : loadStr m (a + 1) n = some ⟨bytes, fun b hb => hnoNul b (by simp [hb])⟩ := by
            apply ih
            · intro k hk
              have hk' := hbytes (k + 1) (by simpa using hk)
              rwa [← Nat.add_assoc, Nat.add_right_comm] at hk'
            · simpa [CStr.strlen, Nat.add_assoc, Nat.add_comm 1] using hzero
            · simpa [CStr.strlen] using hlt
          rw [dif_neg (hb ▸ hnoNul b (by simp)), hrest]
          simp [CStr.cons, hb]

/-- What was stored is read back. -/
theorem loadStr_storeStr (h : s.strlen < n) : loadStr (storeStr m a s) a n = some s := by
  apply loadStr_of_bytes _ storeStr_strlen h
  intro k hk
  unfold storeStr
  rw [store_add (by simp; omega), List.getElem_append_left hk]

theorem loadStr_congr (h : ∀ i, a ≤ i → i < a + n → m i = m' i) : loadStr m a n = loadStr m' a n := by
  induction n generalizing a with
  | zero => rfl
  | succ n ih =>
      have hfirst : m a = m' a := h a le_rfl (by omega)
      have hrest : loadStr m (a + 1) n = loadStr m' (a + 1) n :=
        ih fun i hle hlt => h i (by omega) (by omega)
      rw [loadStr, loadStr, hrest]
      generalize m a = b at hfirst ⊢
      subst hfirst
      rfl

/-- A string that ends within `n` bytes is the same within more. -/
theorem loadStr_mono (h : loadStr m a n = some s) (hle : n ≤ k) : loadStr m a k = some s := by
  induction n generalizing a s k with
  | zero => simp [loadStr] at h
  | succ n ih =>
      obtain ⟨k, rfl⟩ := Nat.exists_eq_add_of_le' (Nat.lt_of_lt_of_le n.succ_pos hle)
      rw [loadStr] at h ⊢
      split_ifs at h ⊢ with hzero
      · exact h
      · obtain ⟨t, ht, rfl⟩ := Option.map_eq_some_iff.mp h
        rw [ih ht (by omega)]
        rfl

/-- A string ends within `n` bytes iff one of them is zero. -/
theorem loadStr_isSome_iff : (loadStr m a n).isSome = true ↔ ∃ k < n, m (a + k) = 0#8 := by
  induction n generalizing a with
  | zero => simp [loadStr]
  | succ n ih =>
      rw [loadStr]
      split_ifs with hzero
      · exact iff_of_true rfl ⟨0, n.succ_pos, hzero⟩
      · rw [Option.isSome_map, ih]
        constructor
        · rintro ⟨k, hk, h⟩
          exact ⟨k + 1, by omega, by rwa [← Nat.add_assoc, Nat.add_right_comm]⟩
        · rintro ⟨k, hk, h⟩
          obtain ⟨k, rfl⟩ := Nat.exists_eq_succ_of_ne_zero fun h0 : k = 0 => hzero (by simpa [h0] using h)
          exact ⟨k, by omega, by rwa [Nat.add_assoc, Nat.add_comm 1]⟩

theorem strlen_of_loadStr (h : loadStr m a n = some s) : s.strlen < n := by
  induction n generalizing a s with
  | zero => simp [loadStr] at h
  | succ n ih =>
      rw [loadStr] at h
      split_ifs at h with hzero
      · cases h
        exact n.succ_pos
      · obtain ⟨t, ht, rfl⟩ := Option.map_eq_some_iff.mp h
        exact Nat.succ_lt_succ (ih ht)

/-- Where a string is read, its bytes stand. -/
theorem bytes_of_loadStr (h : loadStr m a n = some s) (hk : k < s.bytes.length) :
    m (a + k) = s.bytes[k] := by
  induction n generalizing a s k with
  | zero => simp [loadStr] at h
  | succ n ih =>
      rw [loadStr] at h
      split_ifs at h with hzero
      · cases h
        exact absurd hk (Nat.not_lt_zero k)
      · obtain ⟨t, ht, rfl⟩ := Option.map_eq_some_iff.mp h
        cases k with
        | zero => rfl
        | succ k =>
            have hrest := ih ht (k := k) (by simpa [CStr.cons] using hk)
            rwa [Nat.add_assoc, Nat.add_comm 1] at hrest

/-- And behind them a zero. -/
theorem zero_of_loadStr (h : loadStr m a n = some s) : m (a + s.strlen) = 0#8 := by
  induction n generalizing a s with
  | zero => simp [loadStr] at h
  | succ n ih =>
      rw [loadStr] at h
      split_ifs at h with hzero
      · cases h
        exact hzero
      · obtain ⟨t, ht, rfl⟩ := Option.map_eq_some_iff.mp h
        have hrest := ih ht
        rwa [Nat.add_assoc, Nat.add_comm 1] at hrest

/-- Storing the string that is there changes nothing. -/
theorem storeStr_of_loadStr (h : loadStr m a n = some s) : storeStr m a s = m := by
  funext i
  by_cases hlt : i < a
  · exact storeStr_of_lt hlt
  · obtain ⟨k, rfl⟩ := Nat.exists_eq_add_of_le (Nat.le_of_not_lt hlt)
    rcases Nat.lt_trichotomy k s.strlen with hk | rfl | hk
    · unfold storeStr
      rw [store_add (by simp [CStr.strlen] at hk ⊢; omega), List.getElem_append_left hk,
        bytes_of_loadStr h hk]
    · rw [storeStr_strlen, zero_of_loadStr h]
    · exact storeStr_of_le (by omega)

end GokeWebcam.Lib
