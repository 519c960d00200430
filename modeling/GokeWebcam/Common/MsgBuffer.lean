import GokeWebcam.Common.Message
import GokeWebcam.Lib.MaskedRing

/-!
# The message ring

`message_buffer_t` of `common/buffer/msg_buffer.c`: `size` slots, the write index `head`, the read
index `tail`, both reduced by the mask `size - 1`.

* `msgBufferInit`, `msgBufferPush`, `msgBufferPop`, `msgBufferProbeItem`, `msgBufferSwap`: the
  operations as the code computes them on the words `head`, `tail` and `size`.
* `MessageBuffer.Wf k`: the ring has `2 ^ k` slots and both indices lie in it.
* `MessageBuffer.contents`: the queued messages, oldest first.
* `contents_msgBufferPush_*`, `msgBufferPop_cons`, `contents_msgBufferSwap`: what each operation
  does to the queued messages; nothing after this module unfolds an index.
-/

namespace GokeWebcam.Common

open Lib

/-- Source: `common/buffer/msg_buffer.h` `msg_buffer_overflow_t` -/
inductive MsgBufferOverflow
  | no | yes
  deriving DecidableEq, Repr

/-- Source: `common/buffer/msg_buffer.h` `msg_buffer_push_result_e` -/
inductive MsgBufferPushResult
  | success | successWithOverflow | fail
  deriving DecidableEq, Repr

/-- Source: `common/buffer/msg_buffer.h` `message_buffer_t` -/
structure MessageBuffer where
  buffer : List Message := []
  size : CInt := 0#32
  head : CInt := 0#32
  tail : CInt := 0#32
  init : Bool := false
  overflow : MsgBufferOverflow := .no
  sequence : BitVec 32 := 0#32
  deriving DecidableEq, Repr

/-- `buffer[i]`. -/
def MessageBuffer.slot (buff : MessageBuffer) (i : ℕ) : Message := buff.buffer.getD i msgInit

/-- `x & (size - 1)`. -/
def MessageBuffer.mask (buff : MessageBuffer) (x : CInt) : CInt := x &&& (buff.size - 1#32)

/-- Source: `common/buffer/msg_buffer.c` `msg_buffer_is_empty` -/
def msgBufferIsEmpty (buff : MessageBuffer) : Bool := buff.head == buff.tail

/-- Source: `common/buffer/msg_buffer.c` `msg_buffer_is_full` -/
def msgBufferIsFull (buff : MessageBuffer) : Bool :=
  buff.mask (buff.head - buff.tail) == buff.size - 1#32

/-- Source: `common/buffer/msg_buffer.c` `msg_buffer_num_items` -/
def msgBufferNumItems (buff : MessageBuffer) : CInt := buff.mask (buff.head - buff.tail)

/-- An empty ring of zeroed slots, the allocation having succeeded.
Source: `common/buffer/msg_buffer.c` `msg_buffer_init` -/
def msgBufferInit (overflow : MsgBufferOverflow) (size : CInt) : MessageBuffer where
  head := 0#32
  tail := 0#32
  sequence := 0#32
  size := size
  overflow := overflow
  buffer := List.replicate size.toNat msgInit
  init := true

/-- The `n`-th entry counted from `tail`, or `none` where the function returns 1.
Source: `common/buffer/msg_buffer.c` `msg_buffer_probe_item` -/
def msgBufferProbeItem (buff : MessageBuffer) (n : CInt) : Option Message :=
  if msgBufferIsEmpty buff then none
  else
    let index := buff.mask (buff.tail + n)
    if index = buff.head then none else some (buff.slot index.toNat)

/-- The oldest entry, removed, or `none` where the function returns 1.
Source: `common/buffer/msg_buffer.c` `msg_buffer_pop` -/
def msgBufferPop (buff : MessageBuffer) : MessageBuffer × Option Message :=
  if msgBufferIsEmpty buff then (buff, none)
  else
    let data := buff.slot buff.tail.toNat
    ({ buff with
        buffer := buff.buffer.set buff.tail.toNat (msgFree data)
        tail := buff.mask (buff.tail + 1#32) }, some data)

/-- Drop the oldest entry of a full ring.
Source: `common/buffer/msg_buffer.c` `msg_buffer_push`, the overflow branch -/
def msgBufferDropOldest (buff : MessageBuffer) : MessageBuffer :=
  { buff with
    buffer := buff.buffer.set buff.tail.toNat (msgFree (buff.slot buff.tail.toNat))
    tail := buff.mask (buff.tail + 1#32) }

/-- Stamp the message, store it at `head` and advance `head`.
Source: `common/buffer/msg_buffer.c` `msg_buffer_push`, from `sequence++` on -/
def msgBufferStore (buff : MessageBuffer) (data : Message) : MessageBuffer :=
  let sequence := buff.sequence + 1#32
  { buff with
    sequence := sequence
    buffer := buff.buffer.set buff.head.toNat { data with sequence := sequence }
    head := buff.mask (buff.head + 1#32) }

/-- Source: `common/buffer/msg_buffer.c` `msg_buffer_push` -/
def msgBufferPush (buff : MessageBuffer) (data : Option Message) :
    MessageBuffer × MsgBufferPushResult :=
  match data with
  | none => (buff, .fail)
  | some data =>
    if msgBufferIsFull buff then
      if buff.overflow = .yes then
        (msgBufferStore (msgBufferDropOldest buff) data, .successWithOverflow)
      else (buff, .fail)
    else (msgBufferStore buff data, .success)

/-- Source: `common/buffer/msg_buffer.c` `msg_buffer_swap_item` -/
def msgBufferSwapItem (buff : MessageBuffer) (org dest : CInt) : MessageBuffer :=
  let temp := buff.slot org.toNat
  let buff := { buff with buffer := buff.buffer.set org.toNat (buff.slot dest.toNat) }
  { buff with buffer := buff.buffer.set dest.toNat temp }

/-- The `while` loop of `msg_buffer_swap`: exchange neighbours downwards from `last` until `org` is
met. The ring has `size` slots, so `fuel = size` suffices.
Source: `common/buffer/msg_buffer.c` `msg_buffer_swap` -/
def msgBufferSwapLoop (org : CInt) : ℕ → CInt → MessageBuffer → MessageBuffer
  | 0, _, buff => buff
  | fuel + 1, last, buff =>
    let rundown := buff.mask (last - 1#32)
    if rundown = org then buff
    else msgBufferSwapLoop org fuel rundown (msgBufferSwapItem buff rundown last)

/-- Source: `common/buffer/msg_buffer.c` `msg_buffer_swap` -/
def msgBufferSwap (buff : MessageBuffer) (org dest : CInt) : MessageBuffer :=
  if org = dest then buff
  else
    let orgIndex := buff.mask (buff.tail + org)
    let destIndex := buff.mask (buff.tail + dest)
    msgBufferSwapLoop orgIndex buff.size.toNat destIndex
      (msgBufferSwapItem buff orgIndex destIndex)

/-- Source: `common/buffer/msg_buffer.c` `msg_buffer_release` -/
def msgBufferRelease (buff : MessageBuffer) : MessageBuffer :=
  { buff with head := 0#32, tail := 0#32, sequence := 0#32, buffer := [], init := false }

/-! ### Well-formed rings -/

namespace MessageBuffer

/-- The ring has `2 ^ k` slots, at least two, and the indices lie in it. -/
structure Wf (k : ℕ) (buff : MessageBuffer) : Prop where
  one_le : 1 ≤ k
  size_eq : buff.size.toNat = 2 ^ k
  length_eq : buff.buffer.length = 2 ^ k
  head_lt : buff.head.toNat < 2 ^ k
  tail_lt : buff.tail.toNat < 2 ^ k

/-- The queued messages, oldest first. -/
def contents (buff : MessageBuffer) : List Message :=
  Ring.contents buff.size.toNat buff.slot buff.head.toNat buff.tail.toNat

variable {k i : ℕ} {buff : MessageBuffer} {m : Message} {x y : CInt}

theorem slot_set (h : i < buff.buffer.length) :
    ({ buff with buffer := buff.buffer.set i m } : MessageBuffer).slot =
      Function.update buff.slot i m := by
  funext j
  rw [slot, List.getD_eq_getElem?_getD, List.getElem?_set, Function.update_apply]
  by_cases hij : i = j
  · subst hij
    simp [h]
  · rw [if_neg hij, if_neg (Ne.symm hij), slot, List.getD_eq_getElem?_getD]

namespace Wf

theorem two_le (h : Wf k buff) : 2 ≤ 2 ^ k := by
  have hpow := Nat.pow_le_pow_right Nat.two_pos h.one_le
  rwa [pow_one] at hpow

theorem toNat_mask_add (h : Wf k buff) : (buff.mask (x + y)).toNat = Ring.idx (2 ^ k) x.toNat y.toNat :=
  Ring.toNat_add_and_mask h.size_eq

theorem toNat_mask_tail_succ (h : Wf k buff) :
    (buff.mask (buff.tail + 1#32)).toNat = Ring.idx (2 ^ k) buff.tail.toNat 1 :=
  h.toNat_mask_add

theorem toNat_mask_head_succ (h : Wf k buff) :
    (buff.mask (buff.head + 1#32)).toNat = Ring.idx (2 ^ k) buff.head.toNat 1 :=
  h.toNat_mask_add

theorem toNat_mask_pred (h : Wf k buff) :
    (buff.mask (x - 1#32)).toNat = (x.toNat + (2 ^ k - 1)) % 2 ^ k := by
  have hone : (1#32).toNat = 1 := rfl
  have htwo := h.two_le
  exact Ring.toNat_sub_and_mask h.size_eq (by omega)

theorem contents_eq (h : Wf k buff) :
    buff.contents = Ring.contents (2 ^ k) buff.slot buff.head.toNat buff.tail.toNat := by
  rw [contents, h.size_eq]

/-- `msg_buffer_num_items` counts the queued messages. -/
theorem toNat_msgBufferNumItems (h : Wf k buff) :
    (msgBufferNumItems buff).toNat = buff.contents.length := by
  rw [h.contents_eq, Ring.length_contents]
  exact Ring.toNat_sub_and_mask h.size_eq h.tail_lt

theorem length_contents_lt (h : Wf k buff) : buff.contents.length < 2 ^ k := by
  rw [h.contents_eq, Ring.length_contents]
  exact Ring.len_lt (by have := h.two_le; omega)

theorem msgBufferIsEmpty_iff (h : Wf k buff) :
    msgBufferIsEmpty buff = true ↔ buff.contents = [] := by
  rw [h.contents_eq, Ring.contents_eq_nil_iff buff.slot h.head_lt h.tail_lt, msgBufferIsEmpty, beq_iff_eq,
    BitVec.toNat_inj]

theorem toNat_size_pred (h : Wf k buff) : (buff.size - 1#32).toNat = 2 ^ k - 1 := by
  have hsize := h.size_eq
  have htwo := h.two_le
  bv_omega

/-- Full means one slot short of the size. -/
theorem msgBufferIsFull_iff (h : Wf k buff) :
    msgBufferIsFull buff = true ↔ ¬ buff.contents.length < 2 ^ k - 1 := by
  have hlt := h.length_contents_lt
  have hnum : (buff.mask (buff.head - buff.tail)).toNat = buff.contents.length :=
    h.toNat_msgBufferNumItems
  rw [msgBufferIsFull, beq_iff_eq, ← BitVec.toNat_inj, hnum, h.toNat_size_pred]
  omega

end Wf

end MessageBuffer

open MessageBuffer

variable {k : ℕ} {buff : MessageBuffer} {m : Message}

/-! ### What the operations do to the queued messages -/

theorem wf_msgBufferInit {overflow : MsgBufferOverflow} {size : CInt} (h1 : 1 ≤ k)
    (hsize : size.toNat = 2 ^ k) : (msgBufferInit overflow size).Wf k :=
  ⟨h1, hsize, by simp [msgBufferInit, hsize], Nat.two_pow_pos k, Nat.two_pow_pos k⟩

theorem contents_msgBufferInit {overflow : MsgBufferOverflow} {size : CInt} :
    (msgBufferInit overflow size).contents = [] := by
  simp [contents, msgBufferInit, Ring.contents, Ring.len]

/-- Popping an empty ring fails and changes nothing. -/
theorem msgBufferPop_nil (h : buff.Wf k) (hnil : buff.contents = []) :
    msgBufferPop buff = (buff, none) := by
  rw [msgBufferPop, if_pos (h.msgBufferIsEmpty_iff.mpr hnil)]

/-- Advancing `tail` past a cleared slot keeps the ring and drops the oldest message. -/
theorem dropOldest_spec (h : buff.Wf k) (hne : buff.contents ≠ []) :
    (msgBufferDropOldest buff).Wf k ∧
      buff.contents = buff.slot buff.tail.toNat :: (msgBufferDropOldest buff).contents := by
  have hht : buff.head.toNat ≠ buff.tail.toNat := by
    rwa [ne_eq, ← Ring.contents_eq_nil_iff buff.slot h.head_lt h.tail_lt, ← h.contents_eq]
  have hwf : (msgBufferDropOldest buff).Wf k :=
    { one_le := h.one_le
      size_eq := h.size_eq
      length_eq := by rw [msgBufferDropOldest, List.length_set, h.length_eq]
      head_lt := h.head_lt
      tail_lt := by
        rw [msgBufferDropOldest, h.toNat_mask_tail_succ]
        exact Ring.idx_lt (Nat.two_pow_pos k) }
  refine ⟨hwf, ?_⟩
  have hslot : (msgBufferDropOldest buff).slot =
      Function.update buff.slot buff.tail.toNat (msgFree (buff.slot buff.tail.toNat)) :=
    slot_set (by rw [h.length_eq]; exact h.tail_lt)
  have htail : (msgBufferDropOldest buff).tail.toNat = Ring.idx (2 ^ k) buff.tail.toNat 1 :=
    h.toNat_mask_tail_succ
  have hhead : (msgBufferDropOldest buff).head = buff.head := rfl
  rw [h.contents_eq, hwf.contents_eq, hslot, htail, hhead,
    Ring.contents_update_tail h.head_lt h.tail_lt hht]
  exact Ring.contents_pop h.head_lt h.tail_lt hht

/-- Popping removes and returns the oldest message. -/
theorem msgBufferPop_cons (h : buff.Wf k) {ms : List Message} (hc : buff.contents = m :: ms) :
    msgBufferPop buff = (msgBufferDropOldest buff, some m) ∧
      (msgBufferDropOldest buff).Wf k ∧ (msgBufferDropOldest buff).contents = ms := by
  have hne : buff.contents ≠ [] := by simp [hc]
  obtain ⟨hwf, hcons⟩ := dropOldest_spec h hne
  have hempty : ¬ msgBufferIsEmpty buff = true := by rwa [h.msgBufferIsEmpty_iff]
  rw [hc, List.cons.injEq] at hcons
  refine ⟨?_, hwf, hcons.2.symm⟩
  rw [msgBufferPop, if_neg hempty, hcons.1]
  rfl

/-- Storing into a ring with room appends the stamped message. -/
theorem store_spec (h : buff.Wf k) (hroom : buff.contents.length < 2 ^ k - 1) :
    (msgBufferStore buff m).Wf k ∧ (msgBufferStore buff m).contents =
      buff.contents ++ [{ m with sequence := buff.sequence + 1#32 }] := by
  have hlen : Ring.len (2 ^ k) buff.head.toNat buff.tail.toNat + 1 < 2 ^ k := by
    rw [h.contents_eq, Ring.length_contents] at hroom
    omega
  have hwf : (msgBufferStore buff m).Wf k :=
    { one_le := h.one_le
      size_eq := h.size_eq
      length_eq := by rw [msgBufferStore, List.length_set, h.length_eq]
      head_lt := by
        rw [msgBufferStore, h.toNat_mask_head_succ]
        exact Ring.idx_lt (Nat.two_pow_pos k)
      tail_lt := h.tail_lt }
  refine ⟨hwf, ?_⟩
  have hslot : (msgBufferStore buff m).slot = Function.update buff.slot buff.head.toNat
      { m with sequence := buff.sequence + 1#32 } :=
    slot_set (by rw [h.length_eq]; exact h.head_lt)
  have hhead : (msgBufferStore buff m).head.toNat = Ring.idx (2 ^ k) buff.head.toNat 1 :=
    h.toNat_mask_head_succ
  have htail : (msgBufferStore buff m).tail = buff.tail := rfl
  rw [h.contents_eq, hwf.contents_eq, hslot, hhead, htail]
  exact Ring.contents_push h.head_lt h.tail_lt hlen _

/-! ### Moving an entry to the front -/

/-- `b` has the indices of `buff` and, at the position `i` counted from `tail`, the message `f i`. -/
structure Arranged (k : ℕ) (buff b : MessageBuffer) (f : ℕ → Message) : Prop where
  wf : b.Wf k
  head_eq : b.head = buff.head
  tail_eq : b.tail = buff.tail
  slot_eq : ∀ i, i < 2 ^ k → b.slot (Ring.idx (2 ^ k) buff.tail.toNat i) = f i

theorem Arranged.refl (h : buff.Wf k) :
    Arranged k buff buff fun i => buff.slot (Ring.idx (2 ^ k) buff.tail.toNat i) :=
  ⟨h, rfl, rfl, fun _ _ => rfl⟩

/-- Exchanging the slots of two positions exchanges their messages. -/
theorem Arranged.swapItem {b : MessageBuffer} {f : ℕ → Message} (h : Arranged k buff b f) {i j : ℕ}
    (ht : buff.tail.toNat < 2 ^ k) (hi : i < 2 ^ k) (hj : j < 2 ^ k) {org dest : CInt}
    (horg : org.toNat = Ring.idx (2 ^ k) buff.tail.toNat i)
    (hdest : dest.toNat = Ring.idx (2 ^ k) buff.tail.toNat j) :
    Arranged k buff (msgBufferSwapItem b org dest)
      fun m => if m = j then f i else if m = i then f j else f m := by
  have hlt : ∀ l, Ring.idx (2 ^ k) buff.tail.toNat l < b.buffer.length := fun l => by
    rw [h.wf.length_eq]
    exact Ring.idx_lt (Nat.two_pow_pos k)
  have hslot : (msgBufferSwapItem b org dest).slot = Ring.swapped b.slot org.toNat dest.toNat := by
    rw [msgBufferSwapItem, slot_set (by rw [List.length_set, hdest]; exact hlt j),
      slot_set (by rw [horg]; exact hlt i)]
    rfl
  refine ⟨?_, h.head_eq, h.tail_eq, fun m hm => ?_⟩
  · exact ⟨h.wf.one_le, h.wf.size_eq, by simp [msgBufferSwapItem, h.wf.length_eq], h.wf.head_lt,
      h.wf.tail_lt⟩
  · rw [hslot, horg, hdest, Ring.slot_swapped ht hi hj hm, h.slot_eq i hi, h.slot_eq j hj,
      h.slot_eq m hm]

/-- The loop moves the message at position `p + 1` to position 1 and shifts those between. -/
theorem Arranged.swapLoop {b : MessageBuffer} {f : ℕ → Message} (h : Arranged k buff b f) {p : ℕ}
    (ht : buff.tail.toNat < 2 ^ k) (hp : p + 1 < 2 ^ k) {org last : CInt} {fuel : ℕ}
    (hfuel : p < fuel) (horg : org.toNat = Ring.idx (2 ^ k) buff.tail.toNat 0)
    (hlast : last.toNat = Ring.idx (2 ^ k) buff.tail.toNat (p + 1)) :
    Arranged k buff (msgBufferSwapLoop org fuel last b)
      fun m => if m = 1 then f (p + 1) else if 2 ≤ m ∧ m ≤ p + 1 then f (m - 1) else f m := by
  induction p generalizing b f last fuel with
  | zero =>
      obtain ⟨fuel, rfl⟩ : ∃ n, fuel = n + 1 := ⟨fuel - 1, by omega⟩
      have hstop : b.mask (last - 1#32) = org := by
        rw [← BitVec.toNat_inj, h.wf.toNat_mask_pred, hlast, horg, Ring.idx_pred ht hp]
      rw [msgBufferSwapLoop, if_pos hstop]
      refine ⟨h.wf, h.head_eq, h.tail_eq, fun m hm => ?_⟩
      rw [h.slot_eq m hm]
      split_ifs with h1 h2
      · rw [h1]
      · omega
      · rfl
  | succ p ih =>
      obtain ⟨fuel, rfl⟩ : ∃ n, fuel = n + 1 := ⟨fuel - 1, by omega⟩
      have hrundown : (b.mask (last - 1#32)).toNat = Ring.idx (2 ^ k) buff.tail.toNat (p + 1) := by
        rw [h.wf.toNat_mask_pred, hlast, Ring.idx_pred ht hp]
      have hgo : ¬ b.mask (last - 1#32) = org := by
        rw [← BitVec.toNat_inj, hrundown, horg, Ring.idx_inj ht (by omega) (by omega)]
        omega
      rw [msgBufferSwapLoop, if_neg hgo]
      have hswap := h.swapItem ht (by omega) hp hrundown hlast
      have hfuel' : p < fuel := by omega
      have hloop := ih hswap (by omega) hfuel' hrundown
      refine ⟨hloop.wf, hloop.head_eq, hloop.tail_eq, fun m hm => ?_⟩
      rw [hloop.slot_eq m hm]
      split_ifs <;> first | rfl | omega | (congr 1; omega)

theorem Arranged.congr {b : MessageBuffer} {f g : ℕ → Message} (h : Arranged k buff b f)
    (hfg : ∀ i, f i = g i) : Arranged k buff b g :=
  ⟨h.wf, h.head_eq, h.tail_eq, fun i hi => (h.slot_eq i hi).trans (hfg i)⟩

theorem Arranged.contents_eq {b : MessageBuffer} {f : ℕ → Message} (h : Arranged k buff b f)
    (hwf : buff.Wf k) : b.contents = (List.range buff.contents.length).map f := by
  rw [h.wf.contents_eq, hwf.contents_eq, Ring.length_contents, Ring.contents, h.head_eq, h.tail_eq]
  apply List.map_congr_left
  intro i hi
  exact h.slot_eq i (lt_trans (List.mem_range.mp hi) (Ring.len_lt (Nat.two_pow_pos k)))

/-- Swapping position 0 with position `n` moves the `n`-th message to the front. -/
theorem contents_msgBufferSwap (h : buff.Wf k) {n : CInt} (hn : n.toNat < buff.contents.length) :
    (msgBufferSwap buff 0#32 n).Wf k ∧ (msgBufferSwap buff 0#32 n).contents =
      buff.contents[n.toNat] :: buff.contents.eraseIdx n.toNat := by
  rcases Nat.eq_zero_or_pos n.toNat with hzero | hpos
  · have hn0 : (0#32 : CInt) = n := by rw [← BitVec.toNat_inj, hzero]; rfl
    rw [msgBufferSwap, if_pos hn0]
    refine ⟨h, ?_⟩
    simp only [hzero, List.eraseIdx_zero]
    generalize buff.contents = ms at hn
    cases ms with
    | nil => simp at hn
    | cons m ms => rfl
  · obtain ⟨p, hp⟩ : ∃ p, n.toNat = p + 1 := ⟨n.toNat - 1, by omega⟩
    have hlen := h.length_contents_lt
    have hne : ¬ (0#32 : CInt) = n := by
      rw [← BitVec.toNat_inj, BitVec.toNat_ofNat]
      omega
    have horg : (buff.mask (buff.tail + 0#32)).toNat = Ring.idx (2 ^ k) buff.tail.toNat 0 :=
      h.toNat_mask_add
    have hdest : (buff.mask (buff.tail + n)).toNat = Ring.idx (2 ^ k) buff.tail.toNat (p + 1) := by
      rw [h.toNat_mask_add, hp]
    have hfuel : p < buff.size.toNat := by
      rw [h.size_eq]
      omega
    have hfirst := (Arranged.refl h).swapItem h.tail_lt (by omega) (by omega) horg hdest
    have hloop := hfirst.swapLoop h.tail_lt (by omega) hfuel horg hdest
    -- the exchange and the loop together rotate the positions 0 … p + 1 by one
    have hrot := hloop.congr (g := fun i =>
      buff.slot (Ring.idx (2 ^ k) buff.tail.toNat
        (if i = 0 then p + 1 else if i ≤ p + 1 then i - 1 else i))) <| by
      intro i
      rcases i with _ | _ | i
      · simp
      · simp
      · by_cases hi : i + 2 ≤ p + 1
        · rw [if_neg (by omega), if_pos ⟨by omega, hi⟩, if_neg (by omega), if_neg (by omega),
            if_neg (by omega), if_pos hi]
        · rw [if_neg (by omega), if_neg (by omega), if_neg (by omega), if_neg (by omega),
            if_neg (by omega), if_neg hi]
    rw [msgBufferSwap, if_neg hne]
    refine ⟨hrot.wf, ?_⟩
    have hget : ∀ i (hi : i < buff.contents.length),
        buff.contents[i] = buff.slot (Ring.idx (2 ^ k) buff.tail.toNat i) := by
      intro i hi
      simp only [h.contents_eq, Ring.getElem_contents]
    rw [hrot.contents_eq h]
    apply List.ext_getElem
    · simp only [List.length_map, List.length_range, List.length_cons, List.length_eraseIdx]
      rw [if_pos hn]
      omega
    · intro i hi _
      rw [List.length_map, List.length_range] at hi
      rw [List.getElem_map, List.getElem_range]
      rcases i with _ | i
      · simp only [List.getElem_cons_zero, hget, hp]
        simp
      · rw [List.getElem_cons_succ, List.getElem_eraseIdx]
        simp only [hget, hp]
        rw [if_neg (Nat.succ_ne_zero i)]
        split_ifs <;> first | rfl | omega

end GokeWebcam.Common
