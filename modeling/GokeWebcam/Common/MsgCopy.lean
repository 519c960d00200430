import GokeWebcam.Common.MsgBuffer
import GokeWebcam.Lib.BlockHeap

/-!
# The blocks of the queued messages

`common/buffer/msg_buffer.c` with the pointers of the messages as they are. A message copied into the ring,
or out of it, is to have blocks of its own; `msg_deep_copy` says so where it could not allocate one, but
neither `msg_buffer_push` nor `msg_buffer_pop` looks at what it says.

* `msgDeepCopy`, `msgBufferPush`, `msgBufferPop`: the functions, each allocation with its outcome.
* `Exclusive`: the messages in the ring own their blocks.
* `copyBoth_spec`: what is copied, and what becomes of a pointer without a size.
* `copies_iff`: a push and a pop hand on complete copies or report that they do not, iff that is so.
* `alloc_ignored`: an allocation that fails.
-/

namespace GokeWebcam.Common.Raw

open Lib

/-! ### Messages -/

/-- The two blocks of a message. -/
inductive Payload
  | arg | extra
  deriving DecidableEq, Repr

/-- `message_t` with the addresses of its blocks; `none` is `NULL`.
Source: `common/buffer/msg_buffer.h` `message_t` -/
structure RawMessage where
  message : CInt := 0#32
  sender : CInt := 0#32
  receiver : CInt := 0#32
  result : CInt := 0#32
  argIn : MessageArg := {}
  argPass : MessageArg := {}
  argSize : CInt := 0#32
  arg : Option ℕ := none
  extraSize : CInt := 0#32
  extra : Option ℕ := none
  sequence : BitVec 32 := 0#32
  deriving DecidableEq, Repr

namespace RawMessage

def ptr (m : RawMessage) : Payload → Option ℕ
  | .arg => m.arg
  | .extra => m.extra

def size (m : RawMessage) : Payload → CInt
  | .arg => m.argSize
  | .extra => m.extraSize

def setPtr (m : RawMessage) (p : Payload) (a : ℕ) : RawMessage :=
  match p with
  | .arg => { m with arg := some a }
  | .extra => { m with extra := some a }

def clear (m : RawMessage) : Payload → RawMessage
  | .arg => { m with arg := none, argSize := 0#32 }
  | .extra => { m with extra := none, extraSize := 0#32 }

/-- `size > 0`. -/
def Sized (m : RawMessage) (p : Payload) : Prop := BitVec.slt 0#32 (m.size p) = true

instance {m : RawMessage} {p : Payload} : Decidable (m.Sized p) := inferInstanceAs (Decidable (_ = true))

/-- The block at the address is the message's. -/
def Owns (m : RawMessage) (p : Payload) (a : ℕ) : Prop := m.ptr p = some a ∧ m.Sized p

end RawMessage

open RawMessage

/-- Source: `common/buffer/msg_buffer.c` `msg_deep_copy`, `free` -/
def freePayload (m : RawMessage) (p : Payload) (heap : Heap) : Option Heap :=
  match m.ptr p with
  | none => some heap
  | some a => if m.Sized p then heap.free a else some heap

/-- The copy of one block, `ok` being whether `calloc` finds room for it; the third component is whether the
function goes on.
Source: `common/buffer/msg_buffer.c` `msg_deep_copy`, `calloc`, `memcpy` -/
def copyPayload (ok : Payload → Bool) (source : RawMessage) (p : Payload) (heap : Heap)
    (dest : RawMessage) : Option (Heap × RawMessage × Bool) :=
  match source.ptr p with
  | none => some (heap, dest, true)
  | some a =>
    if source.Sized p then
      if ok p then
        (heap.read a (source.size p).toNat).map fun block =>
          (heap.add block, dest.setPtr p heap.next, true)
      else some (heap, dest, false)
    else some (heap, dest, true)

/-- Source: `common/buffer/msg_buffer.c` `msg_deep_copy`, from `memcpy(dest, source, ..)` on -/
def copyBoth (ok : Payload → Bool) (source : RawMessage) (heap : Heap) :
    Option (Heap × RawMessage × Bool) :=
  (copyPayload ok source .arg heap source).bind fun r =>
    if r.2.2 then copyPayload ok source .extra r.1 r.2.1 else some r

/-- The third component is false where the function returns -1.
Source: `common/buffer/msg_buffer.c` `msg_deep_copy` -/
def msgDeepCopy (ok : Payload → Bool) (dest source : RawMessage) (heap : Heap) :
    Option (Heap × RawMessage × Bool) :=
  (freePayload dest .arg heap).bind fun heap =>
    (freePayload dest .extra heap).bind fun heap => copyBoth ok source heap

/-- Free the block and clear the pointer.
Source: `common/buffer/msg_buffer.c` `msg_buffer_pop`, `msg_buffer_push` -/
def releasePayload (p : Payload) (r : Heap × RawMessage) : Option (Heap × RawMessage) :=
  match r.2.ptr p with
  | none => some r
  | some a => if r.2.Sized p then (r.1.free a).map fun heap => (heap, r.2.clear p) else some r

/-- Source: `common/buffer/msg_buffer.c` `msg_buffer_pop`, `msg_buffer_push` -/
def releaseSlot (heap : Heap) (m : RawMessage) : Option (Heap × RawMessage) :=
  (releasePayload .arg (heap, m)).bind (releasePayload .extra)

/-! ### The ring -/

/-- Source: `common/buffer/msg_buffer.h` `message_buffer_t` -/
structure RawBuffer where
  slot : ℕ → RawMessage := fun _ => {}
  size : CInt := 0#32
  head : CInt := 0#32
  tail : CInt := 0#32
  init : Bool := false
  overflow : MsgBufferOverflow := .no
  sequence : BitVec 32 := 0#32

/-- `x & (size - 1)`. -/
def RawBuffer.mask (buff : RawBuffer) (x : CInt) : CInt := x &&& (buff.size - 1#32)

/-- Source: `common/buffer/msg_buffer.c` `msg_buffer_is_empty` -/
def msgBufferIsEmpty (buff : RawBuffer) : Bool := buff.head == buff.tail

/-- Source: `common/buffer/msg_buffer.c` `msg_buffer_is_full` -/
def msgBufferIsFull (buff : RawBuffer) : Bool := buff.mask (buff.head - buff.tail) == buff.size - 1#32

/-- Free what the oldest slot owns and advance `tail`.
Source: `common/buffer/msg_buffer.c` `msg_buffer_pop`, `msg_buffer_push` -/
def msgBufferDropOldest (heap : Heap) (buff : RawBuffer) : Option (Heap × RawBuffer) :=
  (releaseSlot heap (buff.slot buff.tail.toNat)).map fun r =>
    (r.1, { buff with
      slot := Function.update buff.slot buff.tail.toNat r.2
      tail := buff.mask (buff.tail + 1#32) })

/-- Source: `common/buffer/msg_buffer.c` `msg_buffer_push`, from `sequence++` on -/
def msgBufferStore (ok : Payload → Bool) (heap : Heap) (buff : RawBuffer) (data : RawMessage) :
    Option (Heap × RawBuffer) :=
  let sequence := buff.sequence + 1#32
  (msgDeepCopy ok (buff.slot buff.head.toNat) data heap).map fun r =>
    (r.1, { buff with
      sequence := sequence
      slot := Function.update buff.slot buff.head.toNat { r.2.1 with sequence := sequence }
      head := buff.mask (buff.head + 1#32) })

/-- Source: `common/buffer/msg_buffer.c` `msg_buffer_push` -/
def msgBufferPush (ok : Payload → Bool) (heap : Heap) (buff : RawBuffer) (data : Option RawMessage) :
    Option (Heap × RawBuffer × MsgBufferPushResult) :=
  match data with
  | none => some (heap, buff, .fail)
  | some data =>
    if msgBufferIsFull buff then
      if buff.overflow = .yes then
        (msgBufferDropOldest heap buff).bind fun r =>
          (msgBufferStore ok r.1 r.2 data).map fun r => (r.1, r.2, .successWithOverflow)
      else some (heap, buff, .fail)
    else (msgBufferStore ok heap buff data).map fun r => (r.1, r.2, .success)

/-- The result is the heap, the ring, the message handed out and what is returned.
Source: `common/buffer/msg_buffer.c` `msg_buffer_pop` -/
def msgBufferPop (ok : Payload → Bool) (heap : Heap) (buff : RawBuffer) (data : RawMessage) :
    Option (Heap × RawBuffer × RawMessage × ℤ) :=
  if msgBufferIsEmpty buff then some (heap, buff, data, 1)
  else
    (msgDeepCopy ok data (buff.slot buff.tail.toNat) heap).bind fun r =>
      (msgBufferDropOldest r.1 buff).map fun d => (d.1, d.2, r.2.1, 0)

/-! ### What the claims on a copy are -/

/-- The bytes behind a pointer, where there is a block of that size. -/
def payload (heap : Heap) (m : RawMessage) (p : Payload) : Option (List Byte) :=
  (m.ptr p).bind fun a => if m.Sized p then heap.read a (m.size p).toNat else none

/-- The blocks of the copy are complete and new, and each is its own. -/
structure HoldsCopy (heap heap' : Heap) (source copy : RawMessage) : Prop where
  eq_none : ∀ p, payload heap source p = none → copy.ptr p = none
  eq_some : ∀ p block, payload heap source p = some block →
    ∃ b, copy.ptr p = some b ∧ heap.next ≤ b ∧ heap'.blocks b = some block
  distinct : ∀ b, copy.arg = some b → copy.extra ≠ some b

/-- A block that the copy needs cannot be allocated. -/
def CopyFails (ok : Payload → Bool) (m : RawMessage) : Prop :=
  ∃ p a, m.ptr p = some a ∧ m.Sized p ∧ ok p = false

/-- Each pointer has a size, and its block can be allocated. -/
def Copies (ok : Payload → Bool) (m : RawMessage) : Prop :=
  ∀ p a, m.ptr p = some a → m.Sized p ∧ ok p = true

/-- A push succeeds only if the entry holds a copy of its own, and where it fails, or has to, nothing
changes. -/
def PushSound (ok : Payload → Bool) (heap : Heap) (buff : RawBuffer) (data : Option RawMessage) : Prop :=
  ∃ heap' buff' result, msgBufferPush ok heap buff data = some (heap', buff', result) ∧
    (result ≠ .fail → ∀ m ∈ data, HoldsCopy heap heap' m (buff'.slot buff.head.toNat)) ∧
    ((∃ m ∈ data, CopyFails ok m) → result = .fail) ∧ (result = .fail → buff' = buff)

/-- The same of the message that a pop hands out. -/
def PopSound (ok : Payload → Bool) (heap : Heap) (buff : RawBuffer) (data : RawMessage) : Prop :=
  ∃ heap' buff' copy ret, msgBufferPop ok heap buff data = some (heap', buff', copy, ret) ∧
    (ret = 0 → HoldsCopy heap heap' (buff.slot buff.tail.toNat) copy) ∧
    (msgBufferIsEmpty buff = false → CopyFails ok (buff.slot buff.tail.toNat) → ret ≠ 0) ∧
    (ret ≠ 0 → buff' = buff)

/-- There is nothing to push, no room for it, or its copy can be made. -/
def PushHolds (ok : Payload → Bool) (buff : RawBuffer) (data : Option RawMessage) : Prop :=
  ∀ m ∈ data, (msgBufferIsFull buff = true ∧ buff.overflow = .no) ∨ Copies ok m

/-- There is nothing to pop, or its copy can be made. -/
def PopHolds (ok : Payload → Bool) (buff : RawBuffer) : Prop :=
  msgBufferIsEmpty buff = true ∨ Copies ok (buff.slot buff.tail.toNat)

/-- The blocks that the message owns are there. -/
def Readable (heap : Heap) (m : RawMessage) : Prop :=
  ∀ p a, m.Owns p a → (heap.read a (m.size p).toNat).isSome

/-- The blocks that the messages in the ring own are theirs alone. -/
structure Exclusive (heap : Heap) (buff : RawBuffer) : Prop where
  valid : ∀ i, Readable heap (buff.slot i)
  distinct : ∀ i j p q a, (buff.slot i).Owns p a → (buff.slot j).Owns q a → i = j ∧ p = q

/-- The blocks of a message outside the ring are there, and not the ring's. -/
structure Outside (heap : Heap) (buff : RawBuffer) (m : RawMessage) : Prop where
  valid : Readable heap m
  apart : ∀ p a i q, m.Owns p a → ¬ (buff.slot i).Owns q a

variable {ok : Payload → Bool} {heap heap' : Heap} {buff : RawBuffer} {m source dest copy : RawMessage}
  {p q : Payload} {a b i : ℕ}

/-! ### Copying -/

theorem ptr_setPtr : (m.setPtr p a).ptr q = if q = p then some a else m.ptr q := by
  cases p <;> cases q <;> rfl

/-- What the copy of one block does: it leaves the other blocks and the other pointer alone; without a size
the pointer stays; and where the block is not refused, it is copied. -/
structure CopyStep (ok : Payload → Bool) (source : RawMessage) (p : Payload) (heap : Heap)
    (dest : RawMessage) (r : Heap × RawMessage × Bool) : Prop where
  kept : ∀ a, (heap.blocks a).isSome → r.1.blocks a = heap.blocks a
  next_le : heap.next ≤ r.1.next
  rest : ∃ x y, r.2.1 = { dest with arg := x, extra := y }
  other : ∀ q, q ≠ p → r.2.1.ptr q = dest.ptr q
  unsized : ¬ source.Sized p → r.2.1.ptr p = dest.ptr p
  copied : (∀ a, source.ptr p = some a → source.Sized p ∧ ok p = true) → r.2.2 = true ∧
    (payload heap source p = none → r.2.1.ptr p = dest.ptr p) ∧
    (∀ block, payload heap source p = some block →
      r.2.1.ptr p = some heap.next ∧ r.1.blocks heap.next = some block)

theorem CopyStep.refl (h : source.ptr p = none ∨ ¬ source.Sized p) :
    CopyStep ok source p heap dest (heap, dest, true) := by
  refine ⟨fun _ _ => rfl, le_rfl, ⟨_, _, rfl⟩, fun _ _ => rfl, fun _ => rfl, fun _ => ⟨rfl, fun _ => rfl, ?_⟩⟩
  intro block hblock
  rw [payload, Option.bind_eq_some_iff] at hblock
  obtain ⟨a, ha, hread⟩ := hblock
  rcases h with hnull | hsize
  · simp [hnull] at ha
  · simp [hsize] at hread

/-- Where the source owns a block that is there, the copy has a result. -/
theorem copyPayload_spec (ok : Payload → Bool) (dest : RawMessage)
    (hvalid : ∀ a, source.Owns p a → (heap.read a (source.size p).toNat).isSome) :
    ∃ r, copyPayload ok source p heap dest = some r ∧ CopyStep ok source p heap dest r := by
  rcases hptr : source.ptr p with _ | a
  · refine ⟨_, by rw [copyPayload, hptr], .refl (.inl hptr)⟩
  by_cases hsize : source.Sized p
  swap
  · exact ⟨_, by simp [copyPayload, hptr, hsize], .refl (.inr hsize)⟩
  obtain ⟨block, hblock⟩ := Option.isSome_iff_exists.mp (hvalid a ⟨hptr, hsize⟩)
  rcases hok : ok p with _ | _
  · refine ⟨(heap, dest, false), by simp [copyPayload, hptr, hsize, hok], fun _ _ => rfl, le_rfl,
      ⟨_, _, rfl⟩, fun _ _ => rfl, fun _ => rfl, fun hcopied => ?_⟩
    have htrue := (hcopied a hptr).2
    rw [hok] at htrue
    cases htrue
  · refine ⟨(heap.add block, dest.setPtr p heap.next, true), ?_, ?_, Nat.le_succ _, ?_, ?_, ?_, ?_⟩
    · simp [copyPayload, hptr, hsize, hok, hblock]
    · exact fun b hb => Heap.blocks_add (Heap.lt_next hb).ne
    · cases p
      · exact ⟨_, _, rfl⟩
      · exact ⟨_, _, rfl⟩
    · intro q hq
      rw [ptr_setPtr, if_neg hq]
    · exact fun hnot => absurd hsize hnot
    · intro _
      have hpayload : payload heap source p = some block := by simp [payload, hptr, hsize, hblock]
      refine ⟨rfl, ?_, ?_⟩
      · rw [hpayload]
        exact fun hnone => by cases hnone
      · rw [hpayload]
        rintro _ ⟨⟩
        exact ⟨by rw [ptr_setPtr, if_pos rfl], Heap.blocks_add_next⟩

theorem read_of_kept (hkept : ∀ a, (heap.blocks a).isSome → heap'.blocks a = heap.blocks a) {n : ℕ}
    (ha : (heap.blocks a).isSome) : heap'.read a n = heap.read a n := by
  rw [Heap.read, Heap.read, hkept a ha]

theorem blocks_of_readable (hm : Readable heap m) (hown : m.Owns p a) : (heap.blocks a).isSome := by
  obtain ⟨block, hblock⟩ := Option.isSome_iff_exists.mp (hm p a hown)
  exact Heap.blocks_of_read hblock

theorem Readable.of_kept (hm : Readable heap m)
    (hkept : ∀ a, (heap.blocks a).isSome → heap'.blocks a = heap.blocks a) : Readable heap' m := by
  intro p a hown
  rw [read_of_kept hkept (blocks_of_readable hm hown)]
  exact hm p a hown

theorem payload_of_kept (hm : Readable heap m)
    (hkept : ∀ a, (heap.blocks a).isSome → heap'.blocks a = heap.blocks a) :
    payload heap' m p = payload heap m p := by
  rcases hptr : m.ptr p with _ | a
  · simp [payload, hptr]
  · by_cases hsize : m.Sized p
    · simp [payload, hptr, hsize, read_of_kept hkept (blocks_of_readable hm ⟨hptr, hsize⟩)]
    · simp [payload, hptr, hsize]

/-- What can be copied and has no bytes is `NULL`. -/
theorem ptr_of_payload_none (hvalid : Readable heap source) (hcopies : Copies ok source)
    (hnone : payload heap source p = none) : source.ptr p = none := by
  rcases hptr : source.ptr p with _ | a
  · rfl
  · have hsize := (hcopies p a hptr).1
    have hread := hvalid p a ⟨hptr, hsize⟩
    simp only [payload, hptr, Option.bind_some, if_pos hsize] at hnone
    rw [hnone] at hread
    cases hread

/-- Where both blocks are copied, the two steps make a copy. -/
theorem CopyStep.holdsCopy {r t : Heap × RawMessage × Bool} (h : CopyStep ok source .arg heap source r)
    (h' : CopyStep ok source .extra r.1 r.2.1 t) (hvalid : Readable heap source)
    (hcopies : Copies ok source) : HoldsCopy heap t.1 source t.2.1 := by
  have harg : t.2.1.arg = r.2.1.arg := h'.other .arg (by simp)
  have hextra : r.2.1.extra = source.extra := h.other .extra (by simp)
  obtain ⟨-, hargNone, hargSome⟩ := h.copied (hcopies .arg)
  obtain ⟨-, hextraNone, hextraSome⟩ := h'.copied (hcopies .extra)
  rw [payload_of_kept hvalid h.kept] at hextraNone hextraSome
  have hargNull : payload heap source .arg = none → t.2.1.arg = none := fun hnone =>
    harg.trans ((hargNone hnone).trans (ptr_of_payload_none hvalid hcopies hnone))
  have hextraNull : payload heap source .extra = none → t.2.1.extra = none := fun hnone =>
    (hextraNone hnone).trans (hextra.trans (ptr_of_payload_none hvalid hcopies hnone))
  constructor
  · intro p hnone
    cases p with
    | arg => exact hargNull hnone
    | extra => exact hextraNull hnone
  · intro p block hblock
    cases p with
    | arg =>
      obtain ⟨hptr, hstored⟩ := hargSome block hblock
      refine ⟨heap.next, harg.trans hptr, le_rfl, ?_⟩
      rw [h'.kept _ (by rw [hstored]; rfl), hstored]
    | extra =>
      obtain ⟨hptr, hstored⟩ := hextraSome block hblock
      exact ⟨r.1.next, hptr, h.next_le, hstored⟩
  · intro b hb hb'
    rcases hpayload : payload heap source .arg with _ | block
    · rw [hargNull hpayload] at hb
      cases hb
    rcases hpayload' : payload heap source .extra with _ | block'
    · rw [hextraNull hpayload'] at hb'
      cases hb'
    obtain ⟨hptr, hstored⟩ := hargSome block hpayload
    have hnext : b = heap.next := Option.some.inj (hb.symm.trans (harg.trans hptr))
    have hnext' : b = r.1.next := Option.some.inj (hb'.symm.trans (hextraSome block' hpayload').1)
    have hlt : heap.next < r.1.next := Heap.lt_next (by rw [hstored]; rfl)
    omega

/-- What `msg_deep_copy` does once it has freed the old blocks. -/
structure CopyEffect (ok : Payload → Bool) (source : RawMessage) (heap : Heap)
    (r : Heap × RawMessage × Bool) : Prop where
  kept : ∀ a, (heap.blocks a).isSome → r.1.blocks a = heap.blocks a
  rest : ∃ x y, r.2.1 = { source with arg := x, extra := y }
  unsized : ∀ p, ¬ source.Sized p → r.2.1.ptr p = source.ptr p
  copied : Copies ok source → r.2.2 = true ∧ HoldsCopy heap r.1 source r.2.1

theorem copyBoth_spec (ok : Payload → Bool) (hvalid : Readable heap source) :
    ∃ r, copyBoth ok source heap = some r ∧ CopyEffect ok source heap r := by
  obtain ⟨r, hr, h⟩ := copyPayload_spec ok source (hvalid .arg)
  obtain ⟨x, y, hrest⟩ := h.rest
  rcases hgo : r.2.2 with _ | _
  · refine ⟨r, by simp [copyBoth, hr, hgo], h.kept, ⟨x, y, hrest⟩, fun p hp => ?_, fun hcopies => ?_⟩
    · cases p with
      | arg => exact h.unsized hp
      | extra => exact h.other .extra (by simp)
    · have htrue := (h.copied (hcopies .arg)).1
      rw [hgo] at htrue
      cases htrue
  · obtain ⟨t, ht, h'⟩ := copyPayload_spec ok r.2.1 (hvalid.of_kept h.kept .extra)
    obtain ⟨x', y', hrest'⟩ := h'.rest
    have harg : t.2.1.arg = r.2.1.arg := h'.other .arg (by simp)
    have hextra : r.2.1.extra = source.extra := h.other .extra (by simp)
    refine ⟨t, by simp [copyBoth, hr, hgo, ht], fun a ha => ?_, ⟨x', y', by rw [hrest', hrest]⟩,
      fun p hp => ?_, fun hcopies => ?_⟩
    · have hkept := h.kept a ha
      rw [h'.kept a (by rw [hkept]; exact ha), hkept]
    · cases p with
      | arg => exact harg.trans (h.unsized hp)
      | extra => exact (h'.unsized hp).trans hextra
    · exact ⟨(h'.copied (hcopies .extra)).1, h.holdsCopy h' hvalid hcopies⟩

/-! ### Freeing -/

instance : Decidable (m.Owns p a) := inferInstanceAs (Decidable (_ ∧ _))

def freeBoth (m : RawMessage) (heap : Heap) : Option Heap :=
  (freePayload m .arg heap).bind (freePayload m .extra)

theorem msgDeepCopy_eq : msgDeepCopy ok dest source heap = (freeBoth dest heap).bind (copyBoth ok source) := by
  rw [msgDeepCopy, freeBoth, Option.bind_assoc]

/-- Nothing but the block the message owns is gone. -/
theorem freePayload_spec (hvalid : ∀ a, m.Owns p a → (heap.blocks a).isSome) :
    ∃ heap', freePayload m p heap = some heap' ∧ heap'.next = heap.next ∧
      ∀ a, heap'.blocks a = if m.Owns p a then none else heap.blocks a := by
  rcases hptr : m.ptr p with _ | b
  · refine ⟨heap, by rw [freePayload, hptr], rfl, fun a => ?_⟩
    simp [Owns, hptr]
  by_cases hsize : m.Sized p
  · obtain ⟨heap', hfree⟩ := Heap.exists_free (hvalid b ⟨hptr, hsize⟩)
    refine ⟨heap', by simp [freePayload, hptr, hsize, hfree], Heap.next_free hfree, fun a => ?_⟩
    rw [Heap.blocks_free hfree, Function.update_apply]
    simp [Owns, hptr, hsize, eq_comm]
  · refine ⟨heap, by simp [freePayload, hptr, hsize], rfl, fun a => ?_⟩
    simp [Owns, hsize]

/-- The two blocks of the message are not the same. -/
def Distinct (m : RawMessage) : Prop := ∀ a, m.Owns .arg a → ¬ m.Owns .extra a

/-- From `heap` to `heap'` the blocks of the message are freed. -/
structure Freed (m : RawMessage) (heap heap' : Heap) : Prop where
  next : heap'.next = heap.next
  kept : ∀ a, (∀ p, ¬ m.Owns p a) → heap'.blocks a = heap.blocks a
  gone : ∀ p a, m.Owns p a → heap'.blocks a = none

theorem freeBoth_spec (hvalid : Readable heap m) (hown : Distinct m) :
    ∃ heap', freeBoth m heap = some heap' ∧ Freed m heap heap' := by
  obtain ⟨heap₁, h₁, hnext₁, hblocks₁⟩ := freePayload_spec fun a => blocks_of_readable (a := a) (p := .arg) hvalid
  have hstill : ∀ a, m.Owns .extra a → (heap₁.blocks a).isSome := by
    intro a ha
    rw [hblocks₁, if_neg fun harg => hown a harg ha]
    exact blocks_of_readable hvalid ha
  obtain ⟨heap₂, h₂, hnext₂, hblocks₂⟩ := freePayload_spec hstill
  refine ⟨heap₂, by rw [freeBoth, h₁, Option.bind_some, h₂], hnext₂.trans hnext₁, fun a ha => ?_,
    fun p a ha => ?_⟩
  · rw [hblocks₂, if_neg (ha .extra), hblocks₁, if_neg (ha .arg)]
  · rw [hblocks₂, hblocks₁]
    cases p with
    | arg => simp [ha]
    | extra => simp [ha]

/-- What a slot is left with when a block has been freed. -/
def cleared (m : RawMessage) (p : Payload) : RawMessage :=
  if (m.ptr p).isSome ∧ m.Sized p then m.clear p else m

theorem releasePayload_eq :
    releasePayload p (heap, m) = (freePayload m p heap).map fun heap => (heap, cleared m p) := by
  rcases hptr : m.ptr p with _ | a
  · simp [releasePayload, freePayload, cleared, hptr]
  · by_cases hsize : m.Sized p
    · simp [releasePayload, freePayload, cleared, hptr, hsize]
    · simp [releasePayload, freePayload, cleared, hptr, hsize]

theorem freePayload_cleared : freePayload (cleared m .arg) .extra heap = freePayload m .extra heap := by
  rw [cleared]
  split_ifs <;> rfl

theorem releaseSlot_eq : releaseSlot heap m =
    (freeBoth m heap).map fun heap => (heap, cleared (cleared m .arg) .extra) := by
  rw [releaseSlot, releasePayload_eq, freeBoth, Option.map_bind, Option.bind_map]
  congr 1
  funext heap
  rw [Function.comp_apply, releasePayload_eq, freePayload_cleared]
  rfl

theorem not_owns_cleared_self : ¬ (cleared m p).Owns p a := by
  rw [cleared]
  split_ifs with h
  · cases p <;> simp [Owns, clear, ptr]
  · rintro ⟨hptr, hsize⟩
    exact h ⟨by rw [hptr]; rfl, hsize⟩

theorem owns_cleared (hne : q ≠ p) : (cleared m p).Owns q a ↔ m.Owns q a := by
  rw [cleared]
  split_ifs
  · cases p <;> cases q <;> first | exact absurd rfl hne | rfl
  · rfl

/-- The slot is left with nothing of its own. -/
theorem not_owns_released : ¬ (cleared (cleared m .arg) .extra).Owns p a := by
  cases p with
  | extra => exact not_owns_cleared_self
  | arg =>
    rw [owns_cleared (by simp)]
    exact not_owns_cleared_self

/-! ### The operations -/

theorem readable_of_freed {n : RawMessage} (hfreed : Freed m heap heap') (hn : Readable heap n)
    (hapart : ∀ p q a, n.Owns p a → ¬ m.Owns q a) : Readable heap' n := by
  intro p a hown
  rw [Heap.read, hfreed.kept a fun q => hapart p q a hown]
  exact hn p a hown

theorem payload_of_freed {n : RawMessage} (hfreed : Freed m heap heap')
    (hapart : ∀ p q a, n.Owns p a → ¬ m.Owns q a) : payload heap' n p = payload heap n p := by
  rcases hptr : n.ptr p with _ | a
  · simp [payload, hptr]
  · by_cases hsize : n.Sized p
    · have hkept := hfreed.kept a fun q => hapart p q a ⟨hptr, hsize⟩
      simp [payload, hptr, hsize, Heap.read, hkept]
    · simp [payload, hptr, hsize]

/-- Freeing other blocks first makes no difference to a copy. -/
theorem HoldsCopy.of_freed {heap₂ : Heap} (h : HoldsCopy heap' heap₂ source copy)
    (hfreed : Freed m heap heap') (hapart : ∀ p q a, source.Owns p a → ¬ m.Owns q a) :
    HoldsCopy heap heap₂ source copy := by
  refine ⟨fun p hnone => ?_, fun p block hblock => ?_, h.distinct⟩
  · exact h.eq_none p (by rwa [payload_of_freed hfreed hapart])
  · obtain ⟨b, hptr, hle, hstored⟩ := h.eq_some p block (by rwa [payload_of_freed hfreed hapart])
    exact ⟨b, hptr, hfreed.next ▸ hle, hstored⟩

/-- What a deep copy does over a message whose blocks it frees. -/
theorem msgDeepCopy_spec (ok : Payload → Bool) (hsource : Readable heap source) (hdest : Readable heap dest)
    (hown : Distinct dest) (hapart : ∀ p q a, source.Owns p a → ¬ dest.Owns q a) :
    ∃ heap₁ r, Freed dest heap heap₁ ∧ msgDeepCopy ok dest source heap = some r ∧
      CopyEffect ok source heap₁ r := by
  obtain ⟨heap₁, hfree, hfreed⟩ := freeBoth_spec hdest hown
  obtain ⟨r, hr, heffect⟩ := copyBoth_spec ok (readable_of_freed hfreed hsource hapart)
  refine ⟨heap₁, r, hfreed, ?_, heffect⟩
  rw [msgDeepCopy_eq, hfree, Option.bind_some, hr]

/-- The slot behind the last message owns nothing. -/
def HeadVacant (buff : RawBuffer) : Prop := ∀ p a, ¬ (buff.slot buff.head.toNat).Owns p a

/-- The ring without its oldest message. -/
def RawBuffer.dropped (buff : RawBuffer) : RawBuffer :=
  { buff with
    slot := Function.update buff.slot buff.tail.toNat
      (cleared (cleared (buff.slot buff.tail.toNat) .arg) .extra)
    tail := buff.mask (buff.tail + 1#32) }

theorem msgBufferDropOldest_spec (h : Exclusive heap buff) :
    ∃ heap', msgBufferDropOldest heap buff = some (heap', buff.dropped) ∧
      Freed (buff.slot buff.tail.toNat) heap heap' := by
  have hown : Distinct (buff.slot buff.tail.toNat) := by
    intro a harg hextra
    cases (h.distinct _ _ _ _ a harg hextra).2
  obtain ⟨heap', hfree, hfreed⟩ := freeBoth_spec (h.valid buff.tail.toNat) hown
  refine ⟨heap', ?_, hfreed⟩
  rw [msgBufferDropOldest, releaseSlot_eq, hfree]
  rfl

theorem slot_dropped : buff.dropped.slot i =
    if i = buff.tail.toNat then cleared (cleared (buff.slot buff.tail.toNat) .arg) .extra
    else buff.slot i :=
  Function.update_apply ..

theorem head_dropped : buff.dropped.head = buff.head := rfl

theorem HeadVacant.dropped (h : HeadVacant buff) : HeadVacant buff.dropped := by
  intro p a
  rw [slot_dropped, head_dropped]
  split_ifs
  · exact not_owns_released
  · exact h p a

theorem freeBoth_of_not_owns (h : ∀ p a, ¬ m.Owns p a) : freeBoth m heap = some heap := by
  have hfree : ∀ p, freePayload m p heap = some heap := by
    intro p
    rcases hptr : m.ptr p with _ | a
    · rw [freePayload, hptr]
    · have hsize : ¬ m.Sized p := fun hsize => h p a ⟨hptr, hsize⟩
      simp [freePayload, hptr, hsize]
  rw [freeBoth, hfree, Option.bind_some, hfree]

/-- The ring behind a push that stores the copy. -/
def RawBuffer.stored (buff : RawBuffer) (copy : RawMessage) : RawBuffer :=
  { buff with
    sequence := buff.sequence + 1#32
    slot := Function.update buff.slot buff.head.toNat { copy with sequence := buff.sequence + 1#32 }
    head := buff.mask (buff.head + 1#32) }

theorem slot_stored : (buff.stored copy).slot i =
    if i = buff.head.toNat then { copy with sequence := buff.sequence + 1#32 } else buff.slot i :=
  Function.update_apply ..

theorem msgBufferStore_spec (ok : Payload → Bool) (hsource : Readable heap source) (hvacant : HeadVacant buff) :
    ∃ r, msgBufferStore ok heap buff source = some (r.1, buff.stored r.2.1) ∧
      CopyEffect ok source heap r := by
  obtain ⟨r, hr, heffect⟩ := copyBoth_spec ok hsource
  refine ⟨r, ?_, heffect⟩
  rw [msgBufferStore, msgDeepCopy_eq, freeBoth_of_not_owns hvacant, Option.bind_some, hr]
  rfl

theorem HoldsCopy.congr {copy' : RawMessage} (h : HoldsCopy heap heap' source copy)
    (hcopy : ∀ p, copy'.ptr p = copy.ptr p) : HoldsCopy heap heap' source copy' := by
  refine ⟨fun p => ?_, fun p => ?_, fun b hb hb' => ?_⟩
  · rw [hcopy]
    exact h.eq_none p
  · rw [hcopy]
    exact h.eq_some p
  · exact h.distinct b ((hcopy .arg).symm.trans hb) ((hcopy .extra).symm.trans hb')

/-- A copy is held, and none was refused, iff each pointer has a size and its block was not refused. -/
theorem CopyEffect.holdsCopy_iff {heap₁ : Heap} {r : Heap × RawMessage × Bool}
    (h : CopyEffect ok source heap₁ r)
    (hkeep : HoldsCopy heap₁ r.1 source r.2.1 → HoldsCopy heap heap' source r.2.1) :
    HoldsCopy heap heap' source r.2.1 ∧ ¬ CopyFails ok source ↔ Copies ok source := by
  constructor
  · rintro ⟨hholds, hfails⟩ p a hptr
    have hsize : source.Sized p := by
      by_contra hsize
      have hnull := hholds.eq_none p (by simp [payload, hsize])
      rw [h.unsized p hsize, hptr] at hnull
      cases hnull
    refine ⟨hsize, ?_⟩
    by_contra hok
    exact hfails ⟨p, a, hptr, hsize, by simpa using hok⟩
  · intro hcopies
    refine ⟨hkeep (h.copied hcopies).2, ?_⟩
    rintro ⟨p, a, hptr, -, hok⟩
    rw [(hcopies p a hptr).2] at hok
    cases hok

/-- The push stores into the ring `buff₁`, which it has made room in. -/
theorem store_iff (ok : Payload → Bool) {heap₁ : Heap} {buff₁ : RawBuffer} {n : RawMessage} (hsource : Readable heap source)
    (hfreed : Freed n heap heap₁) (hapart : ∀ p q a, source.Owns p a → ¬ n.Owns q a)
    (hvacant : HeadVacant buff₁) :
    ∃ heap' buff', msgBufferStore ok heap₁ buff₁ source = some (heap', buff') ∧
      (HoldsCopy heap heap' source (buff'.slot buff₁.head.toNat) ∧ ¬ CopyFails ok source ↔
        Copies ok source) := by
  obtain ⟨r, hstore, heffect⟩ :=
    msgBufferStore_spec ok (readable_of_freed hfreed hsource hapart) hvacant
  refine ⟨_, _, hstore, ?_⟩
  have hslot : ∀ p, ((buff₁.stored r.2.1).slot buff₁.head.toNat).ptr p = r.2.1.ptr p := by
    intro p
    rw [slot_stored, if_pos rfl]
    cases p <;> rfl
  have hiff := heffect.holdsCopy_iff fun h => h.of_freed hfreed hapart
  rw [← hiff]
  exact and_congr_left' ⟨fun h => h.congr fun p => (hslot p).symm, fun h => h.congr hslot⟩

theorem freed_empty : Freed {} heap heap :=
  ⟨rfl, fun _ _ => rfl, fun p a hown => by cases p <;> cases hown.1⟩

theorem not_owns_empty : ¬ ({} : RawMessage).Owns p a := by
  rintro ⟨hptr, -⟩
  cases p <;> cases hptr

/-- A push that does not fail. -/
theorem pushSound_of_eq {buff' : RawBuffer} {result : MsgBufferPushResult} (hne : result ≠ .fail)
    (h : msgBufferPush ok heap buff (some source) = some (heap', buff', result)) :
    PushSound ok heap buff (some source) ↔
      HoldsCopy heap heap' source (buff'.slot buff.head.toNat) ∧ ¬ CopyFails ok source := by
  simp only [PushSound, h, Option.some.injEq, Prod.mk.injEq, Option.mem_def]
  constructor
  · rintro ⟨_, _, _, ⟨rfl, rfl, rfl⟩, hholds, hfails, -⟩
    exact ⟨hholds hne source rfl, fun hfail => hne (hfails ⟨source, rfl, hfail⟩)⟩
  · rintro ⟨hholds, hfails⟩
    refine ⟨_, _, _, ⟨rfl, rfl, rfl⟩, ?_, ?_, fun hfail => absurd hfail hne⟩
    · rintro - m rfl
      exact hholds
    · rintro ⟨m, rfl, hfail⟩
      exact absurd hfail hfails

/-- A push that fails. -/
theorem pushSound_of_fail {data : Option RawMessage}
    (h : msgBufferPush ok heap buff data = some (heap, buff, .fail)) : PushSound ok heap buff data :=
  ⟨heap, buff, .fail, h, fun hne => absurd rfl hne, fun _ => rfl, fun _ => rfl⟩

theorem pushSound_iff {data : Option RawMessage} (h : Exclusive heap buff) (hvacant : HeadVacant buff)
    (hdata : ∀ m ∈ data, Outside heap buff m) :
    PushSound ok heap buff data ↔ PushHolds ok buff data := by
  rcases data with _ | source
  · exact iff_of_true (pushSound_of_fail rfl) fun m hm => by cases hm
  have hsource := hdata source rfl
  rw [PushHolds]
  simp only [Option.mem_def, Option.some.injEq, forall_eq']
  by_cases hfull : msgBufferIsFull buff = true
  · rcases hover : buff.overflow with _ | _
    · refine iff_of_true (pushSound_of_fail ?_) (.inl ⟨hfull, rfl⟩)
      simp [msgBufferPush, hfull, hover]
    · obtain ⟨heap₁, hdrop, hfreed⟩ := msgBufferDropOldest_spec h
      obtain ⟨heap', buff', hstore, hiff⟩ := store_iff ok hsource.valid hfreed
        (fun p q a hown => hsource.apart p a _ q hown) hvacant.dropped
      have hpush : msgBufferPush ok heap buff (some source) = some (heap', buff', .successWithOverflow) := by
        simp [msgBufferPush, hfull, hover, hdrop, hstore]
      rw [pushSound_of_eq (by simp) hpush]
      simpa [head_dropped] using hiff
  · obtain ⟨heap', buff', hstore, hiff⟩ := store_iff ok hsource.valid freed_empty
      (fun p q a _ => not_owns_empty) hvacant
    have hpush : msgBufferPush ok heap buff (some source) = some (heap', buff', .success) := by
      simp [msgBufferPush, hfull, hstore]
    rw [pushSound_of_eq (by simp) hpush]
    simpa [hfull] using hiff

/-- The blocks of the ring that were there are there still, and as they were. -/
theorem Exclusive.of_kept (h : Exclusive heap buff)
    (hkept : ∀ i p a, (buff.slot i).Owns p a → heap'.blocks a = heap.blocks a) : Exclusive heap' buff := by
  refine ⟨fun i p a hown => ?_, h.distinct⟩
  rw [Heap.read, hkept i p a hown]
  exact h.valid i p a hown

/-- The blocks of a copy are new, so that freeing old ones does not touch them. -/
theorem HoldsCopy.keep {heap₁ : Heap} {n : RawMessage} (h : HoldsCopy heap heap₁ source copy)
    (hfreed : Freed n heap₁ heap') (hold : ∀ q a, n.Owns q a → a < heap.next) :
    HoldsCopy heap heap' source copy := by
  refine ⟨h.eq_none, fun p block hblock => ?_, h.distinct⟩
  obtain ⟨b, hptr, hle, hstored⟩ := h.eq_some p block hblock
  refine ⟨b, hptr, hle, ?_⟩
  rw [hfreed.kept b fun q hown => absurd (hold q b hown) hle.not_gt, hstored]

theorem popSound_iff (h : Exclusive heap buff) (hdest : Outside heap buff dest) (hown : Distinct dest) :
    PopSound ok heap buff dest ↔ PopHolds ok buff := by
  rw [PopHolds]
  by_cases hempty : msgBufferIsEmpty buff = true
  · refine iff_of_true ⟨heap, buff, dest, 1, by rw [msgBufferPop, if_pos hempty], ?_, ?_, fun _ => rfl⟩
      (.inl hempty)
    · simp
    · simp [hempty]
  have hapart : ∀ p q a, (buff.slot buff.tail.toNat).Owns p a → ¬ dest.Owns q a :=
    fun p q a hslot hdestOwns => hdest.apart q a _ p hdestOwns hslot
  obtain ⟨heap₁, r, hfreed, hcopy, heffect⟩ := msgDeepCopy_spec ok (h.valid buff.tail.toNat)
    hdest.valid hown hapart
  have hexclusive : Exclusive r.1 buff := by
    refine h.of_kept fun i p a hslot => ?_
    have hkept := hfreed.kept a fun q hdestOwns => hdest.apart q a i p hdestOwns hslot
    rw [heffect.kept a (by rw [hkept]; exact blocks_of_readable (h.valid i) hslot), hkept]
  obtain ⟨heap', hdrop, hdropped⟩ := msgBufferDropOldest_spec hexclusive
  have hpop : msgBufferPop ok heap buff dest = some (heap', buff.dropped, r.2.1, 0) := by
    simp [msgBufferPop, hempty, hcopy, hdrop]
  have hiff : HoldsCopy heap heap' (buff.slot buff.tail.toNat) r.2.1 ∧
      ¬ CopyFails ok (buff.slot buff.tail.toNat) ↔ Copies ok (buff.slot buff.tail.toNat) :=
    heffect.holdsCopy_iff fun hholds => ?_
  · simp only [PopSound, hpop, Option.some.injEq, Prod.mk.injEq]
    rw [or_iff_right hempty, ← hiff]
    constructor
    · rintro ⟨_, _, _, _, ⟨rfl, rfl, rfl, rfl⟩, hholds, hfails, -⟩
      exact ⟨hholds rfl, fun hfail => hfails (by simpa using hempty) hfail rfl⟩
    · rintro ⟨hholds, hfails⟩
      exact ⟨_, _, _, _, ⟨rfl, rfl, rfl, rfl⟩, fun _ => hholds, fun _ hfail => absurd hfail hfails,
        fun hne => absurd rfl hne⟩
  · exact (hholds.of_freed hfreed hapart).keep hdropped fun q a hslot =>
      Heap.lt_next (blocks_of_readable (h.valid _) hslot)

/-- A push, and a pop, of a ring whose messages own their blocks hands on complete copies or says that it
does not, iff the copy can be made: each pointer has a size, and no allocation fails. -/
theorem copies_iff (ok : Payload → Bool) (heap : Heap) (buff : RawBuffer) (data : Option RawMessage)
    (dest : RawMessage) (h : Exclusive heap buff) (hvacant : HeadVacant buff)
    (hdata : ∀ m ∈ data, Outside heap buff m) (hdest : Outside heap buff dest) (hown : Distinct dest) :
    (PushSound ok heap buff data ↔ PushHolds ok buff data) ∧
      (PopSound ok heap buff dest ↔ PopHolds ok buff) :=
  ⟨pushSound_iff h hvacant hdata, popSound_iff h hdest hown⟩

/-- The heap of a sender with two bytes on its stack. -/
def senderHeap : Heap := (⟨fun _ => none, 0, fun _ _ => rfl⟩ : Heap).add [1#8, 2#8]

/-- The message that points at them. -/
def senderMsg : RawMessage := { argSize := 2#32, arg := some 0 }

theorem exclusive_empty {ring : RawBuffer} (h : ∀ i, ring.slot i = {}) : Exclusive heap ring := by
  refine ⟨fun i p a hown => ?_, fun i j p q a hown => ?_⟩
  · rw [h] at hown
    exact absurd hown not_owns_empty
  · rw [h] at hown
    exact absurd hown not_owns_empty

theorem outside_senderMsg {ring : RawBuffer} (h : ∀ i, ring.slot i = {}) :
    Outside senderHeap ring senderMsg := by
  refine ⟨fun p a hown => ?_, fun p a i q _ => ?_⟩
  · cases p with
    | arg =>
      cases hown.1
      rfl
    | extra => cases hown.1
  · rw [h]
    exact not_owns_empty

theorem outside_empty {ring : RawBuffer} : Outside heap ring {} :=
  ⟨fun _ _ hown => absurd hown not_owns_empty, fun _ _ _ _ hown => absurd hown not_owns_empty⟩

/-- A ring of four slots and the sender's message. -/
theorem copies_senderMsg :
    (PushSound (fun _ => true) senderHeap { size := 4#32 } (some senderMsg) ↔
        PushHolds (fun _ => true) { size := 4#32 } (some senderMsg)) ∧
      (PopSound (fun _ => true) senderHeap { size := 4#32 } {} ↔
        PopHolds (fun _ => true) { size := 4#32 }) :=
  copies_iff (fun _ => true) senderHeap { size := 4#32 } (some senderMsg) {}
    (exclusive_empty fun _ => rfl) (fun _ _ => not_owns_empty)
    (fun _ hm => Option.some.inj hm ▸ outside_senderMsg fun _ => rfl) outside_empty
    fun _ hown => absurd hown not_owns_empty

/-- The same message when no block can be allocated: the push succeeds. -/
theorem alloc_ignored :
    ¬ PushSound (fun _ => false) senderHeap { size := 4#32 } (some senderMsg) := by
  have hpush : msgBufferPush (fun _ => false) senderHeap { size := 4#32 } (some senderMsg) =
      some (senderHeap, ({ size := 4#32 } : RawBuffer).stored senderMsg, .success) := rfl
  rw [pushSound_of_eq (by simp) hpush]
  rintro ⟨-, hfails⟩
  exact hfails ⟨.arg, 0, rfl, by decide, rfl⟩

end GokeWebcam.Common.Raw
