import GokeWebcam.Common.MsgCopy

/-!
# The ring of copies

With the copies made, the ring of `Common.MsgCopy` is the ring of messages that carry their payloads, and it
owns its blocks from one operation to the next.

* `RawMessage.view`, `RawBuffer.view`: the messages with the bytes behind their pointers.
* `QueueInv`: the queued messages own their blocks and the free slots none.
* `queueInv_push`, `queueInv_pop`: a push and a pop are those of `Common.MsgBuffer`, and keep it.
-/

namespace GokeWebcam.Common.Raw

open Lib RawMessage

variable {ok : Payload → Bool} {heap heap' : Heap} {buff buff' : RawBuffer}
  {m source dest copy : RawMessage} {p q : Payload} {a b i k : ℕ}

/-! ### Messages with their bytes -/

/-- What the copy's block is read as. -/
theorem payload_of_holdsCopy (h : HoldsCopy heap heap' source copy)
    (hsize : ∀ p, copy.size p = source.size p) :
    payload heap' copy p = payload heap source p := by
  rcases hpayload : payload heap source p with _ | block
  · rw [payload, h.eq_none p hpayload]
    rfl
  obtain ⟨b, hptr, -, hstored⟩ := h.eq_some p block hpayload
  rw [payload, Option.bind_eq_some_iff] at hpayload
  obtain ⟨a, hsource, hread⟩ := hpayload
  split_ifs at hread with hsized
  rw [Heap.read, Option.bind_eq_some_iff] at hread
  obtain ⟨whole, -, htake⟩ := hread
  split_ifs at htake with hle
  cases htake
  have hsized' : copy.Sized p := by rw [Sized, hsize]; exact hsized
  simp [payload, hptr, hsized', Heap.read, hstored, hsize, hle]

/-- The message with the bytes behind its pointers. -/
def RawMessage.view (heap : Heap) (m : RawMessage) : Message where
  message := m.message
  sender := m.sender
  receiver := m.receiver
  result := m.result
  argIn := m.argIn
  argPass := m.argPass
  argSize := m.argSize
  arg := m.arg.map fun _ => (payload heap m .arg).getD []
  extraSize := m.extraSize
  extra := m.extra.map fun _ => (payload heap m .extra).getD []
  sequence := m.sequence

/-- The ring of these messages. -/
def RawBuffer.view (heap : Heap) (buff : RawBuffer) : MessageBuffer where
  buffer := (List.range buff.size.toNat).map fun i => (buff.slot i).view heap
  size := buff.size
  head := buff.head
  tail := buff.tail
  init := buff.init
  overflow := buff.overflow
  sequence := buff.sequence

theorem view_congr (h : ∀ p, payload heap' m p = payload heap m p) : m.view heap' = m.view heap := by
  rw [RawMessage.view, h, h]
  rfl

/-- A copy that is held carries the same bytes. -/
theorem view_copy (hvalid : Readable heap source) (hcopies : Copies ok source)
    (h : HoldsCopy heap heap' source copy)
    (hrest : ∃ x y, copy = { source with arg := x, extra := y }) :
    copy.view heap' = source.view heap := by
  obtain ⟨x, y, rfl⟩ := hrest
  have hnull : ∀ p, (({ source with arg := x, extra := y } : RawMessage).ptr p).isSome =
      (source.ptr p).isSome := by
    intro p
    rcases hpayload : payload heap source p with _ | block
    · rw [h.eq_none p hpayload, ptr_of_payload_none hvalid hcopies hpayload]
    · obtain ⟨b, hptr, -⟩ := h.eq_some p block hpayload
      rw [payload, Option.bind_eq_some_iff] at hpayload
      obtain ⟨a, ha, -⟩ := hpayload
      rw [hptr, ha]
      rfl
  have hpayload := fun p => payload_of_holdsCopy (p := p) h fun p => by cases p <;> rfl
  have hmap : ∀ {x y : Option ℕ} (block : List Byte), x.isSome = y.isSome →
      (x.map fun _ => block) = y.map fun _ => block := by
    intro x y block hxy
    cases x <;> cases y <;> simp_all
  rw [RawMessage.view, hpayload, hpayload, RawMessage.view]
  simp only [Message.mk.injEq, true_and, and_true]
  exact ⟨hmap _ (hnull .arg), hmap _ (hnull .extra)⟩

/-- Nothing is read of a message that owns nothing. -/
theorem payload_of_not_owns (h : ∀ a, ¬ m.Owns p a) : payload heap m p = none := by
  rcases hptr : m.ptr p with _ | a
  · simp [payload, hptr]
  · have hsize : ¬ m.Sized p := fun hsize => h a ⟨hptr, hsize⟩
    simp [payload, hptr, hsize]

/-- A released slot is a freed message. -/
theorem view_cleared (heap heap' : Heap) : (cleared (cleared m .arg) .extra).view heap' = msgFree (m.view heap) := by
  rw [RawMessage.view, payload_of_not_owns fun a => not_owns_released,
    payload_of_not_owns fun a => not_owns_released]
  have hunowned : ∀ p, ¬ ((m.ptr p).isSome ∧ m.Sized p) → payload heap m p = none := by
    intro p hnot
    refine payload_of_not_owns fun a hown => hnot ⟨?_, hown.2⟩
    rw [hown.1]
    rfl
  -- a payload that is owned is dropped on both sides, of the others nothing is read
  by_cases harg : m.arg.isSome ∧ BitVec.slt 0#32 m.argSize
  · by_cases hextra : m.extra.isSome ∧ BitVec.slt 0#32 m.extraSize
    · simp [cleared, msgFree, RawMessage.view, ptr, clear, size, Sized, harg, hextra]
    · have hnone := hunowned .extra hextra
      simp [cleared, msgFree, RawMessage.view, ptr, clear, size, Sized, harg, hextra, hnone]
  · have hnone := hunowned .arg harg
    by_cases hextra : m.extra.isSome ∧ BitVec.slt 0#32 m.extraSize
    · simp [cleared, msgFree, RawMessage.view, ptr, clear, size, Sized, harg, hextra, hnone]
    · have hnone' := hunowned .extra hextra
      simp [cleared, msgFree, RawMessage.view, ptr, size, Sized, harg, hextra, hnone, hnone']

/-! ### The operations -/

theorem map_update {f : ℕ → RawMessage} {x : RawMessage} {n : ℕ} (view : RawMessage → Message) :
    (List.range n).map (fun i => view (Function.update f a x i)) =
      ((List.range n).map fun i => view (f i)).set a (view x) := by
  apply List.ext_getElem
  · simp
  · intro i hi _
    rw [List.getElem_set]
    simp only [List.getElem_map, List.getElem_range, Function.update_apply]
    split_ifs with h h' h'
    · rfl
    · exact absurd h.symm h'
    · exact absurd h'.symm h
    · rfl

theorem slot_view (h : i < buff.size.toNat) : (buff.view heap).slot i = (buff.slot i).view heap := by
  simp [MessageBuffer.slot, RawBuffer.view, h]

theorem view_dropped (h : Exclusive heap buff) (htail : buff.tail.toNat < buff.size.toNat)
    (hfreed : Freed (buff.slot buff.tail.toNat) heap heap') :
    buff.dropped.view heap' = Common.msgBufferDropOldest (buff.view heap) := by
  have hrest : ∀ i, i ≠ buff.tail.toNat → (buff.slot i).view heap' = (buff.slot i).view heap := by
    intro i hi
    exact view_congr fun p => payload_of_freed hfreed fun p q a hslot htailOwns =>
      hi (h.distinct i _ p q a hslot htailOwns).1
  have hslots : (List.range buff.size.toNat).map (fun i => (buff.dropped.slot i).view heap') =
      ((List.range buff.size.toNat).map fun i => (buff.slot i).view heap).set buff.tail.toNat
        (msgFree ((buff.view heap).slot buff.tail.toNat)) := by
    rw [slot_view htail, ← view_cleared heap heap]
    rw [← map_update fun m => m.view heap]
    refine List.map_congr_left fun i _ => ?_
    rw [slot_dropped, Function.update_apply]
    split_ifs with hi
    · exact (view_cleared heap heap').trans (view_cleared heap heap).symm
    · exact hrest i hi
  unfold RawBuffer.view Common.msgBufferDropOldest
  rw [MessageBuffer.mk.injEq]
  exact ⟨hslots, rfl, rfl, rfl, rfl, rfl, rfl⟩

theorem view_stored (h : Exclusive heap buff)
    (hkept : ∀ a, (heap.blocks a).isSome → heap'.blocks a = heap.blocks a)
    (hcopy : copy.view heap' = source.view heap) :
    (buff.stored copy).view heap' = Common.msgBufferStore (buff.view heap) (source.view heap) := by
  have hrest : ∀ i, (buff.slot i).view heap' = (buff.slot i).view heap := fun i =>
    view_congr fun p => payload_of_kept (h.valid i) hkept
  have hstamped : ({ copy with sequence := buff.sequence + 1#32 } : RawMessage).view heap' =
      { source.view heap with sequence := buff.sequence + 1#32 } := by
    rw [← hcopy]
    rfl
  have hslots : (List.range buff.size.toNat).map (fun i => ((buff.stored copy).slot i).view heap') =
      ((List.range buff.size.toNat).map fun i => (buff.slot i).view heap).set buff.head.toNat
        { source.view heap with sequence := buff.sequence + 1#32 } := by
    rw [← hstamped]
    refine (map_update fun m => m.view heap').trans ?_
    rw [funext hrest]
  unfold RawBuffer.view Common.msgBufferStore
  rw [MessageBuffer.mk.injEq]
  exact ⟨hslots, rfl, rfl, rfl, rfl, rfl, rfl⟩

/-! ### What an operation leaves to the next -/

theorem Exclusive.dropped (h : Exclusive heap buff) (hfreed : Freed (buff.slot buff.tail.toNat) heap heap') :
    Exclusive heap' buff.dropped := by
  have hold : ∀ i p a, (buff.dropped.slot i).Owns p a → i ≠ buff.tail.toNat ∧ (buff.slot i).Owns p a := by
    intro i p a hown
    rw [slot_dropped] at hown
    split_ifs at hown with hi
    · exact absurd hown not_owns_released
    · exact ⟨hi, hown⟩
  constructor
  · intro i p a hown
    obtain ⟨hi, hslot⟩ := hold i p a hown
    have hreadable := readable_of_freed hfreed (h.valid i) fun p q a hslot htail =>
      hi (h.distinct i _ p q a hslot htail).1
    rw [slot_dropped, if_neg hi]
    exact hreadable p a hslot
  · intro i j p q a hi hj
    exact h.distinct i j p q a (hold i p a hi).2 (hold j q a hj).2

/-- The addresses of a copy are new. -/
theorem HoldsCopy.next_le (h : HoldsCopy heap heap' source copy) (hptr : copy.ptr p = some a) :
    heap.next ≤ a := by
  rcases hpayload : payload heap source p with _ | block
  · rw [h.eq_none p hpayload] at hptr
    cases hptr
  · obtain ⟨b, hb, hle, -⟩ := h.eq_some p block hpayload
    rw [hb] at hptr
    cases hptr
    exact hle

theorem HoldsCopy.readable (h : HoldsCopy heap heap' source copy)
    (hsize : ∀ p, copy.size p = source.size p) : Readable heap' copy := by
  rintro p a ⟨hptr, hsized⟩
  have hsame := payload_of_holdsCopy (p := p) h hsize
  rcases hpayload : payload heap source p with _ | block
  · rw [h.eq_none p hpayload] at hptr
    cases hptr
  · rw [hpayload] at hsame
    simp only [payload, hptr, Option.bind_some, if_pos hsized] at hsame
    rw [hsame]
    rfl

theorem Exclusive.stored (h : Exclusive heap buff)
    (hkept : ∀ a, (heap.blocks a).isSome → heap'.blocks a = heap.blocks a)
    (hholds : HoldsCopy heap heap' source copy) (hsize : ∀ p, copy.size p = source.size p) :
    Exclusive heap' (buff.stored copy) := by
  have hslot : ∀ i p a, ((buff.stored copy).slot i).Owns p a →
      (i = buff.head.toNat ∧ copy.Owns p a) ∨ (buff.slot i).Owns p a := by
    intro i p a hown
    rw [slot_stored] at hown
    split_ifs at hown with hi
    · left
      refine ⟨hi, ?_⟩
      cases p <;> exact hown
    · exact .inr hown
  have hlt : ∀ i p a, (buff.slot i).Owns p a → a < heap.next := fun i p a hown =>
    Heap.lt_next (blocks_of_readable (h.valid i) hown)
  constructor
  · intro i p a hown
    rw [slot_stored] at hown ⊢
    split_ifs at hown ⊢ with hi
    · have hread := hholds.readable hsize
      cases p
      · exact hread .arg a hown
      · exact hread .extra a hown
    · exact (h.valid i).of_kept hkept p a hown
  · intro i j p q a hi hj
    rcases hslot i p a hi with ⟨rfl, hcopy⟩ | hold <;> rcases hslot j q a hj with ⟨rfl, hcopy'⟩ | hold'
    · refine ⟨rfl, ?_⟩
      have hptr := hcopy.1
      have hptr' := hcopy'.1
      cases p <;> cases q
      · rfl
      · exact absurd hptr' (hholds.distinct a hptr)
      · exact absurd hptr (hholds.distinct a hptr')
      · rfl
    · exact absurd (hlt _ _ _ hold') (hholds.next_le hcopy.1).not_gt
    · exact absurd (hlt _ _ _ hold) (hholds.next_le hcopy'.1).not_gt
    · exact h.distinct i j p q a hold hold'

/-- A store of a copy that can be made. -/
theorem stored_spec (h : Exclusive heap buff) (hvacant : HeadVacant buff)
    (hsource : Readable heap source) (hcopies : Copies ok source) :
    ∃ heap' copy, msgBufferStore ok heap buff source = some (heap', buff.stored copy) ∧
      (buff.stored copy).view heap' = Common.msgBufferStore (buff.view heap) (source.view heap) ∧
      Exclusive heap' (buff.stored copy) := by
  obtain ⟨r, hstore, heffect⟩ := msgBufferStore_spec ok hsource hvacant
  have hholds := (heffect.copied hcopies).2
  have hsize : ∀ p, r.2.1.size p = source.size p := by
    obtain ⟨x, y, hrest⟩ := heffect.rest
    rw [hrest]
    intro p
    cases p <;> rfl
  exact ⟨r.1, r.2.1, hstore,
    view_stored h heffect.kept (view_copy hsource hcopies hholds heffect.rest),
    h.stored heffect.kept hholds hsize⟩

/-- What a queue keeps: it is a ring, its messages own their blocks, and the free slots none. -/
structure QueueInv (k : ℕ) (heap : Heap) (buff : RawBuffer) : Prop where
  wf : (buff.view heap).Wf k
  exclusive : Exclusive heap buff
  vacant : ∀ i, Ring.len (2 ^ k) buff.head.toNat buff.tail.toNat ≤ i → i < 2 ^ k →
    ∀ p a, ¬ (buff.slot (Ring.idx (2 ^ k) buff.tail.toNat i)).Owns p a

namespace QueueInv

theorem head_lt (h : QueueInv k heap buff) : buff.head.toNat < 2 ^ k := h.wf.head_lt

theorem tail_lt (h : QueueInv k heap buff) : buff.tail.toNat < 2 ^ k := h.wf.tail_lt

theorem tail_lt_size (h : QueueInv k heap buff) : buff.tail.toNat < buff.size.toNat := by
  have hsize : buff.size.toNat = 2 ^ k := h.wf.size_eq
  rw [hsize]
  exact h.tail_lt

theorem headVacant (h : QueueInv k heap buff) : HeadVacant buff := by
  have hvacant := h.vacant _ le_rfl (Ring.len_lt (Nat.two_pow_pos k))
  rwa [Ring.idx_len h.head_lt h.tail_lt] at hvacant

theorem init {overflow : MsgBufferOverflow} {size : CInt} (h1 : 1 ≤ k) (hsize : size.toNat = 2 ^ k) :
    QueueInv k heap { size := size, overflow := overflow, init := true } := by
  have hpos := Nat.two_pow_pos k
  exact ⟨⟨h1, hsize, by simp [RawBuffer.view, hsize], hpos, hpos⟩, exclusive_empty fun _ => rfl,
    fun _ _ _ _ _ => not_owns_empty⟩

/-- The blocks that others allocate and free do not matter. -/
theorem of_kept (h : QueueInv k heap buff)
    (hkept : ∀ i p a, (buff.slot i).Owns p a → heap'.blocks a = heap.blocks a) :
    QueueInv k heap' buff :=
  ⟨⟨h.wf.one_le, h.wf.size_eq, by simpa [RawBuffer.view] using h.wf.length_eq, h.head_lt, h.tail_lt⟩,
    h.exclusive.of_kept hkept, h.vacant⟩

/-- The oldest message is dropped. -/
theorem dropped (h : QueueInv k heap buff) (hne : (buff.view heap).contents ≠ []) :
    ∃ heap', msgBufferDropOldest heap buff = some (heap', buff.dropped) ∧
      Freed (buff.slot buff.tail.toNat) heap heap' ∧
      buff.dropped.view heap' = Common.msgBufferDropOldest (buff.view heap) ∧
      QueueInv k heap' buff.dropped := by
  obtain ⟨heap', hdrop, hfreed⟩ := msgBufferDropOldest_spec h.exclusive
  have hview := view_dropped h.exclusive h.tail_lt_size hfreed
  refine ⟨heap', hdrop, hfreed, hview, ?_, h.exclusive.dropped hfreed, fun i hlen hi p a => ?_⟩
  · rw [hview]
    exact (dropOldest_spec h.wf hne).1
  have hdiff : buff.head.toNat ≠ buff.tail.toNat := by
    rw [h.wf.contents_eq] at hne
    exact mt (Ring.contents_eq_nil_iff _ h.head_lt h.tail_lt).mpr hne
  have htail : buff.dropped.tail.toNat = Ring.idx (2 ^ k) buff.tail.toNat 1 := h.wf.toNat_mask_tail_succ
  have hpop := Ring.len_pop h.head_lt h.tail_lt hdiff
  rw [htail, head_dropped] at hlen
  rw [htail, slot_dropped]
  split_ifs with htwice
  · exact not_owns_released
  · by_cases hlast : i + 1 < 2 ^ k
    · rw [Ring.idx_succ h.tail_lt hlast]
      exact h.vacant (i + 1) (by omega) hlast p a
    · -- the last slot is the one that was dropped
      have htwo := h.wf.two_le
      have hpred := Ring.idx_pred (i := 0) h.tail_lt (by omega)
      obtain rfl : i = 2 ^ k - 1 := by omega
      rw [Ring.idx_zero h.tail_lt] at hpred
      exact absurd hpred htwice

/-- A copy that can be made is stored. -/
theorem stored (h : QueueInv k heap buff) (hroom : (buff.view heap).contents.length < 2 ^ k - 1)
    (hsource : Readable heap source) (hcopies : Copies ok source) :
    ∃ heap' copy, msgBufferStore ok heap buff source = some (heap', buff.stored copy) ∧
      (buff.stored copy).view heap' = Common.msgBufferStore (buff.view heap) (source.view heap) ∧
      QueueInv k heap' (buff.stored copy) := by
  obtain ⟨heap', copy, hstore, hview, hexclusive⟩ :=
    stored_spec h.exclusive h.headVacant hsource hcopies
  refine ⟨heap', copy, hstore, hview, ?_, hexclusive, fun i hlen hi p a => ?_⟩
  · rw [hview]
    exact (store_spec h.wf hroom).1
  have hroom' : Ring.len (2 ^ k) buff.head.toNat buff.tail.toNat + 1 < 2 ^ k := by
    rw [h.wf.contents_eq, Ring.length_contents] at hroom
    exact Nat.add_lt_of_lt_sub hroom
  have hhead : (buff.stored copy).head.toNat = Ring.idx (2 ^ k) buff.head.toNat 1 :=
    h.wf.toNat_mask_head_succ
  have htail : (buff.stored copy).tail = buff.tail := rfl
  rw [hhead, htail, Ring.len_push h.head_lt h.tail_lt hroom'] at hlen
  rw [htail, slot_stored, if_neg]
  · exact h.vacant i (by omega) hi p a
  · intro heq
    rw [← Ring.idx_len h.head_lt h.tail_lt, Ring.idx_inj h.tail_lt hi (by omega)] at heq
    omega

end QueueInv

/-- A push whose copy can be made is that of the message with its bytes. -/
theorem queueInv_push {data : Option RawMessage} (h : QueueInv k heap buff)
    (hdata : ∀ m ∈ data, Outside heap buff m) (hholds : PushHolds ok buff data) :
    ∃ heap' buff' result, msgBufferPush ok heap buff data = some (heap', buff', result) ∧
      Common.msgBufferPush (buff.view heap) (data.map fun m => m.view heap) = (buff'.view heap', result) ∧
      QueueInv k heap' buff' := by
  rcases data with _ | source
  · exact ⟨heap, buff, .fail, rfl, rfl, h⟩
  have hsource := hdata source rfl
  have hfullView : Common.msgBufferIsFull (buff.view heap) = msgBufferIsFull buff := rfl
  by_cases hfull : msgBufferIsFull buff = true
  · rcases hover : buff.overflow with _ | _
    · refine ⟨heap, buff, .fail, by simp [msgBufferPush, hfull, hover], ?_, h⟩
      have hoverView : (buff.view heap).overflow = .no := hover
      simp [Common.msgBufferPush, hfullView, hfull, hoverView]
    · have hcopies : Copies ok source := (hholds source rfl).resolve_left fun hno => by
        rw [hover] at hno
        cases hno.2
      have hlen : ¬ (buff.view heap).contents.length < 2 ^ k - 1 := by
        rw [← h.wf.msgBufferIsFull_iff]
        exact hfull
      have hne : (buff.view heap).contents ≠ [] := by
        intro hnil
        rw [hnil] at hlen
        have htwo := h.wf.two_le
        exact hlen (Nat.sub_pos_of_lt htwo)
      obtain ⟨heap₁, hdrop, hfreed, hview₁, h₁⟩ := h.dropped hne
      have hapart : ∀ p q a, source.Owns p a → ¬ (buff.slot buff.tail.toNat).Owns q a :=
        fun p q a hown => hsource.apart p a _ q hown
      have hroom : (buff.dropped.view heap₁).contents.length < 2 ^ k - 1 := by
        have hlt := h.wf.length_contents_lt
        rw [(dropOldest_spec h.wf hne).2, List.length_cons, ← hview₁] at hlt
        exact Nat.lt_sub_of_add_lt hlt
      obtain ⟨heap', copy, hstore, hview, hinv⟩ :=
        h₁.stored hroom (readable_of_freed hfreed hsource.valid hapart) hcopies
      have hsame : source.view heap₁ = source.view heap :=
        view_congr fun p => payload_of_freed hfreed hapart
      refine ⟨heap', buff.dropped.stored copy, .successWithOverflow, ?_, ?_, hinv⟩
      · simp [msgBufferPush, hfull, hover, hdrop, hstore]
      · have hoverView : (buff.view heap).overflow = .yes := hover
        simp [Common.msgBufferPush, hfullView, hfull, hoverView, ← hview₁, ← hsame, hview]
  · have hcopies : Copies ok source := (hholds source rfl).resolve_left fun hno => hfull hno.1
    have hroom : (buff.view heap).contents.length < 2 ^ k - 1 := by
      rw [← hfullView, h.wf.msgBufferIsFull_iff, not_not] at hfull
      exact hfull
    obtain ⟨heap', copy, hstore, hview, hinv⟩ := h.stored hroom hsource.valid hcopies
    refine ⟨heap', buff.stored copy, .success, by simp [msgBufferPush, hfull, hstore], ?_, hinv⟩
    simp [Common.msgBufferPush, hfullView, hfull, hview]

/-- A pop whose copy can be made hands out the oldest message with its bytes. -/
theorem queueInv_pop (h : QueueInv k heap buff) (hdest : Outside heap buff dest) (hown : Distinct dest)
    (hholds : PopHolds ok buff) :
    ∃ heap' buff' copy ret, msgBufferPop ok heap buff dest = some (heap', buff', copy, ret) ∧
      Common.msgBufferPop (buff.view heap) =
        (buff'.view heap', if ret = 0 then some (copy.view heap') else none) ∧
      QueueInv k heap' buff' := by
  have hemptyView : Common.msgBufferIsEmpty (buff.view heap) = msgBufferIsEmpty buff := rfl
  by_cases hempty : msgBufferIsEmpty buff = true
  · refine ⟨heap, buff, dest, 1, by simp [msgBufferPop, hempty], ?_, h⟩
    simp [Common.msgBufferPop, hemptyView, hempty]
  have hcopies : Copies ok (buff.slot buff.tail.toNat) := hholds.resolve_left hempty
  have hapart : ∀ p q a, (buff.slot buff.tail.toNat).Owns p a → ¬ dest.Owns q a :=
    fun p q a hslot hdestOwns => hdest.apart q a _ p hdestOwns hslot
  obtain ⟨heap₁, r, hfreed, hcopy, heffect⟩ := msgDeepCopy_spec ok
    (h.exclusive.valid buff.tail.toNat) hdest.valid hown hapart
  have hholds := (heffect.copied hcopies).2.of_freed hfreed hapart
  -- the copy leaves the blocks of the ring alone
  have hkept : ∀ i p a, (buff.slot i).Owns p a → r.1.blocks a = heap.blocks a := by
    intro i p a hslot
    have hfirst := hfreed.kept a fun q hdestOwns => hdest.apart q a i p hdestOwns hslot
    rw [heffect.kept a (by rw [hfirst]; exact blocks_of_readable (h.exclusive.valid i) hslot), hfirst]
  have h₁ : QueueInv k r.1 buff := h.of_kept hkept
  have hviewKept : buff.view r.1 = buff.view heap := by
    have hslot : ∀ i, (buff.slot i).view r.1 = (buff.slot i).view heap := by
      refine fun i => view_congr fun p => ?_
      rcases hptr : (buff.slot i).ptr p with _ | a
      · simp [payload, hptr]
      · by_cases hsize : (buff.slot i).Sized p
        · simp [payload, hptr, hsize, Heap.read, hkept i p a ⟨hptr, hsize⟩]
        · simp [payload, hptr, hsize]
    simp [RawBuffer.view, hslot]
  have hne : (buff.view r.1).contents ≠ [] := by
    rw [hviewKept, ne_eq, ← h.wf.msgBufferIsEmpty_iff]
    exact hempty
  obtain ⟨heap', hdrop, hdropped, hview, hinv⟩ := h₁.dropped hne
  have hcopied : r.2.1.view heap' = (buff.slot buff.tail.toNat).view heap :=
    view_copy (h.exclusive.valid _) hcopies (hholds.keep hdropped fun q a hslot =>
      Heap.lt_next (blocks_of_readable (h.exclusive.valid _) hslot)) heffect.rest
  refine ⟨heap', buff.dropped, r.2.1, 0, by simp [msgBufferPop, hempty, hcopy, hdrop], ?_, hinv⟩
  rw [Common.msgBufferPop, hemptyView, if_neg hempty, hview, hviewKept, hcopied]
  rw [if_pos rfl, ← slot_view h.tail_lt_size]
  rfl

end GokeWebcam.Common.Raw
