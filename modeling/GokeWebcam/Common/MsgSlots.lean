import GokeWebcam.Common.MsgBuffer

/-!
# What the slots of a ring hold

A property of messages that every slot of a ring has, those already read included. The ring's own
operations keep it whatever the indices are, so no size has to be assumed.

* `SlotProperty`: it survives the release of a payload and the stamp of a push.
* `AllSlots.push`, `AllSlots.pop`, `AllSlots.swap`: the operations keep it; `AllSlots.of_pop`: a message
  taken out has it.
-/

namespace GokeWebcam.Common

/-- A property that what the ring does to a message in a slot keeps. -/
structure SlotProperty (P : Message → Prop) : Prop where
  init : P msgInit
  free : ∀ m, P m → P (msgFree m)
  stamp : ∀ m n, P m → P { m with sequence := n }

/-- Every slot holds a message with the property. -/
def AllSlots (P : Message → Prop) (buff : MessageBuffer) : Prop := ∀ i, P (buff.slot i)

theorem message_msgFree {m : Message} : (msgFree m).message = m.message := by
  unfold msgFree
  dsimp only
  split_ifs <;> rfl

theorem sender_msgFree {m : Message} : (msgFree m).sender = m.sender := by
  unfold msgFree
  dsimp only
  split_ifs <;> rfl

theorem argIn_msgFree {m : Message} : (msgFree m).argIn = m.argIn := by
  unfold msgFree
  dsimp only
  split_ifs <;> rfl

/-- A property of the id, the sender and the argument only. -/
theorem SlotProperty.of_head {Q : CInt → CInt → MessageArg → Prop}
    (hinit : Q msgInit.message msgInit.sender msgInit.argIn) :
    SlotProperty fun m => Q m.message m.sender m.argIn where
  init := hinit
  free m hm := by rwa [message_msgFree, sender_msgFree, argIn_msgFree]
  stamp _ _ hm := hm

variable {P Q : Message → Prop} {buff buff' b : MessageBuffer} {m : Message}

theorem slot_set_cases {i j : ℕ} (h : buff'.buffer = buff.buffer.set i m) :
    buff'.slot j = m ∨ buff'.slot j = buff.slot j := by
  rw [MessageBuffer.slot, h, MessageBuffer.slot, List.getD_eq_getElem?_getD, List.getElem?_set,
    List.getD_eq_getElem?_getD]
  split_ifs with hij hlt
  · exact .inl rfl
  · subst hij
    right
    rw [List.getElem?_eq_none (Nat.le_of_not_lt hlt)]
  · exact .inr rfl

namespace AllSlots

theorem mono (hPQ : ∀ m, P m → Q m) (h : AllSlots P buff) : AllSlots Q buff := fun i => hPQ _ (h i)

theorem of_buffer (h : AllSlots P buff) (heq : buff'.buffer = buff.buffer) : AllSlots P buff' := by
  intro i
  rw [MessageBuffer.slot, heq]
  exact h i

theorem of_nil (hP : SlotProperty P) (h : buff.buffer = []) : AllSlots P buff := by
  intro i
  rw [MessageBuffer.slot, h, List.getD_nil]
  exact hP.init

theorem init (hP : SlotProperty P) {overflow : MsgBufferOverflow} {size : CInt} :
    AllSlots P (msgBufferInit overflow size) := by
  intro i
  have hslot : (msgBufferInit overflow size).slot i = msgInit := by
    rw [MessageBuffer.slot, msgBufferInit, List.getD_eq_getElem?_getD, List.getElem?_replicate]
    split_ifs <;> rfl
  rw [hslot]
  exact hP.init

theorem set {i : ℕ} (h : AllSlots P buff) (hm : P m) (heq : buff'.buffer = buff.buffer.set i m) :
    AllSlots P buff' := by
  intro j
  rcases slot_set_cases (j := j) heq with hj | hj <;> rw [hj]
  · exact hm
  · exact h j

theorem dropOldest (hP : SlotProperty P) (h : AllSlots P buff) :
    AllSlots P (msgBufferDropOldest buff) :=
  h.set (hP.free _ (h _)) rfl

theorem store (hP : SlotProperty P) (h : AllSlots P buff) (hm : P m) :
    AllSlots P (msgBufferStore buff m) :=
  h.set (hP.stamp _ (buff.sequence + 1#32) hm) rfl

theorem push (hP : SlotProperty P) (h : AllSlots P buff) (hm : P m) :
    AllSlots P (msgBufferPush buff (some m)).1 := by
  unfold msgBufferPush
  dsimp only
  split_ifs
  · exact (h.dropOldest hP).store hP hm
  · exact h
  · exact h.store hP hm

theorem pop (hP : SlotProperty P) (h : AllSlots P buff) : AllSlots P (msgBufferPop buff).1 := by
  unfold msgBufferPop
  split_ifs
  · exact h
  · exact h.dropOldest hP

theorem of_pop (h : AllSlots P buff) (hpop : (msgBufferPop buff).2 = some m) : P m := by
  unfold msgBufferPop at hpop
  split_ifs at hpop
  cases hpop
  exact h _

theorem release (hP : SlotProperty P) : AllSlots P (msgBufferRelease buff) := .of_nil hP rfl

theorem swapItem {org dest : CInt} (h : AllSlots P buff) :
    AllSlots P (msgBufferSwapItem buff org dest) := by
  have hfirst : AllSlots P
      { buff with buffer := buff.buffer.set org.toNat (buff.slot dest.toNat) } := h.set (h _) rfl
  exact hfirst.set (h _) rfl

theorem swapLoop {org : CInt} (fuel : ℕ) {last : CInt} (h : AllSlots P buff) :
    AllSlots P (msgBufferSwapLoop org fuel last buff) := by
  induction fuel generalizing last buff with
  | zero => exact h
  | succ fuel ih =>
    rw [msgBufferSwapLoop]
    split_ifs
    · exact h
    · exact ih h.swapItem

theorem swap {org dest : CInt} (h : AllSlots P buff) : AllSlots P (msgBufferSwap buff org dest) := by
  rw [msgBufferSwap]
  split_ifs
  · exact h
  · exact swapLoop _ h.swapItem

end AllSlots

end GokeWebcam.Common
