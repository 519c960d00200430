import GokeWebcam.Common.MsgBuffer
import GokeWebcam.Lib.BoundedFifo

/-!
# The ring as a bounded queue of messages

`MessageQueue` is what the ring is for: a list of messages of bounded length and a counter that
stamps what is stored. `msgBufferPush`, `msgBufferPop`, `msgBufferProbeItem` on a well-formed ring
answer as the queue does and lead to the same queue.

* `BufferOp`, `bufferRun`: any sequence of operations on the ring.
* `MessageQueue.step`, `MessageQueue.Answers`: the same on the queue.
* `Represents`: the simulation relation; `represents_step` one operation, `represents_run` a run.
* `bufferRemovals`: the messages that left the ring during a run, and how.
-/

namespace GokeWebcam.Common

open Lib MessageBuffer

/-- An operation on the ring. -/
inductive BufferOp
  | push (data : Option Message)
  | pop
  | probeItem (n : CInt)
  deriving DecidableEq, Repr

/-- What an operation returns. -/
inductive BufferReply
  | pushed (ret : MsgBufferPushResult)
  | popped (data : Option Message)
  | probed (msg : Option Message)
  deriving DecidableEq, Repr

/-- One operation on the ring. -/
def bufferStep (buff : MessageBuffer) : BufferOp → MessageBuffer × BufferReply
  | .push data => ((msgBufferPush buff data).1, .pushed (msgBufferPush buff data).2)
  | .pop => ((msgBufferPop buff).1, .popped (msgBufferPop buff).2)
  | .probeItem n => (buff, .probed (msgBufferProbeItem buff n))

/-- A sequence of operations on the ring. -/
def bufferRun : MessageBuffer → List BufferOp → MessageBuffer
  | buff, [] => buff
  | buff, op :: ops => bufferRun (bufferStep buff op).1 ops

/-! ### The queue -/

/-- The queue of messages and the stamp of the last one stored.
Source: none: the abstract queue the ring is compared with -/
structure MessageQueue where
  items : List Message := []
  sequence : BitVec 32 := 0#32
  deriving DecidableEq, Repr

namespace MessageQueue

/-- The message as a push on `q` stores it. -/
def stamp (q : MessageQueue) (m : Message) : Message := { m with sequence := q.sequence + 1#32 }

/-- One operation on the queue. -/
def step (cap : ℕ) (overwrite : Bool) (q : MessageQueue) : BufferOp → MessageQueue
  | .push none => q
  | .push (some m) =>
    if q.items.length < cap then ⟨q.items ++ [q.stamp m], q.sequence + 1#32⟩
    else if overwrite then ⟨q.items.tail ++ [q.stamp m], q.sequence + 1#32⟩
    else q
  | .pop => ⟨q.items.tail, q.sequence⟩
  | .probeItem _ => q

/-- A sequence of operations on the queue. -/
def run (cap : ℕ) (overwrite : Bool) : MessageQueue → List BufferOp → MessageQueue
  | q, [] => q
  | q, op :: ops => run cap overwrite (q.step cap overwrite op) ops

/-- What an operation on the queue must return. A probe at a negative position or beyond the end
is left open. -/
def Answers (cap : ℕ) (overwrite : Bool) (q : MessageQueue) : BufferOp → BufferReply → Prop
  | .push none, r => r = .pushed .fail
  | .push (some _), r =>
    if q.items.length < cap then r = .pushed .success
    else if overwrite then r = .pushed .successWithOverflow
    else r = .pushed .fail
  | .pop, r => r = .popped q.items.head?
  | .probeItem n, r =>
    ∀ i : ℕ, n.toInt = i → i ≤ q.items.length → r = .probed q.items[i]?

end MessageQueue

/-! ### The simulation -/

/-- The overflow mode as a flag. -/
def MsgBufferOverflow.overwrites (overflow : MsgBufferOverflow) : Bool := overflow = .yes

/-- The ring holds the messages of the queue and the same counter. -/
structure Represents (k : ℕ) (overflow : MsgBufferOverflow) (buff : MessageBuffer)
    (q : MessageQueue) : Prop where
  wf : buff.Wf k
  overflow_eq : buff.overflow = overflow
  contents_eq : buff.contents = q.items
  sequence_eq : buff.sequence = q.sequence

variable {k : ℕ} {overflow : MsgBufferOverflow} {buff : MessageBuffer} {q : MessageQueue}
  {m : Message}

theorem represents_init {size : CInt} (h1 : 1 ≤ k) (hsize : size.toNat = 2 ^ k) :
    Represents k overflow (msgBufferInit overflow size) {} :=
  ⟨wf_msgBufferInit h1 hsize, rfl, contents_msgBufferInit, rfl⟩

/-- Storing where there is room appends the stamped message. -/
theorem Represents.store (h : Represents k overflow buff q) (hroom : q.items.length < 2 ^ k - 1) :
    Represents k overflow (msgBufferStore buff m) ⟨q.items ++ [q.stamp m], q.sequence + 1#32⟩ := by
  obtain ⟨hwf, hcontents⟩ := store_spec (m := m) h.wf (by rwa [h.contents_eq])
  refine ⟨hwf, h.overflow_eq, ?_, ?_⟩
  · rw [hcontents, h.contents_eq, h.sequence_eq]
    rfl
  · rw [← h.sequence_eq]
    rfl

/-- Dropping the oldest message of a non-empty ring. -/
theorem Represents.dropOldest (h : Represents k overflow buff q) (hne : q.items ≠ []) :
    Represents k overflow (msgBufferDropOldest buff) ⟨q.items.tail, q.sequence⟩ := by
  obtain ⟨hwf, hcontents⟩ := dropOldest_spec h.wf (by rwa [h.contents_eq])
  refine ⟨hwf, h.overflow_eq, ?_, h.sequence_eq⟩
  rw [← h.contents_eq, hcontents, List.tail_cons]

/-- A push on the ring is a push on the queue. -/
theorem represents_push (h : Represents k overflow buff q) :
    Represents k overflow (msgBufferPush buff (some m)).1
        (q.step (2 ^ k - 1) overflow.overwrites (.push (some m))) ∧
      q.Answers (2 ^ k - 1) overflow.overwrites (.push (some m))
        (.pushed (msgBufferPush buff (some m)).2) := by
  have hfull := h.wf.msgBufferIsFull_iff
  rw [h.contents_eq] at hfull
  by_cases hroom : q.items.length < 2 ^ k - 1
  · have hnot : ¬ msgBufferIsFull buff = true := by rw [hfull]; exact not_not.mpr hroom
    simp only [msgBufferPush, MessageQueue.step, MessageQueue.Answers, if_neg hnot, if_pos hroom]
    exact ⟨h.store hroom, trivial⟩
  · have htwo := h.wf.two_le
    have hne : q.items ≠ [] := by
      intro hnil
      rw [hnil, List.length_nil] at hroom
      omega
    have hlen : q.items.length < 2 ^ k := by
      rw [← h.contents_eq]
      exact h.wf.length_contents_lt
    simp only [msgBufferPush, MessageQueue.step, MessageQueue.Answers, if_pos (hfull.mpr hroom),
      if_neg hroom, h.overflow_eq]
    cases overflow with
    | no => exact ⟨h, rfl⟩
    | yes =>
      refine ⟨(h.dropOldest hne).store ?_, rfl⟩
      rw [List.length_tail]
      omega

/-- A pop on the ring is a pop on the queue. -/
theorem represents_pop (h : Represents k overflow buff q) :
    Represents k overflow (msgBufferPop buff).1 ⟨q.items.tail, q.sequence⟩ ∧
      (msgBufferPop buff).2 = q.items.head? := by
  rcases hq : q.items with _ | ⟨m, ms⟩
  · rw [msgBufferPop_nil h.wf (by rw [h.contents_eq, hq])]
    exact ⟨⟨h.wf, h.overflow_eq, by rw [h.contents_eq, hq]; rfl, h.sequence_eq⟩, rfl⟩
  · obtain ⟨hpop, -, -⟩ := msgBufferPop_cons h.wf (by rw [h.contents_eq, hq])
    have hdrop := h.dropOldest (by simp [hq])
    rw [hpop, ← hq]
    exact ⟨hdrop, by rw [hq]; rfl⟩

/-- A well-formed ring represents its own contents. -/
theorem represents_self (h : buff.Wf k) :
    Represents k buff.overflow buff ⟨buff.contents, buff.sequence⟩ := ⟨h, rfl, rfl, rfl⟩

theorem MessageBuffer.Wf.push (h : buff.Wf k) : (msgBufferPush buff (some m)).1.Wf k :=
  (represents_push (represents_self h)).1.wf

theorem MessageBuffer.Wf.pop (h : buff.Wf k) : (msgBufferPop buff).1.Wf k :=
  (represents_pop (represents_self h)).1.wf

/-- A probe inside the queue finds the entry, the one at its end finds nothing. -/
theorem msgBufferProbeItem_eq (h : buff.Wf k) {n : CInt} (hn : n.toNat ≤ buff.contents.length) :
    msgBufferProbeItem buff n = buff.contents[n.toNat]? := by
  have hempty := h.msgBufferIsEmpty_iff
  have hlen := h.length_contents_lt
  have hindex : (buff.mask (buff.tail + n)).toNat = Ring.idx (2 ^ k) buff.tail.toNat n.toNat :=
    h.toNat_mask_add
  have hend : Ring.idx (2 ^ k) buff.tail.toNat buff.contents.length = buff.head.toNat := by
    rw [h.contents_eq, Ring.length_contents, Ring.idx_len h.head_lt h.tail_lt]
  have hhead : buff.mask (buff.tail + n) = buff.head ↔ n.toNat = buff.contents.length := by
    rw [← BitVec.toNat_inj, hindex, ← hend, Ring.idx_inj h.tail_lt (by omega) hlen]
  unfold msgBufferProbeItem
  by_cases hnil : buff.contents = []
  · rw [if_pos (hempty.mpr hnil), hnil]
    rfl
  · rw [if_neg (by rwa [hempty])]
    by_cases hlt : n.toNat < buff.contents.length
    · rw [if_neg (by rw [hhead]; omega), hindex, List.getElem?_eq_getElem hlt]
      simp only [h.contents_eq, Ring.getElem_contents]
    · rw [if_pos (by rw [hhead]; omega), List.getElem?_eq_none (by omega)]

/-- One operation: the same answer, and the relation is kept. -/
theorem represents_step (h : Represents k overflow buff q) (op : BufferOp) :
    Represents k overflow (bufferStep buff op).1 (q.step (2 ^ k - 1) overflow.overwrites op) ∧
      q.Answers (2 ^ k - 1) overflow.overwrites op (bufferStep buff op).2 := by
  cases op with
  | push data =>
    cases data with
    | none => exact ⟨h, rfl⟩
    | some m => exact represents_push h
  | pop =>
    obtain ⟨hrep, hans⟩ := represents_pop h
    exact ⟨hrep, by rw [bufferStep, hans]; rfl⟩
  | probeItem n =>
    refine ⟨h, fun i hi hle => ?_⟩
    have hn : n.toNat = i := by
      have := BitVec.toInt_eq_toNat_cond n
      split at this <;> omega
    rw [bufferStep, msgBufferProbeItem_eq h.wf (by rw [h.contents_eq]; omega), h.contents_eq, hn]

/-- A run keeps the relation. -/
theorem represents_run (ops : List BufferOp) (h : Represents k overflow buff q) :
    Represents k overflow (bufferRun buff ops) (q.run (2 ^ k - 1) overflow.overwrites ops) := by
  induction ops generalizing buff q with
  | nil => exact h
  | cons op ops ih => exact ih (represents_step h op).1

/-- After any sequence of operations on a fresh ring of `2 ^ k` slots, the ring holds what a queue
of capacity `2 ^ k - 1` holds, counts it, and answers the next operation as the queue does. -/
theorem msgBuffer_simulates_queue (k : ℕ) (h1 : 1 ≤ k) (size : CInt) (hsize : size.toInt = 2 ^ k)
    (overflow : MsgBufferOverflow) (ops : List BufferOp) (op : BufferOp) :
    let buff := bufferRun (msgBufferInit overflow size) ops
    let q := MessageQueue.run (2 ^ k - 1) overflow.overwrites {} ops
    buff.contents = q.items ∧ buff.sequence = q.sequence ∧
      (msgBufferNumItems buff).toInt = q.items.length ∧
      q.Answers (2 ^ k - 1) overflow.overwrites op (bufferStep buff op).2 := by
  intro buff q
  obtain ⟨hnat, hlt⟩ := toNat_of_toInt_eq_two_pow hsize
  have hrep : Represents k overflow buff q := represents_run ops (represents_init h1 hnat)
  have hlen := hrep.wf.length_contents_lt
  have hnum : (msgBufferNumItems buff).toNat = q.items.length := by
    rw [hrep.wf.toNat_msgBufferNumItems, hrep.contents_eq]
  refine ⟨hrep.contents_eq, hrep.sequence_eq, ?_, (represents_step hrep op).2⟩
  rw [hrep.contents_eq] at hlen
  rw [BitVec.toInt_eq_toNat_of_lt (by omega), hnum]

/-- The smallest ring, after a push, refusing the next one. -/
theorem msgBuffer_simulates_queue_two :
    let buff := bufferRun (msgBufferInit .no 2#32) [.push (some {})]
    let q := MessageQueue.run 1 false {} [.push (some {})]
    buff.contents = q.items ∧ buff.sequence = q.sequence ∧
      (msgBufferNumItems buff).toInt = q.items.length ∧
      q.Answers 1 false (.push (some {})) (bufferStep buff (.push (some {}))).2 :=
  msgBuffer_simulates_queue 1 (by decide) 2#32 (by decide) .no [.push (some {})] (.push (some {}))

/-! ### What leaves the ring -/

/-- The message an operation removes from the ring: a pop returns it, a push that reports an
overflow discards it.
Source: `common/buffer/msg_buffer.c` `msg_buffer_pop`, `msg_buffer_push` -/
def bufferRemoval (buff : MessageBuffer) : BufferOp → List (BoundedFifo.Removal Message)
  | .push data =>
    if (msgBufferPush buff data).2 = .successWithOverflow then
      [.displaced (buff.slot buff.tail.toNat)] else []
  | .pop => (msgBufferPop buff).2.toList.map .popped
  | .probeItem _ => []

/-- The messages removed during a run, in order. -/
def bufferRemovals : MessageBuffer → List BufferOp → List (BoundedFifo.Removal Message)
  | _, [] => []
  | buff, op :: ops => bufferRemoval buff op ++ bufferRemovals (bufferStep buff op).1 ops

/-- The number of pushes in a run. -/
def pushCount : List BufferOp → ℕ
  | [] => 0
  | .push _ :: ops => pushCount ops + 1
  | _ :: ops => pushCount ops

/-- The bounded-queue steps an operation amounts to. -/
def MessageQueue.steps (q : MessageQueue) : BufferOp → List (BoundedFifo.Step Message)
  | .push none => []
  | .push (some m) => [.push (q.stamp m)]
  | .pop => [.pop]
  | .probeItem _ => []

/-- An operation removes from the ring what its steps remove from a bounded queue. -/
theorem bufferRemoval_eq (h : Represents k overflow buff q) (op : BufferOp) :
    BoundedFifo.run (2 ^ k - 1) overflow.overwrites q.items (q.steps op) =
      ((q.step (2 ^ k - 1) overflow.overwrites op).items, bufferRemoval buff op) := by
  cases op with
  | push data =>
    cases data with
    | none => rfl
    | some m =>
      have hfull := h.wf.msgBufferIsFull_iff
      rw [h.contents_eq] at hfull
      simp only [MessageQueue.steps, BoundedFifo.run, MessageQueue.step, bufferRemoval,
        msgBufferPush, List.append_nil, h.overflow_eq]
      by_cases hroom : q.items.length < 2 ^ k - 1
      · have hnot : ¬ msgBufferIsFull buff = true := by rw [hfull]; exact not_not.mpr hroom
        rw [BoundedFifo.step_push_of_lt hroom, if_pos hroom, if_neg hnot]
        rfl
      · rw [BoundedFifo.step_push_of_full hroom, if_neg hroom, if_pos (hfull.mpr hroom)]
        cases overflow with
        | no => rfl
        | yes =>
          have htwo := h.wf.two_le
          have hne : buff.contents ≠ [] := by
            intro hnil
            rw [← h.contents_eq, hnil, List.length_nil] at hroom
            omega
          have hhead : q.items.head? = some (buff.slot buff.tail.toNat) := by
            rw [← h.contents_eq, (dropOldest_spec h.wf hne).2, List.head?_cons]
          rw [hhead]
          rfl
  | pop =>
    have hpop := (represents_pop h).2
    simp only [MessageQueue.steps, BoundedFifo.run, BoundedFifo.step, MessageQueue.step,
      bufferRemoval, hpop, List.append_nil]
  | probeItem n => rfl

/-- A run removes from the ring what some steps, with no more pushes, remove from a bounded
queue. -/
theorem bufferRemovals_eq (ops : List BufferOp) (h : Represents k overflow buff q) :
    ∃ ss, BoundedFifo.pushes ss ≤ pushCount ops ∧
      BoundedFifo.run (2 ^ k - 1) overflow.overwrites q.items ss =
        ((q.run (2 ^ k - 1) overflow.overwrites ops).items, bufferRemovals buff ops) := by
  induction ops generalizing buff q with
  | nil => exact ⟨[], Nat.le_refl _, rfl⟩
  | cons op ops ih =>
      obtain ⟨ss, hle, hrun⟩ := ih (represents_step h op).1
      have hop := bufferRemoval_eq h op
      refine ⟨q.steps op ++ ss, ?_, ?_⟩
      · rcases op with (_ | _) | _ | _ <;>
          simp only [MessageQueue.steps, List.nil_append, List.cons_append, BoundedFifo.pushes,
            pushCount] <;> omega
      · rw [BoundedFifo.run_append, hop, hrun]
        rfl

end GokeWebcam.Common
