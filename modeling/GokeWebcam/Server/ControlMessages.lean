import GokeWebcam.Common.MsgBufferRefine
import GokeWebcam.Manager.Config

/-!
# Control messages in a server's queue

Every server's queue is configured to overwrite its oldest entry when full, whatever that entry
is, so a control message can be displaced by traffic.

* `controlMessage_fate`: a message that was pushed is still queued, was popped, or was displaced
  as the oldest entry of a full queue by a push that reported the overflow; the last needs at least
  `size - 1` later pushes.
* `exit_displaced`: seven ordinary messages displace an exit request from the recorder's queue.
-/

namespace GokeWebcam.Server

open Lib Common Global Manager

/-- Whatever happened before on a server's queue and whatever happens later. -/
theorem controlMessage_fate (s : ServerType) (earlier : List BufferOp) (msg : Message)
    (later : List BufferOp) :
    let buff := bufferRun (managerConfig.queue s) earlier
    let stored := { msg with sequence := buff.sequence + 1#32 }
    let after := (msgBufferPush buff (some msg)).1
    let before := after.contents.length - 1
    (msgBufferPush buff (some msg)).2 ≠ .fail ∧ after.contents[before]? = some stored ∧
      BoundedFifo.Fate stored before ((managerConfig.queueSize s).toNat - 1 ≤ pushCount later)
        ((bufferRun after later).contents, bufferRemovals after later) := by
  intro buff stored after before
  obtain ⟨k, h1, hk, hsize⟩ := exists_queueSize_eq s
  have hnat : (managerConfig.queueSize s).toNat = 2 ^ k := by
    rw [hsize, BitVec.toNat_ofNat, Nat.mod_eq_of_lt (Nat.pow_lt_pow_right (by omega) hk)]
  obtain ⟨q, hq⟩ : ∃ q, Represents k .yes buff q :=
    ⟨_, represents_run earlier (represents_init h1 hnat)⟩
  obtain ⟨hafter, hans⟩ := represents_push (m := msg) hq
  -- the push appends the stamped message, possibly dropping the oldest one first
  obtain ⟨old, hold⟩ : ∃ old, (q.step (2 ^ k - 1) true (.push (some msg))).items =
      old ++ [stored] := by
    have hstamp : q.stamp msg = stored := by rw [MessageQueue.stamp, ← hq.sequence_eq]
    simp only [MessageQueue.step, hstamp]
    split_ifs
    · exact ⟨q.items, rfl⟩
    · exact ⟨q.items.tail, rfl⟩
  have hcontents : after.contents = old ++ [stored] := hafter.contents_eq.trans hold
  have hbefore : before = old.length := by simp [before, hcontents]
  refine ⟨?_, ?_, ?_⟩
  · simp only [MessageQueue.Answers, MsgBufferOverflow.overwrites, decide_true] at hans
    split_ifs at hans <;> rw [BufferReply.pushed.injEq] at hans <;> simp [hans]
  · simp [hbefore, hcontents]
  · obtain ⟨ss, hle, hrun⟩ := bufferRemovals_eq later hafter
    have hlen : after.contents.length < 2 ^ k := hafter.wf.length_contents_lt
    have hfate : BoundedFifo.Fate stored old.length (2 ^ k - 1 ≤ 0 + BoundedFifo.pushes ss)
        (BoundedFifo.run (2 ^ k - 1) true (old ++ [stored]) ss) :=
      BoundedFifo.fate_run ss old [] (by rw [← hcontents]; omega)
    have hfinal : (bufferRun after later).contents = _ := (represents_run later hafter).contents_eq
    rw [hnat, hbefore, hfinal]
    rw [← hold] at hfate
    exact (hrun ▸ hfate).mono (by omega)

/-- An exit request accepted by the recorder's empty queue is discarded by seven ordinary messages
before the recorder pops anything. -/
theorem exit_displaced :
    let exit : Message := { message := msgManagerExit }
    let traffic := List.replicate 7 (BufferOp.push (some { message := msgId .recorder 4 }))
    let buff := managerConfig.queue .recorder
    (msgBufferPush buff (some exit)).2 = .success ∧
      bufferRemovals buff (.push (some exit) :: traffic) =
        [.displaced { exit with sequence := 1#32 }] ∧
      ∀ m ∈ (bufferRun buff (.push (some exit) :: traffic)).contents, m.message ≠ msgManagerExit := by
  decide

end GokeWebcam.Server
