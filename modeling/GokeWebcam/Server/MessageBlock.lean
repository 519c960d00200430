import GokeWebcam.Common.MsgBufferRefine

/-!
# Letting system messages pass

While a task is in progress the video, the audio and the aliyun server take only system and response
messages out of their queues. The three functions `*_message_block` are the same: they look for the
first such message and move it to the front.

* `messageBlock`: the search and the swap.
* `messageBlock_spec`: the first urgent message is in front, the others follow in their order; the
  step is blocked exactly when messages are queued and none of them is urgent.
-/

namespace GokeWebcam.Server

open Common

/-- A system or a response message. -/
def urgent (msg : Message) : Bool := msgIsSystem msg.message || msgIsResponse msg.message

/-- The loop from the position `index` on; `none` where the function returns 1. The ring has `size`
slots, so `fuel = size` suffices.
Source: `server/*/*.c` `*_message_block`, the `do` loop -/
def messageBlockFrom (buff : MessageBuffer) : ℕ → CInt → Option MessageBuffer
  | 0, _ => none
  | fuel + 1, index =>
    match msgBufferProbeItem buff index with
    | none => none
    | some msg =>
      if urgent msg then some (msgBufferSwap buff 0#32 index)
      else messageBlockFrom buff fuel (index + 1#32)

/-- The ring to pop from while a task is in progress.
Source: `server/video/video.c` `video_message_block`, `server/audio/audio.c`
`audio_message_block`, `server/aliyun/aliyun.c` `aliyun_message_block` -/
def messageBlock (buff : MessageBuffer) : Option MessageBuffer :=
  match msgBufferProbeItem buff 0#32 with
  | none => some buff
  | some msg =>
    if urgent msg then some buff else messageBlockFrom buff buff.size.toNat 1#32

variable {k : ℕ} {buff b : MessageBuffer}

/-- What the search from `n` on finds, the messages before it not being urgent. -/
theorem messageBlockFrom_spec (h : buff.Wf k) (fuel : ℕ) {n : ℕ} (hn : n ≤ buff.contents.length)
    (hfuel : buff.contents.length < n + fuel) (hbefore : ∀ m ∈ buff.contents.take n, urgent m = false) :
    match messageBlockFrom buff fuel (BitVec.ofNat 32 n) with
    | none => ∀ m ∈ buff.contents, urgent m = false
    | some b => b.Wf k ∧ ∃ pre m post, buff.contents = pre ++ m :: post ∧
        (∀ x ∈ pre, urgent x = false) ∧ urgent m = true ∧ b.contents = m :: (pre ++ post) := by
  induction fuel generalizing n with
  | zero => omega
  | succ fuel ih =>
      have hlen := h.length_contents_lt
      have hpow : 2 ^ k < 2 ^ 32 := by
        rw [← h.size_eq]
        exact buff.size.isLt
      have hnat : (BitVec.ofNat 32 n).toNat = n := by
        rw [BitVec.toNat_ofNat]
        exact Nat.mod_eq_of_lt (by omega)
      have hprobe := msgBufferProbeItem_eq h (n := BitVec.ofNat 32 n) (by omega)
      rw [hnat] at hprobe
      rcases hitem : buff.contents[n]? with _ | msg
      · rw [messageBlockFrom, hprobe, hitem]
        rw [List.getElem?_eq_none_iff] at hitem
        rwa [List.take_of_length_le hitem] at hbefore
      · obtain ⟨hlt, hget⟩ := List.getElem?_eq_some_iff.mp hitem
        have hsplit : buff.contents = buff.contents.take n ++ msg :: buff.contents.drop (n + 1) := by
          rw [← hget, List.getElem_cons_drop, List.take_append_drop]
        rcases hurgent : urgent msg with _ | _
        · have hnext := ih (n := n + 1) (by omega) (by omega) (fun m hm => by
            rw [List.take_add_one, hitem, Option.toList_some, List.mem_append,
              List.mem_singleton] at hm
            exact hm.elim (hbefore m) fun hm => hm ▸ hurgent)
          have hsucc : BitVec.ofNat 32 n + 1#32 = BitVec.ofNat 32 (n + 1) :=
            (BitVec.ofNat_add n 1).symm
          rw [messageBlockFrom, hprobe, hitem]
          simp only [hurgent, Bool.false_eq_true, if_false, hsucc]
          exact hnext
        · obtain ⟨hwf, hcontents⟩ := contents_msgBufferSwap h (n := BitVec.ofNat 32 n) (by omega)
          rw [messageBlockFrom, hprobe, hitem]
          simp only [hurgent, if_true]
          refine ⟨hwf, _, msg, _, hsplit, hbefore, hurgent, ?_⟩
          rw [hcontents]
          simp only [hnat, hget, List.eraseIdx_eq_take_drop_succ]

/-- The first urgent message is moved to the front. -/
theorem messageBlock_spec (h : buff.Wf k) :
    match messageBlock buff with
    | none => buff.contents ≠ [] ∧ ∀ m ∈ buff.contents, urgent m = false
    | some b => b.Wf k ∧ ((buff.contents = [] ∧ b = buff) ∨
        ∃ pre m post, buff.contents = pre ++ m :: post ∧
          (∀ x ∈ pre, urgent x = false) ∧ urgent m = true ∧ b.contents = m :: (pre ++ post)) := by
  have hprobe : msgBufferProbeItem buff 0#32 = buff.contents[0]? :=
    msgBufferProbeItem_eq h (Nat.zero_le _)
  rcases hcontents : buff.contents with _ | ⟨msg, ms⟩
  · rw [hcontents] at hprobe
    rw [messageBlock, hprobe]
    exact ⟨h, .inl ⟨rfl, rfl⟩⟩
  · rw [hcontents] at hprobe
    rcases hurgent : urgent msg with _ | _
    · have hfrom := messageBlockFrom_spec h buff.size.toNat (n := 1)
        (by rw [hcontents, List.length_cons]; omega)
        (by rw [h.size_eq]; have := h.length_contents_lt; omega)
        (by rw [hcontents]; simpa using hurgent)
      rw [messageBlock, hprobe]
      simp only [List.getElem?_cons_zero, hurgent, Bool.false_eq_true, if_false]
      rw [hcontents] at hfrom
      rcases hb : messageBlockFrom buff buff.size.toNat 1#32 with _ | b
      · rw [hb] at hfrom
        exact ⟨List.cons_ne_nil _ _, hfrom⟩
      · rw [hb] at hfrom
        exact ⟨hfrom.1, .inr hfrom.2⟩
    · rw [messageBlock, hprobe]
      simp only [List.getElem?_cons_zero, hurgent, if_true]
      exact ⟨h, .inr ⟨[], msg, ms, rfl, by simp, hurgent, hcontents⟩⟩

end GokeWebcam.Server
