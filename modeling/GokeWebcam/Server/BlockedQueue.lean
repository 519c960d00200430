import GokeWebcam.Server.Aliyun
import GokeWebcam.Server.Audio
import GokeWebcam.Server.Video

/-!
# The queue of a server with a task in progress

* `SwapLoopEnds`: the `while` loop of `msg_buffer_swap` as the source has it, without fuel.
* `swapLoopEnds`: from any two slots of a ring the loop ends, and where `msgBufferSwapLoop` says.
* `PassesBlocked`: what a pass does to the queue while `msg_lock` is set.
* `passesBlocked`: a server with a `*_message_block` passes its queue so.
* `videoAudioAliyun_passBlocked`: the video, the audio and the aliyun server, and the loop.
-/

namespace GokeWebcam.Server

open Common Global Manager Lib MessageBuffer

/-! ### The loop of the swap -/

/-- Entered with `last` and `buff`, the loop ends with `b`.
Source: `common/buffer/msg_buffer.c` `msg_buffer_swap`, the `while` loop -/
inductive SwapLoopEnds (org : CInt) : CInt → MessageBuffer → MessageBuffer → Prop
  | stop {last : CInt} {buff : MessageBuffer} (h : buff.mask (last - 1#32) = org) :
      SwapLoopEnds org last buff buff
  | next {last : CInt} {buff b : MessageBuffer} (h : buff.mask (last - 1#32) ≠ org)
      (hrest : SwapLoopEnds org (buff.mask (last - 1#32))
        (msgBufferSwapItem buff (buff.mask (last - 1#32)) last) b) :
      SwapLoopEnds org last buff b

variable {k : ℕ} {buff b : MessageBuffer} {org last : CInt}

theorem wf_msgBufferSwapItem (h : buff.Wf k) (x y : CInt) : (msgBufferSwapItem buff x y).Wf k :=
  ⟨h.one_le, h.size_eq, by simp [msgBufferSwapItem, h.length_eq], h.head_lt, h.tail_lt⟩

/-- From `d + 1` slots after `org` the loop ends within `d + 1` tests. -/
theorem swapLoopEnds_of_distance (d : ℕ) {fuel : ℕ} (h : buff.Wf k) (horg : org.toNat < 2 ^ k)
    (hlast : last.toNat = (org.toNat + (d + 1)) % 2 ^ k) (hfuel : d < fuel) :
    SwapLoopEnds org last buff (msgBufferSwapLoop org fuel last buff) := by
  induction d generalizing fuel last buff with
  | zero =>
      obtain ⟨fuel, rfl⟩ : ∃ n, fuel = n + 1 := ⟨fuel - 1, by omega⟩
      have htwo := h.two_le
      have hstop : buff.mask (last - 1#32) = org := by
        rw [← BitVec.toNat_inj, h.toNat_mask_pred, hlast, Nat.mod_add_mod,
          show org.toNat + (0 + 1) + (2 ^ k - 1) = org.toNat + 2 ^ k by omega, Nat.add_mod_right]
        exact Nat.mod_eq_of_lt horg
      rw [msgBufferSwapLoop, if_pos hstop]
      exact .stop hstop
  | succ d ih =>
      obtain ⟨fuel, rfl⟩ : ∃ n, fuel = n + 1 := ⟨fuel - 1, by omega⟩
      have htwo := h.two_le
      have hrundown : (buff.mask (last - 1#32)).toNat = (org.toNat + (d + 1)) % 2 ^ k := by
        rw [h.toNat_mask_pred, hlast, Nat.mod_add_mod,
          show org.toNat + (d + 1 + 1) + (2 ^ k - 1) = org.toNat + (d + 1) + 2 ^ k by omega,
          Nat.add_mod_right]
      rw [msgBufferSwapLoop]
      by_cases hstop : buff.mask (last - 1#32) = org
      · rw [if_pos hstop]
        exact .stop hstop
      · rw [if_neg hstop]
        exact .next hstop (ih (wf_msgBufferSwapItem h _ _) hrundown (by omega))

/-- From any two slots of the ring the loop ends. -/
theorem swapLoopEnds (h : buff.Wf k) (horg : org.toNat < 2 ^ k) (hlast : last.toNat < 2 ^ k) :
    SwapLoopEnds org last buff (msgBufferSwapLoop org buff.size.toNat last buff) := by
  have hpos := Nat.two_pow_pos k
  -- the number of slots after `org`, going round, less one
  have hd : (last.toNat + (2 ^ k - 1 - org.toNat)) % 2 ^ k < 2 ^ k := Nat.mod_lt _ hpos
  apply swapLoopEnds_of_distance ((last.toNat + (2 ^ k - 1 - org.toNat)) % 2 ^ k) h horg
  · rw [← Nat.add_assoc, Nat.add_right_comm, Nat.add_mod_mod,
      show org.toNat + 1 + (last.toNat + (2 ^ k - 1 - org.toNat)) = last.toNat + 2 ^ k by omega,
      Nat.add_mod_right, Nat.mod_eq_of_lt hlast]
  · rwa [h.size_eq]

/-! ### A pass with the lock set -/

variable {κ : Type} {c : ServerCode κ} {input : ServerInput} {s : ServerState κ}

/-- What a pass of `server_message_proc` does with the queue: it handles the first urgent message
and leaves the others in their order; it leaves the state as it is if there is none. Whatever two
slots the swap begins with, it ends. -/
structure PassesBlocked (k : ℕ) (c : ServerCode κ) (input : ServerInput) (s : ServerState κ) :
    Prop where
  takes : ∀ m, s.message.contents.find? urgent = some m → ∃ b : MessageBuffer, b.Wf k ∧
    b.contents = s.message.contents.eraseP urgent ∧
    serverMessageProc c input s = handleMessage c input m { s with message := b }
  leaves : s.message.contents.find? urgent = none → serverMessageProc c input s = some s
  ends : ∀ org last : CInt, org.toNat < 2 ^ k → last.toNat < 2 ^ k →
    SwapLoopEnds org last s.message
      (msgBufferSwapLoop org s.message.size.toNat last s.message)

/-- No message before `m` is urgent, so `m` is what a search finds and what an erasure removes. -/
theorem find_erase_of_split {pre post : List Message} {m : Message}
    (hpre : ∀ x ∈ pre, urgent x = false) (hm : urgent m = true) :
    (pre ++ m :: post).find? urgent = some m ∧ (pre ++ m :: post).eraseP urgent = pre ++ post := by
  have hnot : ∀ x ∈ pre, ¬ urgent x = true := fun x hx => by simp [hpre x hx]
  refine ⟨?_, ?_⟩
  · rw [List.find?_append, List.find?_eq_none.mpr hnot, List.find?_cons_of_pos hm]
    rfl
  · rw [List.eraseP_append_right _ hnot, List.eraseP_cons_of_pos hm]

theorem serverMessageProc_of_take (hlock : s.info.msgLock = true) (hblock : c.hasMessageBlock = true)
    {m : Message} (hb : messageBlock s.message = some b) (hpop : (msgBufferPop b).2 = some m)
    (hm : urgent m = true) : serverMessageProc c input s =
      handleMessage c input m { s with message := (msgBufferPop b).1 } := by
  have hsource : messageSource c s = some b := by
    rw [messageSource, if_pos hlock, if_pos hblock, hb]
  rw [serverMessageProc, hsource]
  simp only [hpop]
  rw [if_neg]
  simp [messageFilter, hm]

theorem passesBlocked (hblock : c.hasMessageBlock = true) (input : ServerInput)
    (hlock : s.info.msgLock = true) (hwf : s.message.Wf k) : PassesBlocked k c input s := by
  have hspec := messageBlock_spec hwf
  rcases hb : messageBlock s.message with _ | b
  · rw [hb] at hspec
    refine ⟨fun m hfind => ?_, fun _ => ?_, fun _ _ => swapLoopEnds hwf⟩
    · have hm := List.find?_some hfind
      rw [hspec.2 m (List.mem_of_find?_eq_some hfind)] at hm
      cases hm
    · rw [serverMessageProc, messageSource, if_pos hlock, if_pos hblock, hb]
  · rw [hb] at hspec
    obtain ⟨hbwf, ⟨hnil, rfl⟩ | ⟨pre, msg, post, hsplit, hpre, hmsg, hcontents⟩⟩ := hspec
    · refine ⟨fun m hfind => ?_, fun _ => ?_, fun _ _ => swapLoopEnds hwf⟩
      · rw [hnil] at hfind
        cases hfind
      · have hsource : messageSource c s = some s.message := by
          rw [messageSource, if_pos hlock, if_pos hblock, hb]
        rw [serverMessageProc, hsource]
        simp only [msgBufferPop_nil hwf hnil]
    · obtain ⟨hfirst, hrest⟩ := @find_erase_of_split pre post msg hpre hmsg
      obtain ⟨hpop, hpwf, hpcontents⟩ := msgBufferPop_cons hbwf hcontents
      rw [← hsplit] at hfirst hrest
      refine ⟨fun m hfind => ?_, fun hfind => ?_, fun _ _ => swapLoopEnds hwf⟩
      · obtain rfl : msg = m := Option.some.inj (hfirst.symm.trans hfind)
        refine ⟨msgBufferDropOldest b, hpwf, by rw [hpcontents, hrest], ?_⟩
        rw [serverMessageProc_of_take hlock hblock hb (by rw [hpop]) hmsg, hpop]
      · rw [hfirst] at hfind
        cases hfind

/-- With `msg_lock` set, the video, the audio and the aliyun server take the first urgent message
out of the queue and leave the others in their order, or leave the queue as it is. -/
theorem videoAudioAliyun_passBlocked {k : ℕ} (input : ServerInput) :
    (∀ s : ServerState Video.Statics, s.info.msgLock = true → s.message.Wf k →
      PassesBlocked k Video.server input s) ∧
    (∀ s : ServerState Unit, s.info.msgLock = true → s.message.Wf k →
      PassesBlocked k Audio.server input s) ∧
    ∀ s : ServerState Aliyun.Statics, s.info.msgLock = true → s.message.Wf k →
      PassesBlocked k Aliyun.server input s :=
  ⟨fun _ hlock hwf => passesBlocked rfl input hlock hwf,
    fun _ hlock hwf => passesBlocked rfl input hlock hwf,
    fun _ hlock hwf => passesBlocked rfl input hlock hwf⟩

/-- A video server with a task in progress. Its ring of eight slots holds messages in the slots 6, 7, 0
and 1; only the third one is urgent. -/
def blockedVideo : ServerState Video.Statics where
  info := { status := .run, msgLock := true }
  message :=
    { buffer := [exitAck .audio, { message := msgManagerPropertyGet, sender := 3#32 }, {}, {}, {},
        {}, { message := msgManagerPropertySet },
        { message := msgManagerPropertyGet, arg := some [1#8] }]
      size := 8#32, head := 2#32, tail := 6#32, init := true }
  pc := .messageProc
  own := {}

/-- The acknowledgement passes the two messages before it. -/
theorem videoAudioAliyun_passBlocked_wrapped : ∃ b : MessageBuffer, b.Wf 3 ∧
    b.contents = [{ message := msgManagerPropertySet },
      { message := msgManagerPropertyGet, arg := some [1#8] },
      { message := msgManagerPropertyGet, sender := 3#32 }] ∧
    serverMessageProc Video.server {} blockedVideo =
      some (exitAckMessage (exitAck .audio) { blockedVideo with message := b }) := by
  have hwf : blockedVideo.message.Wf 3 := ⟨by decide, rfl, rfl, by decide, by decide⟩
  obtain ⟨b, hb, hcontents, hproc⟩ :=
    ((videoAudioAliyun_passBlocked {}).1 blockedVideo rfl hwf).takes (exitAck .audio)
      (by decide)
  exact ⟨b, hb, hcontents.trans (by decide), hproc.trans rfl⟩

end GokeWebcam.Server
