import GokeWebcam.Lib.Monitor
import GokeWebcam.Lib.Transition
import GokeWebcam.Server.Frame

/-!
# The message queues and their condition variables

Nine threads take messages out of a ring of their own and wait at a condition variable while it is
empty: the main threads of the eight servers, and the snapshot thread of the video server. The section
that pushes a message and the one that looks at the ring and waits are under one mutex; a push that
overflows is not followed by a signal.

* `Mailbox`: the nine queues, with what differs between them.
* `Mailbox.serverMessage`, `Mailbox.passBegin`, `Mailbox.passEnd`: the locked sections.
* `Mailbox.step`: one of them, a return of `cond_wait`, which needs no signal, or whatever else the
  threads do between the sections; what that does to the variables is left open.
* `not_blocked_nonempty`: no thread is blocked without a signal while its ring is not empty.
-/

namespace GokeWebcam.Server

open Lib Common Global Manager

/-- The queues that a thread waits at. -/
inductive Mailbox
  | manager | goke | video | snap | audio | aliyun | device | player | recorder
  deriving DecidableEq, Repr

/-- A ring, the variables its owner looks at, and the owner. -/
structure Post where
  info : ServerInfo := {}
  message : MessageBuffer := {}
  waiter : Waiter := .awake
  deriving DecidableEq

namespace Mailbox

/-- The results of a push that are followed by a signal.
Source: `server/*/*.c` `server_*_message`, the condition of `pthread_cond_signal` -/
def signals : Mailbox → MsgBufferPushResult → Bool
  | .aliyun, result => result ≠ .fail
  | _, result => result = .success

/-- Source: `server/*/*.c` `*_message_block`; the other servers look at `msg_lock` -/
def hasMessageBlock : Mailbox → Bool
  | .video | .audio | .aliyun => true
  | _ => false

variable (box : Mailbox)

/-- The section of a sender. The manager's does not look at `init`.
Source: `server/*/*.c` `server_*_message`, `server/manager/manager.c` `manager_message`,
`server/video/video.c` `server_video_snap_message` -/
def serverMessage (msg : Message) (post : Post) : Post :=
  if box ≠ .manager ∧ post.message.init = false then post
  else
    let r := msgBufferPush post.message (some msg)
    { post with message := r.1, waiter := post.waiter.signalIf (box.signals r.2) }

/-- Whether the owner waits. The snapshot thread looks at no status.
Source: `server/*/*.c` `server_message_proc`, `server/video/video.c` `video_snap_func` -/
def waits (post : Post) : Bool :=
  msgBufferIsEmpty post.message && (box = .snap || post.info.status = post.info.oldStatus)

/-- The ring to pop from, if a message may be taken.
Source: `server/*/*.c` `server_message_proc`, before `msg_buffer_pop` -/
def source (post : Post) : Option MessageBuffer :=
  if box ≠ .snap ∧ post.info.msgLock then
    if box.hasMessageBlock then messageBlock post.message else none
  else some post.message

/-- The end of the owner's section, and the message that it takes. -/
def passEnd (post : Post) : Post × Option Message :=
  match box.source post with
  | none => ({ post with waiter := .awake }, none)
  | some buff =>
    ({ post with message := (msgBufferPop buff).1, waiter := .awake }, (msgBufferPop buff).2)

/-- The section of the owner, up to its wait if it waits. -/
def passBegin (post : Post) : Post :=
  if box.waits post then { post with waiter := .blocked } else (box.passEnd post).1

end Mailbox

/-- What the threads do: a message is sent, the owner's section begins, its wait ends, the owner does
something else, among it the start and the release of the ring, another thread changes `info`. -/
inductive PostAction
  | send (msg : Message)
  | pass
  | wake
  | work (info : ServerInfo) (message : MessageBuffer)
  | others (info : ServerInfo)

namespace Mailbox

/-- One step; `none` where the action is not enabled. -/
def step (box : Mailbox) (post : Post) : PostAction → Option Post
  | .send msg => some (box.serverMessage msg post)
  | .pass => if post.waiter = .awake then some (box.passBegin post) else none
  | .wake => if post.waiter = .awake then none else some (box.passEnd post).1
  | .work info message =>
    if post.waiter = .awake then some { post with info := info, message := message } else none
  | .others info => some { post with info := info }

variable {box : Mailbox} {post post' : Post} {msg : Message} {action : PostAction}

/-! ### The invariant -/

/-- The ring of a thread that is blocked without a signal is empty. -/
def Quiet (post : Post) : Prop := post.waiter.Idle (msgBufferIsEmpty post.message = true)

/-- A push into an empty ring succeeds, or the ring has no place at all. -/
theorem msgBufferPush_empty {buff : MessageBuffer} (hempty : msgBufferIsEmpty buff = true)
    (h : (msgBufferPush buff (some msg)).2 ≠ .success) :
    msgBufferIsEmpty (msgBufferPush buff (some msg)).1 = true := by
  have hindex : buff.head = buff.tail := by simpa [msgBufferIsEmpty] using hempty
  by_cases hfull : msgBufferIsFull buff = true
  · have hsize : buff.size - 1#32 = 0#32 := by
      rw [msgBufferIsFull, MessageBuffer.mask, hindex] at hfull
      exact (by simpa using hfull : 0#32 = buff.size - 1#32).symm
    rw [msgBufferPush, if_pos hfull]
    split_ifs
    · simp [msgBufferStore, msgBufferDropOldest, MessageBuffer.mask, msgBufferIsEmpty, hsize]
    · exact hempty
  · rw [msgBufferPush, if_neg hfull] at h
    exact absurd rfl h

/-- A sender signals a thread that it has made something to do for. -/
theorem quiet_serverMessage (h : Quiet post) : Quiet (box.serverMessage msg post) := by
  rw [serverMessage]
  split_ifs with hinit
  · exact h
  · refine Waiter.Idle.signalIf h fun hsignal hempty => msgBufferPush_empty hempty ?_
    intro hsuccess
    rw [hsuccess] at hsignal
    cases box <;> cases hsignal

theorem waiter_passEnd : (box.passEnd post).1.waiter = .awake := by
  rw [passEnd]
  split <;> rfl

/-- The owner waits only while its ring is empty. -/
theorem quiet_passBegin : Quiet (box.passBegin post) := by
  rw [passBegin]
  split_ifs with hwaits
  · intro _
    rw [waits, Bool.and_eq_true] at hwaits
    exact hwaits.1
  · rw [Quiet, waiter_passEnd]
    exact Waiter.idle_awake

theorem quiet_step (h : Quiet post) (hs : box.step post action = some post') : Quiet post' := by
  cases action with
  | send msg =>
      cases hs
      exact quiet_serverMessage h
  | pass =>
      rw [step] at hs
      split_ifs at hs
      cases hs
      exact quiet_passBegin
  | wake =>
      rw [step] at hs
      split_ifs at hs
      cases hs
      rw [Quiet, waiter_passEnd]
      exact Waiter.idle_awake
  | work info message =>
      rw [step] at hs
      split_ifs at hs with hawake
      cases hs
      rw [Quiet, hawake]
      exact Waiter.idle_awake
  | others info =>
      cases hs
      exact h

/-- In whatever order messages are sent and the owner looks at its ring, the owner is never blocked
without a pending signal while there is a message in the ring. -/
theorem not_blocked_nonempty (box : Mailbox) (h : Reach box.step AllRuns {} post) :
    ¬ (post.waiter = .blocked ∧ msgBufferIsEmpty post.message = false) := by
  have hstart : Quiet {} := Waiter.idle_awake
  have hquiet : Quiet post := h.inv hstart fun _ _ _ hquiet _ hs => quiet_step hquiet hs
  rintro ⟨hblocked, hmessage⟩
  rw [hquiet hblocked] at hmessage
  cases hmessage

/-- Two messages for a ring with one place: the second push overflows, the signal of the first is
pending. -/
theorem not_blocked_nonempty_overflow : ∃ post, Reach Mailbox.video.step AllRuns {} post ∧
    (post.waiter = .signalled ∧ post.message.sequence = 2#32 ∧ post.message.contents.length = 1) ∧
    ¬ (post.waiter = .blocked ∧ msgBufferIsEmpty post.message = false) := by
  have hrun : (exec Mailbox.video.step (fun _ _ => true) {}
      [.work {} (msgBufferInit .yes 2#32), .pass, .send msgInit, .send msgInit]).any (fun post =>
        decide (post.waiter = .signalled ∧ post.message.sequence = 2#32 ∧
          post.message.contents.length = 1)) = true := by decide
  obtain ⟨post, hreach, hpost⟩ := Reach.exists_of_exec (fun _ _ _ => trivial) hrun
  exact ⟨post, hreach, hpost, not_blocked_nonempty .video hreach⟩

/-! ### The loop of a server -/

/-- The variables of a server whose main thread is not blocked. -/
def unblocked {κ : Type} (s : ServerState κ) : Post where
  info := s.info
  message := s.message

variable {κ : Type} {P : Message → Prop} {c : ServerCode κ} {config : ManagerConfig}
  {s s' : ServerState κ} {a : ServerAction}

/-- What the owner's section takes is what the loop of a server takes. -/
theorem passEnd_unblocked (hsnap : box ≠ .snap) (hblock : box.hasMessageBlock = c.hasMessageBlock) :
    (box.passEnd (unblocked s)).2 = nextMessage c s := by
  have hsource : box.source (unblocked s) = messageSource c s := by
    rw [source, messageSource, hblock]
    simp only [unblocked, ne_eq, hsnap, not_false_eq_true, true_and]
  rw [passEnd, hsource, nextMessage]
  rcases messageSource c s with _ | buff <;> rfl

/-- Where `cond_wait` returns at once, a step of a server is one of its queue and its threads. -/
theorem step_unblocked (hc : Keeper P c) (hbox : box ≠ .manager) (h : c.step config s a = some s') :
    ∃ action, box.step (unblocked s) action = some (unblocked s') := by
  cases a with
  | main input => exact ⟨.work s'.info s'.message, rfl⟩
  | thread input =>
      refine ⟨.others s'.info, ?_⟩
      rw [step, unblocked, unblocked, (hc.thread h).message]
  | arrive msg =>
      refine ⟨.send msg, ?_⟩
      cases h
      rw [step, Mailbox.serverMessage, Server.serverMessage]
      by_cases hinit : s.message.init = true
      · rw [if_pos hinit, if_neg (by simp [unblocked, hinit])]
        simp only [unblocked, Waiter.signalIf_awake]
      · rw [if_neg hinit, if_pos ⟨hbox, by simpa [unblocked] using hinit⟩]
  | start => exact ⟨.work s'.info s'.message, rfl⟩

end Mailbox

end GokeWebcam.Server
