import GokeWebcam.Server.Audio
import GokeWebcam.Server.PlayerJobs
import GokeWebcam.Server.Video

/-!
# The switch from live to recorded frames

Before it plays, a playback thread asks the video and the audio server to end the live stream of its
channel, and waits for both. `SyncState` is the player with these messages under way, which arrive in
any order, or are lost. The messages carry the number of the slot only; the number of the round is a
history variable of the model.

* `SwitchSound`: a thread that goes on from `PLAYER_THREAD_SYNC` has the answers of both servers to
  the requests of its round, and `live_sync` counts no others.
* `RoundClean`: a round begins with nothing left over from the rounds before it in its slot.
* `switchSound_of_roundClean`: if all rounds of a run begin so, all switches of the run are sound.
* `stale_answers`: the answers to the requests of a round that a seek has cut short count for the
  next one.
-/

namespace GokeWebcam.Server.Player

open Lib Common Global

/-! ### The player and the messages under way -/

/-- A message of a synchronisation on its way to a server. `round` is not in the source: the round
whose request it is or answers. -/
structure SyncFlight where
  receiver : CInt
  msg : Message
  round : ℕ

/-- The slot that the message is about. -/
def SyncFlight.slot (f : SyncFlight) : ℕ := f.msg.argIn.dog.toNat

/-- The last four fields are not in the source: the number of rounds, the latest round of each slot,
the rounds whose request a server has processed, and the rounds whose answers the `live_sync` of a
slot holds. -/
structure SyncState where
  player : State
  inFlight : List SyncFlight := []
  rounds : ℕ := 0
  round : ℕ → ℕ := fun _ => 0
  processed : CInt → ℕ → Bool := fun _ _ => false
  counted : ℕ → List ℕ := fun _ => []

/-- A step of the player other than the handling of an answer; a server, or the player, takes the
`n`-th message under way; a full buffer loses it. -/
inductive SyncAction
  | job (a : JobAction)
  | deliver (n : ℕ)
  | lose (n : ℕ)

/-- The message is an answer to a synchronisation request. -/
def JobAction.isAnswer : JobAction → Bool
  | .message _ msg => msg.message = ackOf msgPlayerRequestSync
  | _ => false

/-- The synchronisation requests that a step of the player sends. -/
def syncSends (s s' : State) : List (CInt × Message) :=
  (s'.out.drop s.out.length).filter fun m => m.2.message = msgPlayerRequestSync

/-- A `live_sync` of 0 holds no answer. -/
def recount (player : State) (counted : ℕ → List ℕ) (i : ℕ) : List ℕ :=
  if (jobAt player i).liveSync = 0#32 then [] else counted i

/-- The requests that a step of the player sends are those of a new round. -/
def jobSync (a : JobAction) (s : SyncState) : Option SyncState :=
  if a.isAnswer then none
  else (jobStep s.player a).map fun player =>
    let sends := syncSends s.player player
    { s with
      player := player
      inFlight := s.inFlight ++ sends.map fun m => ⟨m.1, m.2, s.rounds + 1⟩
      rounds := s.rounds + 1
      round := fun i =>
        if sends.any fun m => m.2.argIn.dog.toNat = i then s.rounds + 1 else s.round i
      counted := recount player s.counted }

/-- A server processes a request, and its answer is under way.
Source: `server/video/video.c`, `server/audio/audio.c` `server_message_proc`,
`MSG_PLAYER_REQUEST_SYNC` -/
def answer (ack : Message → Message) (f : SyncFlight) (s : SyncState) : SyncState :=
  { s with
    inFlight := s.inFlight ++ [⟨ServerType.player.toInt, ack f.msg, f.round⟩]
    processed := fun server round =>
      s.processed server round || (server = f.receiver && round = f.round) }

/-- A server takes the message out of its buffer. -/
def receive (f : SyncFlight) (s : SyncState) : Option SyncState :=
  if f.receiver = ServerType.video.toInt then some (answer Video.requestSyncAck f s)
  else if f.receiver = ServerType.audio.toInt then some (answer Audio.requestSyncAck f s)
  else if f.receiver = ServerType.player.toInt then
    (jobStep s.player (.message {} f.msg)).map fun player =>
      { s with
        player := player
        counted := recount player
          (Function.update s.counted f.slot (f.round :: s.counted f.slot)) }
  else none

/-- One step. -/
def syncStep (s : SyncState) : SyncAction → Option SyncState
  | .job a => jobSync a s
  | .deliver n =>
    (s.inFlight[n]?).bind fun f => receive f { s with inFlight := s.inFlight.eraseIdx n }
  | .lose n => some { s with inFlight := s.inFlight.eraseIdx n }

/-- The thread goes on from `PLAYER_THREAD_SYNC` to `PLAYER_THREAD_IDLE`. -/
def Switches (input : ServerInput) (t : PlayerThread) (s s' : State) : Prop :=
  threadAt s input.tid = some t ∧ t.pc = .body ∧ t.status = .sync ∧
    ∃ t', threadAt s' input.tid = some t' ∧ t'.status = .idle

/-- A thread goes on only when both servers have processed a request of its round, and the answers
it counts are those to the requests of its round. -/
def SwitchSound (s : SyncState) (a : SyncAction) (s' : SyncState) : Prop :=
  ∀ input t, a = .job (.thread input) → Switches input t s.player s'.player →
    s.processed ServerType.video.toInt (s.round t.tid) = true ∧
      s.processed ServerType.audio.toInt (s.round t.tid) = true ∧
      ∀ r ∈ s.counted t.tid, r = s.round t.tid

/-- The slot whose thread sends its requests in its next step.
Source: `server/player/player.c` `player_func`, `PLAYER_THREAD_INITED` -/
def beginsRound (input : ServerInput) (s : State) : Option ℕ :=
  (threadAt s input.tid).bind fun t =>
    if t.pc = .body ∧ t.status = .inited ∧ input.found = true then some t.tid else none

/-- The condition on a step: when a thread sends its requests, the `live_sync` of its slot is 0 and
no message about the slot is under way. -/
def RoundClean (s : SyncState) : SyncAction → Prop
  | .job (.thread input) => ∀ i ∈ beginsRound input s.player,
      (jobAt s.player i).liveSync = 0#32 ∧ ∀ f ∈ s.inFlight, f.slot ≠ i
  | _ => True

instance (s : SyncState) : (a : SyncAction) → Decidable (RoundClean s a)
  | .job (.thread input) => inferInstanceAs (Decidable (∀ i ∈ beginsRound input s.player,
      (jobAt s.player i).liveSync = 0#32 ∧ ∀ f ∈ s.inFlight, f.slot ≠ i))
  | .job (.message _ _) | .job (.stopFound _) | .job (.status _) | .deliver _ | .lose _ =>
    inferInstanceAs (Decidable True)

variable {s s' : State} {w w' : SyncState} {input : ServerInput} {msg : Message} {i j k : ℕ}
  {t t' : PlayerThread} {job : Job} {a : JobAction}

/-! ### What the two servers answer -/

/-- The video server answers so in every state. -/
theorem video_answers (input : ServerInput) (s : Video.State)
    (hmsg : msg.message = msgPlayerRequestSync) :
    Video.handle input s msg = some (s.send ServerType.player.toInt (Video.requestSyncAck msg)) := by
  unfold Video.handle
  simp only [hmsg]
  rw [if_neg (by decide), if_neg (by decide), if_neg (by decide), if_neg (by decide),
    if_neg (by decide), if_pos trivial]

/-- So does the audio server. -/
theorem audio_answers (s : Audio.State) (hmsg : msg.message = msgPlayerRequestSync) :
    Audio.handle s msg = some (s.send ServerType.player.toInt (Audio.requestSyncAck msg)) := by
  unfold Audio.handle
  simp only [hmsg]
  have hset : msgPlayerRequestSync ≠ Audio.msgAudioPropertySet := by decide
  rw [if_neg (by decide), if_neg (by decide), if_neg (by decide), if_neg (fun h => hset h.1),
    if_pos trivial]

/-! ### What the player does to `live_sync` -/

/-- A slot that is written without a change of `live_sync`, or with 0. -/
theorem liveSync_setJob (h : job.liveSync = (jobAt s i).liveSync ∨ job.liveSync = 0#32) :
    (jobAt (setJob s i job) j).liveSync = (jobAt s j).liveSync ∨
      (jobAt (setJob s i job) j).liveSync = 0#32 := by
  by_cases hi : i < s.own.jobs.length
  · rw [jobAt_setJob hi]
    split_ifs with hij
    · rw [← hij]
      exact h
    · exact .inl rfl
  · left
    have hsame : setJob s i job = s := by
      unfold setJob
      rw [List.set_eq_of_length_le (Nat.not_lt.mp hi)]
    rw [hsame]

theorem liveSync_onJob {f : Job → Job} (hf : ∀ job, (f job).liveSync = job.liveSync) :
    (jobAt (onJob msg s f) j).liveSync = (jobAt s j).liveSync ∨
      (jobAt (onJob msg s f) j).liveSync = 0#32 := by
  unfold onJob
  split
  · exact .inl rfl
  · exact liveSync_setJob (.inl (hf _))

theorem liveSync_playerAddJob :
    (jobAt (playerAddJob input msg s) j).liveSync = (jobAt s j).liveSync ∨
      (jobAt (playerAddJob input msg s) j).liveSync = 0#32 := by
  unfold playerAddJob
  split
  · exact .inl rfl
  split
  · exact .inl rfl
  split
  · exact .inl rfl
  split
  · exact liveSync_setJob (.inl rfl)
  split
  · unfold createJob
    dsimp only
    split_ifs
    · exact liveSync_setJob (.inr rfl)
    · exact liveSync_setJob (.inr rfl)
  · exact .inl rfl

theorem liveSync_handleJob (h : handleJob msg s = some s') :
    (jobAt s' j).liveSync = (jobAt s j).liveSync ∨ (jobAt s' j).liveSync = 0#32 := by
  unfold handleJob at h
  split_ifs at h <;> cases h
  · exact liveSync_onJob fun _ => rfl
  · exact liveSync_onJob fun _ => rfl
  · exact liveSync_onJob fun _ => rfl
  · exact liveSync_onJob fun _ => rfl
  · apply liveSync_onJob
    intro job
    split_ifs <;> rfl
  · apply liveSync_onJob
    intro job
    split_ifs <;> rfl
  · exact liveSync_onJob fun _ => rfl
  · exact liveSync_onJob fun _ => rfl

theorem liveSync_playerFunc (h : playerFunc input s = some s') :
    (jobAt s' j).liveSync = (jobAt s j).liveSync ∨ (jobAt s' j).liveSync = 0#32 := by
  rw [playerFunc, Option.map_eq_some_iff] at h
  obtain ⟨t, ht, rfl⟩ := h
  rcases hpc : t.pc with _ | _ | _ | _
  · exact .inl rfl
  · unfold threadHead
    dsimp only
    split_ifs
    · exact .inl rfl
    · exact .inl rfl
    · exact liveSync_setJob (.inl rfl)
    · exact .inl rfl
  · unfold threadBody
    dsimp only
    split
    · split_ifs <;> exact .inl rfl
    · split_ifs
      · exact liveSync_setJob (.inr rfl)
      · exact .inl rfl
    · exact .inl rfl
    · exact .inl rfl
    · exact .inl rfl
    · exact liveSync_setJob (s := s.setStatus playerThreadInited) (.inl rfl)
    · exact liveSync_setJob (s := s.setStatus playerThreadInited) (.inl rfl)
    · exact .inl rfl
  · exact liveSync_setJob (s := s.threadEnd t.tid) (.inr rfl)

/-- Only an answer sets bits of `live_sync`. -/
theorem liveSync_jobStep (h : jobStep s a = some s') (ha : a.isAnswer = false) :
    (jobAt s' j).liveSync = (jobAt s j).liveSync ∨ (jobAt s' j).liveSync = 0#32 := by
  cases a with
  | message input msg =>
      have hanswer : msg.message ≠ ackOf msgPlayerRequestSync := of_decide_eq_false ha
      have hmessage : jobMessage input msg s = some s' := h
      unfold jobMessage at hmessage
      split_ifs at hmessage
      · cases hmessage
        exact liveSync_playerAddJob
      · exact liveSync_handleJob hmessage
  | stopFound id =>
      cases h
      exact liveSync_setJob (.inl rfl)
  | status status =>
      cases h
      exact .inl rfl
  | thread input => exact liveSync_playerFunc h

/-- An answer sets the bit of the server it is from, in the slot it is about. -/
theorem liveSync_requestSyncAck (hlength : s.own.jobs.length = aliyunVisualMaxChannel)
    (h : requestSyncAck msg s = some s') :
    (jobAt s' j).liveSync = (jobAt s j).liveSync ∨ (j = msg.argIn.dog.toNat ∧
      ((msg.sender = ServerType.video.toInt ∧
          (jobAt s' j).liveSync = miscSetBit (jobAt s j).liveSync playerSyncVideo) ∨
        (msg.sender = ServerType.audio.toInt ∧
          (jobAt s' j).liveSync = miscSetBit (jobAt s j).liveSync playerSyncAudio))) := by
  have hnote : ∀ {bit}, noteSync msg s bit = some s' →
      (jobAt s' j).liveSync = (jobAt s j).liveSync ∨ (j = msg.argIn.dog.toNat ∧
        (jobAt s' j).liveSync = miscSetBit (jobAt s j).liveSync bit) := by
    intro bit h
    unfold noteSync at h
    dsimp only at h
    split_ifs at h with hresult hid
    · cases h
      exact .inl rfl
    · cases h
      rw [jobAt_setJob (by rw [hlength]; exact hid)]
      split_ifs with hj
      · exact .inr ⟨hj.symm, by rw [hj]⟩
      · exact .inl rfl
  unfold requestSyncAck at h
  split_ifs at h with hvideo haudio
  · obtain hsame | ⟨hslot, hset⟩ := hnote h
    · exact .inl hsame
    · exact .inr ⟨hslot, .inl ⟨hvideo, hset⟩⟩
  · obtain hsame | ⟨hslot, hset⟩ := hnote h
    · exact .inl hsame
    · exact .inr ⟨hslot, .inr ⟨haudio, hset⟩⟩
  · cases h
    exact .inl rfl

/-- Both bits are set when `live_sync` is full. -/
theorem bits_of_full {a : CInt} (h : miscFullBit a playerSyncButt = true) :
    a.getLsbD playerSyncVideo = true ∧ a.getLsbD playerSyncAudio = true := by
  have ha : a = 3#32 := by
    have heq := beq_iff_eq.mp h
    rw [heq]
    decide
  rw [ha]
  decide

/-! ### What the player sends -/

/-- The requests of a thread. -/
def requestsOf (t : PlayerThread) : List (CInt × Message) :=
  [(ServerType.video.toInt, requestSync t), (ServerType.audio.toInt, requestSync t)]

theorem syncSends_same (h : s'.out = s.out) : syncSends s s' = [] := by
  unfold syncSends
  rw [h, List.drop_length]
  rfl

theorem syncSends_append {sent : List (CInt × Message)} (h : s'.out = s.out ++ sent) :
    syncSends s s' = sent.filter fun m => m.2.message = msgPlayerRequestSync := by
  unfold syncSends
  rw [h, List.drop_left]

/-- A thread sends its requests when it begins a round. -/
theorem syncSends_playerFunc (h : playerFunc input s = some s') :
    (∃ t, threadAt s input.tid = some t ∧ beginsRound input s = some t.tid ∧ t.pc = .body ∧
        syncSends s s' = requestsOf t) ∨
      (beginsRound input s = none ∧ syncSends s s' = []) := by
  rw [playerFunc, Option.map_eq_some_iff] at h
  obtain ⟨t, ht, rfl⟩ := h
  have hthread : threadAt s input.tid = some t := ht
  unfold beginsRound
  rw [hthread, Option.bind_some]
  rcases hpc : t.pc with _ | _ | _ | _
  · exact .inr ⟨by simp, syncSends_same rfl⟩
  · refine .inr ⟨by simp, syncSends_same ?_⟩
    unfold threadHead
    dsimp only
    split_ifs <;> rfl
  · by_cases hbegins : t.status = .inited ∧ input.found = true
    · left
      refine ⟨t, rfl, by simp [hbegins], hpc, ?_⟩
      have hout : (threadBody input s input.tid t).out = s.out ++ requestsOf t := by
        unfold threadBody
        simp only [hbegins.1, hbegins.2, if_true]
        exact List.append_assoc s.out [_] [_]
      rw [syncSends_append hout]
      rfl
    · right
      refine ⟨by simp [hbegins], syncSends_same ?_⟩
      unfold threadBody
      dsimp only
      split
      · split_ifs with hfound
        · rename_i hinited
          exact absurd ⟨hinited, hfound⟩ hbegins
        · rfl
      · split_ifs <;> rfl
      all_goals rfl
  · refine .inr ⟨by simp, ?_⟩
    have hout : (threadRelease s input.tid t).out =
        s.out ++ [(ServerType.player.toInt, serverMsg .player msgManagerDummy)] := rfl
    rw [syncSends_append hout]
    rfl

theorem out_jobMessage (h : jobMessage input msg s = some s') : s'.out = s.out := by
  have honJob : ∀ f, (onJob msg s f).out = s.out := by
    intro f
    unfold onJob
    split <;> rfl
  unfold jobMessage at h
  split_ifs at h
  · cases h
    unfold playerAddJob createJob
    split
    · rfl
    split
    · rfl
    split
    · rfl
    split
    · rfl
    split
    · dsimp only
      split_ifs <;> rfl
    · rfl
  · unfold requestSyncAck noteSync at h
    dsimp only at h
    split_ifs at h <;> cases h <;> rfl
  · unfold handleJob at h
    split_ifs at h <;> cases h <;> exact honJob _

/-- A step of the player that begins no round sends no request. -/
theorem syncSends_jobStep (h : jobStep s a = some s') :
    (∃ input t, a = .thread input ∧ threadAt s input.tid = some t ∧
        beginsRound input s = some t.tid ∧ t.pc = .body ∧ syncSends s s' = requestsOf t) ∨
      syncSends s s' = [] := by
  cases a with
  | message input msg => exact .inr (syncSends_same (out_jobMessage h))
  | stopFound id =>
      cases h
      exact .inr (syncSends_same rfl)
  | status status =>
      cases h
      exact .inr (syncSends_same rfl)
  | thread input =>
      obtain ⟨t, ht, hbegins, hpc, hsends⟩ | ⟨-, hsends⟩ := syncSends_playerFunc h
      · exact .inl ⟨input, t, rfl, ht, hbegins, hpc, hsends⟩
      · exact .inr hsends

/-! ### Nothing is left over -/

/-- What holds in every state of a run whose rounds begin clean: the messages under way, the bits of
`live_sync` and the answers it counts all belong to the latest round of their slot. -/
structure SyncInv (w : SyncState) : Prop where
  jobs : JobInv w.player
  current : ∀ f ∈ w.inFlight, f.round = w.round f.slot
  answers : ∀ f ∈ w.inFlight, f.receiver = ServerType.player.toInt →
    f.msg.message = ackOf msgPlayerRequestSync ∧ w.processed f.msg.sender f.round = true
  video : ∀ i, (jobAt w.player i).liveSync.getLsbD playerSyncVideo = true →
    w.processed ServerType.video.toInt (w.round i) = true
  audio : ∀ i, (jobAt w.player i).liveSync.getLsbD playerSyncAudio = true →
    w.processed ServerType.audio.toInt (w.round i) = true
  counted : ∀ i, ∀ r ∈ w.counted i, r = w.round i

theorem syncInv_init : SyncInv { player := { own := {} } } := by
  have hzero : ∀ i, (jobAt ({ own := {} } : State) i).liveSync = 0#32 := by
    intro i
    unfold jobAt
    rw [List.getD_eq_getElem?_getD, List.getElem?_replicate]
    split_ifs <;> rfl
  refine ⟨jobInv_init, by simp, by simp, ?_, ?_, by simp⟩
  · intro i hi
    simp [hzero] at hi
  · intro i hi
    simp [hzero] at hi

/-- A bit that is set was set before, if only bits were cleared. -/
theorem getLsbD_of_kept {a b : CInt} (h : b = a ∨ b = 0#32) (hbit : b.getLsbD i = true) :
    b = a ∧ a.getLsbD i = true := by
  obtain rfl | rfl := h
  · exact ⟨rfl, hbit⟩
  · simp at hbit

theorem of_mem_recount {r : ℕ} {counted : ℕ → List ℕ} (hr : r ∈ recount s counted i) :
    (jobAt s i).liveSync ≠ 0#32 ∧ r ∈ counted i := by
  unfold recount at hr
  split_ifs at hr with hzero
  · simp at hr
  · exact ⟨hzero, hr⟩

/-- Messages that are taken or lost leave the rest in order. -/
theorem SyncInv.erase {n : ℕ} (h : SyncInv w) : SyncInv { w with inFlight := w.inFlight.eraseIdx n } where
  jobs := h.jobs
  current f hf := h.current f (List.mem_of_mem_eraseIdx hf)
  answers f hf := h.answers f (List.mem_of_mem_eraseIdx hf)
  video := h.video
  audio := h.audio
  counted := h.counted

/-- A server's answer belongs to the round of the request. -/
theorem SyncInv.answer {f : SyncFlight} {ack : Message → Message} (h : SyncInv w)
    (hround : f.round = w.round f.slot) (hslot : (ack f.msg).argIn.dog = f.msg.argIn.dog)
    (hack : (ack f.msg).message = ackOf msgPlayerRequestSync)
    (hsender : (ack f.msg).sender = f.receiver) : SyncInv (answer ack f w) where
  jobs := h.jobs
  current g hg := by
    obtain hold | rfl : g ∈ w.inFlight ∨ g = ⟨ServerType.player.toInt, ack f.msg, f.round⟩ := by
      simpa [Player.answer] using hg
    · exact h.current g hold
    · show f.round = w.round (ack f.msg).argIn.dog.toNat
      rw [hslot]
      exact hround
  answers g hg hplayer := by
    obtain hold | rfl : g ∈ w.inFlight ∨ g = ⟨ServerType.player.toInt, ack f.msg, f.round⟩ := by
      simpa [Player.answer] using hg
    · obtain ⟨hmsg, hprocessed⟩ := h.answers g hold hplayer
      exact ⟨hmsg, by simp [Player.answer, hprocessed]⟩
    · exact ⟨hack, by simp [Player.answer, hsender]⟩
  video i hi := by simp [Player.answer, h.video i hi]
  audio i hi := by simp [Player.answer, h.audio i hi]
  counted := h.counted

/-- The player counts an answer for the round it belongs to. -/
theorem SyncInv.count {f : SyncFlight} {player : State} (h : SyncInv w)
    (hround : f.round = w.round f.slot) (hmsg : f.msg.message = ackOf msgPlayerRequestSync)
    (hprocessed : w.processed f.msg.sender f.round = true)
    (hstep : jobStep w.player (.message {} f.msg) = some player) :
    SyncInv { w with
      player := player
      counted := recount player
        (Function.update w.counted f.slot (f.round :: w.counted f.slot)) } := by
  have hack : requestSyncAck f.msg w.player = some player := by
    have hmessage : jobMessage {} f.msg w.player = some player := hstep
    unfold jobMessage at hmessage
    rw [hmsg] at hmessage
    rw [if_neg (by decide), if_pos rfl] at hmessage
    exact hmessage
  have hsync := fun i => liveSync_requestSyncAck (j := i) h.jobs.length hack
  refine ⟨jobInv_step h.jobs hstep, h.current, h.answers, ?_, ?_, ?_⟩
  · intro i hi
    dsimp only at hi ⊢
    obtain hsame | ⟨hslot, ⟨hsender, hset⟩ | ⟨-, hset⟩⟩ := hsync i
    · exact h.video i (by rw [← hsame]; exact hi)
    · have hslot : i = f.slot := hslot
      rw [hslot, ← hround, ← hsender]
      exact hprocessed
    · rw [hset, getLsbD_miscSetBit (by decide)] at hi
      exact h.video i (by simpa [playerSyncAudio, playerSyncVideo] using hi)
  · intro i hi
    dsimp only at hi ⊢
    obtain hsame | ⟨hslot, ⟨-, hset⟩ | ⟨hsender, hset⟩⟩ := hsync i
    · exact h.audio i (by rw [← hsame]; exact hi)
    · rw [hset, getLsbD_miscSetBit (by decide)] at hi
      exact h.audio i (by simpa [playerSyncAudio, playerSyncVideo] using hi)
    · have hslot : i = f.slot := hslot
      rw [hslot, ← hround, ← hsender]
      exact hprocessed
  · intro i r hr
    obtain ⟨-, hr⟩ := of_mem_recount hr
    by_cases hi : i = f.slot
    · rw [hi, Function.update_self] at hr
      rw [hi]
      obtain rfl | hold := List.mem_cons.mp hr
      · exact hround
      · exact h.counted f.slot r hold
    · rw [Function.update_of_ne hi] at hr
      exact h.counted i r hr

/-- The slot of a thread's requests is its own. -/
theorem slot_requestSync (htid : t.tid < aliyunVisualMaxChannel) :
    (requestSync t).argIn.dog.toNat = t.tid := toNat_ofNat_lt htid

/-- A step of the player that begins no round. -/
theorem SyncInv.keep {player : State} (h : SyncInv w) (hstep : jobStep w.player a = some player)
    (ha : a.isAnswer = false) (hsends : syncSends w.player player = []) (hjob : jobSync a w = some w') :
    SyncInv w' := by
  unfold jobSync at hjob
  rw [ha, if_neg Bool.false_ne_true, hstep] at hjob
  simp only [Option.map_some, hsends, List.map_nil, List.append_nil, List.any_nil,
    Bool.false_eq_true, if_false, Option.some.injEq] at hjob
  obtain rfl := hjob
  have hsync := fun i => liveSync_jobStep (j := i) hstep ha
  refine ⟨jobInv_step h.jobs hstep, h.current, h.answers, ?_, ?_, ?_⟩
  · intro i hi
    exact h.video i (getLsbD_of_kept (hsync i) hi).2
  · intro i hi
    exact h.audio i (getLsbD_of_kept (hsync i) hi).2
  · intro i r hr
    exact h.counted i r (of_mem_recount hr).2

/-- A thread begins a clean round. -/
theorem SyncInv.round (h : SyncInv w) (ht : threadAt w.player input.tid = some t) (hpc : t.pc = .body)
    (hstep : jobStep w.player (.thread input) = some s') (hsends : syncSends w.player s' = requestsOf t)
    (hzero : (jobAt w.player t.tid).liveSync = 0#32) (hnone : ∀ f ∈ w.inFlight, f.slot ≠ t.tid)
    (hjob : jobSync (.thread input) w = some w') : SyncInv w' := by
  have htid : t.tid < aliyunVisualMaxChannel := by
    rw [h.jobs.tid _ t ht (by simp [hpc]), ← h.jobs.length]
    exact h.jobs.lt ht
  have hslot := slot_requestSync htid
  -- The requests are the only messages about the slot, and its `live_sync` is 0.
  have hround : ∀ i, (requestsOf t).any (fun m => m.2.argIn.dog.toNat = i) = decide (t.tid = i) := by
    intro i
    simp [requestsOf, hslot]
  unfold jobSync at hjob
  rw [show (JobAction.thread input).isAnswer = false from rfl, if_neg Bool.false_ne_true, hstep] at hjob
  simp only [Option.map_some, hsends, hround, decide_eq_true_eq, Option.some.injEq] at hjob
  obtain rfl := hjob
  have hsync := fun i => liveSync_jobStep (j := i) hstep rfl
  have hzero' : (jobAt s' t.tid).liveSync = 0#32 := by
    obtain hsame | hcleared := hsync t.tid
    · exact hsame.trans hzero
    · exact hcleared
  refine ⟨jobInv_step h.jobs hstep, ?_, ?_, ?_, ?_, ?_⟩
  · intro f hf
    dsimp only at hf ⊢
    obtain hold | hnew := List.mem_append.mp hf
    · rw [if_neg (Ne.symm (hnone f hold))]
      exact h.current f hold
    · obtain ⟨m, hm, rfl⟩ := List.mem_map.mp hnew
      have hm : m.2 = requestSync t := by
        simp only [requestsOf, List.mem_cons, List.not_mem_nil, or_false] at hm
        obtain rfl | rfl := hm <;> rfl
      have hown : t.tid = m.2.argIn.dog.toNat := by
        rw [hm, hslot]
      exact (if_pos hown).symm
  · intro f hf hplayer
    obtain hold | hnew := List.mem_append.mp hf
    · exact h.answers f hold hplayer
    · obtain ⟨m, hm, rfl⟩ := List.mem_map.mp hnew
      simp only [requestsOf, List.mem_cons, List.not_mem_nil, or_false] at hm
      obtain rfl | rfl := hm
      · have hvideo : ServerType.video.toInt = ServerType.player.toInt := hplayer
        exact absurd hvideo (by decide)
      · have haudio : ServerType.audio.toInt = ServerType.player.toInt := hplayer
        exact absurd haudio (by decide)
  · intro i hi
    dsimp only at hi ⊢
    have hne : t.tid ≠ i := by
      rintro rfl
      rw [hzero'] at hi
      simp at hi
    rw [if_neg hne]
    exact h.video i (getLsbD_of_kept (hsync i) hi).2
  · intro i hi
    dsimp only at hi ⊢
    have hne : t.tid ≠ i := by
      rintro rfl
      rw [hzero'] at hi
      simp at hi
    rw [if_neg hne]
    exact h.audio i (getLsbD_of_kept (hsync i) hi).2
  · intro i r hr
    obtain ⟨hset, hr⟩ := of_mem_recount hr
    dsimp only
    rw [if_neg (by rintro rfl; exact hset hzero')]
    exact h.counted i r hr

/-- Nothing is left over while the rounds begin clean. -/
theorem syncInv_step {a : SyncAction} (h : SyncInv w) (hstep : syncStep w a = some w')
    (hclean : RoundClean w a) : SyncInv w' := by
  cases a with
  | job a =>
      have hjob : jobSync a w = some w' := hstep
      have hanswer : a.isAnswer = false := by
        by_contra hanswer
        unfold jobSync at hjob
        rw [if_pos (Bool.not_eq_false _ ▸ hanswer)] at hjob
        cases hjob
      obtain ⟨player, hplayer⟩ : ∃ player, jobStep w.player a = some player := by
        unfold jobSync at hjob
        rw [hanswer, if_neg Bool.false_ne_true, Option.map_eq_some_iff] at hjob
        obtain ⟨player, hplayer, -⟩ := hjob
        exact ⟨player, hplayer⟩
      obtain ⟨input, t, rfl, ht, hbegins, hpc, hsends⟩ | hsends := syncSends_jobStep hplayer
      · obtain ⟨hzero, hnone⟩ := hclean t.tid hbegins
        exact h.round ht hpc hplayer hsends hzero hnone hjob
      · exact h.keep hplayer hanswer hsends hjob
  | deliver n =>
      unfold syncStep at hstep
      rw [Option.bind_eq_some_iff] at hstep
      obtain ⟨f, hf, hreceive⟩ := hstep
      have hmem : f ∈ w.inFlight := List.mem_of_getElem? hf
      have herase : SyncInv { w with inFlight := w.inFlight.eraseIdx n } := h.erase
      unfold receive at hreceive
      split_ifs at hreceive with hvideo haudio hplayer
      · cases hreceive
        exact herase.answer (h.current f hmem) rfl rfl hvideo.symm
      · cases hreceive
        exact herase.answer (h.current f hmem) rfl rfl haudio.symm
      · rw [Option.map_eq_some_iff] at hreceive
        obtain ⟨player, hcount, rfl⟩ := hreceive
        obtain ⟨hmsg, hprocessed⟩ := h.answers f hmem hplayer
        exact herase.count (h.current f hmem) hmsg hprocessed hcount
  | lose n =>
      cases hstep
      exact h.erase

/-! ### The switch -/

/-- A thread goes on when `live_sync` is full. -/
theorem full_of_switches (h : playerFunc input s = some s') (hswitch : Switches input t s s') :
    miscFullBit (jobAt s t.tid).liveSync playerSyncButt = true := by
  obtain ⟨ht, hpc, hsync, t', ht', hidle⟩ := hswitch
  rw [playerFunc, Option.map_eq_some_iff] at h
  obtain ⟨t₁, ht₁, rfl⟩ := h
  have hthread : s.own.threads[input.tid]? = some t := ht
  rw [hthread] at ht₁
  cases ht₁
  by_contra hfull
  have hbody : threadBody input s input.tid t =
      setThread s input.tid { t with pc := .head, status := .sync } := by
    unfold threadBody
    simp only [hsync]
    rw [if_neg hfull]
  simp only [hpc] at ht'
  rw [hbody, threadAt_setThread ht, if_pos rfl] at ht'
  cases ht'
  cases hidle

theorem switchSound_of_inv {a : SyncAction} (h : SyncInv w) (hstep : syncStep w a = some w') :
    SwitchSound w a w' := by
  rintro input t rfl hswitch
  have hjob : jobSync (.thread input) w = some w' := hstep
  have hplayer : playerFunc input w.player = some w'.player := by
    unfold jobSync at hjob
    rw [show (JobAction.thread input).isAnswer = false from rfl, if_neg Bool.false_ne_true,
      Option.map_eq_some_iff] at hjob
    obtain ⟨player, hplayer, rfl⟩ := hjob
    exact hplayer
  obtain ⟨hvideo, haudio⟩ := bits_of_full (full_of_switches hplayer hswitch)
  exact ⟨h.video t.tid hvideo, h.audio t.tid haudio, h.counted t.tid⟩

/-- In every run all of whose rounds begin with `live_sync` 0 and no message about their slot under
way, every switch is sound. -/
theorem switchSound_of_roundClean (as : List SyncAction)
    (hclean : AllSteps syncStep (fun w a _ => RoundClean w a) { player := { own := {} } } as) :
    AllSteps syncStep SwitchSound { player := { own := {} } } as := by
  refine AllSteps.imp (I := SyncInv) ?_ syncInv_init hclean
  intro w a w' hinv h hround
  exact ⟨syncInv_step hinv h hround, switchSound_of_inv hinv h⟩

/-- A playback is requested, and its thread sends its requests to the two servers. -/
def firstRound : List SyncAction :=
  [.job (.status .run), .job requestChannel, .job (.thread {}), .job (.thread {}), .job (.thread {})]

/-- Both servers process them, and the player handles their answers. -/
def bothAnswer : List SyncAction := [.deliver 0, .deliver 0, .deliver 0, .deliver 0]

/-- The thread goes on. -/
theorem switchSound_firstRound :
    AllSteps syncStep SwitchSound { player := { own := {} } }
      (firstRound ++ bothAnswer ++ [.job (.thread {}), .job (.thread {})]) := by
  apply switchSound_of_roundClean
  decide

/-! ### A stale answer -/

/-- A seek on the channel 0. -/
def seekChannel : SyncAction := .job (.message {} { message := msgPlayerSeek })

/-- A seek comes before the thread has seen the answers to its requests; the thread begins a new
round. -/
def roundCutShort : List SyncAction :=
  firstRound ++ bothAnswer ++ [seekChannel, .job (.thread {}), .job (.thread {}), .job (.thread {})]

/-- The thread goes on in its second round, of whose requests neither server has processed one. -/
theorem stale_answers :
    ∃ w w', Reach syncStep AllRuns { player := { own := {} } } w ∧
      syncStep w (.job (.thread {})) = some w' ∧
      ((threadAt w.player 0).map (·.status) = some .sync ∧
        (threadAt w'.player 0).map (·.status) = some .idle ∧ w.inFlight.length = 2 ∧
        w.processed ServerType.video.toInt (w.round 0) = false ∧
        w.processed ServerType.audio.toInt (w.round 0) = false) := by
  have hrun : (exec syncStep (fun _ _ => true) { player := { own := {} } } roundCutShort).any
      (fun w => (syncStep w (.job (.thread {}))).any fun w' => decide
        ((threadAt w.player 0).map (·.status) = some .sync ∧
          (threadAt w'.player 0).map (·.status) = some .idle ∧ w.inFlight.length = 2 ∧
          w.processed ServerType.video.toInt (w.round 0) = false ∧
          w.processed ServerType.audio.toInt (w.round 0) = false)) = true := by
    decide
  exact Reach.exists_step_of_exec (fun s a _ => show AllRuns s a from trivial) hrun

end GokeWebcam.Server.Player
