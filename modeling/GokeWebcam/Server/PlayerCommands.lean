import GokeWebcam.Server.PlayerJobs
import GokeWebcam.Server.Recorder
import GokeWebcam.Server.VideoChannel

/-!
# The cloud's playback commands

`on_push_streaming_cmd_cb` of `server/aliyun/linkvisual_client.c` turns a command of the cloud into a
message for a server. The player's handlers change the job of the command's service id, and the job's
thread reads it at the head of its loop.

* `Settings.obey`: what a command is to do, to the settings of its job as the cloud knows them.
* `CommandObeyed`: a command reaches the player, the jobs have the settings the commands gave them,
  and a thread plays with them.
* `CommandCarried`: the condition on a command and the job it finds.
* `commandObeyed_iff`: from every state the player reaches, a run of commands and thread steps obeys
  all commands exactly if all of them are carried.
* `commands_ignored`: a pause and a change of speed that are not obeyed.
-/

namespace GokeWebcam.Server.Player

open Lib Common Global

/-! ### The commands and their messages -/

/-- Source: `library_goke/aliyun/linkvisual/link_visual_enum.h` `lv_on_push_streaming_cmd_type_e` -/
inductive CmdType
  | storageRecordStart | storageRecordPause | storageRecordUnpause | storageRecordSeek
  | storageRecordStop | storageRecordSetParam | liveRequestIFrame | voiceData
  deriving DecidableEq, Repr

/-- Source: `library_goke/aliyun/linkvisual/link_visual_struct.h` `lv_on_push_stream_cmd_param_s` -/
structure StreamCmd where
  serviceId : CInt
  cmdType : CmdType
  timestampMs : CInt := 0#32
  speed : CInt := 0#32
  keyOnly : CInt := 0#32
  deriving DecidableEq, Repr

/-- The message of a command.
Source: `server/aliyun/linkvisual_client.c` `on_push_streaming_cmd_cb` -/
def cmdMessage (param : StreamCmd) (id : CInt) : Message :=
  { serverMsg .aliyun id with
    argIn := { wolf := param.serviceId }, argPass := { wolf := param.serviceId } }

/-- The message a command is turned into, and the server it is for.
Source: `server/aliyun/linkvisual_client.c` `on_push_streaming_cmd_cb` -/
def onPushStreamingCmdCb (param : StreamCmd) : Option (ServerType × Message) :=
  match param.cmdType with
  | .liveRequestIFrame => some (.video, cmdMessage param Video.msgVideoKeyFrameRequire)
  | .storageRecordStart => some (.player, cmdMessage param msgPlayerStart)
  | .storageRecordStop => some (.recorder, cmdMessage param msgPlayerStop)
  | .storageRecordPause => some (.recorder, cmdMessage param msgPlayerPause)
  | .storageRecordUnpause => some (.recorder, cmdMessage param msgPlayerUnpause)
  | .storageRecordSeek =>
    some (.player, { cmdMessage param msgPlayerSeek with
      argIn := { wolf := param.serviceId, cat := param.timestampMs } })
  | .storageRecordSetParam =>
    some (.player, { cmdMessage param msgPlayerSetParam with
      argIn := { wolf := param.serviceId, cat := param.timestampMs, dog := param.keyOnly,
                 chick := param.speed } })
  | .voiceData => none

/-- The commands about a playback. -/
def CmdType.isPlayback : CmdType → Bool
  | .liveRequestIFrame | .voiceData => false
  | _ => true

/-- The recorder has no case for the messages about playbacks.
Source: `server/recorder/recorder.c` `server_message_proc` -/
theorem recorder_ignores (input : ServerInput) (s : Recorder.State) (msg : Message)
    (hmsg : msg.message = msgPlayerStop ∨ msg.message = msgPlayerPause ∨
      msg.message = msgPlayerUnpause) : Recorder.handle input msg s = some s := by
  unfold Recorder.handle cardAndClockMessage
  obtain hmsg | hmsg | hmsg := hmsg <;> simp only [hmsg]
  · rw [if_neg (by decide), if_neg (by decide), if_neg (by decide), if_neg (by decide),
      if_neg (by decide), if_neg (by decide), Option.none_or]
  · rw [if_neg (by decide), if_neg (by decide), if_neg (by decide), if_neg (by decide),
      if_neg (by decide), if_neg (by decide), Option.none_or]
  · rw [if_neg (by decide), if_neg (by decide), if_neg (by decide), if_neg (by decide),
      if_neg (by decide), if_neg (by decide), Option.none_or]

/-- The player after the message of a command was handled, by whichever server it was for. -/
def obeyed (param : StreamCmd) (s : State) : Option State :=
  match onPushStreamingCmdCb param with
  | some (.player, msg) => jobStep s (.message {} msg)
  | _ => some s

/-! ### What the cloud expects -/

/-- What a job plays, as the cloud knows it: whether it runs, pauses or ends, where it was sought to,
and the two copies of its speed, by which frames are chosen and by which they are paced. -/
structure Settings where
  run : Bool
  pause : Bool
  exit : Bool
  offset : CInt
  speed : CInt
  pace : CInt
  deriving DecidableEq, Repr

/-- What a command is to do. A seek and a change of parameters begin the playback anew. -/
def Settings.obey (param : StreamCmd) (x : Settings) : Settings :=
  match param.cmdType with
  | .storageRecordStart => { x with run := true }
  | .storageRecordStop => { x with exit := true }
  | .storageRecordPause => { x with pause := true }
  | .storageRecordUnpause => { x with pause := false }
  | .storageRecordSeek => { x with run := true, exit := false, offset := param.timestampMs }
  | .storageRecordSetParam =>
    { x with run := true, exit := false, offset := param.timestampMs, speed := param.speed,
             pace := param.speed }
  | .liveRequestIFrame | .voiceData => x

/-- The settings a job has. -/
def settingsOf (job : Job) : Settings where
  run := job.run
  pause := job.pause
  exit := job.exit ≠ 0#32
  offset := job.init.offset.setWidth 32
  speed := job.speed.setWidth 32
  pace := job.init.speed.setWidth 32

/-- The slot `i` holds a job of the service id. -/
def Serves (s : State) (id : CInt) (i : ℕ) : Prop :=
  (jobAt s i).status ≠ .none ∧ (jobAt s i).init.channel = id

instance (s : State) (id : CInt) (i : ℕ) : Decidable (Serves s id i) :=
  inferInstanceAs (Decidable (_ ∧ _))

/-- The player, with the settings of its jobs as the commands gave them. -/
structure Controlled where
  state : State
  settings : ℕ → Settings

/-- The cloud takes over the settings as they are. -/
def controlled (s : State) : Controlled where
  state := s
  settings i := settingsOf (jobAt s i)

/-- A command, with the handling of its message, or a step of a playback thread. -/
inductive CommandAction
  | command (param : StreamCmd)
  | thread (input : ServerInput)

/-- The thread notes the end of its playback in the slot `i`. -/
def endsIn (input : ServerInput) (s : State) (i : ℕ) : Bool :=
  (threadAt s input.tid).any fun t => t.pc = .body && isDone t && t.job = i

/-- The settings after a step. -/
def nextSettings (w : Controlled) : CommandAction → ℕ → Settings
  | .command param, i =>
    if Serves w.state param.serviceId i then (w.settings i).obey param else w.settings i
  | .thread input, i =>
    if endsIn input w.state i then { w.settings i with exit := true } else w.settings i

/-- One step. -/
def commandStep (w : Controlled) (a : CommandAction) : Option Controlled :=
  let next := match a with
    | .command param => obeyed param w.state
    | .thread input => playerFunc input w.state
  next.map fun state => { state := state, settings := nextSettings w a }

/-- A thread plays with the settings. -/
def PlaysWith (t : PlayerThread) (x : Settings) : Prop :=
  t.play = x.run ∧ t.pause = x.pause ∧ t.init.offset.setWidth 32 = x.offset ∧
    t.speed.setWidth 32 = x.speed ∧ t.init.speed.setWidth 32 = x.pace

/-- What a step does in which the commands take effect. -/
structure CommandObeyed (w : Controlled) (a : CommandAction) (w' : Controlled) : Prop where
  /-- A command for a playback that there is reaches the player. -/
  reached : ∀ param i, a = .command param → param.cmdType.isPlayback = true →
    Serves w.state param.serviceId i → ∃ msg, onPushStreamingCmdCb param = some (.player, msg)
  /-- The jobs have the settings that the commands gave them. -/
  settings : ∀ i, (jobAt w'.state i).status ≠ .none → settingsOf (jobAt w'.state i) = w'.settings i
  /-- The jobs of other service ids stay as they are. -/
  others : ∀ param i, a = .command param → ¬ Serves w.state param.serviceId i →
    jobAt w'.state i = jobAt w.state i
  /-- A thread that goes into its loop body has the settings of its job. -/
  plays : ∀ input t t', a = .thread input → threadAt w.state input.tid = some t → t.pc = .head →
    threadAt w'.state input.tid = some t' → t'.pc = .body → PlaysWith t' (w'.settings t'.job)

/-- A command comes through to the job: its message is for the player, its numbers fit into the
fields of the job, and a speed is the one by which the frames are chosen already. -/
def Carried (param : StreamCmd) (job : Job) : Prop :=
  match param.cmdType with
  | .storageRecordStop | .storageRecordPause | .storageRecordUnpause => False
  | .storageRecordSeek => param.timestampMs.toNat < 2 ^ 8
  | .storageRecordSetParam =>
    param.timestampMs.toNat < 2 ^ 8 ∧ param.speed = job.speed.setWidth 32
  | _ => True

instance (param : StreamCmd) (job : Job) : Decidable (Carried param job) :=
  match h : param.cmdType with
  | .storageRecordStop | .storageRecordPause | .storageRecordUnpause =>
    isFalse (by simp [Carried, h])
  | .storageRecordSeek =>
    decidable_of_iff (param.timestampMs.toNat < 2 ^ 8) (by simp [Carried, h])
  | .storageRecordSetParam =>
    decidable_of_iff (param.timestampMs.toNat < 2 ^ 8 ∧ param.speed = job.speed.setWidth 32)
      (by simp [Carried, h])
  | .storageRecordStart | .liveRequestIFrame | .voiceData => isTrue (by simp [Carried, h])

/-- The condition on a step: a command comes through to the job it finds. -/
def CommandCarried (w : Controlled) : CommandAction → Prop
  | .command param =>
    ∀ i ∈ findJobChannel w.state param.serviceId, Carried param (jobAt w.state i)
  | .thread _ => True

instance (w : Controlled) : (a : CommandAction) → Decidable (CommandCarried w a)
  | .command param => inferInstanceAs (Decidable
      (∀ i ∈ findJobChannel w.state param.serviceId, Carried param (jobAt w.state i)))
  | .thread _ => inferInstanceAs (Decidable True)

variable {s s' : State} {w w' : Controlled} {input : ServerInput} {msg : Message} {i j k : ℕ}
  {t t' : PlayerThread} {job : Job} {param : StreamCmd} {id : CInt}

/-! ### One job for a service id -/

/-- What holds of jobs and threads besides `JobInv`: a service id has one job, and a thread plays
what its job says unless a restart is recorded there. -/
structure PlayInv (s : State) : Prop extends JobInv s where
  channels : ∀ i j, (jobAt s i).status ≠ .none → (jobAt s j).status ≠ .none →
    (jobAt s i).init.channel = (jobAt s j).init.channel → i = j
  copies : ∀ k t, threadAt s k = some t → t.pc ≠ .begin → (jobAt s t.job).restart = false →
    t.init = (jobAt s t.job).init

theorem playInv_init : PlayInv ({ own := {} } : State) where
  toJobInv := jobInv_init
  channels i j hi := by
    have hfree : (jobAt ({ own := {} } : State) i).status = .none := by
      unfold jobAt
      rw [List.getD_eq_getElem?_getD, List.getElem?_replicate]
      split_ifs <;> rfl
    exact absurd hfree hi
  copies k t ht := by simp [threadAt] at ht

theorem findJobChannel_some (h : findJobChannel s id = some i) : Serves s id i := by
  obtain ⟨hi, hjob, -⟩ := List.findIdx?_eq_some_iff_getElem.mp h
  have hat : jobAt s i = s.own.jobs[i] := by
    unfold jobAt
    rw [List.getD_eq_getElem?_getD, List.getElem?_eq_getElem hi]
    rfl
  unfold Serves
  rw [hat]
  exact of_decide_eq_true hjob

theorem findJobChannel_none (h : findJobChannel s id = none) : ¬ Serves s id i := by
  intro hserves
  have hi : i < s.own.jobs.length := by
    by_contra hlt
    have hused := hserves.1
    rw [jobAt_of_length_le (Nat.not_lt.mp hlt)] at hused
    exact hused rfl
  have hat : jobAt s i = s.own.jobs[i] := by
    unfold jobAt
    rw [List.getD_eq_getElem?_getD, List.getElem?_eq_getElem hi]
    rfl
  have hnot := List.findIdx?_eq_none_iff.mp h s.own.jobs[i] (List.getElem_mem hi)
  rw [decide_eq_false_iff_not, ← hat] at hnot
  exact hnot hserves

/-- A handler changes the job of the service id, which is the only one. -/
theorem jobAt_onJob {f : Job → Job} (h : PlayInv s) : jobAt (onJob msg s f) j =
    if Serves s msg.argIn.wolf j then f (jobAt s j) else jobAt s j := by
  unfold onJob
  rcases hfind : findJobChannel s msg.argIn.wolf with _ | i
  · rw [if_neg (findJobChannel_none hfind)]
  · have hserves := findJobChannel_some hfind
    dsimp only
    rw [jobAt_setJob (findJobChannel_spec hfind).1]
    by_cases hij : i = j
    · rw [if_pos hij, ← hij, if_pos hserves]
    · rw [if_neg hij, if_neg]
      intro hother
      exact hij (h.channels i j hserves.1 hother.1 (hserves.2.trans hother.2.symm))

/-! ### Every step keeps it -/

/-- A slot is written with a job of a service id that no other slot has. -/
theorem channels_setJob (h : PlayInv s) (hi : i < s.own.jobs.length)
    (hnew : job.status ≠ .none → ∀ m, i ≠ m → ¬ Serves s job.init.channel m) :
    ∀ j k, (jobAt (setJob s i job) j).status ≠ .none → (jobAt (setJob s i job) k).status ≠ .none →
      (jobAt (setJob s i job) j).init.channel = (jobAt (setJob s i job) k).init.channel → j = k := by
  intro j k hj hk hsame
  rw [jobAt_setJob hi] at hj hk hsame
  rw [jobAt_setJob hi] at hsame
  by_cases hij : i = j
  · by_cases hik : i = k
    · exact hij.symm.trans hik
    · rw [if_pos hij] at hj hsame
      rw [if_neg hik] at hk hsame
      exact absurd ⟨hk, hsame.symm⟩ (hnew hj k hik)
  · by_cases hik : i = k
    · rw [if_neg hij] at hj hsame
      rw [if_pos hik] at hk hsame
      exact absurd ⟨hj, hsame⟩ (hnew hk j hij)
    · rw [if_neg hij] at hj hsame
      rw [if_neg hik] at hk hsame
      exact h.channels j k hj hk hsame

/-- No other slot has the service id of a job. -/
theorem PlayInv.not_serves (h : PlayInv s) (hused : (jobAt s i).status ≠ .none)
    (hsame : job.init.channel = (jobAt s i).init.channel) (hne : i ≠ j) :
    ¬ Serves s job.init.channel j := by
  rintro ⟨hother, hchannel⟩
  exact hne (h.channels i j hused hother (hsame.symm.trans hchannel.symm))

/-- A job is edited: a thread's copy is only out of date while a restart is recorded. -/
theorem PlayInv.edit {stop : Prop} (h : PlayInv s) (hjob : JobInv (setJob s i job))
    (hi : i < s.own.jobs.length) (hedit : JobEdit stop (jobAt s i) job) : PlayInv (setJob s i job) where
  toJobInv := hjob
  channels := by
    apply channels_setJob h hi
    intro hused m hne
    exact h.not_serves (fun hnone => hused (hedit.status.mpr hnone)) hedit.channel hne
  copies k t ht hpc hrestart := by
    rw [jobAt_setJob hi] at hrestart ⊢
    split_ifs at hrestart ⊢ with hit
    · obtain ⟨hinit, hold⟩ := hedit.init hrestart
      rw [hinit, hit]
      rw [hit] at hold
      exact h.copies k t ht hpc hold
    · exact h.copies k t ht hpc hrestart

/-- The job of a service id gets another recording. -/
theorem PlayInv.updateJob {init : PlayerInit} (h : PlayInv s)
    (hfind : findJobChannel s init.channel = some i) : PlayInv (updateJob s i init) := by
  have hserves := findJobChannel_some hfind
  obtain ⟨hi, hused⟩ := findJobChannel_spec hfind
  refine ⟨h.toJobInv.updateJob hi hused, ?_, ?_⟩
  · apply channels_setJob h hi
    intro _ m hne
    exact h.not_serves hused hserves.2.symm hne
  · intro k t ht hpc hrestart
    unfold Player.updateJob at hrestart ⊢
    rw [jobAt_setJob hi] at hrestart ⊢
    split_ifs at hrestart ⊢
    exact h.copies k t ht hpc hrestart

/-- A service id without a job gets one. -/
theorem PlayInv.createJob {init : PlayerInit} (h : PlayInv s) (hi : i < s.own.jobs.length)
    (hfree : (jobAt s i).status = .none) (hfind : findJobChannel s init.channel = none) :
    PlayInv (createJob input s i init) := by
  have hthread : ∀ k t, threadAt s k = some t → i ≠ t.job := by
    rintro k t ht rfl
    exact h.inUse k t ht hfree
  have hother : ∀ k t job, threadAt s k = some t → jobAt (setJob s i job) t.job = jobAt s t.job := by
    intro k t job ht
    rw [jobAt_setJob hi, if_neg (hthread k t ht)]
  have hjobs : JobInv (Player.createJob input s i init) := h.toJobInv.createJob hi hfree
  unfold Player.createJob at hjobs ⊢
  dsimp only at hjobs ⊢
  split_ifs at hjobs ⊢ with hok
  · refine ⟨hjobs, ?_, ?_⟩
    · exact channels_setJob h hi fun _ m _ => findJobChannel_none hfind
    · intro k t ht hpc hrestart
      obtain hold | ⟨-, rfl⟩ := threadAt_addThread ht
      · have hkept : (jobAt (setJob s i _) t.job).restart = false := hrestart
        show t.init = (jobAt (setJob s i _) t.job).init
        rw [hother k t _ hold] at hkept ⊢
        exact h.copies k t hold hpc hkept
      · exact absurd rfl hpc
  · refine ⟨hjobs, ?_, ?_⟩
    · exact channels_setJob h hi fun hused => absurd rfl hused
    · intro k t ht hpc hrestart
      rw [hother k t _ ht] at hrestart ⊢
      exact h.copies k t ht hpc hrestart

/-- Only the slots and the threads count. -/
theorem PlayInv.congr (h : PlayInv s) (hjobs : JobInv s') (hown : s'.own = s.own) : PlayInv s' := by
  have hchannels := h.channels
  have hcopies := h.copies
  refine ⟨hjobs, ?_, ?_⟩
  · unfold jobAt at hchannels ⊢
    rw [hown]
    exact hchannels
  · unfold jobAt threadAt at hcopies ⊢
    rw [hown]
    exact hcopies

/-- A step of a thread. -/
theorem PlayInv.move (h : PlayInv s) (hjobs : JobInv (setThread (setJob s t.job job) k t'))
    (ht : threadAt s k = some t) (hmove : ThreadMove (jobAt s t.job) job t t') :
    PlayInv (setThread (setJob s t.job job) k t') where
  toJobInv := hjobs
  channels := by
    apply channels_setJob h (h.lt ht)
    intro _ m hne
    exact h.not_serves (h.inUse k t ht) (by rw [hmove.init]) hne
  copies j t₁ ht₁ hpc hrestart := by
    have hthread : threadAt (setJob s t.job job) k = some t := ht
    rw [threadAt_setThread hthread] at ht₁
    rw [jobAt_setThread, jobAt_setJob (h.lt ht)] at hrestart ⊢
    by_cases hk : k = j
    · rw [if_pos hk] at ht₁
      cases ht₁
      rw [if_pos hmove.slot.symm] at hrestart ⊢
      obtain hcopy | ⟨hcopy, hbegun, hsame⟩ := hmove.copy
      · rw [hcopy, hmove.init]
      · rw [hcopy, hmove.init]
        exact h.copies k t ht hbegun (hsame.symm.trans hrestart)
    · rw [if_neg hk] at ht₁
      have hne : t.job ≠ t₁.job := fun hsame => hk (h.one k j t t₁ ht ht₁ hsame)
      rw [if_neg hne] at hrestart ⊢
      exact h.copies j t₁ ht₁ hpc hrestart

/-- The end of a thread. -/
theorem PlayInv.release (h : PlayInv s) (ht : threadAt s k = some t) :
    PlayInv (dropThread k (setJob s t.job {})) where
  toJobInv := h.toJobInv.release ht
  channels := channels_setJob h (h.lt ht) fun hused => absurd rfl hused
  copies j t₁ ht₁ hpc hrestart := by
    rw [threadAt_dropThread] at ht₁
    have hne : t.job ≠ t₁.job := fun hsame => shift_ne (h.one _ _ t t₁ ht ht₁ hsame).symm
    rw [jobAt_dropThread, jobAt_setJob (h.lt ht), if_neg hne] at hrestart ⊢
    exact h.copies _ t₁ ht₁ hpc hrestart

theorem playInv_step {a : JobAction} (h : PlayInv s) (hstep : jobStep s a = some s') : PlayInv s' := by
  have hjobs : JobInv s' := jobInv_step h.toJobInv hstep
  cases a with
  | message input msg =>
      obtain ⟨i, init, -, hfind, rfl⟩ | ⟨-, rfl | ⟨i, init, hi, hfree, hfind, -, rfl⟩ |
        ⟨i, job, hi, hedit, rfl⟩⟩ := jobMessage_cases h.toJobInv hstep
      · exact h.updateJob hfind
      · exact h
      · exact h.createJob hi hfree hfind
      · exact h.edit hjobs hi hedit
  | stopFound id =>
      cases hstep
      have hedit : JobEdit True (jobAt s id) { jobAt s id with exit := 1#32 } :=
        ⟨Iff.rfl, rfl, rfl, fun h => ⟨rfl, h⟩, fun h => h, fun hnot => absurd trivial hnot⟩
      exact h.edit hjobs (by rw [h.length]; exact id.isLt) hedit
  | status status =>
      cases hstep
      exact h.congr hjobs rfl
  | thread input =>
      obtain ⟨t, ht, -, -, ⟨-, hown⟩ | ⟨job', t', hmove, hown⟩⟩ := playerFunc_cases h.toJobInv hstep
      · exact (h.release ht).congr hjobs hown
      · have hslot : JobInv (setJob s t.job job') := h.toJobInv.setJob (h.lt ht)
          (by rw [hmove.status]) (.inr (by rw [hmove.init]))
        have hthread : threadAt (setJob s t.job job') input.tid = some t := ht
        have hmoved := hslot.setThread hthread hmove.slot hmove.begun hmove.tid
        exact (h.move hmoved ht hmove).congr hjobs hown

/-! ### What a command does to the jobs -/

/-- What the player does with a command that reaches it. -/
def applied (param : StreamCmd) (job : Job) : Job :=
  match param.cmdType with
  | .storageRecordStart => { job with run := true }
  | .storageRecordSeek => { job with
      status := .inited, run := true, restart := true, exit := 0#32
      init := { job.init with offset := param.timestampMs.setWidth 8 } }
  | .storageRecordSetParam => { job with
      status := .inited, run := true, restart := true, exit := 0#32
      init := { job.init with
        speed := param.speed.setWidth 8, offset := param.timestampMs.setWidth 8
        keyonly := param.keyOnly ≠ 0#32 } }
  | _ => job

theorem jobStep_start (hmsg : msg.message = msgPlayerStart) :
    jobStep s (.message input msg) = some (playerStartJob msg s) := by
  show jobMessage input msg s = _
  unfold jobMessage handleJob
  simp only [hmsg]
  rw [if_neg (by decide), if_neg (by decide), if_pos trivial]

theorem jobStep_seek (hmsg : msg.message = msgPlayerSeek) :
    jobStep s (.message input msg) = some (playerSeekJob msg s) := by
  show jobMessage input msg s = _
  unfold jobMessage handleJob
  simp only [hmsg]
  rw [if_neg (by decide), if_neg (by decide), if_neg (by decide), if_neg (by decide),
    if_neg (by decide), if_neg (by decide), if_neg (by decide), if_neg (by decide), if_pos trivial]

theorem jobStep_setParam (hmsg : msg.message = msgPlayerSetParam) :
    jobStep s (.message input msg) = some (playerSetParamJob msg s) := by
  show jobMessage input msg s = _
  unfold jobMessage handleJob
  simp only [hmsg]
  rw [if_neg (by decide), if_neg (by decide), if_neg (by decide), if_neg (by decide),
    if_neg (by decide), if_neg (by decide), if_neg (by decide), if_neg (by decide),
    if_neg (by decide), if_pos trivial]

/-- A command changes the job of its service id and no other one. -/
theorem jobAt_obeyed (h : PlayInv s) (hstep : obeyed param s = some s') :
    PlayInv s' ∧ ∀ j, jobAt s' j =
      if Serves s param.serviceId j then applied param (jobAt s j) else jobAt s j := by
  -- The commands that do not reach the player.
  have hlost : some s = some s' → (∀ job, applied param job = job) → PlayInv s' ∧ ∀ j, jobAt s' j =
      if Serves s param.serviceId j then applied param (jobAt s j) else jobAt s j := by
    rintro hsame hkept
    cases hsame
    refine ⟨h, ?_⟩
    intro j
    rw [hkept, ite_self]
  -- The commands that do.
  have hreached : ∀ {msg : Message}, jobStep s (.message {} msg) = some s' →
      s' = onJob msg s (applied param) → msg.argIn.wolf = param.serviceId →
      PlayInv s' ∧ ∀ j, jobAt s' j =
        if Serves s param.serviceId j then applied param (jobAt s j) else jobAt s j := by
    intro msg hmsg heq hid
    refine ⟨playInv_step h hmsg, ?_⟩
    intro j
    rw [heq, jobAt_onJob h, hid]
  unfold obeyed onPushStreamingCmdCb at hstep
  rcases hcmd : param.cmdType with _ | _ | _ | _ | _ | _ | _ | _ <;> rw [hcmd] at hstep
  · refine hreached hstep ?_ rfl
    cases (jobStep_start rfl).symm.trans hstep
    unfold playerStartJob applied
    simp only [hcmd]
  · exact hlost hstep fun job => by simp only [applied, hcmd]
  · exact hlost hstep fun job => by simp only [applied, hcmd]
  · refine hreached hstep ?_ rfl
    cases (jobStep_seek rfl).symm.trans hstep
    unfold playerSeekJob applied
    simp only [hcmd]
  · exact hlost hstep fun job => by simp only [applied, hcmd]
  · refine hreached hstep ?_ rfl
    cases (jobStep_setParam rfl).symm.trans hstep
    unfold playerSetParamJob applied
    simp only [hcmd]
  · exact hlost hstep fun job => by simp only [applied, hcmd]
  · exact hlost hstep fun job => by simp only [applied, hcmd]

theorem setWidth_setWidth_iff {a : CInt} : (a.setWidth 8).setWidth 32 = a ↔ a.toNat < 2 ^ 8 := by
  constructor
  · intro h
    rw [← h, BitVec.toNat_setWidth]
    exact lt_of_le_of_lt (Nat.mod_le _ _) (BitVec.isLt _)
  · intro h
    apply BitVec.eq_of_toNat_eq
    rw [BitVec.toNat_setWidth, BitVec.toNat_setWidth, Nat.mod_eq_of_lt h]
    exact Nat.mod_eq_of_lt a.isLt

/-- A speed that the job has fits into its field. -/
theorem speed_fits {speed : CInt} (h : speed = job.speed.setWidth 32) : speed.toNat < 2 ^ 8 := by
  rw [h, BitVec.toNat_setWidth]
  exact lt_of_le_of_lt (Nat.mod_le _ _) (BitVec.isLt _)

/-- A command that comes through does to the settings what it is to do. -/
theorem settingsOf_applied (h : Carried param job) :
    settingsOf (applied param job) = (settingsOf job).obey param := by
  unfold Carried at h
  unfold applied Settings.obey settingsOf
  rcases hcmd : param.cmdType with _ | _ | _ | _ | _ | _ | _ | _ <;> simp only [hcmd] at h ⊢
  · simp [setWidth_setWidth_iff.mpr h]
  · simp [setWidth_setWidth_iff.mpr h.1, setWidth_setWidth_iff.mpr (speed_fits h.2), ← h.2]

/-- A command that reaches the player and does what it is to do comes through. -/
theorem carried_of_settingsOf
    (hreached : param.cmdType.isPlayback = true → ∃ msg, onPushStreamingCmdCb param = some (.player, msg))
    (h : settingsOf (applied param job) = (settingsOf job).obey param) : Carried param job := by
  unfold Carried
  unfold onPushStreamingCmdCb at hreached
  unfold applied Settings.obey settingsOf at h
  rcases hcmd : param.cmdType with _ | _ | _ | _ | _ | _ | _ | _ <;>
    simp only [hcmd, Settings.mk.injEq] at h hreached ⊢
  · simp [CmdType.isPlayback] at hreached
  · simp [CmdType.isPlayback] at hreached
  · exact setWidth_setWidth_iff.mp h.2.2.2.1
  · simp [CmdType.isPlayback] at hreached
  · exact ⟨setWidth_setWidth_iff.mp h.2.2.2.1, h.2.2.2.2.1.symm⟩

theorem status_applied (h : job.status ≠ .none) : (applied param job).status ≠ .none := by
  unfold applied
  rcases param.cmdType with _ | _ | _ | _ | _ | _ | _ | _ <;> simp [h]

/-- A command that comes through reaches the player. -/
theorem reached_of_carried (h : Carried param job) (hplayback : param.cmdType.isPlayback = true) :
    ∃ msg, onPushStreamingCmdCb param = some (.player, msg) := by
  unfold Carried at h
  unfold onPushStreamingCmdCb
  rcases hcmd : param.cmdType with _ | _ | _ | _ | _ | _ | _ | _ <;> simp only [hcmd] at h hplayback ⊢
  · exact ⟨_, rfl⟩
  · exact ⟨_, rfl⟩
  · exact ⟨_, rfl⟩
  · cases hplayback
  · cases hplayback

/-- The job of a service id is found. -/
theorem findJobChannel_of_serves (h : PlayInv s) (hserves : Serves s id i) :
    findJobChannel s id = some i := by
  rcases hfind : findJobChannel s id with _ | j
  · exact absurd hserves (findJobChannel_none hfind)
  · have hother := findJobChannel_some hfind
    rw [h.channels j i hother.1 hserves.1 (hother.2.trans hserves.2.symm)]

/-! ### Steps -/

/-- The jobs have the settings that the commands gave them. -/
def Agrees (w : Controlled) : Prop :=
  ∀ i, (jobAt w.state i).status ≠ .none → settingsOf (jobAt w.state i) = w.settings i

theorem commandStep_command (h : commandStep w (.command param) = some w') :
    obeyed param w.state = some w'.state ∧ w'.settings = nextSettings w (.command param) := by
  unfold commandStep at h
  rw [Option.map_eq_some_iff] at h
  obtain ⟨state, hstate, rfl⟩ := h
  exact ⟨hstate, rfl⟩

theorem commandStep_thread (h : commandStep w (.thread input) = some w') :
    playerFunc input w.state = some w'.state ∧ w'.settings = nextSettings w (.thread input) := by
  unfold commandStep at h
  rw [Option.map_eq_some_iff] at h
  obtain ⟨state, hstate, rfl⟩ := h
  exact ⟨hstate, rfl⟩

/-- A command that comes through is obeyed. -/
theorem commandObeyed_command (h : PlayInv w.state) (hagrees : Agrees w)
    (hstep : commandStep w (.command param) = some w') (hcarried : CommandCarried w (.command param)) :
    CommandObeyed w (.command param) w' := by
  obtain ⟨hobeyed, hsettings⟩ := commandStep_command hstep
  obtain ⟨-, hjobs⟩ := jobAt_obeyed h hobeyed
  have hserves : ∀ i, Serves w.state param.serviceId i → Carried param (jobAt w.state i) := by
    intro i hi
    exact hcarried i (findJobChannel_of_serves h hi)
  refine ⟨?_, ?_, ?_, ?_⟩
  · rintro param i ⟨⟩ hplayback hi
    exact reached_of_carried (hserves i hi) hplayback
  · intro i hi
    rw [hjobs] at hi ⊢
    rw [hsettings, nextSettings]
    split_ifs at hi ⊢ with hid
    · rw [settingsOf_applied (hserves i hid), hagrees i hid.1]
    · exact hagrees i hi
  · rintro param i ⟨⟩ hnot
    rw [hjobs, if_neg hnot]
  · rintro input t t' ⟨⟩

/-- A command that is obeyed comes through. -/
theorem commandCarried_of_obeyed {a : CommandAction} (h : PlayInv w.state) (hagrees : Agrees w)
    (hstep : commandStep w a = some w') (hobeyed : CommandObeyed w a w') : CommandCarried w a := by
  cases a with
  | command param =>
      obtain ⟨hstate, hsettings⟩ := commandStep_command hstep
      obtain ⟨-, hjobs⟩ := jobAt_obeyed h hstate
      intro i hi
      have hserves : Serves w.state param.serviceId i := findJobChannel_some hi
      have hjob : jobAt w'.state i = applied param (jobAt w.state i) := by
        rw [hjobs, if_pos hserves]
      have hkept := hobeyed.settings i (by rw [hjob]; exact status_applied hserves.1)
      rw [hjob, hsettings, nextSettings, if_pos hserves, ← hagrees i hserves.1] at hkept
      exact carried_of_settingsOf (fun hplayback => hobeyed.reached param i rfl hplayback hserves) hkept
  | thread input => trivial

/-- A step of a thread changes no setting, but for the end of a playback. -/
theorem settingsOf_move {job' : Job} (hmove : ThreadMove job job' t t') :
    settingsOf job' = if t.pc = .body ∧ isDone t = true then { settingsOf job with exit := true }
      else settingsOf job := by
  have hends := hmove.ends
  unfold settingsOf
  rw [hmove.run, hmove.pause, hmove.speed, hmove.init]
  split_ifs at hends ⊢
  · simp [hends]
  · rw [hends]

/-- A thread leaves the settings alone, and plays with them. -/
theorem commandObeyed_thread (h : PlayInv w.state) (hagrees : Agrees w)
    (hstep : commandStep w (.thread input) = some w') : CommandObeyed w (.thread input) w' := by
  obtain ⟨hfunc, hsettings⟩ := commandStep_thread hstep
  have hjobStep : jobStep w.state (.thread input) = some w'.state := hfunc
  have hinv : PlayInv w'.state := playInv_step h hjobStep
  obtain ⟨t, ht, -, -, hcases⟩ := playerFunc_cases h.toJobInv hfunc
  have hends : ∀ i, endsIn input w.state i = true ↔ (t.pc = .body ∧ isDone t = true) ∧ t.job = i := by
    intro i
    unfold endsIn
    rw [ht, Option.any_some]
    simp [and_assoc]
  have hkept : Agrees w' := by
    intro i hi
    rw [hsettings, nextSettings]
    obtain ⟨hpc, hown⟩ | ⟨job', t', hmove, hown⟩ := hcases
    · have hjob : jobAt w'.state i = jobAt (dropThread input.tid (setJob w.state t.job {})) i := by
        unfold jobAt
        rw [hown]
      rw [hjob, jobAt_dropThread, jobAt_setJob (h.lt ht)] at hi ⊢
      split_ifs at hi with hslot
      · exact absurd rfl hi
      · rw [if_neg hslot, if_neg (fun hend => hslot ((hends i).mp hend).2)]
        exact hagrees i hi
    · have hjob : jobAt w'.state i =
          jobAt (setThread (setJob w.state t.job job') input.tid t') i := by
        unfold jobAt
        rw [hown]
      rw [hjob, jobAt_setThread, jobAt_setJob (h.lt ht)] at hi ⊢
      by_cases hslot : t.job = i
      · rw [if_pos hslot] at hi ⊢
        rw [hmove.status] at hi
        rw [settingsOf_move hmove, hagrees t.job hi, hslot]
        by_cases hdone : t.pc = .body ∧ isDone t = true
        · rw [if_pos hdone, if_pos ((hends i).mpr ⟨hdone, hslot⟩)]
        · rw [if_neg hdone, if_neg (fun hend => hdone ((hends i).mp hend).1)]
      · rw [if_neg hslot] at hi ⊢
        rw [if_neg (fun hend => hslot ((hends i).mp hend).2)]
        exact hagrees i hi
  refine ⟨?_, hkept, ?_, ?_⟩
  · rintro param i ⟨⟩
  · rintro param i ⟨⟩
  · rintro input t₁ t' ⟨⟩ ht₁ hhead ht' hbody
    rw [ht] at ht₁
    cases ht₁
    rw [← hkept t'.job (hinv.inUse _ t' ht')]
    obtain ⟨hpc, -⟩ | ⟨job', t₂, hmove, hown⟩ := hcases
    · rw [hhead] at hpc
      cases hpc
    · have hthread : threadAt (setJob w.state t.job job') input.tid = some t := ht
      have hown' : threadAt w'.state input.tid = some t₂ := by
        unfold threadAt
        rw [hown]
        exact (threadAt_setThread hthread).trans (if_pos rfl)
      rw [hown'] at ht'
      obtain rfl := Option.some.inj ht'
      have hjob : jobAt w'.state t₂.job = job' := by
        rw [hmove.slot]
        unfold jobAt
        rw [hown]
        exact (jobAt_setJob (h.lt ht)).trans (if_pos rfl)
      obtain ⟨hrun, hpause, hspeed, hrestart⟩ := hmove.reads hbody
      have hcopy := hinv.copies _ t₂ hown' hmove.begun (by rw [hjob]; exact hrestart)
      rw [hjob] at hcopy ⊢
      refine ⟨?_, ?_, ?_, ?_, ?_⟩
      · exact hrun.trans hmove.run.symm
      · exact hpause.trans hmove.pause.symm
      · rw [hcopy]
        rfl
      · rw [hspeed, ← hmove.speed]
        rfl
      · rw [hcopy]
        rfl

theorem playInv_commandStep {a : CommandAction} (h : PlayInv w.state)
    (hstep : commandStep w a = some w') : PlayInv w'.state := by
  cases a with
  | command param => exact (jobAt_obeyed h (commandStep_command hstep).1).1
  | thread input =>
      have hjobStep : jobStep w.state (.thread input) = some w'.state := (commandStep_thread hstep).1
      exact playInv_step h hjobStep

theorem commandObeyed_of_carried {a : CommandAction} (h : PlayInv w.state) (hagrees : Agrees w)
    (hstep : commandStep w a = some w') (hcarried : CommandCarried w a) : CommandObeyed w a w' := by
  cases a with
  | command param => exact commandObeyed_command h hagrees hstep hcarried
  | thread input => exact commandObeyed_thread h hagrees hstep

/-! ### Runs -/

/-- From every state that the player reaches, whatever messages it has handled, all commands of a
sequence take effect, in any interleaving with the playback threads, exactly if each of them comes
through to the job it finds. -/
theorem commandObeyed_iff (s : State) (hs : Reach jobStep AllRuns { own := {} } s)
    (as : List CommandAction) : AllSteps commandStep CommandObeyed (controlled s) as ↔
      AllSteps commandStep (fun w a _ => CommandCarried w a) (controlled s) as := by
  have hinv : PlayInv s := hs.inv playInv_init fun _ _ _ h _ hstep => playInv_step h hstep
  have h0 : PlayInv (controlled s).state ∧ Agrees (controlled s) := ⟨hinv, fun _ _ => rfl⟩
  constructor
  · intro hobeyed
    refine AllSteps.imp (I := fun w : Controlled => PlayInv w.state ∧ Agrees w) ?_ h0 hobeyed
    intro w a w' h hstep hobeyed
    exact ⟨⟨playInv_commandStep h.1 hstep, hobeyed.settings⟩,
      commandCarried_of_obeyed h.1 h.2 hstep hobeyed⟩
  · intro hcarried
    refine AllSteps.imp (I := fun w : Controlled => PlayInv w.state ∧ Agrees w) ?_ h0 hcarried
    intro w a w' h hstep hcarried
    have hobeyed := commandObeyed_of_carried h.1 h.2 hstep hcarried
    exact ⟨⟨playInv_commandStep h.1 hstep, hobeyed.settings⟩, hobeyed⟩

/-- A playback on the channel 0 has been requested, and its thread has begun. -/
def playing : State :=
  (exec jobStep (fun _ _ => true) { own := {} }
    [.status .run, requestChannel, .thread {}]).getD { own := {} }

theorem reach_playing : Reach jobStep AllRuns { own := {} } playing := by
  have hrun : exec jobStep (fun _ _ => true) { own := {} } [.status .run, requestChannel, .thread {}] =
      some playing := by
    decide
  exact .of_exec (fun s a _ => show AllRuns s a from trivial) hrun

/-- A seek to 5 takes effect, as does the start of the playback. -/
theorem commandObeyed_playing :
    AllSteps commandStep CommandObeyed (controlled playing)
      [.command { serviceId := 0#32, cmdType := .storageRecordStart }, .thread {},
        .command { serviceId := 0#32, cmdType := .storageRecordSeek, timestampMs := 5#32 },
        .thread {}, .thread {}] :=
  (commandObeyed_iff playing reach_playing _).mpr (by decide)

/-! ### Commands without effect -/

/-- A pause is not obeyed, since its message goes to the recorder; after a change of the speed to 2
the thread paces the frames by it, but chooses them by the speed of the request. -/
theorem commands_ignored :
    Reach jobStep AllRuns { own := {} } playing ∧ Serves playing 0#32 0 ∧
      (∃ w, commandStep (controlled playing)
          (.command { serviceId := 0#32, cmdType := .storageRecordPause }) = some w ∧
        (jobAt w.state 0).pause = false) ∧
      (exec commandStep (fun _ _ => true) (controlled playing)
        [.command { serviceId := 0#32, cmdType := .storageRecordSetParam, speed := 2#32 },
          .thread {}]).any fun w => (threadAt w.state 0).any fun t => decide
            (t.pc = .body ∧ t.init.speed = 2#8 ∧ t.speed = 0#8) := by
  exact ⟨reach_playing, by decide, ⟨_, rfl, by decide⟩, by decide⟩

end GokeWebcam.Server.Player
