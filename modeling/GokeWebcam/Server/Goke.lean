import GokeWebcam.Lib.Transition
import GokeWebcam.Server.Audio
import GokeWebcam.Server.Video

/-!
# The goke server

`server/goke/goke.c`: the states of its state machine and its messages. It brings up the audio and video
system, for which the video and the audio server wait: they ask for its status until they are told that it
runs, and it notifies them while it does. The hardware layer is left out.

* `status_ne_none`: no message is handled in `STATUS_NONE`.
* `statusTold_iff`: a request for the status is answered with the status in a run iff there is none.
* `running_not_told`: a video server that asks a running goke server.
-/

namespace GokeWebcam.Server.Goke

open Lib Common Global Manager

/-- The state of the goke server; it has no other static variables. -/
abbrev State := ServerState Unit

/-- Source: `server/goke/goke.h` `GOKE_INIT_CONDITION_NUM` -/
def gokeInitConditionNum : ℕ := 0

/-- Source: `server/goke/goke.h` `GOKE_EXIT_CONDITION` -/
def gokeExitCondition : CInt :=
  (1#32 <<< ServerType.video.toNat) ||| (1#32 <<< ServerType.audio.toNat)

/-- Source: `server/goke/goke_interface.h` `goke_status_t` -/
def gokePropertyStatus : CInt := 0#32

/-- A status as an `int`. -/
def statusInt (status : ServerStatus) : CInt := BitVec.ofNat 32 status.toNat

variable (input : ServerInput) (msg : Message) (s : State)

/-! ### The state machine -/

/-- Source: `server/goke/goke.c` `server_init` -/
def serverInit : State :=
  if miscFullBit s.info.initStatus gokeInitConditionNum then s.setStatus .wait else s

/-- `input.configOk` is whether the voice module is registered, `input.ok` whether the parameters are
found and the system is initialised.
Source: `server/goke/goke.c` `server_setup` -/
def serverSetup : State :=
  if s.info.status2 then s.setStatus .idle
  else if !input.configOk then s
  else if !input.ok then s.setStatus .error
  else { s with info := { s.info with status2 := true, status := .idle } }

/-- Source: `server/goke/goke.c` `server_restart` -/
def serverRestart : State := { s with info := { s.info with status2 := false, status := .wait } }

/-- Source: `server/goke/goke.c` `state_machine` -/
def states : State :=
  match s.info.status with
  | .init => serverInit s
  | .setup => serverSetup input s
  | .start => s.setStatus .run
  | .stop => s.setStatus .idle
  | .restart => serverRestart s
  | _ => s

/-- Source: `server/goke/goke.c` `task_proc`, `STATUS_RUN` -/
def statusNotify : Message :=
  { serverMsg .goke msgGokePropertyNotify with
    argIn := { cat := gokePropertyStatus, dog := statusInt .run } }

/-- Source: `server/goke/goke.c` `task_proc` -/
def taskProc : State :=
  match s.info.status with
  | .none => s.setStatus .init
  | .wait => s.setStatus .setup
  | .idle => s.setStatus .start
  | .run =>
    let s := s.send ServerType.video.toInt statusNotify
    s.send ServerType.audio.toInt statusNotify
  | _ => s

/-! ### The messages -/

/-- The condition `msg.arg_in.cat = GOKE_PROPERTY_STATUS` is an assignment.
Source: `server/goke/goke.c` `server_message_proc`, `MSG_GOKE_PROPERTY_GET` -/
def propertyGet : State :=
  let sendMsg := { serverMsg .goke (ackOf msg.message) with argIn := { cat := msg.argIn.cat } }
  let msg := { msg with argIn := { msg.argIn with cat := gokePropertyStatus } }
  let sendMsg :=
    if msg.argIn.cat ≠ 0#32 then
      { sendMsg with argIn := { sendMsg.argIn with dog := statusInt s.info.status } }
    else sendMsg
  s.send msg.receiver sendMsg

/-- Source: `server/goke/goke.c` `server_message_proc` -/
def handle : State := if msg.message = msgGokePropertyGet then propertyGet msg s else s

/-- No timer calls back into it, and it has no other threads.
Source: `server/goke/goke.c` -/
def server : ServerCode Unit where
  server := .goke
  exitCondition := gokeExitCondition
  hasMessageBlock := false
  states := fun input s => some (states input s)
  taskProc := fun _ s => some (taskProc s)
  handle := fun _ msg s => some (handle msg s)
  handler := fun _ _ s => some s
  thread := fun _ _ => none
  drained := fun _ s => s
  serverRelease1 := fun _ s => { s with info := { s.info with status2 := false } }
  serverRelease2 := id
  serverStart := id

/-! ### What is asked for -/

/-- The request for the status that the step serves. -/
def asked (s : State) : ServerAction → Option Message
  | .main _ =>
    if s.pc = .messageProc then
      (nextMessage server s).filter fun msg => msg.message = msgGokePropertyGet ∧
        msg.argIn.cat = gokePropertyStatus ∧ messageFilter s msg = false
    else none
  | _ => none

/-- The server has the reply as it has the notification if goke runs, and else it does nothing. -/
def ToldAs {κ : Type} (c : ServerCode κ) (status : ServerStatus) (reply : Message) : Prop :=
  ∀ input s, handleMessage c input reply s =
    if status = .run then handleMessage c input statusNotify s else some s

/-- The reply has the status, and the server that asked takes it so. -/
def ReplySound (msg : Message) (s s' : State) : Prop :=
  ∃ reply, s'.out = s.out ++ [(msg.receiver, reply)] ∧ reply.message = ackOf msgGokePropertyGet ∧
    reply.argIn.cat = gokePropertyStatus ∧ reply.argIn.dog = statusInt s.info.status ∧
    ToldAs Video.server s.info.status reply ∧ ToldAs Audio.server s.info.status reply

/-- A request for the status is answered soundly. -/
def StatusTold (s : State) (a : ServerAction) (s' : State) : Prop :=
  ∀ msg, asked s a = some msg → ReplySound msg s s'

/-! ### The status of a message pass -/

variable {input msg s} {s' : State} {config : ManagerConfig} {a : ServerAction} {reply : Message}

theorem pc_stateMachine (h : stateMachine server input s = some s') : s'.pc = s.pc := by
  rw [stateMachine] at h
  split at h
  all_goals cases h
  · rfl
  · rfl
  · split_ifs <;> rfl
  · rfl
  · split_ifs <;> rfl
  · rfl
  · rfl
  · rw [states]
    split
    · rw [serverInit]
      split_ifs <;> rfl
    · rw [serverSetup]
      split_ifs <;> rfl
    · rfl
    · rfl
    · rfl
    · rfl

/-- The task leaves `STATUS_NONE`. -/
theorem status_taskProc : (taskProc s).info.status ≠ .none := by
  rw [taskProc]
  split
  · rintro ⟨⟩
  · rintro ⟨⟩
  · rintro ⟨⟩
  · next hstatus =>
    have hsame : ∀ {receiver msg} {s : State}, (s.send receiver msg).info = s.info := rfl
    rw [hsame, hsame, hstatus]
    rintro ⟨⟩
  · next hnone _ _ _ => exact hnone

/-- At the messages the status is not `STATUS_NONE`, the number of which a reply has. -/
def Awake (s : State) : Prop := s.pc = .messageProc → s.info.status ≠ .none

theorem awake_step (hs : Awake s) (h : server.step config s a = some s') : Awake s' := by
  rcases a with input | input | msg | _
  · have h : mainStep server config input s = some s' := h
    rw [mainStep] at h
    split at h
    · cases h
    · cases h
      rintro ⟨⟩
    · next hpc =>
      split_ifs at h
      · cases h
        rintro ⟨⟩
      · obtain ⟨s₁, hs₁, rfl⟩ := Option.map_eq_some_iff.mp h
        have hpc₁ : s₁.pc = .stateMachine := (pc_stateMachine hs₁).trans hpc
        rw [afterStates, if_pos hpc₁]
        rintro ⟨⟩
    · split_ifs at h
      cases h
      rintro ⟨⟩
    · cases h
      exact fun _ => status_taskProc
    · obtain ⟨s₁, -, rfl⟩ := Option.map_eq_some_iff.mp h
      rintro ⟨⟩
  · cases h
  · cases h
    have hsame : (serverMessage msg s).pc = s.pc ∧ (serverMessage msg s).info = s.info := by
      rw [serverMessage]
      split_ifs <;> exact ⟨rfl, rfl⟩
    rw [Awake, hsame.1, hsame.2]
    exact hs
  · have h : (if s.pc = .stopped then some { s with pc := .boot } else none) = some s' := h
    split_ifs at h
    cases h
    rintro ⟨⟩

theorem awake_of_reach (h : Reach (server.step config) AllRuns { own := () } s) : Awake s :=
  h.inv (by rintro ⟨⟩) fun _ _ _ hs _ hstep => awake_step hs hstep

/-- No message is handled in `STATUS_NONE`. -/
theorem status_ne_none (h : Reach (server.step config) AllRuns { own := () } s)
    (hpc : s.pc = .messageProc) : s.info.status ≠ .none := awake_of_reach h hpc

/-! ### The reply -/

/-- A request is answered with the number of `STATUS_NONE`. -/
theorem propertyGet_out : ∃ reply : Message, reply.argIn.dog = 0#32 ∧
    (propertyGet msg s).out = s.out ++ [(msg.receiver, reply)] := ⟨_, rfl, rfl⟩

/-- A request is served at the messages, and answered so. -/
theorem step_asked (hasked : asked s a = some msg) (h : server.step config s a = some s') :
    s.pc = .messageProc ∧ ∃ reply : Message, reply.argIn.dog = 0#32 ∧
      s'.out = s.out ++ [(msg.receiver, reply)] := by
  rcases a with input | input | msg' | _
  · rw [asked] at hasked
    split_ifs at hasked with hpc
    obtain ⟨hnext, hget⟩ := Option.filter_eq_some_iff.mp hasked
    obtain ⟨hid, -, hfilter⟩ := of_decide_eq_true hget
    refine ⟨hpc, ?_⟩
    have h : mainStep server config input s = some s' := h
    rw [mainStep, hpc] at h
    obtain ⟨s₁, hproc, rfl⟩ := Option.map_eq_some_iff.mp h
    rcases serverMessageProc_cases hproc with ⟨hsource, -⟩ | ⟨buff, hsource, hcases⟩
    · rw [nextMessage, hsource] at hnext
      cases hnext
    · rw [nextMessage, hsource, Option.bind_some] at hnext
      rcases hcases with ⟨hpop, -⟩ | ⟨msg', hpop, hcases⟩
      · rw [hpop] at hnext
        cases hnext
      · cases hpop.symm.trans hnext
        rcases hcases with ⟨hfilter', -⟩ | ⟨-, hhandle⟩
        · cases hfilter.symm.trans hfilter'
        · have hget : handleMessage server input msg (s.popped buff) =
              some (propertyGet msg (s.popped buff)) := by
            rw [handleMessage, hid, if_neg (by decide), if_neg (by decide), if_neg (by decide)]
            exact congrArg some (if_pos hid)
          cases hget.symm.trans hhandle
          exact propertyGet_out
  · cases hasked
  · cases hasked
  · cases hasked

theorem statusInt_ne_zero {status : ServerStatus} (h : status ≠ .none) :
    statusInt status ≠ 0#32 := by
  cases status
  case none => exact absurd rfl h
  all_goals decide

/-- A reply with the number of `STATUS_NONE` is wrong in any other status. -/
theorem not_replySound (hstatus : s.info.status ≠ .none) (hdog : reply.argIn.dog = 0#32)
    (hout : s'.out = s.out ++ [(msg.receiver, reply)]) : ¬ ReplySound msg s s' := by
  rintro ⟨reply', hout', -, -, hdog', -⟩
  have hreply : reply = reply' := by simpa using hout.symm.trans hout'
  rw [← hreply, hdog] at hdog'
  exact statusInt_ne_zero hstatus hdog'.symm

/-- The requests of a run are answered with the status iff there are none. -/
theorem statusTold_iff (config : ManagerConfig) (as : List ServerAction) :
    AllSteps (server.step config) StatusTold { own := () } as ↔
      AllSteps (server.step config) (fun s a _ => asked s a = none) { own := () } as := by
  refine allSteps_iff (fun _ _ _ hs hstep => awake_step hs hstep) ?_ (I := Awake) ?_ as
  · intro s a s' hs hstep
    rcases hasked : asked s a with _ | msg
    · refine iff_of_true ?_ rfl
      intro msg hmsg
      rw [hasked] at hmsg
      cases hmsg
    · refine iff_of_false (fun htold => ?_) (by rintro ⟨⟩)
      obtain ⟨hpc, reply, hdog, hout⟩ := step_asked hasked hstep
      exact not_replySound (hs hpc) hdog hout (htold msg hasked)
  · rintro ⟨⟩

/-! ### A run -/

/-- The video server asks for the status. -/
def videoAsks : Message :=
  { serverMsg .video msgGokePropertyGet with argIn := { cat := gokePropertyStatus } }

/-- Goke is started and comes to run; then the request arrives. -/
def askedWhileRunning : List ServerAction :=
  .start :: List.replicate 12 (.main {}) ++ [.arrive videoAsks]

/-- The video server asks the running goke server, and is not told that it runs. -/
theorem running_not_told : ∃ s a s', Reach (server.step {}) AllRuns { own := () } s ∧
    server.step {} s a = some s' ∧ asked s a = some { videoAsks with sequence := 1#32 } ∧
    s.info.status = .run ∧ ¬ StatusTold s a s' := by
  have hrun : ((exec (server.step {}) (fun _ _ => true) { own := () } askedWhileRunning).any
      fun s => (server.step {} s (.main {})).any fun s' =>
        decide (asked s (.main {}) = some { videoAsks with sequence := 1#32 } ∧
          s.info.status = .run)) = true := by
    decide
  obtain ⟨s, s', hreach, hstep, hasked, hstatus⟩ :=
    Reach.exists_step_of_exec (fun _ _ _ => trivial) hrun
  refine ⟨s, _, s', hreach, hstep, hasked, hstatus, fun htold => ?_⟩
  obtain ⟨-, reply, hdog, hout⟩ := step_asked hasked hstep
  exact not_replySound (by rw [hstatus]; decide) hdog hout (htold _ hasked)

/-! ### What the functions leave alone -/

theorem taskFrame_states : TaskFrame Ordinary s (states input s) := by
  rw [states]
  split
  · rw [serverInit]
    exact TaskFrame.ite (TaskFrame.refl.setStatus rfl) .refl
  · rw [serverSetup]
    refine TaskFrame.ite (TaskFrame.refl.setStatus rfl) (TaskFrame.ite .refl ?_)
    refine TaskFrame.ite (TaskFrame.refl.setStatus rfl) ?_
    have hset : TaskFrame Ordinary s { s with info := { s.info with status2 := true } } :=
      TaskFrame.refl.status2
    exact hset.setStatus rfl
  · exact TaskFrame.refl.setStatus rfl
  · exact TaskFrame.refl.setStatus rfl
  · have hset : TaskFrame Ordinary s { s with info := { s.info with status2 := false } } :=
      TaskFrame.refl.status2
    exact hset.setStatus rfl
  · exact .refl

theorem taskFrame_taskProc : TaskFrame Ordinary s (taskProc s) := by
  rw [taskProc]
  split
  · exact TaskFrame.refl.setStatus rfl
  · exact TaskFrame.refl.setStatus rfl
  · exact TaskFrame.refl.setStatus rfl
  · exact (TaskFrame.refl.send (by decide)).send (by decide)
  · exact .refl

theorem taskFrame_handle : TaskFrame Ordinary s (handle msg s) := by
  rw [handle]
  split_ifs with hid
  · rw [propertyGet]
    refine TaskFrame.refl.send (ordinary_of_id (n := ackOf msgGokePropertyGet) ?_ (by decide))
    split_ifs <;> rw [← hid] <;> rfl
  · exact .refl

theorem keeper_server : Keeper Ordinary server where
  states := by
    intro input s s' h
    cases h
    have hframe : TaskFrame Ordinary s (states input s) := taskFrame_states
    rw [hframe.pc]
    exact ⟨hframe.toFrame, .inl rfl⟩
  taskProc h := by
    cases h
    exact taskFrame_taskProc.toFrame
  handle h := by
    cases h
    exact taskFrame_handle.toFrame
  handler h := by
    cases h
    exact TaskFrame.refl.toFrame
  thread h := by cases h
  release1 := TaskFrame.refl.status2.toFrame
  release2 := TaskFrame.refl.toFrame
  drained := ⟨rfl, rfl, id, fun _ => rfl⟩
  serverStart := .inl rfl

end GokeWebcam.Server.Goke
