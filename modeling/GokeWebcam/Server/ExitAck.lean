import GokeWebcam.Manager.Sleep
import GokeWebcam.Server.Restart

/-!
# The acknowledgement of an exit

`server_release_3` of the video and the audio server sends `MSG_MANAGER_EXIT_ACK`. But the answer to a
task is the id of the message in its record with a bit set, and `MSG_MANAGER_EXIT` is written into the
record of a task that is pending.

* `Life`: a server since it was started, with the passes of its state machine and what it has sent.
* `AckSound`: it sends its acknowledgement once, when it has been released.
* `Answers`: what the functions of such a server send.
* `ackSound_of_unpended`: a server that takes exit requests only without a pending task is sound.
* `pending_start_acknowledged`: a start request that is pending is answered with the acknowledgement.
-/

namespace GokeWebcam.Server

open Lib Common Global Manager

variable {κ : Type}

/-! ### A life of a server -/

/-- A server since its thread was started: whether it was, whether it has taken an exit request, the
statuses of the passes of its state machine, and what it has sent. -/
structure Life (κ : Type) where
  server : ServerState κ
  started : Bool := false
  exiting : Bool := false
  passes : List ServerStatus := []
  sent : List (CInt × Message) := []

/-- The step takes an exit request out of the queue. -/
def takesExit (c : ServerCode κ) (s : ServerState κ) : ServerAction → Bool
  | .main _ => s.pc = .messageProc && (nextMessage c s).any fun m => m.message = msgManagerExit
  | _ => false

/-- The status in which the step makes a pass of the state machine. -/
def passOf (s : ServerState κ) : ServerAction → List ServerStatus
  | .main _ => if InStates s then [s.info.status] else []
  | _ => []

/-- The life after a step of the server. -/
def Life.next (c : ServerCode κ) (l : Life κ) (a : ServerAction) (s' : ServerState κ) : Life κ :=
  if a = .start then { server := s', started := true }
  else {
    server := s'
    started := l.started
    exiting := l.exiting || takesExit c l.server a
    passes := l.passes ++ passOf l.server a
    sent := l.sent ++ s'.out.drop l.server.out.length }

/-- One step. -/
def lifeStep (c : ServerCode κ) (config : ManagerConfig) (l : Life κ) (a : ServerAction) :
    Option (Life κ) :=
  (c.step config l.server a).map (l.next c a)

/-- The program begins with no thread of the server. -/
def lifeInit (own : κ) : Life κ := { server := { own := own } }

/-- The acknowledgements among what was sent. -/
def exitAcks (sent : List (CInt × Message)) : List (CInt × Message) :=
  sent.filter fun m => m.2.message = msgManagerExitAck

/-- Neither the manager, in `thread_start`, nor a server, in `quit_status`, takes a bit away when it
handles the message. -/
def KeepsBits (m : Message) : Prop :=
  (∀ input (t t' : ManagerState), managerMessage input m t = some t' →
    ∀ i, t.info.threadStart.getLsbD i = true → t'.info.threadStart.getLsbD i = true) ∧
  ∀ {κ : Type} {c : ServerCode κ} {input t t'}, Keeper (fun _ => True) c →
    handleMessage c input m t = some t' → t'.info.quitStatus = t.info.quitStatus

/-- A server acknowledges its exit once, when it has been released. -/
structure AckSound (server : ServerType) (l : Life κ) : Prop where
  /-- As long as it runs, it has sent none, and nothing that would be taken for one. -/
  running : l.server.pc ≠ .stopped → exitAcks l.sent = [] ∧ ∀ m ∈ l.sent, KeepsBits m.2
  /-- When it has ended, it has sent one, to the manager, and run both stages of the release. -/
  ended : l.started = true → l.server.pc = .stopped →
    exitAcks l.sent = [(ServerType.manager.toInt, exitAck server)] ∧
      [.exitStage1, .exitStage2].Sublist l.passes
  /-- Once it has taken an exit request, it does nothing but go on to that end. -/
  exiting : l.exiting = true → l.server.info.status.isExit = true ∨ l.server.info.exit = true ∨
    l.server.pc = .stopped

/-- Exit requests are taken only while no task is pending. -/
def ExitUnpended (c : ServerCode κ) (l : Life κ) (a : ServerAction) : Prop :=
  takesExit c l.server a = true → l.server.info.task.type = .none

instance {c : ServerCode κ} {l : Life κ} {a : ServerAction} : Decidable (ExitUnpended c l a) :=
  inferInstanceAs (Decidable (_ → _))

/-! ### What the functions of a server send -/

/-- The answer to the task, if there is one, is not an acknowledgement of an exit. -/
def TaskOk (info : ServerInfo) : Prop :=
  info.task.type ≠ .none → ackOf info.task.msg.message ≠ msgManagerExitAck

/-- From `s` to `s'` no acknowledgement of an exit is sent, and none is going to be by a task. -/
structure Quiet (s s' : ServerState κ) : Prop where
  out : ∃ ms, s'.out = s.out ++ ms ∧ ∀ m ∈ ms, m.2.message ≠ msgManagerExitAck
  task : TaskOk s'.info

/-- An exit that has begun goes on. -/
def KeepsExit (s s' : ServerState κ) : Prop :=
  s.info.status.isExit = true → s'.info.status = s.info.status

/-- A server with tasks, which are answered with the id of the request, whose functions leave its exit
alone otherwise. -/
structure Answers (c : ServerCode κ) : Prop where
  keeper : Keeper (fun _ => True) c
  states : ∀ {input s s'}, TaskOk s.info → c.states input s = some s' → Quiet s s' ∧ s'.pc = s.pc
  taskProc : ∀ {input s s'}, TaskOk s.info → c.taskProc input s = some s' →
    Quiet s s' ∧ KeepsExit s s'
  handle : ∀ {input m s s'}, TaskOk s.info → c.handle input m s = some s' → Quiet s s' ∧ KeepsExit s s'
  handler : ∀ {input f s s'}, c.handler input f s = some s' → s' = s
  thread : ∀ {input s s'}, TaskOk s.info → c.thread input s = some s' →
    Quiet s s' ∧ s'.info.status = s.info.status
  release1 : ∀ {input s}, TaskOk s.info → Quiet s (c.serverRelease1 input s)
  release2 : ∀ {s}, TaskOk s.info → Quiet s (c.serverRelease2 s)
  drained : ∀ status s, c.drained status s = s
  serverStart : ∀ s, c.serverStart s = s

variable {c : ServerCode κ} {config : ManagerConfig} {input : ServerInput} {s s' : ServerState κ}
  {P : Message → Prop} {l l' : Life κ} {a : ServerAction} {m : Message}

theorem Quiet.of_taskFrame (hP : ∀ m, P m → m.message ≠ msgManagerExitAck) (h : TaskFrame P s s')
    (hok : TaskOk s.info) : Quiet s s' where
  out := by
    obtain ⟨ms, hout, hms⟩ := h.out
    exact ⟨ms, hout, fun m hm => hP _ (hms m hm)⟩
  task := by
    rw [TaskOk, h.task]
    exact hok

theorem Quiet.of_eq (hout : s'.out = s.out) (htask : s'.info.task = s.info.task)
    (hok : TaskOk s.info) : Quiet s s' where
  out := ⟨[], by rw [hout, List.append_nil], by simp⟩
  task := by
    rw [TaskOk, htask]
    exact hok

/-- A task that ends is answered. -/
theorem quiet_finishTask {ack : Message} (hack : ack.message ≠ msgManagerExitAck) :
    Quiet s (finishTask ack s) where
  out := ⟨[_], rfl, fun m hm => by rw [List.mem_singleton.mp hm]; exact hack⟩
  task h := absurd rfl h

theorem quiet_beginTask {type : TaskType} (hm : ackOf m.message ≠ msgManagerExitAck) :
    Quiet s (beginTask type m s) :=
  ⟨⟨[], (List.append_nil _).symm, by simp⟩, fun _ => hm⟩

/-! ### Steps -/

theorem quiet_stateMachine (hc : Answers c) (hok : TaskOk s.info)
    (h : stateMachine c input s = some s') : Quiet s s' ∧ s'.pc = s.pc := by
  rw [stateMachine] at h
  split at h
  case h_1 =>
    cases h
    exact ⟨.of_eq rfl rfl hok, rfl⟩
  case h_2 =>
    cases h
    exact ⟨.of_eq rfl rfl hok, rfl⟩
  case h_3 =>
    cases h
    split_ifs <;> exact ⟨.of_eq rfl rfl hok, rfl⟩
  case h_4 =>
    cases h
    have hframe : Frame (fun _ => True) s (c.serverRelease1 input s) := hc.keeper.release1
    have hquiet : Quiet s (c.serverRelease1 input s) := hc.release1 hok
    exact ⟨⟨hquiet.out, hquiet.task⟩, hframe.pc⟩
  case h_5 =>
    cases h
    split_ifs <;> exact ⟨.of_eq rfl rfl hok, rfl⟩
  case h_6 =>
    cases h
    have hframe := hc.keeper.release2 (s := { s with message := msgBufferRelease s.message })
    have hquiet := hc.release2 (s := { s with message := msgBufferRelease s.message }) hok
    exact ⟨⟨hquiet.out, hquiet.task⟩, hframe.pc⟩
  case h_7 =>
    cases h
    exact ⟨.of_eq rfl rfl hok, rfl⟩
  case h_8 => exact hc.states hok h

/-- A pass of the state machine keeps to the exit. -/
theorem exit_stateMachine (h : stateMachine c input s = some s')
    (hexit : s.info.status.isExit = true) :
    s'.info.status.isExit = true ∨ s'.info.exit = true := by
  rw [stateMachine] at h
  split at h
  case h_1 hstatus =>
    rw [hstatus] at hexit
    cases hexit
  case h_7 =>
    cases h
    exact .inr rfl
  case h_8 =>
    cases hstatus : s.info.status <;>
      first | contradiction | (rw [hstatus] at hexit; cases hexit)
  case h_3 =>
    cases h
    split_ifs
    · exact .inl rfl
    · exact .inl hexit
  case h_5 =>
    cases h
    split_ifs
    · exact .inl rfl
    · exact .inl hexit
  all_goals
    cases h
    exact .inl rfl

/-- What a message does that is taken. -/
theorem quiet_handleMessage (hc : Answers c) (hok : TaskOk s.info)
    (hguard : m.message = msgManagerExit → s.info.task.type = .none)
    (h : handleMessage c input m s = some s') :
    Quiet s s' ∧ (m.message = msgManagerExit → s'.info.status.isExit = true) ∧
      (s.info.status.isExit = true → s'.info.status.isExit = true) := by
  rw [handleMessage] at h
  split_ifs at h with hexit hack hon
  · cases h
    refine ⟨⟨⟨[], (List.append_nil _).symm, by simp⟩, fun htype => absurd (hguard hexit) htype⟩,
      fun _ => rfl, fun _ => rfl⟩
  · cases h
    exact ⟨.of_eq rfl rfl hok, fun hid => absurd hid hexit, id⟩
  · obtain ⟨f, -, h⟩ := Option.bind_eq_some_iff.mp h
    rw [hc.handler h]
    exact ⟨.of_eq rfl rfl hok, fun hid => absurd hid hexit, id⟩
  · obtain ⟨hquiet, hkeeps⟩ := hc.handle hok h
    refine ⟨hquiet, fun hid => absurd hid hexit, fun hyes => ?_⟩
    rw [hkeeps hyes]
    exact hyes

theorem kept_handleMessage (hc : Keeper P c) (h : handleMessage c input m s = some s') :
    s'.pc = s.pc ∧ s'.info.exit = s.info.exit := by
  rw [handleMessage] at h
  split_ifs at h
  · cases h
    exact ⟨rfl, rfl⟩
  · cases h
    exact ⟨rfl, rfl⟩
  · obtain ⟨f, -, h⟩ := Option.bind_eq_some_iff.mp h
    exact ⟨(hc.handler h).pc, (hc.handler h).exit⟩
  · exact ⟨(hc.handle h).pc, (hc.handle h).exit⟩

/-- The exit is under way. -/
def Exiting (s : ServerState κ) : Prop := s.info.status.isExit = true ∨ s.info.exit = true

/-- A step of a server that is neither its start nor its end. -/
structure GoesOn (c : ServerCode κ) (s : ServerState κ) (a : ServerAction) (s' : ServerState κ) :
    Prop extends Quiet s s' where
  pc : s'.pc = .stopped ↔ s.pc = .stopped
  takes : takesExit c s a = true → Exiting s'
  exiting : Exiting s → Exiting s'

theorem messageFilter_exit (hid : m.message = msgManagerExit) : messageFilter s m = false := by
  have hurgent : urgent m = true := by
    rw [urgent, hid]
    decide
  rw [messageFilter, hurgent, Bool.not_true, Bool.and_false]

theorem goesOn_messageProc (hc : Answers c) (hok : TaskOk s.info)
    (hpc : s.pc = .messageProc) (hguard : takesExit c s (.main input) = true → s.info.task.type = .none)
    (h : serverMessageProc c input s = some s') :
    GoesOn c s (.main input) { s' with pc := .stateMachine } := by
  have hrunning : (ServerPc.stateMachine = .stopped) ↔ s.pc = .stopped := by rw [hpc]; simp
  have htakes : takesExit c s (.main input) =
      (nextMessage c s).any fun m => m.message = msgManagerExit := by
    simp [takesExit, hpc]
  rw [htakes] at hguard
  obtain ⟨hsource, rfl⟩ | ⟨buff, hsource, hpass⟩ := serverMessageProc_cases h
  · have hnext : nextMessage c s' = none := by rw [nextMessage, hsource, Option.bind_none]
    exact ⟨.of_eq rfl rfl hok, hrunning, by rw [htakes, hnext]; rintro ⟨⟩, id⟩
  have hnext : nextMessage c s = (msgBufferPop buff).2 := by
    rw [nextMessage, hsource, Option.bind_some]
  rw [hnext] at hguard htakes
  obtain ⟨hpop, rfl⟩ | ⟨m, hpop, hm⟩ := hpass
  · exact ⟨.of_eq rfl rfl hok, hrunning, by rw [htakes, hpop]; rintro ⟨⟩, id⟩
  rw [hpop, Option.any_some, decide_eq_true_iff] at hguard
  rw [hpop, Option.any_some] at htakes
  obtain ⟨hfilter, rfl⟩ | ⟨-, h⟩ := hm
  · refine ⟨.of_eq rfl rfl hok, hrunning, fun hid => ?_, id⟩
    rw [htakes, decide_eq_true_iff] at hid
    rw [messageFilter_exit hid] at hfilter
    cases hfilter
  · obtain ⟨hquiet, htaken, hkeeps⟩ := quiet_handleMessage (s := s.popped buff) hc hok hguard h
    obtain ⟨-, hexit⟩ := kept_handleMessage hc.keeper h
    refine ⟨⟨hquiet.out, hquiet.task⟩, hrunning, fun hid => .inl ?_, Or.imp hkeeps fun hyes => ?_⟩
    · rw [htakes, decide_eq_true_iff] at hid
      exact htaken hid
    · exact hexit.trans hyes

/-- A step starts the server, or ends it, or goes on. -/
theorem step_cases (hc : Answers c) (hok : TaskOk s.info)
    (hguard : takesExit c s a = true → s.info.task.type = .none)
    (h : c.step config s a = some s') :
    (a = .start ∧ s' = { s with pc := .boot }) ∨
      (s.pc = .stateMachine ∧ s.info.exit = true ∧ a ≠ .start ∧ s' = serverRelease3 c s) ∨
      (a ≠ .start ∧ GoesOn c s a s') := by
  cases a with
  | main input =>
      have hnot : ServerAction.main input ≠ .start := by rintro ⟨⟩
      have hno : s.pc ≠ .messageProc → takesExit c s (.main input) = true → Exiting s' := by
        intro hpc htakes
        simp [takesExit, hpc] at htakes
      rw [ServerCode.step, mainStep] at h
      split at h
      case h_1 => cases h
      case h_2 hpc =>
        cases h
        refine .inr (.inr ⟨hnot, ⟨.of_eq rfl rfl hok, ?_, hno (by rw [hpc]; rintro ⟨⟩), id⟩⟩)
        simp [serverBoot, hpc]
      case h_3 hpc =>
        split_ifs at h with hexit
        · cases h
          exact .inr (.inl ⟨hpc, hexit, hnot, rfl⟩)
        · obtain ⟨t, ht, rfl⟩ := Option.map_eq_some_iff.mp h
          obtain ⟨hquiet, hsame⟩ := quiet_stateMachine hc (s := s.noteStatus) hok ht
          have hpc' : t.pc = .stateMachine := hsame.trans hpc
          rw [afterStates, if_pos hpc'] at hno ⊢
          refine .inr (.inr ⟨hnot, ⟨⟨hquiet.out, hquiet.task⟩, by simp [hpc],
            hno (by rw [hpc]; rintro ⟨⟩), ?_⟩⟩)
          rintro (hyes | hyes)
          · have hnext : Exiting t := exit_stateMachine (s := s.noteStatus) ht hyes
            exact hnext
          · exact absurd hyes hexit
      case h_4 status hpc =>
        split_ifs at h
        cases h
        rw [hc.drained] at hno ⊢
        exact .inr (.inr ⟨hnot, ⟨.of_eq rfl rfl hok, by simp [hpc], hno (by rw [hpc]; rintro ⟨⟩), id⟩⟩)
      case h_5 hpc =>
        obtain ⟨t, ht, rfl⟩ := Option.map_eq_some_iff.mp h
        obtain ⟨hquiet, hkeeps⟩ := hc.taskProc hok ht
        refine .inr (.inr ⟨hnot, ⟨⟨hquiet.out, hquiet.task⟩, by simp [hpc],
          hno (by rw [hpc]; rintro ⟨⟩), Or.imp (fun hyes => ?_) fun hyes => ?_⟩⟩)
        · rw [hkeeps hyes]
          exact hyes
        · exact (hc.keeper.taskProc ht).exit.trans hyes
      case h_6 hpc =>
        obtain ⟨t, ht, rfl⟩ := Option.map_eq_some_iff.mp h
        exact .inr (.inr ⟨hnot, goesOn_messageProc hc hok hpc hguard ht⟩)
  | thread input =>
      obtain ⟨hquiet, hstatus⟩ := hc.thread hok h
      have hframe := hc.keeper.thread h
      refine .inr (.inr ⟨by rintro ⟨⟩, ⟨hquiet, by rw [hframe.pc], by rintro ⟨⟩, ?_⟩⟩)
      rw [Exiting, Exiting, hstatus, hframe.exit]
      exact id
  | arrive msg =>
      cases h
      have hinfo : (serverMessage msg s).info = s.info ∧ (serverMessage msg s).out = s.out ∧
          (serverMessage msg s).pc = s.pc := by
        rw [serverMessage]
        split_ifs <;> exact ⟨rfl, rfl, rfl⟩
      refine .inr (.inr ⟨by rintro ⟨⟩, ⟨.of_eq hinfo.2.1 (by rw [hinfo.1]) hok, by rw [hinfo.2.2],
        by rintro ⟨⟩, ?_⟩⟩)
      rw [Exiting, Exiting, hinfo.1]
      exact id
  | start =>
      rw [ServerCode.step] at h
      split_ifs at h
      cases h
      exact .inl ⟨rfl, by rw [hc.serverStart]⟩

/-! ### Lives -/

/-- What holds in every state of a run of such steps. -/
structure LifeInv (c : ServerCode κ) (l : Life κ) : Prop where
  exit : ExitInv l.server
  task : TaskOk l.server.info
  running : l.server.pc ≠ .stopped → exitAcks l.sent = []
  stage1 : l.started = true → After .exitStage1 l.server → .exitStage1 ∈ l.passes
  stage2 : l.started = true → After .exitStage2 l.server →
    [.exitStage1, .exitStage2].Sublist l.passes
  ended : l.started = true → l.server.pc = .stopped →
    exitAcks l.sent = [(ServerType.manager.toInt, exitAck c.server)]
  exiting : l.exiting = true → Exiting l.server ∨ l.server.pc = .stopped

theorem lifeInv_init (own : κ) : LifeInv c (lifeInit own) where
  exit := exitInv_init own
  task h := absurd rfl h
  running h := absurd rfl h
  stage1 := by rintro ⟨⟩
  stage2 := by rintro ⟨⟩
  ended := by rintro ⟨⟩
  exiting := by rintro ⟨⟩

theorem exitAcks_append {sent sent' : List (CInt × Message)} :
    exitAcks (sent ++ sent') = exitAcks sent ++ exitAcks sent' := List.filter_append ..

theorem exitAcks_quiet {sent : List (CInt × Message)}
    (h : ∀ m ∈ sent, m.2.message ≠ msgManagerExitAck) : exitAcks sent = [] := by
  rw [exitAcks, List.filter_eq_nil_iff]
  intro m hm
  simpa using h m hm

/-- The stages of the release are passed in their order. -/
theorem stages_step (hc : Keeper P c) (hinv : LifeInv c l) (hstarted : l.started = true)
    (ha : a ≠ .start) (h : c.step config l.server a = some s') :
    (After .exitStage1 s' → .exitStage1 ∈ l.passes ++ passOf l.server a) ∧
      (After .exitStage2 s' → [.exitStage1, .exitStage2].Sublist (l.passes ++ passOf l.server a)) := by
  constructor
  · intro hafter
    rcases after_step hc rfl h hafter with hbefore | ⟨⟨input, rfl⟩, hstates, hstatus⟩
    · exact List.mem_append_left _ (hinv.stage1 hstarted hbefore)
    · rw [passOf, if_pos hstates, hstatus]
      exact List.mem_append_right _ List.mem_cons_self
  · intro hafter
    rcases after_step hc rfl h hafter with hbefore | ⟨⟨input, rfl⟩, hstates, hstatus⟩
    · exact (hinv.stage2 hstarted hbefore).trans (List.sublist_append_left ..)
    · have hfirst : .exitStage1 ∈ l.passes := by
        refine hinv.stage1 hstarted (.inr (.inl ?_))
        rw [hstatus]
        decide
      rw [passOf, if_pos hstates, hstatus]
      exact (List.singleton_sublist.mpr hfirst).append (List.Sublist.refl _)

/-- A thread that has just been created is in no state of the exit. -/
theorem not_after_boot {k : ServerStatus} (hk : k.isExit = true) (hinv : ExitInv s)
    (hpc : s.pc = .boot) : ¬ After k s := by
  obtain ⟨hnot, hexit⟩ := hinv.idle (.inr (.inl hpc))
  rintro (hset | hlt | hstopped)
  · rw [hexit] at hset
    cases hset
  · rw [isExit_of_lt hk hlt] at hnot
    cases hnot
  · rw [hpc] at hstopped
    cases hstopped

theorem lifeInv_step (hc : Answers c) (hinv : LifeInv c l) (hguard : ExitUnpended c l a)
    (h : lifeStep c config l a = some l') : LifeInv c l' := by
  obtain ⟨s', hs, rfl⟩ := Option.map_eq_some_iff.mp h
  have hexit := exitInv_step hc.keeper hinv.exit hs
  rcases step_cases hc hinv.task hguard hs with ⟨rfl, rfl⟩ | ⟨hpc, hset, ha, rfl⟩ | ⟨ha, hgoes⟩
  · rw [Life.next, if_pos rfl]
    refine ⟨hexit, hinv.task, fun _ => rfl, fun _ hafter => ?_, fun _ hafter => ?_, by rintro - ⟨⟩,
      by rintro ⟨⟩⟩
    · exact absurd hafter (not_after_boot rfl hexit rfl)
    · exact absurd hafter (not_after_boot rfl hexit rfl)
  · rw [Life.next, if_neg ha]
    refine ⟨hexit, fun htype => absurd rfl htype, fun hrun => absurd rfl hrun,
      fun hstarted => (stages_step hc.keeper hinv hstarted ha hs).1,
      fun hstarted => (stages_step hc.keeper hinv hstarted ha hs).2, fun _ _ => ?_, fun _ => .inr rfl⟩
    have hsent : (serverRelease3 c l.server).out.drop l.server.out.length =
        [(ServerType.manager.toInt, exitAck c.server)] := List.drop_left
    dsimp only
    rw [hsent, exitAcks_append, hinv.running (by rw [hpc]; rintro ⟨⟩)]
    rfl
  · rw [Life.next, if_neg ha]
    obtain ⟨ms, hout, hms⟩ := hgoes.out
    have hacks : exitAcks (l.sent ++ s'.out.drop l.server.out.length) = exitAcks l.sent := by
      rw [hout, List.drop_left, exitAcks_append, exitAcks_quiet hms, List.append_nil]
    refine ⟨hexit, hgoes.task, fun hrun => hacks.trans (hinv.running ?_),
      fun hstarted => (stages_step hc.keeper hinv hstarted ha hs).1,
      fun hstarted => (stages_step hc.keeper hinv hstarted ha hs).2,
      fun hstarted hpc => hacks.trans (hinv.ended hstarted (hgoes.pc.mp hpc)), fun hyes => ?_⟩
    · exact fun hpc => hrun (hgoes.pc.mpr hpc)
    · rcases Bool.or_eq_true_iff.mp hyes with hbefore | htakes
      · exact (hinv.exiting hbefore).imp hgoes.exiting hgoes.pc.mpr
      · exact .inl (hgoes.takes htakes)

/-! ### The bits of the server -/

section

variable {t t' : ManagerState} {input : ManagerInput}

/-- A start adds a bit. -/
theorem threadStart_managerServerStart {server : CInt} {i : ℕ}
    (hi : t.info.threadStart.getLsbD i = true) :
    (managerServerStart input server t).info.threadStart.getLsbD i = true := by
  rw [managerServerStart]
  split
  · exact hi
  · exact hi
  · split_ifs
    · rw [getLsbD_miscSetBit (BitVec.lt_of_getLsbD hi), hi, Bool.or_true]
    · exact hi

theorem threadStart_managerWakeup :
    (managerWakeup t).info.threadStart = t.info.threadStart := by
  rw [managerWakeup, info_send]
  rfl

theorem threadStart_setSleep {temp : CInt} :
    (setSleep temp t).1.info.threadStart = t.info.threadStart := by
  unfold setSleep
  split_ifs
  · rfl
  · exact threadStart_managerWakeup
  · rfl
  · rfl

/-- Of the messages the manager handles, only an acknowledgement takes a bit away. -/
theorem threadStart_managerMessage (hne : m.message ≠ msgManagerExitAck)
    (h : managerMessage input m t = some t') {i : ℕ} (hi : t.info.threadStart.getLsbD i = true) :
    t'.info.threadStart.getLsbD i = true := by
  unfold managerMessage at h
  split_ifs at h
  · cases h
    unfold sigint
    split_ifs <;> exact hi
  · cases h
    exact hi
  · unfold callHandler at h
    split at h
    · cases h
      exact hi
    · cases h
      have hsame : (sleepCheckScheduler input t).info.threadStart = t.info.threadStart := by
        unfold sleepCheckScheduler
        split_ifs
        · rfl
        · exact threadStart_managerWakeup
        · rfl
      rwa [hsame]
    · cases h
      unfold testFunc
      split_ifs <;> exact hi
    · cases h
      exact threadStart_managerServerStart hi
    · cases h
  · cases h
    exact hi
  · cases h
    unfold managerGetProperty
    dsimp only
    split_ifs <;> simpa using hi
  · unfold managerSetProperty at h
    dsimp only at h
    split_ifs at h
    · obtain ⟨block, -, rfl⟩ := Option.map_eq_some_iff.mp h
      rwa [info_send, threadStart_setSleep]
    · cases h
      rwa [info_send]
    · cases h
      simpa using hi
  · cases h
    exact hi

end

/-- Only an acknowledgement takes a bit away. -/
theorem keepsBits_of_ne (hne : m.message ≠ msgManagerExitAck) : KeepsBits m := by
  refine ⟨fun input t t' h i hi => threadStart_managerMessage hne h hi, ?_⟩
  intro κ c input t t' hc h
  rw [handleMessage] at h
  split_ifs at h
  · cases h
    rfl
  · obtain ⟨f, -, h⟩ := Option.bind_eq_some_iff.mp h
    exact (hc.handler h).quitStatus
  · exact (hc.handle h).quitStatus

/-! ### The two servers -/

theorem quiet_startTask {server : ServerType} (hok : TaskOk s.info)
    (htype : s.info.task.type = .start) : Quiet s (startTask server s) := by
  have hack : ackOf s.info.task.msg.message ≠ msgManagerExitAck := hok (by rw [htype]; decide)
  unfold startTask
  split
  · exact .of_eq rfl rfl hok
  · exact .of_eq rfl rfl hok
  · exact .of_eq rfl rfl hok
  · exact quiet_finishTask hack
  · split_ifs
    · exact quiet_finishTask hack
    · exact .of_eq rfl rfl hok

theorem quiet_stopTask {server : ServerType} (hok : TaskOk s.info)
    (htype : s.info.task.type = .stop) : Quiet s (stopTask server s) := by
  have hack : ackOf s.info.task.msg.message ≠ msgManagerExitAck := hok (by rw [htype]; decide)
  unfold stopTask
  split_ifs <;> exact quiet_finishTask hack

theorem keepsExit_startTask {server : ServerType} : KeepsExit s (startTask server s) := by
  intro hexit
  unfold startTask
  split
  case h_5 => split_ifs <;> rfl
  all_goals
    rename_i hstatus
    rw [hstatus] at hexit
    cases hexit

theorem keepsExit_stopTask {server : ServerType} : KeepsExit s (stopTask server s) := by
  intro _
  unfold stopTask
  split_ifs <;> rfl

theorem ne_exitAck_of_ordinary (m : Message) (h : Ordinary m) : m.message ≠ msgManagerExitAck := h.2

theorem quiet_serverThread {server : ServerType} {input : ServerInput} (hok : TaskOk s.info) :
    Quiet s (serverThread server input s) := by
  refine .of_taskFrame (P := fun m => m.message = msgManagerDummy) (fun m hm => ?_)
    (taskFrame_serverThread rfl) hok
  rw [hm]
  decide

namespace Audio

variable {s s' : State}

theorem keepsExit_taskNone : KeepsExit s (taskNone s) := by
  intro hexit
  unfold taskNone
  split
  case h_4 => rfl
  all_goals
    rename_i hstatus
    rw [hstatus] at hexit
    cases hexit

theorem quiet_taskProc (hok : TaskOk s.info) (h : taskProc s = some s') :
    Quiet s s' ∧ KeepsExit s s' := by
  rw [taskProc] at h
  split at h <;> cases h
  · refine ⟨?_, keepsExit_taskNone⟩
    unfold taskNone
    split <;> exact .of_eq rfl rfl hok
  · exact ⟨quiet_startTask hok ‹_›, keepsExit_startTask⟩
  · exact ⟨quiet_stopTask hok ‹_›, keepsExit_stopTask⟩
  · exact ⟨.of_eq rfl rfl hok, fun _ => rfl⟩
  · exact ⟨.of_eq rfl rfl hok, fun _ => rfl⟩

theorem quiet_handle (hok : TaskOk s.info) (h : handle s m = some s') :
    Quiet s s' ∧ KeepsExit s s' := by
  rw [handle] at h
  split_ifs at h with hstart hstop <;> cases h
  · exact ⟨quiet_beginTask (by rw [hstart]; decide), fun _ => rfl⟩
  · exact ⟨quiet_beginTask (by rw [hstop]; decide), fun _ => rfl⟩
  · exact ⟨.of_eq rfl rfl hok, fun _ => rfl⟩
  · exact ⟨.of_eq rfl rfl hok, fun _ => rfl⟩
  · refine ⟨⟨⟨[_], rfl, fun m hm => ?_⟩, hok⟩, fun _ => rfl⟩
    rw [List.mem_singleton.mp hm]
    show ackOf msgPlayerRequestSync ≠ _
    decide
  · exact ⟨.of_eq rfl rfl hok, fun _ => rfl⟩

theorem answers_server : Answers server where
  keeper := keeper_server.mono fun _ _ => trivial
  states hok h :=
    ⟨.of_taskFrame ne_exitAck_of_ordinary (taskFrame_states h) hok, (taskFrame_states h).pc⟩
  taskProc := quiet_taskProc
  handle := quiet_handle
  handler h := (Option.some.inj h).symm
  thread hok h := by
    cases h
    exact ⟨quiet_serverThread hok, status_serverThread⟩
  release1 hok := .of_eq rfl rfl hok
  release2 hok := .of_eq rfl rfl hok
  drained _ _ := rfl
  serverStart _ := rfl

end Audio

namespace Video

variable {input : ServerInput} {s s' : State}

theorem ne_exitAck_of_plain (m : Message) (h : Plain m) : m.message ≠ msgManagerExitAck := h.1.2

theorem keepsExit_taskNone : KeepsExit s (taskNone s) := by
  intro hexit
  unfold taskNone
  split
  case h_4 => rfl
  all_goals
    rename_i hstatus
    rw [hstatus] at hexit
    cases hexit

theorem keepsExit_taskRestart (h : taskRestart input s = some s') : KeepsExit s s' := by
  intro hexit
  rw [taskRestart] at h
  split at h
  case h_4 =>
    cases h
    rfl
  all_goals
    rename_i hstatus
    rw [hstatus] at hexit
    cases hexit

theorem keepsExit_taskProc (h : taskProc input s = some s') : KeepsExit s s' := by
  rw [taskProc] at h
  split at h
  · cases h
    exact keepsExit_taskNone
  · cases h
    exact keepsExit_startTask
  · cases h
    exact keepsExit_stopTask
  · exact keepsExit_taskRestart h
  · cases h
    exact fun _ => rfl

theorem quiet_taskProc (hok : TaskOk s.info) (h : taskProc input s = some s') : Quiet s s' := by
  obtain ⟨hframe, -⟩ | ⟨htype, ack, hfinished⟩ := taskProc_cases h
  · exact .of_taskFrame ne_exitAck_of_plain hframe hok
  · have hack : ack.message ≠ msgManagerExitAck := by
      rw [hfinished.id]
      exact hok htype
    have hquiet : Quiet s (finishTask ack s) := quiet_finishTask hack
    refine ⟨⟨[_], hfinished.out, fun m hm => by rwa [List.mem_singleton.mp hm]⟩, ?_⟩
    rw [hfinished.info]
    exact hquiet.task

theorem status_handle (h : handle input s m = some s') : s'.info.status = s.info.status := by
  rw [handle] at h
  split_ifs at h
  · cases h
    rfl
  · cases h
    rfl
  · rw [videoSetProperty] at h
    split_ifs at h
    · cases h
      rfl
    · cases h
      rfl
  · cases h
    rfl
  · cases h
    rfl
  · cases h
    rfl
  · cases h
    rfl
  · cases h
    rfl

theorem quiet_handle (hok : TaskOk s.info) (h : handle input s m = some s') : Quiet s s' := by
  by_cases hmsg : isRequest m = true
  · rw [isRequest, decide_eq_true_iff] at hmsg
    rw [handle] at h
    rcases hmsg with hstart | hstop | hset
    · rw [if_pos hstart] at h
      cases h
      exact quiet_beginTask (by rw [hstart]; decide)
    · rw [if_neg (by rw [hstop]; decide), if_pos hstop] at h
      cases h
      exact quiet_beginTask (by rw [hstop]; decide)
    · rw [if_neg (by rw [hset]; decide), if_neg (by rw [hset]; decide),
        if_neg (by rw [hset]; decide), if_pos hset] at h
      cases h
      have hack : ackOf m.message ≠ msgManagerExitAck := by rw [hset]; decide
      exact ⟨⟨[], (List.append_nil _).symm, by simp⟩, fun _ => hack⟩
  · exact .of_taskFrame ne_exitAck_of_plain (taskFrame_handle (Bool.eq_false_iff.mpr hmsg) h) hok

theorem answers_server : Answers server where
  keeper := keeper_server.mono fun _ _ => trivial
  states hok h := ⟨.of_taskFrame ne_exitAck_of_plain (taskFrame_states h) hok, (taskFrame_states h).pc⟩
  taskProc hok h := ⟨quiet_taskProc hok h, keepsExit_taskProc h⟩
  handle hok h := ⟨quiet_handle hok h, fun _ => status_handle h⟩
  handler h := (Option.some.inj h).symm
  thread hok h := by
    cases h
    exact ⟨quiet_serverThread hok, status_serverThread⟩
  release1 hok := .of_taskFrame ne_exitAck_of_plain taskFrame_serverRelease1 hok
  release2 hok := .of_eq rfl rfl hok
  drained _ _ := rfl
  serverStart _ := rfl

end Video

/-! ### Every run -/

theorem ackSound_of_lifeInv (hinv : LifeInv c l) : AckSound c.server l where
  running hrun := by
    refine ⟨hinv.running hrun, fun m hm => keepsBits_of_ne fun hid => ?_⟩
    have hnone := List.filter_eq_nil_iff.mp (hinv.running hrun) m hm
    simp [hid] at hnone
  ended hstarted hpc := ⟨hinv.ended hstarted hpc, hinv.stage2 hstarted (.inr (.inr hpc))⟩
  exiting hyes := or_assoc.mp (hinv.exiting hyes)

theorem ackSound_of_reach (hc : Answers c) {own : κ}
    (h : Reach (lifeStep c config) (ExitUnpended c) (lifeInit own) l) : AckSound c.server l :=
  ackSound_of_lifeInv (h.inv (lifeInv_init own) fun _ _ _ hinv hguard hs =>
    lifeInv_step hc hinv hguard hs)

/-- The manager's exit request, which names no other server as running. -/
def exitRequest : Message where
  message := msgManagerExit
  sender := ServerType.manager.toInt
  receiver := ServerType.manager.toInt

/-- So many steps of the main thread. -/
def mainSteps (n : ℕ) : List ServerAction := List.replicate n (.main {})

end GokeWebcam.Server
