import GokeWebcam.Device.Sd
import GokeWebcam.Lib.Transition
import GokeWebcam.Server.Player
import GokeWebcam.Server.Recorder

/-!
# The handshake before the card is formatted

Before `sd_proc` unmounts or formats the card, the recorder and the player are to end their jobs and
to answer. `CardState` is the card with the two servers: a request of the cloud pushes a message into
their queues, `server_reinit` of a server waits for its threads and then sets the server's bit in
`format_status`, and `sd_proc` goes on when both bits are set. All other messages arrive at any time.

* `Quiet`: a server without job threads that waits for the card, or ends.
* `quiet_step`: a server stays quiet unless it is told that the card is ready, or what to do without
  one (`KeepsQuiet`, which both servers satisfy).
* `HandshakeKept`: the card is unmounted and formatted only while there are no job threads, and a
  server that has answered starts none.
* `HandshakeCareful`: the condition on a step.
* `handshakeKept_of_careful`: the steps of a careful run keep the handshake.
* `handshake_broken`: runs that do not.
-/

namespace GokeWebcam.Device.Sd

open Lib Common Global Server

/-! ### Servers without jobs -/

section Quiet

variable {κ : Type} {threads : κ → ℕ} {wakes : Message → ServerState κ → Bool}
  {c : ServerCode κ} {config : Manager.ManagerConfig} {input : ServerInput} {msg : Message}
  {s s' : ServerState κ}

/-- The states of a server that waits for the card, or ends. -/
def waitsForCard (status : ServerStatus) : Bool :=
  status = .none || status = .init || status = .reinit || ServerStatus.error.toNat ≤ status.toNat

/-- A server that has no job threads, and will not leave `STATUS_INIT` before it is told that the
card is ready. -/
structure Quiet (threads : κ → ℕ) (s : ServerState κ) : Prop where
  idle : threads s.own = 0
  card : s.info.initStatus.getLsbD initConditionDeviceSd = false
  status : waitsForCard s.info.status = true
  drain : ∀ status, s.pc = .drain status → status = .reinit

/-- The functions of a server keep it quiet, but for the messages that wake it. -/
structure KeepsQuiet (threads : κ → ℕ) (wakes : Message → ServerState κ → Bool) (c : ServerCode κ) :
    Prop where
  states : ∀ {input s s'}, Quiet threads s → s.info.status = .none ∨ s.info.status = .init ∨
    s.info.status = .reinit → c.states input s = some s' → Quiet threads s'
  taskProc : ∀ {input s s'}, Quiet threads s → c.taskProc input s = some s' → Quiet threads s'
  handle : ∀ {input msg s s'}, Quiet threads s → wakes msg s = false →
    c.handle input msg s = some s' → Quiet threads s'
  handler : ∀ {input handler s s'}, Quiet threads s → c.handler input handler s = some s' →
    Quiet threads s'
  thread : ∀ {input s}, Quiet threads s → c.thread input s = none
  drained : ∀ {s}, Quiet threads s → Quiet threads (c.drained .reinit s)
  release1 : ∀ {input s}, Quiet threads s → Quiet threads (c.serverRelease1 input s)
  release2 : ∀ {s}, Quiet threads s → Quiet threads (c.serverRelease2 s)
  serverStart : ∀ {s}, Quiet threads s → Quiet threads (c.serverStart s)

/-- In the step the server handles a message that wakes it. -/
def Woken (wakes : Message → ServerState κ → Bool) (c : ServerCode κ) (s : ServerState κ) :
    ServerAction → Prop
  | .main _ => s.pc = .messageProc ∧ ∃ msg ∈ nextMessage c s,
      messageFilter s msg = false ∧ wakes msg s = true
  | _ => False

instance (wakes : Message → ServerState κ → Bool) (c : ServerCode κ) (s : ServerState κ) :
    (a : ServerAction) → Decidable (Woken wakes c s a)
  | .main _ => inferInstanceAs (Decidable (s.pc = .messageProc ∧ ∃ msg ∈ nextMessage c s,
      messageFilter s msg = false ∧ wakes msg s = true))
  | .thread _ | .arrive _ | .start => inferInstanceAs (Decidable False)

/-- A server stays quiet where the status does, if it has the same threads and no news of the card. -/
theorem Quiet.of_eq (h : Quiet threads s) (hidle : threads s'.own = threads s.own)
    (hcard : s'.info.initStatus = s.info.initStatus) (hstatus : waitsForCard s'.info.status = true)
    (hpc : s'.pc = s.pc) : Quiet threads s' :=
  ⟨hidle.trans h.idle, hcard ▸ h.card, hstatus, hpc ▸ h.drain⟩

/-- The main thread goes on. -/
theorem Quiet.goOn (h : Quiet threads s) {pc : ServerPc} (hpc : ∀ status, pc ≠ .drain status) :
    Quiet threads { s with pc := pc } :=
  ⟨h.idle, h.card, h.status, fun status heq => absurd heq (hpc status)⟩

/-- A server that waits for the card and does not end is in one of three states. -/
theorem waits_cases {status : ServerStatus} (h : waitsForCard status = true) (h1 : status ≠ .error)
    (h2 : status ≠ .exitInit) (h3 : status ≠ .exitServer) (h4 : status ≠ .exitStage1)
    (h5 : status ≠ .exitThread) (h6 : status ≠ .exitStage2) (h7 : status ≠ .exitFinish) :
    status = .none ∨ status = .init ∨ status = .reinit := by
  revert h h1 h2 h3 h4 h5 h6 h7
  cases status <;> simp [waitsForCard, ServerStatus.toNat]

/-- `state_machine` keeps a server quiet. -/
theorem quiet_stateMachine (hc : KeepsQuiet threads wakes c) (h : Quiet threads s)
    (hstep : stateMachine c input s = some s') : Quiet threads s' := by
  have hstatus := h.status
  unfold stateMachine at hstep
  split at hstep
  case h_1 =>
    cases hstep
    exact h.of_eq rfl rfl rfl rfl
  case h_2 =>
    cases hstep
    exact h.of_eq rfl rfl rfl rfl
  case h_3 =>
    cases hstep
    split_ifs
    · exact h.of_eq rfl rfl rfl rfl
    · exact h
  case h_4 =>
    cases hstep
    exact (hc.release1 h).of_eq rfl rfl rfl rfl
  case h_5 =>
    cases hstep
    split_ifs
    · exact h.of_eq rfl rfl rfl rfl
    · exact h.of_eq rfl rfl hstatus rfl
  case h_6 =>
    cases hstep
    have hmessage : Quiet threads { s with message := msgBufferRelease s.message } :=
      h.of_eq rfl rfl hstatus rfl
    exact (hc.release2 hmessage).of_eq rfl rfl rfl rfl
  case h_7 =>
    cases hstep
    exact h.of_eq rfl rfl rfl rfl
  case h_8 h1 h2 h3 h4 h5 h6 h7 =>
    exact hc.states h (waits_cases hstatus h1 h2 h3 h4 h5 h6 h7) hstep

theorem quiet_handleMessage (hc : KeepsQuiet threads wakes c) (h : Quiet threads s)
    (hwakes : wakes msg s = false) (hstep : handleMessage c input msg s = some s') :
    Quiet threads s' := by
  unfold handleMessage at hstep
  split_ifs at hstep
  · cases hstep
    exact h.of_eq rfl rfl rfl rfl
  · cases hstep
    exact h.of_eq rfl rfl h.status rfl
  · rw [Option.bind_eq_some_iff] at hstep
    obtain ⟨handler, -, hstep⟩ := hstep
    exact hc.handler h hstep
  · exact hc.handle h hwakes hstep

/-- The main thread keeps the server quiet. -/
theorem quiet_mainStep (hc : KeepsQuiet threads wakes c)
    (hmessage : ∀ msg s buff, wakes msg (s.popped buff) = wakes msg s) (h : Quiet threads s)
    (hwoken : ¬ Woken wakes c s (.main input)) (hstep : mainStep c config input s = some s') :
    Quiet threads s' := by
  unfold mainStep at hstep
  rcases hpc : s.pc with _ | _ | _ | status | _ | _ <;> simp only [hpc] at hstep
  · cases hstep
  · cases hstep
    exact ⟨h.idle, h.card, h.status, by rintro status ⟨⟩⟩
  · split_ifs at hstep with hexit
    · cases hstep
      have hcard : (0#32).getLsbD initConditionDeviceSd = false := by decide
      exact ⟨h.idle, hcard, rfl, by rintro status ⟨⟩⟩
    · rw [Option.map_eq_some_iff] at hstep
      obtain ⟨s₁, hstates, rfl⟩ := hstep
      have hnote : Quiet threads s.noteStatus := h.of_eq rfl rfl h.status rfl
      have hquiet := quiet_stateMachine hc hnote hstates
      unfold afterStates
      split_ifs
      · exact hquiet.goOn (by simp)
      · exact hquiet
  · split_ifs at hstep
    cases hstep
    obtain rfl := h.drain status hpc
    exact (hc.drained h).goOn (by simp)
  · rw [Option.map_eq_some_iff] at hstep
    obtain ⟨s₁, htask, rfl⟩ := hstep
    exact (hc.taskProc h htask).goOn (by simp)
  · rw [Option.map_eq_some_iff] at hstep
    obtain ⟨s₁, hproc, rfl⟩ := hstep
    have hpopped : ∀ buff, Quiet threads (s.popped buff) := fun buff => h.of_eq rfl rfl h.status rfl
    suffices hquiet : Quiet threads s₁ from hquiet.goOn (by simp)
    obtain ⟨-, rfl⟩ | ⟨buff, hsource, ⟨-, rfl⟩ | ⟨msg, hmsg, ⟨-, rfl⟩ | ⟨hfilter, hhandle⟩⟩⟩ :=
      serverMessageProc_cases hproc
    · exact h
    · exact hpopped buff
    · exact hpopped buff
    · apply quiet_handleMessage hc (hpopped buff) _ hhandle
      rw [hmessage, ← Bool.not_eq_true]
      intro hwakes
      have hnext : nextMessage c s = some msg := by
        rw [nextMessage, hsource, Option.bind_some, hmsg]
      exact hwoken ⟨hpc, msg, hnext, hfilter, hwakes⟩

/-- A server that is not woken stays quiet. -/
theorem quiet_step {a : ServerAction} (hc : KeepsQuiet threads wakes c)
    (hmessage : ∀ msg s buff, wakes msg (s.popped buff) = wakes msg s) (h : Quiet threads s)
    (hwoken : ¬ Woken wakes c s a) (hstep : c.step config s a = some s') : Quiet threads s' := by
  cases a with
  | main input => exact quiet_mainStep hc hmessage h hwoken hstep
  | thread input =>
      have hnone : c.thread input s = none := hc.thread h
      have hsome : c.thread input s = some s' := hstep
      rw [hnone] at hsome
      cases hsome
  | arrive msg =>
      cases hstep
      unfold serverMessage
      split_ifs
      · exact h.of_eq rfl rfl h.status rfl
      · exact h
  | start =>
      unfold ServerCode.step at hstep
      split_ifs at hstep
      cases hstep
      exact (hc.serverStart h).goOn (by simp)

end Quiet

/-! ### The two servers -/

section Servers

variable {κ : Type} {threads : κ → ℕ} {s s' : ServerState κ} {msg : Message} {server : ServerType}

/-- The device server's answer that the card is ready. -/
def cardReady (msg : Message) : Bool :=
  msg.message = ackOf msgDeviceGetPara ∧ msg.argIn.cat = deviceParamSdInfo ∧ msg.argIn.dog ≠ 0#32

/-- The request changes the stored mode of the recorder.
Source: `server/recorder/recorder.c` `recorder_set_property` -/
def modeChange (msg : Message) (s : Recorder.State) : Bool :=
  (msg.message = msgRecorderPropertySet ∧ msg.argIn.cat = Recorder.recorderPropertySwitch) &&
    msg.arg.any fun block => s.own.recorderEnable.setWidth 32 ≠ readInt block

/-- The messages that wake the recorder. -/
def recorderWakes (msg : Message) (s : Recorder.State) : Bool := cardReady msg || modeChange msg s

/-- The messages that wake the player. -/
def playerWakes (msg : Message) (_ : Player.State) : Bool := cardReady msg

def recorderThreads (own : Recorder.Statics) : ℕ := own.threads.length

def playerThreads (own : Player.Statics) : ℕ := own.threads.length

/-- Without the card `STATUS_INIT` is not left. -/
theorem quiet_cardAndClockInit (h : Quiet threads s) : Quiet threads (cardAndClockInit server s) := by
  have hfull : miscFullBit s.info.initStatus initConditionNum = false := by
    rw [← Bool.not_eq_true]
    intro hfull
    have hcard := h.card
    have heq : s.info.initStatus = 3#32 := by
      rw [miscFullBit, beq_iff_eq] at hfull
      rw [hfull]
      decide
    rw [heq] at hcard
    exact absurd hcard (by decide)
  unfold cardAndClockInit
  dsimp only
  split_ifs with h1 h2 hcontra
  all_goals first
    | exact h.of_eq rfl rfl h.status rfl
    | exact absurd (hfull ▸ ‹_›) Bool.false_ne_true

/-- The answers about the clock, and that the card is not ready, change nothing. -/
theorem quiet_cardAndClockMessage (h : Quiet threads s) (hready : cardReady msg = false)
    (hstep : cardAndClockMessage msg s = some s') : Quiet threads s' := by
  have htime : Quiet threads (s.setInitBit initConditionTimeSychronized) := by
    refine ⟨h.idle, ?_, h.status, h.drain⟩
    show (miscSetBit s.info.initStatus _).getLsbD initConditionDeviceSd = false
    rw [getLsbD_miscSetBit (by decide), h.card]
    decide
  have hnoTime : Quiet threads (s.clearInitBit initConditionTimeSychronized) := by
    refine ⟨h.idle, ?_, h.status, h.drain⟩
    show (miscClearBit s.info.initStatus _).getLsbD initConditionDeviceSd = false
    rw [getLsbD_miscClearBit (by decide), h.card]
    rfl
  unfold cardAndClockMessage at hstep
  split_ifs at hstep with hack hdog
  · simp [cardReady, hack, hdog] at hready
  · cases hstep
    exact h
  · cases hstep
    exact htime
  · cases hstep
    exact htime
  · cases hstep
    exact hnoTime

/-- The recorder stays quiet until the card is ready, or its mode changes. -/
theorem keepsQuiet_recorder : KeepsQuiet recorderThreads recorderWakes Recorder.server where
  states := by
    intro input s s' h hstatus hstep
    have hstep : Recorder.states input s = some s' := hstep
    unfold Recorder.states at hstep
    obtain hs | hs | hs := hstatus <;> rw [hs] at hstep <;> cases hstep
    · exact h
    · exact quiet_cardAndClockInit h
    · exact ⟨h.idle, h.card, h.status, fun status heq => (ServerPc.drain.inj heq).symm⟩
  taskProc := by
    intro input s s' h hstep
    have hstatus := h.status
    obtain rfl : Recorder.taskProc s = s' := Option.some.inj hstep
    unfold Recorder.taskProc
    split
    case h_1 => exact h.of_eq rfl rfl rfl rfl
    case h_2 hs =>
      rw [hs] at hstatus
      cases hstatus
    case h_3 hs =>
      rw [hs] at hstatus
      cases hstatus
    case h_4 => exact h
  handle := by
    intro input msg s s' h hwakes hstep
    have hready : cardReady msg = false := (Bool.or_eq_false_iff.mp hwakes).1
    have hmode : modeChange msg s = false := (Bool.or_eq_false_iff.mp hwakes).2
    have hrun : s.info.status ≠ .run := by
      intro hs
      have hstatus := h.status
      rw [hs] at hstatus
      cases hstatus
    have hstep : Recorder.handle input msg s = some s' := hstep
    unfold Recorder.handle at hstep
    split_ifs at hstep with hadd hformat hproperty
    · cases hstep
      exact h
    · cases hstep
      exact h.of_eq rfl rfl rfl rfl
    · unfold Recorder.recorderSetProperty at hstep
      split_ifs at hstep with hswitch
      · rw [Option.map_eq_some_iff] at hstep
        obtain ⟨block, hblock, hset⟩ := hstep
        have hsame : ¬ s.own.recorderEnable.setWidth 32 ≠ readInt block := by
          simpa [modeChange, hproperty, hswitch, hblock] using hmode
        rw [if_neg hsame] at hset
        rw [← hset]
        exact h
      · cases hstep
        exact h
    · obtain hcard | ⟨-, hnone⟩ := Option.or_eq_some_iff.mp hstep
      · exact quiet_cardAndClockMessage h hready hcard
      · cases hnone
        exact h
  handler := by
    intro input handler s s' h hstep
    cases hstep
    exact h
  thread := by
    intro input s h
    have hnil : s.own.threads = [] := List.length_eq_zero_iff.mp h.idle
    show Recorder.recorderFunc input s = none
    unfold Recorder.recorderFunc
    rw [hnil]
    rfl
  drained := by
    intro s h
    have hcard : (0#32).getLsbD initConditionDeviceSd = false := by decide
    exact ⟨h.idle, hcard, rfl, h.drain⟩
  release1 := fun h => h
  release2 := fun h => h.of_eq rfl rfl h.status rfl
  serverStart := fun h => h

/-- A request about the jobs of the player starts no thread while it waits for the card. -/
theorem quiet_handleJob {s s' : Player.State} (h : Quiet playerThreads s)
    (hstep : Player.handleJob msg s = some s') : Quiet playerThreads s' := by
  have honJob : ∀ f, Quiet playerThreads (Player.onJob msg s f) := by
    intro f
    unfold Player.onJob
    split
    · exact h
    · exact h.of_eq rfl rfl h.status rfl
  unfold Player.handleJob at hstep
  split_ifs at hstep <;> cases hstep <;> exact honJob _

theorem quiet_requestSyncAck {s s' : Player.State} (h : Quiet playerThreads s)
    (hstep : Player.requestSyncAck msg s = some s') : Quiet playerThreads s' := by
  unfold Player.requestSyncAck Player.noteSync at hstep
  dsimp only at hstep
  split_ifs at hstep <;> cases hstep
  · exact h
  · exact h.of_eq rfl rfl h.status rfl
  · exact h
  · exact h.of_eq rfl rfl h.status rfl
  · exact h

/-- The player stays quiet until the card is ready. -/
theorem keepsQuiet_player : KeepsQuiet playerThreads playerWakes Player.server where
  states := by
    intro input s s' h hstatus hstep
    have hstep : Player.states s = some s' := hstep
    unfold Player.states at hstep
    obtain hs | hs | hs := hstatus <;> rw [hs] at hstep <;> cases hstep
    · exact h
    · exact quiet_cardAndClockInit h
    · exact ⟨h.idle, h.card, h.status, fun status heq => (ServerPc.drain.inj heq).symm⟩
  taskProc := by
    intro input s s' h hstep
    have hstatus := h.status
    obtain rfl : Player.taskProc s = s' := Option.some.inj hstep
    unfold Player.taskProc
    split
    case h_1 => exact h.of_eq rfl rfl rfl rfl
    case h_2 hs =>
      rw [hs] at hstatus
      cases hstatus
    case h_3 hs =>
      rw [hs] at hstatus
      cases hstatus
    case h_4 => exact h
  handle := by
    intro input msg s s' h hwakes hstep
    have hrun : s.info.status ≠ .run := by
      intro hs
      have hstatus := h.status
      rw [hs] at hstatus
      cases hstatus
    have hstep : Player.handle input msg s = some s' := hstep
    unfold Player.handle at hstep
    split_ifs at hstep with hrequest hformat hrelay hsync
    · cases hstep
      have hrefused : Player.playerAddJob input msg (s.setTaskMsg msg) = s.setTaskMsg msg := by
        unfold Player.playerAddJob
        exact if_pos hrun
      rw [hrefused]
      exact h.of_eq rfl rfl h.status rfl
    · cases hstep
      exact h.of_eq rfl rfl rfl rfl
    · cases hstep
      exact h.of_eq rfl rfl h.status rfl
    · exact quiet_requestSyncAck h hstep
    · obtain hfirst | ⟨-, hnone⟩ := Option.or_eq_some_iff.mp hstep
      · obtain hcard | ⟨-, hjob⟩ := Option.or_eq_some_iff.mp hfirst
        · exact quiet_cardAndClockMessage h hwakes hcard
        · exact quiet_handleJob h hjob
      · cases hnone
        exact h
  handler := by
    intro input handler s s' h hstep
    cases hstep
    exact h
  thread := by
    intro input s h
    have hnil : s.own.threads = [] := List.length_eq_zero_iff.mp h.idle
    show Player.playerFunc input s = none
    unfold Player.playerFunc
    rw [hnil]
    rfl
  drained := by
    intro s h
    have hcard : (0#32).getLsbD initConditionDeviceSd = false := by decide
    exact ⟨h.idle, hcard, rfl, h.drain⟩
  release1 := fun h => h
  release2 := fun h => h.of_eq rfl rfl h.status rfl
  serverStart := fun h => h

end Servers

/-! ### The card with the two servers -/

structure CardState where
  sd : SdState := {}
  recorder : Recorder.State := { own := {} }
  player : Player.State := { own := {} }

/-- A step of a server, among them the arrival of any message; a request of the cloud; a hot-plug
event; a call of `sd_proc`. -/
inductive CardAction
  | recorder (a : ServerAction)
  | player (a : ServerAction)
  | format
  | unmount
  | hotplug (addr : Option (List Char))
  | proc (w : Outside)

/-- The wait of `server_reinit` ends in the step.
Source: `server/recorder/recorder.c`, `server/player/player.c` `server_reinit` -/
def reinitEnds {κ : Type} (s : ServerState κ) : ServerAction → Bool
  | .main _ => s.pc = .drain .reinit ∧ s.info.threadStart = 0#32
  | _ => false

/-- Source: `server/device/gk_sd.c` `sd_format`, `sd_unmount` -/
def formatStart : Message := serverMsg .aliyun msgDeviceSdFormatStart

/-- A request, with its message to the two servers.
Source: `server/device/gk_sd.c` `sd_format`, `sd_unmount` -/
def CardState.request (result : SdState × Bool) (s : CardState) : CardState where
  sd := result.1
  recorder := if result.2 then serverMessage formatStart s.recorder else s.recorder
  player := if result.2 then serverMessage formatStart s.player else s.player

/-- One step. -/
def cardStep (config : Manager.ManagerConfig) (s : CardState) : CardAction → Option CardState
  | .recorder a => (Recorder.server.step config s.recorder a).map fun recorder =>
      { s with
        recorder := recorder
        sd := if reinitEnds s.recorder a then sdSetResponse s.sd .format .recorder else s.sd }
  | .player a => (Player.server.step config s.player a).map fun player =>
      { s with
        player := player
        sd := if reinitEnds s.player a then sdSetResponse s.sd .format .player else s.sd }
  | .format => some (s.request (sdFormat s.sd))
  | .unmount => some (s.request (sdUnmount s.sd))
  | .hotplug addr => some { s with sd := updateHotplugEvent s.sd addr }
  | .proc w => some { s with sd := sdProc s.sd w }

/-- The next call of `sd_proc` unmounts or formats the card. -/
def working (sd : SdState) : Bool := sd.sdCardStatus = .formating || sd.sdCardStatus = .unmounting

/-- The server has answered, and the card is not formatted or unmounted yet. -/
def hasAnswered (server : ServerType) (sd : SdState) : Bool :=
  miscGetBit sd.formatStatus server.toNat ≠ 0#32 || working sd

/-- What a step does that keeps the handshake. -/
structure HandshakeKept (s : CardState) (a : CardAction) (s' : CardState) : Prop where
  /-- `umount` and `mkfs` run only while there are no job threads. -/
  works : ∀ w, a = .proc w → working s.sd = true →
    s.recorder.own.threads = [] ∧ s.player.own.threads = []
  /-- A server that has answered starts no job. -/
  recorder : hasAnswered .recorder s.sd = true →
    s'.recorder.own.threads.length ≤ s.recorder.own.threads.length
  player : hasAnswered .player s.sd = true →
    s'.player.own.threads.length ≤ s.player.own.threads.length

/-- The condition on a step: the wait of `server_reinit` does not end while a thread is left that has
not begun, and a server that has answered handles no message that wakes it. -/
def HandshakeCareful (s : CardState) : CardAction → Prop
  | .recorder a => (reinitEnds s.recorder a = true → s.recorder.own.threads = []) ∧
      (hasAnswered .recorder s.sd = true → ¬ Woken recorderWakes Recorder.server s.recorder a)
  | .player a => (reinitEnds s.player a = true → s.player.own.threads = []) ∧
      (hasAnswered .player s.sd = true → ¬ Woken playerWakes Player.server s.player a)
  | _ => True

instance (s : CardState) : (a : CardAction) → Decidable (HandshakeCareful s a)
  | .recorder a => inferInstanceAs (Decidable
      ((reinitEnds s.recorder a = true → s.recorder.own.threads = []) ∧
        (hasAnswered .recorder s.sd = true → ¬ Woken recorderWakes Recorder.server s.recorder a)))
  | .player a => inferInstanceAs (Decidable
      ((reinitEnds s.player a = true → s.player.own.threads = []) ∧
        (hasAnswered .player s.sd = true → ¬ Woken playerWakes Player.server s.player a)))
  | .format | .unmount | .hotplug _ | .proc _ => inferInstanceAs (Decidable True)

variable {config : Manager.ManagerConfig} {c c' : CardState} {server : ServerType} {act : CardAction}

/-! ### Who has answered -/

@[simp] theorem formatStatus_sdProc : (sdProc sd w).formatStatus = (procStatus sd w).formatStatus := by
  unfold sdProc
  dsimp only
  split_ifs <;> rfl

/-- `sd_proc` goes on when both servers have answered. -/
theorem hasAnswered_sdProc (hserver : server = .recorder ∨ server = .player)
    (h : hasAnswered server (sdProc sd w) = true) : hasAnswered server sd = true := by
  have hboth : answered sd = true → hasAnswered server sd = true := by
    intro hanswered
    unfold answered at hanswered
    rw [Bool.and_eq_true] at hanswered
    unfold hasAnswered
    obtain rfl | rfl := hserver
    · rw [hanswered.1, Bool.true_or]
    · rw [hanswered.2, Bool.true_or]
  have hworking : working sd = true → hasAnswered server sd = true := by
    intro hworking
    rw [hasAnswered, hworking, Bool.or_true]
  unfold hasAnswered working at h
  rw [formatStatus_sdProc, sdCardStatus_sdProc] at h
  rcases hstatus : sd.sdCardStatus with _ | _ | _ | _ | _ | _ | _ | _ | _ | _
  · simp only [procStatus, hstatus, procNull] at h
    unfold hasAnswered
    split_ifs at h <;> simp_all
  · simp only [procStatus, hstatus, procMount] at h
    unfold hasAnswered
    split_ifs at h <;> simp_all
  · simp only [procStatus, hstatus] at h
    split_ifs at h with hanswered
    · exact hboth hanswered
    · unfold hasAnswered
      simp_all
  · exact hworking (by simp [working, hstatus])
  · simp only [procStatus, hstatus, procMount] at h
    unfold hasAnswered
    split_ifs at h <;> simp_all
  · simp only [procStatus, hstatus] at h
    unfold hasAnswered
    simp_all
  · simp only [procStatus, hstatus] at h
    split_ifs at h with hanswered
    · exact hboth hanswered
    · unfold hasAnswered
      simp_all
  · exact hworking (by simp [working, hstatus])
  · simp only [procStatus, hstatus] at h
    unfold hasAnswered
    simp_all
  · simp only [procStatus, hstatus] at h
    unfold hasAnswered
    simp_all

/-- A request takes no answer back, and adds none. -/
theorem hasAnswered_sdFormat (h : hasAnswered server (sdFormat sd).1 = true) :
    hasAnswered server sd = true := by
  unfold sdFormat at h
  unfold hasAnswered working at h ⊢
  split_ifs at h <;> simp_all

theorem hasAnswered_sdUnmount (h : hasAnswered server (sdUnmount sd).1 = true) :
    hasAnswered server sd = true := by
  unfold sdUnmount at h
  unfold hasAnswered working at h ⊢
  split_ifs at h <;> simp_all

/-- An answer is that of the server that gives it. -/
theorem hasAnswered_sdSetResponse {other : ServerType} (hne : other ≠ server)
    (h : hasAnswered server (sdSetResponse sd .format other) = true) : hasAnswered server sd = true := by
  unfold sdSetResponse at h
  split_ifs at h
  · unfold hasAnswered working at h ⊢
    rw [Bool.or_eq_true, decide_eq_true_eq, miscGetBit_ne_zero ServerType.toNat_lt_32] at h ⊢
    dsimp only at h
    rw [getLsbD_miscSetBit ServerType.toNat_lt_32] at h
    have hbit : other.toNat ≠ server.toNat := fun heq => hne (ServerType.toNat_inj.mp heq)
    simpa [hbit] using h
  · exact h

/-! ### Runs -/

/-- The servers that have answered are quiet. -/
structure CardInv (c : CardState) : Prop where
  recorder : hasAnswered .recorder c.sd = true → Quiet recorderThreads c.recorder
  player : hasAnswered .player c.sd = true → Quiet playerThreads c.player

/-- A server whose wait has ended without a thread left is quiet. -/
theorem quiet_of_reinitEnds {κ : Type} {threads : κ → ℕ} {code : ServerCode κ} {s s' : ServerState κ}
    {a : ServerAction} (hends : reinitEnds s a = true) (hidle : threads s.own = 0)
    (hdrained : code.drained .reinit s = { s with info := {} })
    (hstep : code.step config s a = some s') : Quiet threads s' := by
  cases a with
  | main input =>
      obtain ⟨hpc, hthreads⟩ := of_decide_eq_true hends
      have hmain : mainStep code config input s = some s' := hstep
      unfold mainStep at hmain
      simp only [hpc, hthreads, if_true] at hmain
      rw [hdrained] at hmain
      cases hmain
      have hcard : (0#32).getLsbD initConditionDeviceSd = false := by decide
      exact ⟨hidle, hcard, rfl, by rintro status ⟨⟩⟩
  | thread input => cases hends
  | arrive msg => cases hends
  | start => cases hends

/-- The messages of the queue do not decide what wakes a server. -/
theorem quiet_recorderStep {a : ServerAction} {s s' : Recorder.State} (h : Quiet recorderThreads s)
    (hwoken : ¬ Woken recorderWakes Recorder.server s a)
    (hstep : Recorder.server.step config s a = some s') : Quiet recorderThreads s' :=
  quiet_step keepsQuiet_recorder (fun _ _ _ => rfl) h hwoken hstep

theorem quiet_playerStep {a : ServerAction} {s s' : Player.State} (h : Quiet playerThreads s)
    (hwoken : ¬ Woken playerWakes Player.server s a)
    (hstep : Player.server.step config s a = some s') : Quiet playerThreads s' :=
  quiet_step keepsQuiet_player (fun _ _ _ => rfl) h hwoken hstep

/-- A message that arrives does not wake a server. -/
theorem quiet_serverMessage {κ : Type} {threads : κ → ℕ} {s : ServerState κ} {m : Message}
    (h : Quiet threads s) : Quiet threads (serverMessage m s) := by
  unfold serverMessage
  split_ifs
  · exact h.of_eq rfl rfl h.status rfl
  · exact h

/-- A request to format or to unmount the card. -/
theorem CardInv.request {result : SdState × Bool} (h : CardInv c)
    (hanswered : ∀ server, hasAnswered server result.1 = true → hasAnswered server c.sd = true) :
    CardInv (c.request result) := by
  constructor
  · intro hrecorder
    have hquiet := h.recorder (hanswered _ hrecorder)
    unfold CardState.request
    dsimp only
    split_ifs
    · exact quiet_serverMessage hquiet
    · exact hquiet
  · intro hplayer
    have hquiet := h.player (hanswered _ hplayer)
    unfold CardState.request
    dsimp only
    split_ifs
    · exact quiet_serverMessage hquiet
    · exact hquiet

/-- A careful step keeps the servers that have answered quiet. -/
theorem cardInv_step (h : CardInv c) (hstep : cardStep config c act = some c')
    (hcareful : HandshakeCareful c act) : CardInv c' := by
  cases act with
  | recorder a =>
      obtain ⟨hlast, hwoken⟩ := hcareful
      unfold cardStep at hstep
      rw [Option.map_eq_some_iff] at hstep
      obtain ⟨recorder, hrec, rfl⟩ := hstep
      constructor
      · intro hanswered
        dsimp only at hanswered ⊢
        split_ifs at hanswered with hends
        · exact quiet_of_reinitEnds hends (by rw [recorderThreads, hlast hends]; rfl) rfl hrec
        · exact quiet_recorderStep (h.recorder hanswered) (hwoken hanswered) hrec
      · intro hanswered
        dsimp only at hanswered ⊢
        split_ifs at hanswered
        · exact h.player (hasAnswered_sdSetResponse (by decide) hanswered)
        · exact h.player hanswered
  | player a =>
      obtain ⟨hlast, hwoken⟩ := hcareful
      unfold cardStep at hstep
      rw [Option.map_eq_some_iff] at hstep
      obtain ⟨player, hplay, rfl⟩ := hstep
      constructor
      · intro hanswered
        dsimp only at hanswered ⊢
        split_ifs at hanswered
        · exact h.recorder (hasAnswered_sdSetResponse (by decide) hanswered)
        · exact h.recorder hanswered
      · intro hanswered
        dsimp only at hanswered ⊢
        split_ifs at hanswered with hends
        · exact quiet_of_reinitEnds hends (by rw [playerThreads, hlast hends]; rfl) rfl hplay
        · exact quiet_playerStep (h.player hanswered) (hwoken hanswered) hplay
  | format =>
      cases hstep
      exact h.request fun _ => hasAnswered_sdFormat
  | unmount =>
      cases hstep
      exact h.request fun _ => hasAnswered_sdUnmount
  | hotplug addr =>
      have hsame : ∀ server, hasAnswered server (updateHotplugEvent c.sd addr) =
          hasAnswered server c.sd := by
        intro server
        unfold updateHotplugEvent
        cases addr <;> rfl
      cases hstep
      constructor
      · intro hanswered
        dsimp only at hanswered ⊢
        rw [hsame] at hanswered
        exact h.recorder hanswered
      · intro hanswered
        dsimp only at hanswered ⊢
        rw [hsame] at hanswered
        exact h.player hanswered
  | proc w =>
      cases hstep
      exact ⟨fun hanswered => h.recorder (hasAnswered_sdProc (.inl rfl) hanswered),
        fun hanswered => h.player (hasAnswered_sdProc (.inr rfl) hanswered)⟩

theorem hasAnswered_of_working (h : working sd = true) : hasAnswered server sd = true := by
  rw [hasAnswered, h, Bool.or_true]

theorem own_serverMessage {κ : Type} {s : ServerState κ} {m : Message} :
    (serverMessage m s).own = s.own := by
  unfold serverMessage
  split_ifs <;> rfl

/-- Only its own steps change a server's threads. -/
theorem own_cardStep (hstep : cardStep config c act = some c') :
    ((∀ a, act ≠ .recorder a) → c'.recorder.own = c.recorder.own) ∧
      ((∀ a, act ≠ .player a) → c'.player.own = c.player.own) := by
  have hrequest : ∀ result, (c.request result).recorder.own = c.recorder.own ∧
      (c.request result).player.own = c.player.own := by
    intro result
    unfold CardState.request
    constructor
    · dsimp only
      split_ifs
      · exact own_serverMessage
      · rfl
    · dsimp only
      split_ifs
      · exact own_serverMessage
      · rfl
  cases act with
  | recorder a =>
      unfold cardStep at hstep
      rw [Option.map_eq_some_iff] at hstep
      obtain ⟨recorder, -, rfl⟩ := hstep
      exact ⟨fun hother => absurd rfl (hother a), fun _ => rfl⟩
  | player a =>
      unfold cardStep at hstep
      rw [Option.map_eq_some_iff] at hstep
      obtain ⟨player, -, rfl⟩ := hstep
      exact ⟨fun _ => rfl, fun hother => absurd rfl (hother a)⟩
  | format =>
      cases hstep
      exact ⟨fun _ => (hrequest _).1, fun _ => (hrequest _).2⟩
  | unmount =>
      cases hstep
      exact ⟨fun _ => (hrequest _).1, fun _ => (hrequest _).2⟩
  | hotplug addr =>
      cases hstep
      exact ⟨fun _ => rfl, fun _ => rfl⟩
  | proc w =>
      cases hstep
      exact ⟨fun _ => rfl, fun _ => rfl⟩

/-- A careful step keeps the handshake. -/
theorem handshakeKept_step (h : CardInv c) (hstep : cardStep config c act = some c')
    (hcareful : HandshakeCareful c act) : HandshakeKept c act c' := by
  refine ⟨?_, ?_, ?_⟩
  · rintro w rfl hworking
    have hrecorder := (h.recorder (hasAnswered_of_working hworking)).idle
    have hplayer := (h.player (hasAnswered_of_working hworking)).idle
    exact ⟨List.length_eq_zero_iff.mp hrecorder, List.length_eq_zero_iff.mp hplayer⟩
  · intro hanswered
    by_cases hmine : ∃ a, act = .recorder a
    · obtain ⟨a, rfl⟩ := hmine
      unfold cardStep at hstep
      rw [Option.map_eq_some_iff] at hstep
      obtain ⟨recorder, hrec, rfl⟩ := hstep
      have hquiet := quiet_recorderStep (h.recorder hanswered) (hcareful.2 hanswered) hrec
      exact hquiet.idle.le.trans (Nat.zero_le _)
    · have hsame := (own_cardStep hstep).1 (fun a heq => hmine ⟨a, heq⟩)
      rw [hsame]
  · intro hanswered
    by_cases hmine : ∃ a, act = .player a
    · obtain ⟨a, rfl⟩ := hmine
      unfold cardStep at hstep
      rw [Option.map_eq_some_iff] at hstep
      obtain ⟨player, hplay, rfl⟩ := hstep
      have hquiet := quiet_playerStep (h.player hanswered) (hcareful.2 hanswered) hplay
      exact hquiet.idle.le.trans (Nat.zero_le _)
    · have hsame := (own_cardStep hstep).2 (fun a heq => hmine ⟨a, heq⟩)
      rw [hsame]

/-- The start, with the address that is built in and the stored mode of the recorder. -/
def cardInit (address : List Char) (enable : BitVec 8) : CardState where
  sd := { sdAddress := address }
  recorder := { own := { recorderEnable := enable } }

/-- Every step of a run whose steps are careful keeps the handshake. -/
theorem handshakeKept_of_careful (config : Manager.ManagerConfig) (address : List Char)
    (enable : BitVec 8) (as : List CardAction)
    (hcareful : AllSteps (cardStep config) (fun c a _ => HandshakeCareful c a)
      (cardInit address enable) as) :
    AllSteps (cardStep config) HandshakeKept (cardInit address enable) as := by
  have hnone : ∀ server, hasAnswered server (cardInit address enable).sd = false := by
    intro server
    simp [hasAnswered, working, cardInit, miscGetBit]
  have h0 : CardInv (cardInit address enable) := by
    constructor
    · intro hanswered
      rw [hnone] at hanswered
      cases hanswered
    · intro hanswered
      rw [hnone] at hanswered
      cases hanswered
  refine AllSteps.imp (I := CardInv) ?_ h0 hcareful
  intro c a c' hinv hstep hcareful
  exact ⟨cardInv_step hinv hstep hcareful, handshakeKept_step hinv hstep hcareful⟩

/-- The card is found and mounted, and the main threads of both servers begin. -/
def cardMounted : List CardAction :=
  [.proc cardThere, .proc cardThere, .recorder .start, .recorder (.main {}), .player .start,
    .player (.main {})]

/-- A pass of the recorder's main loop. -/
def recorderPass : List CardAction :=
  [.recorder (.main {}), .recorder (.main {}), .recorder (.main {})]

/-- A pass of the player's main loop. -/
def playerPass : List CardAction := [.player (.main {}), .player (.main {}), .player (.main {})]

/-- Each server handles the request and comes to the end of its wait. -/
def bothReinit : List CardAction :=
  recorderPass ++ [.recorder (.main {}), .recorder (.main {})] ++ playerPass ++
    [.player (.main {}), .player (.main {})]

/-- A format is asked for before there is a job; `sd_proc` formats the card and mounts it again. -/
theorem handshakeKept_format :
    AllSteps (cardStep Manager.managerConfig) HandshakeKept (cardInit "e624".toList 3#8)
      (cardMounted ++ [.format] ++ bothReinit ++
        [.proc cardThere, .proc cardThere, .proc cardThere]) := by
  apply handshakeKept_of_careful
  decide

/-! ### Broken handshakes -/

/-- A message of another server. -/
def fromServer (server : ServerType) (id : CInt) (argIn : MessageArg) : ServerAction :=
  .arrive { message := id, sender := server.toInt, argIn := argIn }

/-- The recorder is told that the card and the clock are ready, and starts its planned recording,
whose thread has not begun when the recorder answers. -/
def lateThread : List CardAction :=
  cardMounted ++
    [.recorder (fromServer .device (ackOf msgDeviceGetPara) { cat := deviceParamSdInfo, dog := 1#32 }),
      .recorder (fromServer .aliyun msgAliyunTimeSynchronized {})] ++
    recorderPass ++ recorderPass ++ recorderPass ++ recorderPass ++ recorderPass ++ [.format] ++
    bothReinit ++ [.proc cardThere, .recorder (.thread {})]

/-- The recorder, whose stored mode is off, answers; then it is told to record. -/
def toldToRecord : List CardAction :=
  cardMounted ++ [.format] ++ bothReinit ++
    [.recorder (.arrive { message := msgRecorderPropertySet, arg := some (intBytes 3#32),
                          argIn := { cat := Recorder.recorderPropertySwitch } }),
      .proc cardThere] ++
    recorderPass ++ [.recorder (.main {}), .recorder (.main {})]

/-- The card is formatted while a recording thread runs that began after the recorder's answer; and
the recorder starts a job after its answer, before the card is formatted. -/
theorem handshake_broken :
    (∃ c c', Reach (cardStep Manager.managerConfig) AllRuns (cardInit "e624".toList 3#8) c ∧
      cardStep Manager.managerConfig c (.proc cardThere) = some c' ∧
      (working c.sd = true ∧ c'.sd.sdCardStatus = .formatSuccess ∧
        c.recorder.own.threads.any (fun t => t.pc = .loop) = true)) ∧
    ∃ c c', Reach (cardStep Manager.managerConfig) AllRuns (cardInit "e624".toList 0#8) c ∧
      cardStep Manager.managerConfig c (.recorder (.main {})) = some c' ∧
      (hasAnswered .recorder c.sd = true ∧ working c.sd = true ∧ c.recorder.own.threads.length = 0 ∧
        c'.recorder.own.threads.length = 1) := by
  constructor
  · have hrun : (exec (cardStep Manager.managerConfig) (fun _ _ => true)
        (cardInit "e624".toList 3#8) lateThread).any
        (fun c => (cardStep Manager.managerConfig c (.proc cardThere)).any fun c' => decide
          (working c.sd = true ∧ c'.sd.sdCardStatus = .formatSuccess ∧
            c.recorder.own.threads.any (fun t => t.pc = .loop) = true)) = true := by
      decide
    exact Reach.exists_step_of_exec (fun s a _ => show AllRuns s a from trivial) hrun
  · have hrun : (exec (cardStep Manager.managerConfig) (fun _ _ => true)
        (cardInit "e624".toList 0#8) toldToRecord).any
        (fun c => (cardStep Manager.managerConfig c (.recorder (.main {}))).any fun c' => decide
          (hasAnswered .recorder c.sd = true ∧ working c.sd = true ∧
            c.recorder.own.threads.length = 0 ∧ c'.recorder.own.threads.length = 1)) = true := by
      decide
    exact Reach.exists_step_of_exec (fun s a _ => show AllRuns s a from trivial) hrun

end GokeWebcam.Device.Sd
