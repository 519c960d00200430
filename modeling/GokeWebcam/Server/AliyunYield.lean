import GokeWebcam.Lib.Transition
import GokeWebcam.Server.Aliyun

/-!
# The message that drives the cloud client

`aliyun_yield` gives the cloud client its time and posts `MSG_ALIYUN_YIELD` to the server's own
queue, the handling of which calls it again. `server_start` posts the first one.

`selfStep` is a step of the server whose messages to itself are pushed at once, as
`global_common_send_message` does; no other server sends `MSG_ALIYUN_YIELD`.

* `oneToken_of_kept`: in a run that takes no restart while a yield is queued, and pushes nothing into
  a full queue whose oldest entry is the yield, there is exactly one in `STATUS_RUN`.
* `token_doubled_and_lost`: a restart makes two of it, and fifteen messages in a row none.
-/

namespace GokeWebcam.Server.Aliyun

open Lib Common Global Manager

def isYield (msg : Message) : Bool := msg.message = msgAliyunYield

/-- The yields in the queue. -/
def tokens (s : State) : ℕ := s.message.contents.countP isYield

/-- In `STATUS_RUN` there is exactly one yield. -/
def OneToken (s : State) : Prop := s.info.status = .run → tokens s = 1

instance (s : State) : Decidable (OneToken s) := inferInstanceAs (Decidable (_ → _))

/-- The messages sent after the first `n` ones to the server itself are pushed.
Source: `global/common.c` `global_common_send_message` -/
def deliverSelf (n : ℕ) (s : State) : State :=
  ((s.out.drop n).filter fun sent => sent.1 = ServerType.aliyun.toInt).foldl
    (fun s sent => serverMessage sent.2 s) s

/-- A step of the server with its messages to itself. -/
def selfStep (config : ManagerConfig) (s : State) : ServerAction → Option State
  | .arrive msg => if isYield msg then none else server.step config s (.arrive msg)
  | a => (server.step config s a).map (deliverSelf s.out.length)

/-- The next push into the queue overwrites a yield. -/
def Endangered (s : State) : Prop :=
  msgBufferIsFull s.message = true ∧ ∃ msg ∈ s.message.contents.head?, isYield msg = true

instance (s : State) : Decidable (Endangered s) := inferInstanceAs (Decidable (_ ∧ _))

/-- No message arrives that overwrites a yield, and no restart is taken while there is one. -/
def TokenKept (s : State) : ServerAction → Prop
  | .arrive _ => ¬ Endangered s
  | .main _ => s.pc = .messageProc → ∀ msg ∈ nextMessage server s,
      msg.message = msgAliyunRestart → tokens s = 0
  | _ => True

instance : ∀ (s : State) (a : ServerAction), Decidable (TokenKept s a)
  | _, .arrive _ => inferInstanceAs (Decidable (¬ _))
  | _, .main _ => inferInstanceAs (Decidable (_ → _))
  | _, .thread _ => isTrue trivial
  | _, .start => isTrue trivial

variable {config : ManagerConfig} {input : ServerInput} {msg : Message} {s s' : State} {k n : ℕ}

/-! ### The queue -/

/-- The server's queue: one that overwrites its oldest entry, or a released one. -/
structure QueueOk (k : ℕ) (s : State) : Prop where
  ring : RingOk k (fun _ => True) s.message
  mode : s.message.init = true → s.message.overflow = .yes
  released : s.message.init = false → s.message.contents = []

/-- A message that is pushed comes last; it takes the place of the oldest one in a full queue. -/
theorem contents_push {buff : MessageBuffer} (h : buff.Wf k) (hmode : buff.overflow = .yes) :
    ∃ m, m.message = msg.message ∧ (msgBufferPush buff (some msg)).1.contents =
      (if msgBufferIsFull buff then buff.contents.tail else buff.contents) ++ [m] := by
  obtain ⟨hpush, -⟩ := represents_push (m := msg) (represents_self h)
  refine ⟨MessageQueue.stamp ⟨buff.contents, buff.sequence⟩ msg, rfl, ?_⟩
  have hcontents := hpush.contents_eq
  rw [hmode] at hcontents
  simp only [MessageQueue.step, MsgBufferOverflow.overwrites, decide_true, if_true] at hcontents
  rw [hcontents]
  by_cases hroom : buff.contents.length < 2 ^ k - 1
  · rw [if_pos hroom, if_neg (by rw [h.msgBufferIsFull_iff]; exact not_not.mpr hroom)]
  · rw [if_neg hroom, if_pos (h.msgBufferIsFull_iff.mpr hroom)]

theorem overflow_push {buff : MessageBuffer} :
    (msgBufferPush buff (some msg)).1.overflow = buff.overflow := by
  rw [msgBufferPush]
  split_ifs <;> rfl

theorem QueueOk.congr (h : QueueOk k s) (hmessage : s'.message = s.message) : QueueOk k s' := by
  obtain ⟨hring, hmode, hreleased⟩ := h
  rw [← hmessage] at hring hmode hreleased
  exact ⟨hring, hmode, hreleased⟩

theorem QueueOk.serverMessage (h : QueueOk k s) : QueueOk k (serverMessage msg s) := by
  rw [Server.serverMessage]
  split_ifs with hinit
  · refine ⟨h.ring.push (fun _ _ _ => trivial) hinit trivial, fun _ => ?_, fun hnot => ?_⟩
    · exact overflow_push.trans (h.mode hinit)
    · exact absurd (hinit.symm.trans (init_msgBufferPush.symm.trans hnot)) (by decide)
  · exact h

theorem QueueOk.boot (h1 : 1 ≤ k) (hsize : (config.queueSize .aliyun).toNat = 2 ^ k)
    (hmode : config.msgOverrun = .yes) : QueueOk k (serverBoot server config s) where
  ring := RingOk.init h1 hsize
  mode _ := hmode
  released := by rintro ⟨⟩

theorem QueueOk.release (hmessage : s'.message = msgBufferRelease s.message) : QueueOk k s' where
  ring := by
    rw [hmessage]
    exact .release
  mode hinit := by
    rw [hmessage] at hinit
    cases hinit
  released _ := by
    rw [hmessage]
    simp [MessageBuffer.contents, msgBufferRelease, Ring.contents, Ring.len]

theorem tokens_congr (hmessage : s'.message = s.message) : tokens s' = tokens s := by
  rw [tokens, tokens, hmessage]

/-- A queue that is not initialised holds no yield. -/
theorem QueueOk.tokens_eq_zero (h : QueueOk k s) (hinit : s.message.init = false) :
    tokens s = 0 := by
  rw [tokens, h.released hinit]
  rfl

/-- Without yields, none is in danger. -/
theorem not_endangered (h : tokens s = 0) : ¬ Endangered s := by
  rintro ⟨-, m, hm, hyield⟩
  rw [tokens, List.countP_eq_zero] at h
  exact h m (List.mem_of_head? hm) hyield

/-- A push that does not overwrite a yield adds one if it is one. -/
theorem tokens_serverMessage (h : QueueOk k s) (hinit : s.message.init = true)
    (hkept : ¬ Endangered s) :
    tokens (serverMessage msg s) = tokens s + if isYield msg then 1 else 0 := by
  obtain ⟨m, hm, hcontents⟩ := @contents_push msg k _ (h.ring.wf hinit) (h.mode hinit)
  have hyield : isYield m = isYield msg := by rw [isYield, isYield, hm]
  have htail : (if msgBufferIsFull s.message then s.message.contents.tail
      else s.message.contents).countP isYield = tokens s := by
    split_ifs with hfull
    · rw [tokens]
      rcases hc : s.message.contents with _ | ⟨oldest, ms⟩
      · rfl
      · rw [List.tail_cons, List.countP_cons_of_neg]
        intro hold
        exact hkept ⟨hfull, oldest, by rw [hc]; rfl, hold⟩
    · rfl
  rw [serverMessage, if_pos hinit, tokens, hcontents, List.countP_append, htail,
    List.countP_singleton, hyield]

/-- What a pass of the message loop takes out of the queue, which then has room. -/
theorem tokens_popped (h : QueueOk k s) :
    QueueOk k (s.popped s.message) ∧
      (((msgBufferPop s.message).2 = none ∧ tokens (s.popped s.message) = tokens s) ∨
        ∃ msg, (msgBufferPop s.message).2 = some msg ∧ s.message.init = true ∧
          ¬ Endangered (s.popped s.message) ∧
          tokens s = tokens (s.popped s.message) + if isYield msg then 1 else 0) := by
  have hring := h.ring.pop.1
  rcases hinit : s.message.init with _ | _
  · have hpop : msgBufferPop s.message = (s.message, none) := by
      rw [msgBufferPop, if_pos (h.ring.empty hinit)]
    have hsame : (s.popped s.message).message = s.message := by
      rw [ServerState.popped, hpop]
    exact ⟨h.congr hsame, .inl ⟨by rw [hpop], tokens_congr hsame⟩⟩
  · have hwf := h.ring.wf hinit
    obtain ⟨hrep, hhead⟩ := represents_pop (represents_self hwf)
    have hcontents : (s.popped s.message).message.contents = s.message.contents.tail :=
      hrep.contents_eq
    have hmode : (s.popped s.message).message.overflow = .yes :=
      hrep.overflow_eq.trans (h.mode hinit)
    have hinit' : (s.popped s.message).message.init = true := init_msgBufferPop.trans hinit
    refine ⟨⟨hring, fun _ => hmode, fun hnot => ?_⟩, ?_⟩
    · rw [hinit'] at hnot
      cases hnot
    rcases hc : s.message.contents with _ | ⟨msg, ms⟩
    · rw [hc] at hhead hcontents
      exact .inl ⟨hhead, by rw [tokens, tokens, hcontents, hc]; rfl⟩
    · rw [hc] at hhead hcontents
      refine .inr ⟨msg, hhead, rfl, fun hend => ?_, ?_⟩
      · have hwf' : (s.popped s.message).message.Wf k := hring.wf hinit'
        have hlt := hwf.length_contents_lt
        rw [hc, List.length_cons] at hlt
        refine hwf'.msgBufferIsFull_iff.mp hend.1 ?_
        rw [hcontents, List.tail_cons]
        omega
      · rw [tokens, tokens, hcontents, hc, List.tail_cons, List.countP_cons]

/-- A step that sends nothing to the server itself. -/
theorem deliverSelf_of_none {sent : List (CInt × Message)} (hout : s'.out = s.out ++ sent)
    (hnone : ∀ m ∈ sent, m.1 ≠ ServerType.aliyun.toInt) : deliverSelf s.out.length s' = s' := by
  have hfilter : (sent.filter fun m => m.1 = ServerType.aliyun.toInt) = [] := by
    rw [List.filter_eq_nil_iff]
    exact fun m hm => by simpa using hnone m hm
  rw [deliverSelf, hout, List.drop_left, hfilter, List.foldl_nil]

theorem deliverSelf_of_same (hout : s'.out = s.out) : deliverSelf s.out.length s' = s' := by
  rw [deliverSelf, hout, List.drop_length]
  rfl

/-- A step that sends one message to the server itself. -/
theorem deliverSelf_of_one (hout : s'.out = s.out ++ [(ServerType.aliyun.toInt, msg)]) :
    deliverSelf s.out.length s' = serverMessage msg s' := by
  rw [deliverSelf, hout, List.drop_left]
  rfl

@[simp] theorem info_serverMessage : (serverMessage msg s).info = s.info := by
  rw [serverMessage]
  split_ifs <;> rfl

@[simp] theorem pc_serverMessage : (serverMessage msg s).pc = s.pc := by
  rw [serverMessage]
  split_ifs <;> rfl

/-! ### The invariant -/

/-- The queue is not there yet, or not any more. -/
def Gone (s : State) : Prop :=
  s.info.status = .exitFinish ∨ s.info.exit = true ∨ s.pc = .stopped ∨ s.pc = .boot

/-- Before `STATUS_RUN` there is no yield, in it there is one. -/
structure TokenInv (k : ℕ) (s : State) : Prop where
  queue : QueueOk k s
  lock : s.info.msgLock = false
  before : s.info.status.toNat < ServerStatus.run.toNat → tokens s = 0
  run : OneToken s
  gone : s.message.init = false ↔ Gone s
  fresh : s.pc = .stopped ∨ s.pc = .boot → s.info.status = .none ∧ s.info.exit = false

theorem tokenInv_start {own : Statics} : TokenInv k { own := own } where
  queue := ⟨⟨by rintro ⟨⟩, by rintro ⟨⟩, fun _ => rfl⟩, by rintro ⟨⟩, fun _ => rfl⟩
  lock := rfl
  before _ := rfl
  run := by rintro ⟨⟩
  gone := iff_of_true rfl (.inr (.inr (.inl rfl)))
  fresh _ := ⟨rfl, rfl⟩

/-- A step that leaves the queue alone. -/
theorem TokenInv.keep (h : TokenInv k s) (hmessage : s'.message = s.message)
    (hlock : s'.info.msgLock = false)
    (hbefore : s'.info.status.toNat < ServerStatus.run.toNat →
      s.info.status.toNat < ServerStatus.run.toNat ∨ tokens s = 0)
    (hrun : s'.info.status = .run → s.info.status = .run) (hgone : Gone s' ↔ Gone s)
    (hfresh : s'.pc = .stopped ∨ s'.pc = .boot → s'.info.status = .none ∧ s'.info.exit = false) :
    TokenInv k s' where
  queue := h.queue.congr hmessage
  lock := hlock
  before hlt := by
    rw [tokens_congr hmessage]
    exact (hbefore hlt).elim h.before id
  run hstatus := by
    rw [tokens_congr hmessage]
    exact h.run (hrun hstatus)
  gone := by rw [hmessage, h.gone, hgone]
  fresh := hfresh

/-- Another message is pushed. -/
theorem TokenInv.push (h : TokenInv k s) (hkept : ¬ Endangered s) (hother : isYield msg = false) :
    TokenInv k (serverMessage msg s) := by
  have htokens : tokens (serverMessage msg s) = tokens s := by
    rcases hinit : s.message.init with _ | _
    · rw [serverMessage, if_neg (by rw [hinit]; decide)]
    · rw [tokens_serverMessage h.queue hinit hkept, hother]
      rfl
  have hinit : (serverMessage msg s).message.init = s.message.init := by
    rw [serverMessage]
    split_ifs
    · exact init_msgBufferPush
    · rfl
  refine ⟨h.queue.serverMessage, ?_, ?_, ?_, ?_, ?_⟩
  · rw [info_serverMessage]
    exact h.lock
  · rw [info_serverMessage, htokens]
    exact h.before
  · rw [OneToken, info_serverMessage, htokens]
    exact h.run
  · rw [hinit, h.gone, Gone, Gone, info_serverMessage, pc_serverMessage]
  · rw [info_serverMessage, pc_serverMessage]
    exact h.fresh

/-- Inside the loop there is nothing to show about the start. -/
theorem fresh_of_pc {pc : ServerPc} {P : Prop}
    (hpc : pc = .taskProc ∨ pc = .messageProc ∨ pc = .stateMachine) :
    pc = .stopped ∨ pc = .boot → P := by
  rcases hpc with rfl | rfl | rfl
  all_goals
    rintro (hpc | hpc)
    all_goals cases hpc

/-- The running server, between two functions of its loop. -/
structure Looping (s : State) : Prop where
  stopped : s.pc ≠ .stopped
  boot : s.pc ≠ .boot
  exit : s.info.exit = false

theorem Looping.of_pc (hpc : s.pc = .taskProc ∨ s.pc = .messageProc ∨ s.pc = .stateMachine)
    (hexit : s.info.exit = false) : Looping s :=
  ⟨fun hstopped => fresh_of_pc hpc (.inl hstopped), fun hboot => fresh_of_pc hpc (.inr hboot), hexit⟩

theorem Looping.gone_iff (h : Looping s) : Gone s ↔ s.info.status = .exitFinish := by
  rw [Gone]
  simp [h.stopped, h.boot, h.exit]

/-- Only the status changes, and `EXIT_FINISH` is neither entered nor left. -/
theorem TokenInv.status (h : TokenInv k s) (hs : Looping s) (hs' : Looping s')
    (hmessage : s'.message = s.message) (hlock : s'.info.msgLock = false)
    (hbefore : s'.info.status.toNat < ServerStatus.run.toNat →
      s.info.status.toNat < ServerStatus.run.toNat ∨ tokens s = 0)
    (hrun : s'.info.status = .run → s.info.status = .run)
    (hfinish : s'.info.status = .exitFinish ↔ s.info.status = .exitFinish) : TokenInv k s' :=
  h.keep hmessage hlock hbefore hrun (by rw [hs.gone_iff, hs'.gone_iff, hfinish])
    fun hpc => hpc.elim (fun hp => absurd hp hs'.stopped) fun hp => absurd hp hs'.boot

/-! ### The state machine -/

theorem msg_ne_yield {id : CInt} {argIn : MessageArg} (hid : id ≠ msgAliyunYield) :
    isYield { serverMsg .aliyun id with argIn := argIn } = false := decide_eq_false hid

/-- A yield is pushed; in `STATUS_RUN` there was none. -/
theorem tokenInv_pushYield (hqueue : QueueOk k s) (hlock : s.info.msgLock = false)
    (hup : s.message.init = true) (hkept : ¬ Endangered s)
    (hzero : s.info.status = .run → tokens s = 0) (hloop : Looping s)
    (hstatus : ServerStatus.run.toNat ≤ s.info.status.toNat)
    (hfinish : s.info.status ≠ .exitFinish) (hyield : isYield msg = true) :
    TokenInv k (serverMessage msg s) := by
  have hinit : (serverMessage msg s).message.init = true := by
    rw [serverMessage, if_pos hup, init_msgBufferPush, hup]
  refine ⟨hqueue.serverMessage, ?_, ?_, ?_, ?_, ?_⟩
  · rw [info_serverMessage]
    exact hlock
  · rw [info_serverMessage]
    exact fun hlt => absurd hlt hstatus.not_gt
  · rw [OneToken, info_serverMessage, tokens_serverMessage hqueue hup hkept, hyield]
    exact fun hrun => congrArg (· + 1) (hzero hrun)
  · rw [hinit, Gone, info_serverMessage, pc_serverMessage, hloop.exit]
    simp [hfinish, hloop.stopped, hloop.boot]
  · rw [pc_serverMessage]
    exact fun hpc => hpc.elim (fun hp => absurd hp hloop.stopped) fun hp => absurd hp hloop.boot

/-- A pass of the state machine that sends nothing. -/
theorem tokenInv_afterStates (hout : s'.out = s.out) (hpc : s'.pc = .stateMachine)
    (h : TokenInv k { s' with pc := .taskProc }) :
    TokenInv k (deliverSelf s.out.length (afterStates s')) := by
  have hsame : (afterStates s').out = s.out := by
    rw [afterStates, if_pos hpc]
    exact hout
  rw [deliverSelf_of_same hsame, afterStates, if_pos hpc]
  exact h

/-- A pass of the state machine before `STATUS_RUN` that pushes nothing, or another message. -/
theorem tokenInv_before (h : TokenInv k s) (hpc : s.pc = .stateMachine) (hexit : s.info.exit = false)
    (hbefore : s.info.status.toNat < ServerStatus.run.toNat) (hmessage : s'.message = s.message)
    (hpc' : s'.pc = .stateMachine) (hlock : s'.info.msgLock = false)
    (hexit' : s'.info.exit = false) (hbefore' : s'.info.status.toNat < ServerStatus.run.toNat)
    (hout : s'.out = s.out ∨ ∃ id argIn, id ≠ msgAliyunYield ∧
      s'.out = s.out ++ [(ServerType.aliyun.toInt, { serverMsg .aliyun id with argIn := argIn })]) :
    TokenInv k (deliverSelf s.out.length (afterStates s')) := by
  have hfinish : ∀ status : ServerStatus, status.toNat < ServerStatus.run.toNat →
      status ≠ .exitFinish := by
    rintro _ hlt rfl
    exact absurd hlt (by decide)
  have hafter : TokenInv k (afterStates s') := by
    rw [afterStates, if_pos hpc']
    refine h.status (.of_pc (.inr (.inr hpc)) hexit) (.of_pc (.inl rfl) hexit') hmessage
      hlock (fun _ => .inl hbefore) (fun hrun => ?_)
      (iff_of_false (hfinish _ hbefore') (hfinish _ hbefore))
    rw [show s'.info.status = _ from hrun] at hbefore'
    exact absurd hbefore' (by decide)
  have hsame : (afterStates s').out = s'.out := by
    rw [afterStates, if_pos hpc']
  rcases hout with hout | ⟨id, argIn, hid, hout⟩
  · rw [deliverSelf_of_same (hsame.trans hout)]
    exact hafter
  · rw [deliverSelf_of_one (hsame.trans hout)]
    refine hafter.push (not_endangered ?_) (msg_ne_yield hid)
    refine hafter.before ?_
    rw [afterStates, if_pos hpc']
    exact hbefore'

/-- The states before `STATUS_RUN` push other messages; the last one pushes the yield. -/
theorem tokenInv_states (h : TokenInv k s) (hpc : s.pc = .stateMachine) (hexit : s.info.exit = false)
    (hstates : states input s = some s') :
    TokenInv k (deliverSelf s.out.length (afterStates s')) := by
  have hwait : ServerStatus.wait.toNat < ServerStatus.run.toNat := by decide
  have hidle : ServerStatus.idle.toNat < ServerStatus.run.toNat := by decide
  have hsetup : ServerStatus.setup.toNat < ServerStatus.run.toNat := by decide
  rw [states] at hstates
  split at hstates
  case h_1 hstatus =>
    cases hstates
    have hlt : s.info.status.toNat < ServerStatus.run.toNat := by
      rw [hstatus]
      decide
    rw [serverInit]
    split_ifs
    · exact tokenInv_before h hpc hexit hlt rfl hpc h.lock hexit hwait (.inl rfl)
    · exact tokenInv_before h hpc hexit hlt rfl hpc h.lock hexit hlt (.inl rfl)
  case h_2 hstatus =>
    cases hstates
    have hlt : s.info.status.toNat < ServerStatus.run.toNat := by
      rw [hstatus]
      decide
    rw [serverSetup, wifiInit]
    split_ifs
    · exact tokenInv_before h hpc hexit hlt rfl hpc h.lock hexit hidle (.inl rfl)
    · exact tokenInv_before h hpc hexit hlt rfl hpc h.lock hexit hidle
        (.inr ⟨_, _, by decide, rfl⟩)
    · exact tokenInv_before h hpc hexit hlt rfl hpc h.lock hexit hidle (.inl rfl)
    · exact tokenInv_before h hpc hexit hlt rfl hpc h.lock hexit hwait (.inl rfl)
  case h_3 hstatus =>
    cases hstates
    have hlt : s.info.status.toNat < ServerStatus.run.toNat := by
      rw [hstatus]
      decide
    rw [serverStart]
    split_ifs
    · -- the first yield comes into a queue without any
      have hloop : Looping s := .of_pc (.inr (.inr hpc)) hexit
      have hup : s.message.init = true := by
        rw [← Bool.not_eq_false, h.gone, hloop.gone_iff, hstatus]
        rintro ⟨⟩
      have hzero : tokens s = 0 := h.before hlt
      have hafter : afterStates (aliyunYield (s.setStatus .run)) =
          { aliyunYield (s.setStatus .run) with pc := .taskProc } := if_pos hpc
      rw [hafter, deliverSelf_of_one (s := s) rfl]
      exact tokenInv_pushYield (h.queue.congr rfl) h.lock hup (not_endangered hzero)
        (fun _ => hzero) (.of_pc (.inl rfl) hexit) le_rfl (by rintro ⟨⟩) rfl
    · exact tokenInv_before h hpc hexit hlt rfl hpc h.lock hexit hsetup (.inl rfl)
    · exact tokenInv_before h hpc hexit hlt rfl hpc h.lock hexit hlt (.inr ⟨_, _, by decide, rfl⟩)
  case h_4 => cases hstates
  case h_5 =>
    cases hstates
    refine tokenInv_afterStates rfl hpc ?_
    exact h.status (.of_pc (.inr (.inr hpc)) hexit) (.of_pc (.inl rfl) hexit) rfl h.lock .inl
      id Iff.rfl

/-- In the exit states nothing is pushed; the last ones release the queue. -/
theorem tokenInv_stateMachine (h : TokenInv k s) (hpc : s.pc = .stateMachine)
    (hexit : s.info.exit = false) (hs : stateMachine server input s = some s') :
    TokenInv k (deliverSelf s.out.length (afterStates s')) := by
  have hloop : Looping s := .of_pc (.inr (.inr hpc)) hexit
  -- a pass from a state to an exit state, neither of them `EXIT_FINISH`
  have exitState : ∀ s₁ : State, s₁.message = s.message → s₁.out = s.out → s₁.pc = .stateMachine →
      s₁.info.msgLock = false → s₁.info.exit = false → s.info.status ≠ .exitFinish →
      s₁.info.status ≠ .exitFinish → s₁.info.status.isExit = true →
      TokenInv k (deliverSelf s.out.length (afterStates s₁)) := by
    intro s₁ hmessage hout hpc₁ hlock hexit₁ hfinish hfinish₁ hlate
    refine tokenInv_afterStates hout hpc₁ ?_
    refine h.status hloop (.of_pc (.inl rfl) hexit₁) hmessage hlock (fun hlt => ?_) (fun hrun => ?_)
      (iff_of_false hfinish₁ hfinish)
    · have hle : 1000 ≤ s₁.info.status.toNat := of_decide_eq_true hlate
      exact absurd (hlt.trans_le (show ServerStatus.run.toNat ≤ 1000 by decide)) hle.not_gt
    · rw [show s₁.info.status = _ from hrun] at hlate
      cases hlate
  rw [stateMachine] at hs
  split at hs
  case h_1 hstatus =>
    cases hs
    exact exitState _ rfl rfl hpc rfl hexit (by rw [hstatus]; rintro ⟨⟩) (by rintro ⟨⟩) rfl
  case h_2 hstatus =>
    cases hs
    exact exitState _ rfl rfl hpc h.lock hexit (by rw [hstatus]; rintro ⟨⟩) (by rintro ⟨⟩) rfl
  case h_3 hstatus =>
    cases hs
    split_ifs
    · exact exitState _ rfl rfl hpc h.lock hexit (by rw [hstatus]; rintro ⟨⟩) (by rintro ⟨⟩) rfl
    · exact exitState _ rfl rfl hpc h.lock hexit (by rw [hstatus]; rintro ⟨⟩) (by rw [hstatus]; rintro ⟨⟩)
        (by rw [hstatus]; rfl)
  case h_4 hstatus =>
    cases hs
    exact exitState _ rfl rfl hpc h.lock hexit (by rw [hstatus]; rintro ⟨⟩) (by rintro ⟨⟩) rfl
  case h_5 hstatus =>
    cases hs
    split_ifs
    · exact exitState _ rfl rfl hpc h.lock hexit (by rw [hstatus]; rintro ⟨⟩) (by rintro ⟨⟩) rfl
    · have hfinish : s.info.status ≠ .exitFinish := by
        rw [hstatus]
        rintro ⟨⟩
      have hlate : s.info.status.isExit = true := by
        rw [hstatus]
        rfl
      exact exitState _ rfl rfl hpc h.lock hexit hfinish hfinish hlate
  case h_6 =>
    cases hs
    have hnot : ¬ ServerStatus.exitFinish.toNat < ServerStatus.run.toNat := by decide
    refine tokenInv_afterStates rfl hpc ?_
    exact ⟨.release (s := s) rfl, h.lock, fun hlt => absurd hlt hnot, by rintro ⟨⟩,
      iff_of_true rfl (.inl rfl), fresh_of_pc (.inl rfl)⟩
  case h_7 hstatus =>
    cases hs
    have hinit : s.message.init = false := h.gone.mpr (.inl hstatus)
    refine tokenInv_afterStates rfl hpc ?_
    exact ⟨h.queue.congr rfl, h.lock, fun _ => h.queue.tokens_eq_zero hinit, by rintro ⟨⟩,
      iff_of_true hinit (.inr (.inl rfl)), fresh_of_pc (.inl rfl)⟩
  case h_8 => exact tokenInv_states h hpc hexit hs

/-! ### Messages -/

/-- A step that sends nothing. -/
theorem TokenInv.silent (h : TokenInv k s') (hout : s'.out = s.out) :
    TokenInv k (deliverSelf s.out.length s') := by
  rw [deliverSelf_of_same hout]
  exact h

/-- A step that sends another message to someone. -/
theorem TokenInv.posted {receiver : CInt} (h : TokenInv k s')
    (hout : s'.out = s.out ++ [(receiver, msg)]) (hroom : ¬ Endangered s')
    (hother : isYield msg = false) : TokenInv k (deliverSelf s.out.length s') := by
  by_cases hself : receiver = ServerType.aliyun.toInt
  · rw [hself] at hout
    rw [deliverSelf_of_one hout]
    exact h.push hroom hother
  · have hnone : ∀ m ∈ [(receiver, msg)], m.1 ≠ ServerType.aliyun.toInt := fun m hm => by
      rw [List.mem_singleton.mp hm]
      exact hself
    rw [deliverSelf_of_none hout hnone]
    exact h

theorem isYield_getTimeSyncAck : isYield (getTimeSyncAck s) = false :=
  decide_eq_false (show ackOf msgAliyunGetTimeSync ≠ msgAliyunYield by decide)

/-- A message other than a yield that has been taken. -/
theorem tokenInv_handle (h : TokenInv k s) (hloop : Looping s) (hroom : ¬ Endangered s)
    (hother : isYield msg = false) (hrestart : msg.message = msgAliyunRestart → tokens s = 0)
    (hfinish : s.info.status ≠ .exitFinish) (hs : handle input msg s = some s') :
    TokenInv k (deliverSelf s.out.length { s' with pc := .stateMachine }) := by
  -- only the status changes, if at all
  have same : ∀ s₁ : State, s₁.message = s.message → s₁.info = s.info → s₁.pc = .stateMachine →
      TokenInv k s₁ := by
    intro s₁ hmessage hinfo hpc₁
    refine h.status hloop (.of_pc (.inr (.inr hpc₁)) ?_) hmessage ?_ ?_ ?_ ?_
    · rw [hinfo]
      exact hloop.exit
    · rw [hinfo]
      exact h.lock
    · rw [hinfo]
      exact .inl
    · rw [hinfo]
      exact id
    · rw [hinfo]
  rw [handle] at hs
  split_ifs at hs with hconnect hidle hqrcode hrestarts hyield hsync hget
  · cases hs
    refine TokenInv.silent ?_ rfl
    refine h.status hloop (.of_pc (.inr (.inr rfl)) hloop.exit) rfl h.lock (fun _ => .inl ?_)
      (by rintro ⟨⟩) (iff_of_false (by rintro ⟨⟩) hfinish)
    rw [hidle]
    decide
  · cases hs
    refine TokenInv.silent ?_ rfl
    exact same _ rfl rfl rfl
  · cases hs
    rw [getQrcodeCallback]
    split_ifs
    · refine TokenInv.posted ?_ rfl hroom (msg_ne_yield (by decide))
      exact same _ rfl rfl rfl
    · refine TokenInv.silent ?_ rfl
      exact same _ rfl rfl rfl
  · cases hs
    refine TokenInv.silent ?_ rfl
    exact h.status hloop (.of_pc (.inr (.inr rfl)) hloop.exit) rfl h.lock
      (fun _ => .inr (hrestart hrestarts)) (by rintro ⟨⟩) (iff_of_false (by rintro ⟨⟩) hfinish)
  · exact absurd hyield (of_decide_eq_false hother)
  · cases hs
    refine TokenInv.silent ?_ rfl
    exact same _ rfl rfl rfl
  · cases hs
    refine TokenInv.posted ?_ rfl hroom isYield_getTimeSyncAck
    exact same _ rfl rfl rfl
  · cases hs
    refine TokenInv.silent ?_ rfl
    exact same _ rfl rfl rfl

/-- The yield is taken, and posted again. -/
theorem tokenInv_yield (h : TokenInv k s) (hloop : Looping s) (hup : s.message.init = true)
    (hqueue : QueueOk k (s.popped s.message)) (hroom : ¬ Endangered (s.popped s.message))
    (htokens : tokens s = tokens (s.popped s.message) + 1)
    (hfinish : s.info.status ≠ .exitFinish) :
    TokenInv k (deliverSelf s.out.length
      { aliyunYield (s.popped s.message) with pc := .stateMachine }) := by
  have hlate : ServerStatus.run.toNat ≤ s.info.status.toNat := by
    by_contra hlt
    have hzero := h.before (not_le.mp hlt)
    omega
  have hlast : s.info.status = .run → tokens (s.popped s.message) = 0 := fun hrun => by
    have hone := h.run hrun
    omega
  rw [deliverSelf_of_one (s := s) rfl]
  exact tokenInv_pushYield (hqueue.congr rfl) h.lock (init_msgBufferPop.trans hup) hroom hlast
    (.of_pc (.inr (.inr rfl)) hloop.exit) hlate hfinish rfl

/-- A message other than a yield that is taken. -/
theorem tokenInv_handleMessage (h : TokenInv k s) (hloop : Looping s) (hroom : ¬ Endangered s)
    (hother : isYield msg = false) (hrestart : msg.message = msgAliyunRestart → tokens s = 0)
    (hfinish : s.info.status ≠ .exitFinish) (hs : handleMessage server input msg s = some s') :
    TokenInv k (deliverSelf s.out.length { s' with pc := .stateMachine }) := by
  rw [handleMessage] at hs
  split_ifs at hs
  · cases hs
    refine TokenInv.silent ?_ rfl
    refine h.status hloop (.of_pc (.inr (.inr rfl)) hloop.exit) rfl rfl (fun hlt => ?_)
      (by rintro ⟨⟩) (iff_of_false (by rintro ⟨⟩) hfinish)
    exact absurd hlt (show ¬ ServerStatus.exitInit.toNat < ServerStatus.run.toNat by decide)
  · cases hs
    refine TokenInv.silent ?_ rfl
    exact h.status hloop (.of_pc (.inr (.inr rfl)) hloop.exit) rfl h.lock .inl id Iff.rfl
  · obtain ⟨handler, -, hhandler⟩ := Option.bind_eq_some_iff.mp hs
    cases hhandler
    refine TokenInv.silent ?_ rfl
    exact h.status hloop (.of_pc (.inr (.inr rfl)) hloop.exit) rfl h.lock .inl id Iff.rfl
  · exact tokenInv_handle h hloop hroom hother hrestart hfinish hs

/-- The queue after a pop, where no yield is lost before the exit states. -/
theorem TokenInv.popped (h : TokenInv k s) (hqueue : QueueOk k (s.popped s.message))
    (hle : tokens (s.popped s.message) ≤ tokens s)
    (hsame : s.info.status = .run → tokens (s.popped s.message) = tokens s) :
    TokenInv k (s.popped s.message) where
  queue := hqueue
  lock := h.lock
  before hlt := Nat.le_zero.mp (hle.trans_eq (h.before hlt))
  run hrun := (hsame hrun).trans (h.run hrun)
  gone := by
    rw [ServerState.popped, init_msgBufferPop]
    exact h.gone
  fresh := h.fresh

/-- A message is there only before the server ends. -/
theorem TokenInv.looping (h : TokenInv k s) (hup : s.message.init = true)
    (hpc : s.pc = .messageProc) : s.info.status ≠ .exitFinish ∧ Looping s := by
  have hnot : ¬ Gone s := fun hgone => by
    rw [h.gone.mpr hgone] at hup
    cases hup
  refine ⟨fun hstatus => hnot (.inl hstatus), by rw [hpc]; rintro ⟨⟩, by rw [hpc]; rintro ⟨⟩, ?_⟩
  exact Bool.eq_false_iff.mpr fun hexit => hnot (.inr (.inl hexit))

/-- The end of a pass that changes nothing else. -/
theorem TokenInv.passed (h : TokenInv k s') (hpc : s'.pc = .messageProc) (hout : s'.out = s.out) :
    TokenInv k (deliverSelf s.out.length { s' with pc := .stateMachine }) := by
  refine TokenInv.silent ?_ hout
  refine h.keep rfl h.lock .inl id ?_ (fresh_of_pc (.inr (.inr rfl)))
  rw [Gone, Gone, hpc]
  simp

/-- A pass of the message loop. -/
theorem tokenInv_serverMessageProc (h : TokenInv k s) (hpc : s.pc = .messageProc)
    (hkept : ∀ msg ∈ nextMessage server s, msg.message = msgAliyunRestart → tokens s = 0)
    (hs : serverMessageProc server input s = some s') :
    TokenInv k (deliverSelf s.out.length { s' with pc := .stateMachine }) := by
  have hsource : messageSource server s = some s.message := by
    rw [messageSource, if_neg (by rw [h.lock]; decide)]
  obtain ⟨hqueue, hpop⟩ := tokens_popped h.queue
  rcases serverMessageProc_cases hs with ⟨hnone, -⟩ | ⟨buff, hbuff, hcases⟩
  · rw [hsource] at hnone
    cases hnone
  rw [hsource] at hbuff
  cases hbuff
  rcases hpop with ⟨hnone, hsame⟩ | ⟨msg, hmsg, hup, hroom, htokens⟩
  · -- the queue is empty
    rcases hcases with ⟨-, rfl⟩ | ⟨msg, hmsg, -⟩
    · exact (h.popped hqueue hsame.le fun _ => hsame).passed hpc rfl
    · rw [hnone] at hmsg
      cases hmsg
  rcases hcases with ⟨hnone, -⟩ | ⟨msg', hmsg', hcases⟩
  · rw [hnone] at hmsg
    cases hmsg
  rw [hmsg] at hmsg'
  cases hmsg'
  have hle : tokens (s.popped s.message) ≤ tokens s := htokens.symm ▸ Nat.le_add_right _ _
  obtain ⟨hfinish, hloop⟩ := h.looping hup hpc
  rcases hcases with ⟨hfilter, rfl⟩ | ⟨-, hhandle⟩
  · -- messages are dropped in the exit states only
    refine (h.popped hqueue hle fun hrun => ?_).passed hpc rfl
    rw [messageFilter, show s.info.status = _ from hrun] at hfilter
    cases hfilter
  rcases hyield : isYield msg with _ | _
  · rw [hyield] at htokens
    have hsame : tokens (s.popped s.message) = tokens s := htokens.symm
    have hnext : nextMessage server s = some msg := by
      rw [nextMessage, hsource]
      exact hmsg
    have hpass := tokenInv_handleMessage (h.popped hqueue hle fun _ => hsame)
      ⟨hloop.stopped, hloop.boot, hloop.exit⟩ hroom hyield
      (fun hrestart => hsame.trans (hkept msg hnext hrestart)) hfinish hhandle
    exact hpass
  · rw [hyield] at htokens
    have hid : msg.message = msgAliyunYield := of_decide_eq_true hyield
    rw [handleMessage, hid, if_neg (by decide), if_neg (by decide), if_neg (by decide)] at hhandle
    have hself : s' = aliyunYield (s.popped s.message) := by
      have hhandle' : handle input msg (s.popped s.message) = some s' := hhandle
      rw [handle, hid, if_neg (by decide), if_neg (by decide), if_neg (by decide),
        if_pos rfl] at hhandle'
      exact (Option.some.inj hhandle').symm
    rw [hself]
    exact tokenInv_yield h hloop hup hqueue hroom htokens hfinish

/-- `task_proc` leads from the first state to the next, and from the third. -/
theorem tokenInv_taskProc (h : TokenInv k s) (hpc : s.pc = .taskProc) :
    TokenInv k (deliverSelf s.out.length { taskProc s with pc := .messageProc }) := by
  -- both states come before `STATUS_RUN`
  have early : ∀ status : ServerStatus, s.info.status.toNat < ServerStatus.run.toNat →
      status.toNat < ServerStatus.run.toNat →
      TokenInv k { s.setStatus status with pc := .messageProc } := by
    intro status hold hnew
    refine h.keep rfl h.lock (fun _ => .inl hold) (fun hrun => ?_) ?_ (fresh_of_pc (.inr (.inl rfl)))
    · rw [show status = _ from hrun] at hnew
      exact absurd hnew (by decide)
    · have hne : ∀ status : ServerStatus, status.toNat < ServerStatus.run.toNat →
          status ≠ .exitFinish := by
        rintro _ hlt rfl
        exact absurd hlt (by decide)
      rw [Gone, Gone, hpc]
      simp [hne _ hold, ServerState.setStatus, hne _ hnew]
  unfold taskProc
  split
  case h_1 hstatus =>
    refine TokenInv.silent ?_ rfl
    exact early .init (by rw [hstatus]; decide) (by decide)
  case h_2 hstatus =>
    refine TokenInv.silent ?_ rfl
    exact early .setup (by rw [hstatus]; decide) (by decide)
  case h_3 =>
    refine TokenInv.silent ?_ rfl
    refine h.keep rfl h.lock .inl id ?_ (fresh_of_pc (.inr (.inl rfl)))
    rw [Gone, Gone, hpc]
    simp

/-! ### The runs -/

/-- The server keeps its yield in every step. -/
theorem tokenInv_selfStep (h1 : 1 ≤ k) (hsize : (config.queueSize .aliyun).toNat = 2 ^ k)
    (hmode : config.msgOverrun = .yes) {a : ServerAction} (h : TokenInv k s)
    (hkept : TokenKept s a) (hs : selfStep config s a = some s') : TokenInv k s' := by
  cases a with
  | arrive msg =>
    rw [selfStep] at hs
    split_ifs at hs with hyield
    cases hs
    exact h.push hkept (Bool.eq_false_iff.mpr hyield)
  | thread input => cases hs
  | start =>
    obtain ⟨s₁, hstart, rfl⟩ := Option.map_eq_some_iff.mp hs
    rw [ServerCode.step] at hstart
    split_ifs at hstart with hstopped
    cases hstart
    refine TokenInv.silent ?_ rfl
    have hinit : s.message.init = false := h.gone.mpr (.inr (.inr (.inl hstopped)))
    exact ⟨h.queue.congr rfl, rfl, fun _ => h.queue.tokens_eq_zero hinit, by rintro ⟨⟩,
      iff_of_true hinit (.inr (.inr (.inr rfl))), fun _ => ⟨rfl, rfl⟩⟩
  | main input =>
    obtain ⟨s₁, hmain, rfl⟩ := Option.map_eq_some_iff.mp hs
    replace hmain : mainStep server config input s = some s₁ := hmain
    unfold mainStep at hmain
    split at hmain
    case h_1 => cases hmain
    case h_2 hpc =>
      cases hmain
      obtain ⟨hstatus, hexit⟩ := h.fresh (.inr hpc)
      refine TokenInv.silent ?_ rfl
      have hempty : tokens (serverBoot server config s) = 0 :=
        congrArg (List.countP isYield) contents_msgBufferInit
      refine ⟨QueueOk.boot h1 hsize hmode, h.lock, fun _ => hempty, fun hrun => ?_, ?_,
        fresh_of_pc (.inr (.inr rfl))⟩
      · rw [show s.info.status = _ from hrun] at hstatus
        cases hstatus
      · rw [Gone, serverBoot, hstatus, hexit]
        simp [ManagerConfig.queue, msgBufferInit]
    case h_3 hpc =>
      split_ifs at hmain with hexit
      · -- the thread ends, long after its queue was released
        cases hmain
        have hinit : s.message.init = false := h.gone.mpr (.inr (.inl hexit))
        have hzero := h.queue.tokens_eq_zero hinit
        refine TokenInv.posted ?_ rfl (not_endangered hzero) (by decide)
        exact ⟨h.queue.congr rfl, rfl, fun _ => hzero, by rintro ⟨⟩,
          iff_of_true hinit (.inr (.inr (.inl rfl))), fun _ => ⟨rfl, rfl⟩⟩
      · obtain ⟨s₂, hstates, rfl⟩ := Option.map_eq_some_iff.mp hmain
        have hnoted : TokenInv k s.noteStatus := h.keep rfl h.lock .inl id Iff.rfl h.fresh
        have hpass := tokenInv_stateMachine hnoted hpc (Bool.eq_false_iff.mpr hexit) hstates
        exact hpass
    case h_4 hpc =>
      split_ifs at hmain
      cases hmain
      refine TokenInv.silent ?_ rfl
      refine h.keep rfl h.lock .inl id ?_ (fresh_of_pc (.inl rfl))
      rw [Gone, Gone, hpc]
      simp [server]
    case h_5 hpc =>
      cases hmain
      exact tokenInv_taskProc h hpc
    case h_6 hpc =>
      obtain ⟨s₂, hproc, rfl⟩ := Option.map_eq_some_iff.mp hmain
      exact tokenInv_serverMessageProc h hpc (hkept hpc) hproc

/-- In `STATUS_RUN` there is one yield, in a run that keeps it. -/
theorem oneToken_of_kept (config : ManagerConfig) (own : Statics) (k : ℕ) (h1 : 1 ≤ k)
    (hsize : (config.queueSize .aliyun).toNat = 2 ^ k) (hmode : config.msgOverrun = .yes) (s : State)
    (h : Reach (selfStep config) TokenKept { own := own } s) : OneToken s := by
  have hinv : TokenInv k s := h.inv tokenInv_start
    fun _ _ _ hi hkept hstep => tokenInv_selfStep h1 hsize hmode hi hkept hstep
  exact hinv.run

/-- A pass of the main loop. -/
def pass : List ServerAction := [.main {}, .main {}, .main {}]

/-- The server starts and connects. -/
def connected : List ServerAction := [.start, .main {}] ++ pass ++ pass ++ pass ++ pass

theorem oneToken_connected : ∃ s, Reach (selfStep managerConfig) TokenKept { own := {} } s ∧
    s.info.status = .run ∧ OneToken s := by
  have hrun : (exec (selfStep managerConfig) (fun s a => decide (TokenKept s a)) { own := {} }
      connected).any (fun s => decide (s.info.status = .run)) = true := by
    decide
  obtain ⟨s, hs, hstatus⟩ := Reach.exists_of_exec (fun _ _ => of_decide_eq_true) hrun
  exact ⟨s, hs, hstatus, oneToken_of_kept managerConfig {} 4 (by decide) rfl rfl s hs⟩

/-- The message that tells the server to connect again. -/
def restart : Message := { message := msgAliyunRestart }

/-- After a restart and a new connection there are two yields; fifteen messages that arrive before the
server takes the next one leave none. -/
theorem token_doubled_and_lost :
    (∃ s, Reach (selfStep managerConfig) AllRuns { own := {} } s ∧ ¬ OneToken s ∧
      s.info.status = .run ∧ tokens s = 2) ∧
    ∃ s, Reach (selfStep managerConfig) AllRuns { own := {} } s ∧ ¬ OneToken s ∧
      s.info.status = .run ∧ tokens s = 0 := by
  constructor
  · have hrun : (exec (selfStep managerConfig) (fun _ _ => true) { own := {} }
        (connected ++ [.arrive restart] ++ pass ++ pass ++ pass ++ pass ++ pass)).any
        (fun s => decide (¬ OneToken s ∧ s.info.status = .run ∧ tokens s = 2)) = true := by
      decide
    exact Reach.exists_of_exec (fun _ _ _ => trivial) hrun
  · have hrun : (exec (selfStep managerConfig) (fun _ _ => true) { own := {} }
        (connected ++ List.replicate 15 (.arrive { message := msgAliyunTimeSynchronized }))).any
        (fun s => decide (¬ OneToken s ∧ s.info.status = .run ∧ tokens s = 0)) = true := by
      decide
    exact Reach.exists_of_exec (fun _ _ _ => trivial) hrun

end GokeWebcam.Server.Aliyun
