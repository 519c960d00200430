import GokeWebcam.Manager.Announce
import GokeWebcam.Webcam.Members

/-!
# The order of the exit

When the manager has asked all servers to exit, a server lets go of what it has only when the servers it
waits for have acknowledged their exit, and the manager only when all have.

* `Running`: a server has been started and has not acknowledged an exit.
* `Sound`: a request to exit names the running servers, an acknowledgement is of a server that has sent one.
* `OrderInv`: all messages are sound, and what a server still waits for is in its `quit_status`.
* `exit_ordered`: the order of the exit, in every run without sleep in which no server loses the word on the
  way.
-/

namespace GokeWebcam.Webcam

open Lib Common Global Manager Server

set_option maxRecDepth 1024

variable {p p' : Program} {t u : Child} {m : Message} {P : Message → Prop}

/-! ### What is kept -/

/-- The server has acknowledged an exit. -/
def Acked (p : Program) (t : Child) : Prop := ∃ m ∈ (p.server t).out, m.2.message = msgManagerExitAck

/-- The server has been started, and has not acknowledged an exit. -/
def Running (p : Program) (t : Child) : Prop := (p.server t).pc ≠ .stopped ∧ ¬ Acked p t

instance : Decidable (Acked p t) := inferInstanceAs (Decidable (∃ m ∈ _, _))

instance : Decidable (Running p t) := inferInstanceAs (Decidable (_ ∧ _))

/-- The step that a server takes past `EXIT_SERVER` comes after the acknowledgements of the servers it waits
for, that of the manager after those of all. -/
structure ExitOrdered (p p' : Program) : Prop where
  server : ∀ t, (p.server t).info.status = .exitServer → (p'.server t).info.status = .exitStage1 →
    ∀ u, t.waitsFor u = true → ¬ Running p u
  manager : p.manager.info.task.func = some .taskExit → p.manager.info.status = .exitServer →
    p'.manager.info.status = .exitStage1 → ∀ u, ¬ Running p u

/-- The manager is not in a task of sleep, and no server that waits for a running one fails or initialises
itself again. -/
def Orderly (p : Program) : ProgramAction → Prop
  | .manager (.task _) => OnDuty p.manager
  | .server t a => (∃ u, t.waitsFor u = true ∧ Running p u) → ¬ Erases (p.server t) a
  | _ => True

instance : (a : ProgramAction) → Decidable (Orderly p a)
  | .manager (.task _) => inferInstanceAs (Decidable (OnDuty _))
  | .manager (.message _) | .manager (.arrive _) | .manager .pollBegin | .manager (.pollSlot _ _)
  | .manager .pollEnd | .manager .timerEnd | .deliver _ => .isTrue trivial
  | .server _ _ => inferInstanceAs (Decidable (_ → ¬ _))

/-- What a message of the exit protocol says is so. -/
structure Sound (p : Program) (m : Message) : Prop where
  exit : m.message = msgManagerExit → ∀ u, Running p u → Names m u.type.toNat
  ack : m.message = msgManagerExitAck → ∀ u : Child, u.type.toNat = m.sender.toNat → Acked p u

/-- All messages have the property: those in flight, those in the queues, and the one handled last. -/
structure Everywhere (P : Message → Prop) (p : Program) : Prop where
  flight : ∀ m ∈ p.flight, P m.2
  manager : AllSlots P p.manager.message
  msg : P p.manager.info.task.msg
  server : ∀ t, AllSlots P (p.server t).message

/-- What the server `t` waits for that still runs. -/
def Waits (p : Program) (t : Child) (i : ℕ) : Prop :=
  t.code.exitCondition.getLsbD i = true ∧ ∃ u : Child, u.type.toNat = i ∧ Running p u

/-- No request to exit. -/
def NotExit (m : Message) : Prop := m.message ≠ msgManagerExit

/-- What every orderly run keeps. -/
structure OrderInv (p : Program) : Prop where
  manager : ExitInv p.manager
  messages : Everywhere (Sound p) p
  before : Before p.manager → Everywhere NotExit p ∧
    ∀ t, (p.server t).pc = .stopped ∧ (p.server t).info.status ≠ .exitInit
  listed : ∀ t, Running p t → p.manager.info.threadStart.getLsbD t.type.toNat = true
  waiting : ∀ t, Waiting (Waits p t) (p.server t)
  drains : ∀ t status, (p.server t).pc = .drain status → KeepsQuit t.code status

/-! ### Messages -/

theorem Sound.of_ordinary (h : Ordinary m) : Sound p m :=
  ⟨fun hexit => absurd hexit h.1, fun hack => absurd hack h.2⟩

theorem Sound.harmless (h : Sound p m) : Harmless (Waits p t) m := by
  refine ⟨fun hexit i hi => ?_, fun hack hi => ?_⟩
  · obtain ⟨-, u, rfl, hu⟩ := hi
    exact h.exit hexit u hu
  · obtain ⟨-, u, hsender, hu⟩ := hi
    exact hu.2 (h.ack hack u hsender)

theorem ringProperty_sound : RingProperty (Sound p) where
  init := .of_ordinary (by decide)
  free m hm := by
    refine ⟨?_, ?_⟩
    · simp only [Names, message_msgFree, sender_msgFree, argIn_msgFree]
      exact hm.exit
    · simp only [message_msgFree, sender_msgFree]
      exact hm.ack
  stamp m n hm := ⟨hm.exit, hm.ack⟩
  ordinary m hm := .of_ordinary hm

theorem ringProperty_notExit : RingProperty NotExit where
  toSlotProperty := slotProperty_ne (by decide)
  ordinary m hm := hm.1

theorem Everywhere.mono {Q : Message → Prop} (hPQ : ∀ m, P m → Q m) (h : Everywhere P p) :
    Everywhere Q p :=
  ⟨fun m hm => hPQ _ (h.flight m hm), h.manager.mono hPQ, hPQ _ h.msg, fun t => (h.server t).mono hPQ⟩

theorem Everywhere.and {Q R : Message → Prop} (hR : ∀ m, P m → Q m → R m) (h : Everywhere P p)
    (h' : Everywhere Q p) : Everywhere R p :=
  ⟨fun m hm => hR _ (h.flight m hm) (h'.flight m hm), fun i => hR _ (h.manager i) (h'.manager i),
    hR _ h.msg h'.msg, fun t i => hR _ (h.server t i) (h'.server t i)⟩

theorem toNat_type_inj (h : t.type.toNat = u.type.toNat) : t = u := by
  revert h
  cases t <;> cases u <;> decide

theorem toNat_toInt_type : t.type.toInt.toNat = t.type.toNat := by cases t <;> decide

/-! ### A step of a server -/

variable {config : ManagerConfig} {a : ServerAction} {s' : ServerState t.Statics}

theorem server_afterServer (p : Program) (s' : ServerState t.Statics) :
    (p.afterServer t s').server t = s' := Function.update_self ..

theorem server_afterServer_of_ne (s' : ServerState t.Statics) (h : u ≠ t) :
    (p.afterServer t s').server u = p.server u := Function.update_of_ne h ..

/-- A step of a server: who has acknowledged has, and nobody begins to run. -/
theorem running_afterServer (h : Does t.code config (p.server t) a s') :
    (Acked p u → Acked (p.afterServer t s') u) ∧ (Running (p.afterServer t s') u → Running p u) := by
  by_cases hu : u = t
  · subst hu
    obtain ⟨ms, hout, -⟩ := out_does u.member h
    have hacked : Acked p u → Acked (p.afterServer u s') u := by
      rintro ⟨m, hm, hid⟩
      refine ⟨m, ?_, hid⟩
      rw [server_afterServer, hout]
      exact List.mem_append_left _ hm
    refine ⟨hacked, fun hrun => ⟨fun hpc => hrun.1 ?_, fun hack => hrun.2 (hacked hack)⟩⟩
    rw [server_afterServer]
    exact (stopped_does h hpc).1
  · have hsame := server_afterServer_of_ne (p := p) s' hu
    refine ⟨?_, ?_⟩
    · rw [Acked, Acked, hsame]
      exact id
    · rw [Running, Running, Acked, Acked, hsame]
      exact id

theorem orderInv_server (hI : OrderInv p) (h : Does t.code config (p.server t) a s')
    (harrive : ∀ m, a = .arrive m → Sound p m ∧ (Before p.manager → NotExit m))
    (hkeep : ∀ i, Waits p t i → ¬ Erases (p.server t) a) : OrderInv (p.afterServer t s') := by
  obtain ⟨ms, hout, hms⟩ := out_does t.member h
  have hsent : serverOuts (p.server t) s' = ms := by rw [serverOuts, hout, List.drop_left]
  have hself := server_afterServer p s'
  have hother : ∀ {u}, u ≠ t → (p.afterServer t s').server u = p.server u :=
    fun hu => server_afterServer_of_ne s' hu
  have hacked : ∀ u, Acked p u → Acked (p.afterServer t s') u := fun u => (running_afterServer h).1
  have hruns : ∀ u, Running (p.afterServer t s') u → Running p u := fun u => (running_afterServer h).2
  have hwaits : ∀ u i, Waits (p.afterServer t s') u i → Waits p u i := by
    rintro u i ⟨hlist, v, hv, hrun⟩
    exact ⟨hlist, v, hv, hruns v hrun⟩
  have hsound : ∀ m, Sound p m → Sound (p.afterServer t s') m := fun m hm =>
    ⟨fun hexit u hu => hm.exit hexit u (hruns u hu), fun hack u hu => hacked u (hm.ack hack u hu)⟩
  have hnew : ∀ m ∈ ms, Sound (p.afterServer t s') m.2 := by
    intro m hm
    refine ⟨fun hexit => absurd hexit (hms m hm).1, fun hack u hu => ⟨m, ?_, hack⟩⟩
    rw [(hms m hm).2 hack, Child.server_code, toNat_toInt_type] at hu
    rw [toNat_type_inj hu, hself, hout]
    exact List.mem_append_right _ hm
  have heverywhere : ∀ {P}, RingProperty P → (∀ m, a = .arrive m → P m) → (∀ m ∈ ms, P m.2) →
      Everywhere P p → Everywhere P (p.afterServer t s') := by
    intro P hP harrives hnews hall
    refine ⟨fun m hm => ?_, hall.manager, hall.msg, fun u => ?_⟩
    · have hm : m ∈ p.flight ++ serverOuts (p.server t) s' := hm
      rw [hsent] at hm
      exact (List.mem_append.mp hm).elim (hall.flight m) (hnews m)
    · by_cases hu : u = t
      · subst hu
        rw [hself]
        exact slots_does u.member h hP.toSlotProperty harrives (hall.server u)
      · rw [hother hu]
        exact hall.server u
  constructor
  case manager => exact hI.manager
  case messages =>
    exact heverywhere ringProperty_sound (fun m hm => hsound m (harrive m hm).1) hnew
      (hI.messages.mono hsound)
  case before =>
    intro hbefore
    obtain ⟨hall, hstopped⟩ := hI.before hbefore
    refine ⟨heverywhere ringProperty_notExit (fun m hm => (harrive m hm).2 hbefore)
      (fun m hm => (hms m hm).1) hall, fun u => ?_⟩
    by_cases hu : u = t
    · subst hu
      rw [hself]
      obtain ⟨hpc, hstatus⟩ := stopped_does h (hstopped u).1
      exact ⟨hpc, fun hexit => (hstopped u).2 (hstatus hexit)⟩
    · rw [hother hu]
      exact hstopped u
  case listed => exact fun u hu => hI.listed u (hruns u hu)
  case waiting =>
    intro u
    by_cases hu : u = t
    · subst hu
      rw [hself]
      refine (waiting_does u.member h (fun i hi => hi.1) ?_ (hI.drains u) hkeep (hI.waiting u)).mono (hwaits u)
      exact (hI.messages.server u).mono fun m hm => hm.harmless
    · rw [hother hu]
      exact (hI.waiting u).mono (hwaits u)
  case drains =>
    intro u
    by_cases hu : u = t
    · subst hu
      rw [hself]
      exact drain_does h (hI.drains u)
    · rw [hother hu]
      exact hI.drains u

/-! ### A step of the manager -/

/-- What a start leaves of a server. -/
theorem begin_spec {κ : Type} {c : ServerCode κ} (hc : ExitMember c) (s : ServerState κ) :
    (begin c s).pc = .boot ∧ (begin c s).out = s.out ∧ (begin c s).message = s.message ∧
      (begin c s).info ∈ [s.info, {}] := by
  refine ⟨rfl, ?_⟩
  rcases hc.serverStart (s := s) with hsame | hcleared
  · rw [begin, hsame]
    exact ⟨rfl, rfl, by simp⟩
  · rw [begin, hcleared]
    exact ⟨rfl, rfl, by simp⟩

/-- The servers that a step of the manager starts, and what it sends. -/
theorem afterManager_spec {s : ManagerState} {os : List ManagerOutput} (hout : s.out = p.manager.out ++ os)
    (h : p.afterManager s = some p') :
    p'.manager = s ∧ p'.flight = p.flight ++ sendsOf os ∧
      (∀ t, startsOf os t = false → p'.server t = p.server t) ∧
      ∀ t, startsOf os t = true → p'.server t = begin t.code (p.server t) := by
  have hsent : managerOuts p.manager s = os := by rw [managerOuts, hout, List.drop_left]
  rw [Program.afterManager] at h
  split_ifs at h
  cases h
  rw [hsent]
  refine ⟨rfl, rfl, fun t ht => ?_, fun t ht => ?_⟩
  · dsimp only
    rw [ht]
    rfl
  · dsimp only
    rw [ht]
    rfl

theorem mem_sendsOf {os : List ManagerOutput} {m : CInt × Message} (h : m ∈ sendsOf os) :
    .send m.1 m.2 ∈ os := by
  obtain ⟨o, ho, hm⟩ := List.mem_filterMap.mp h
  cases o with
  | send receiver msg =>
    cases hm
    exact ho
  | start t => cases hm

theorem orderInv_manager {a : ManagerAction} {s : ManagerState} (hI : OrderInv p)
    (hs : p.manager.step a = some s) (hduty : ∀ input, a = .task input → OnDuty p.manager)
    (harrive : ∀ m, a = .arrive m → Sound p m ∧ (Before p.manager → NotExit m))
    (h : p.afterManager s = some p') : OrderInv p' := by
  have hdoes := announces_step hI.manager hduty hs
  obtain ⟨os, hout, hos⟩ := hdoes.out
  obtain ⟨hmanager, hflight, hsame, hstarted⟩ := afterManager_spec hout h
  have hstart : ∀ t, startsOf os t = true →
      Before p.manager ∧ ¬ Before s ∧ s.info.threadStart.getLsbD t.type.toNat = true :=
    fun t ht => hos _ (List.contains_iff_mem.mp ht)
  have hcases : ∀ t, (startsOf os t = false ∧ p'.server t = p.server t) ∨
      (startsOf os t = true ∧ p'.server t = begin t.code (p.server t)) := by
    intro t
    rcases hcase : startsOf os t with _ | _
    · exact .inl ⟨rfl, hsame t hcase⟩
    · exact .inr ⟨rfl, hstarted t hcase⟩
  have hkept : ∀ t, (p'.server t).out = (p.server t).out ∧ (p'.server t).message = (p.server t).message := by
    intro t
    rcases hcases t with ⟨-, ht⟩ | ⟨-, ht⟩
    · rw [ht]
      exact ⟨rfl, rfl⟩
    · obtain ⟨-, hsent, hmessage, -⟩ := begin_spec t.member (p.server t)
      rw [ht]
      exact ⟨hsent, hmessage⟩
  have hacked : ∀ t, Acked p' t ↔ Acked p t := fun t => by rw [Acked, Acked, (hkept t).1]
  have hruns : ∀ t, Running p' t → Running p t ∨ startsOf os t = true := by
    intro t hrun
    rcases hcases t with ⟨-, ht⟩ | ⟨ht, -⟩
    · exact .inl ⟨ht ▸ hrun.1, fun hack => hrun.2 ((hacked t).mpr hack)⟩
    · exact .inr ht
  have hexit : ∀ {m : Message}, Sound p m → (Before p.manager → NotExit m) → Sound p' m := by
    intro m hm hnot
    refine ⟨fun hid u hu => ?_, fun hack u hu => (hacked u).mpr (hm.ack hack u hu)⟩
    rcases hruns u hu with hu | hu
    · exact hm.exit hid u hu
    · exact absurd hid (hnot (hstart u hu).1)
  have heverywhere : ∀ {P}, RingProperty P → (∀ m, a = .arrive m → P m) →
      (∀ receiver m, .send receiver m ∈ os → P m) → Everywhere P p → Everywhere P p' := by
    intro P hP harrives hnews hall
    refine ⟨fun m hm => ?_, ?_, ?_, fun t => ?_⟩
    · rw [hflight] at hm
      exact (List.mem_append.mp hm).elim (hall.flight m) fun hm => hnews _ _ (mem_sendsOf hm)
    · rw [hmanager]
      exact hdoes.slots hP harrives hall.manager
    · rw [hmanager]
      exact hdoes.msg hall.manager hall.msg
    · rw [(hkept t).2]
      exact hall.server t
  have hsaid : ∀ receiver m, .send receiver m ∈ os → Sound p m ∧ (Before p.manager → NotExit m) := by
    intro receiver m hm
    rcases hos _ hm with hordinary | ⟨hid, hlate, hsender, hnames⟩ | ⟨hid, hlast, hsender⟩
    · exact ⟨.of_ordinary hordinary, fun _ => hordinary.1⟩
    · refine ⟨⟨fun _ u hu => ⟨hsender, ?_⟩, fun hack => ?_⟩, fun hbefore => absurd hbefore hlate⟩
      · rw [hnames]
        exact hI.listed u hu
      · rw [hid] at hack
        exact absurd hack (by decide)
    · refine ⟨⟨fun hexit => ?_, fun _ u hu => ?_⟩, fun _ => ?_⟩
      · rw [hid] at hexit
        exact absurd hexit (by decide)
      · rw [hsender] at hu
        exact hI.messages.msg.ack hlast u hu
      · rw [NotExit, hid]
        decide
  have hall : Everywhere (Sound p) p' := heverywhere ringProperty_sound (fun m hm => (harrive m hm).1)
    (fun receiver m hm => (hsaid receiver m hm).1) hI.messages
  have hnone : Before p.manager → Everywhere NotExit p' := fun hbefore =>
    heverywhere ringProperty_notExit (fun m hm => (harrive m hm).2 hbefore)
      (fun receiver m hm => (hsaid receiver m hm).2 hbefore) (hI.before hbefore).1
  constructor
  case manager =>
    rw [hmanager]
    exact exitInv_step hI.manager hs
  case messages =>
    by_cases hbefore : Before p.manager
    · exact hall.and (fun m hm hnot => hexit hm fun _ => hnot) (hnone hbefore)
    · exact hall.mono fun m hm => hexit hm fun hno => absurd hno hbefore
  case before =>
    rw [hmanager]
    intro hlater
    have hbefore := hdoes.before hlater
    refine ⟨hnone hbefore, fun t => ?_⟩
    rcases hcases t with ⟨-, ht⟩ | ⟨ht, -⟩
    · rw [ht]
      exact (hI.before hbefore).2 t
    · exact absurd hlater (hstart t ht).2.1
  case listed =>
    intro u hu
    rw [hmanager]
    rcases hruns u hu with hrun | hnew
    · rcases hdoes.bits hI.messages.manager _ (hI.listed u hrun) with hbit | ⟨m, hm, hack, hsender⟩
      · exact hbit
      · exact absurd (hm.ack hack u hsender.symm) hrun.2
    · exact (hstart u hnew).2.2
  case waiting =>
    intro t
    by_cases hany : ∃ u, startsOf os u = true
    · obtain ⟨u, hu⟩ := hany
      obtain ⟨hpc, hstatus⟩ := (hI.before (hstart u hu).1).2 t
      rcases hcases t with ⟨-, ht⟩ | ⟨-, ht⟩
      · rw [ht]
        exact ⟨fun _ _ => .inl hpc, fun _ _ hexit => absurd hexit hstatus⟩
      · obtain ⟨hboot, -, -, hinfo⟩ := begin_spec t.member (p.server t)
        rw [ht]
        refine ⟨fun _ _ => .inr (.inl hboot), fun _ _ hexit => ?_⟩
        rcases List.mem_cons.mp hinfo with hinfo | hinfo
        · rw [hinfo] at hexit
          exact absurd hexit hstatus
        · rw [List.mem_singleton.mp hinfo] at hexit
          cases hexit
    · have hnot : startsOf os t = false := Bool.eq_false_iff.mpr fun ht => hany ⟨t, ht⟩
      rw [hsame t hnot]
      refine (hI.waiting t).mono ?_
      rintro i ⟨hlist, u, hu, hrun⟩
      exact ⟨hlist, u, hu, (hruns u hrun).resolve_right fun ht => hany ⟨u, ht⟩⟩
  case drains =>
    intro t status hdrain
    rcases hcases t with ⟨-, ht⟩ | ⟨-, ht⟩
    · rw [ht] at hdrain
      exact hI.drains t status hdrain
    · rw [ht, (begin_spec t.member (p.server t)).1] at hdrain
      cases hdrain

/-! ### The order -/

theorem ExitOrdered.refl : ExitOrdered p p where
  server _ hserver hnext := by cases hserver.symm.trans hnext
  manager _ hserver hnext := by cases hserver.symm.trans hnext

theorem exitOrdered_server (hI : OrderInv p) (h : Does t.code config (p.server t) a s') :
    ExitOrdered p (p.afterServer t s') where
  server u hserver hnext v hv hrun := by
    by_cases hu : u = t
    · subst hu
      rw [server_afterServer] at hnext
      obtain ⟨hpc, hquit⟩ := stage1_does u.member h hserver hnext
      rcases (hI.waiting u).listed v.type.toNat ⟨hv, v, rfl, hrun⟩ with hno | hno | hbit
      · cases hpc.symm.trans hno
      · cases hpc.symm.trans hno
      · rw [hquit, BitVec.getLsbD_zero] at hbit
        cases hbit
    · rw [server_afterServer_of_ne s' hu] at hnext
      cases hserver.symm.trans hnext
  manager _ hserver hnext := by cases hserver.symm.trans hnext

theorem exitOrdered_manager {a : ManagerAction} {s : ManagerState} (hI : OrderInv p)
    (hs : p.manager.step a = some s) (hduty : ∀ input, a = .task input → OnDuty p.manager)
    (h : p.afterManager s = some p') : ExitOrdered p p' := by
  obtain ⟨os, hout, -⟩ := (announces_step hI.manager hduty hs).out
  obtain ⟨hmanager, -, hsame, hstarted⟩ := afterManager_spec hout h
  constructor
  case server =>
    intro t hserver hnext
    rcases hcase : startsOf os t with _ | _
    · rw [hsame t hcase] at hnext
      cases hserver.symm.trans hnext
    · obtain ⟨-, -, -, hinfo⟩ := begin_spec t.member (p.server t)
      rw [hstarted t hcase] at hnext
      rcases List.mem_cons.mp hinfo with hinfo | hinfo
      · rw [hinfo] at hnext
        cases hserver.symm.trans hnext
      · rw [List.mem_singleton.mp hinfo] at hnext
        cases hnext
  case manager =>
    intro hfunc hserver hnext u hrun
    rw [hmanager] at hnext
    have hbit := hI.listed u hrun
    rw [threadStart_exitServer hI.manager hs hfunc hserver hnext, BitVec.getLsbD_zero] at hbit
    cases hbit

/-! ### The steps of the program -/

theorem afterServer_of_out (hout : s'.out = (p.server t).out) :
    p.afterServer t s' = { p with server := Function.update p.server t s' } := by
  rw [Program.afterServer, serverOuts, hout, List.drop_length, List.append_nil]

theorem afterManager_of_out {s : ManagerState} (hout : s.out = p.manager.out) :
    p.afterManager s = some { p with manager := s } := by
  have hnone : managerOuts p.manager s = [] := by rw [managerOuts, hout, List.drop_length]
  rw [Program.afterManager, hnone]
  simp [startsOf, sendsOf]

theorem orderInv_arrival {receiver : CInt} (hI : OrderInv p) (hm : Sound p m)
    (hnot : Before p.manager → NotExit m) (h : p.arrival receiver m = some p') :
    OrderInv p' ∧ ExitOrdered p p' := by
  rw [Program.arrival] at h
  split_ifs at h
  · obtain ⟨s, hs, rfl⟩ := Option.map_eq_some_iff.mp h
    have hout : s.out = p.manager.out := by rw [(step_arrive hs).2]
    have hafter := afterManager_of_out hout
    have hduty : ∀ input, ManagerAction.arrive m = .task input → OnDuty p.manager := by
      rintro input ⟨⟩
    refine ⟨orderInv_manager hI hs hduty (fun m' heq => ?_) hafter, exitOrdered_manager hI hs hduty hafter⟩
    cases heq
    exact ⟨hm, hnot⟩
  · split at h
    · cases h
      exact ⟨hI, .refl⟩
    · next u _ =>
      cases h
      have hsame : (serverMessage m (p.server u)).out = (p.server u).out := by
        rw [serverMessage]
        split_ifs <;> rfl
      have hdoes : Does u.code {} (p.server u) (.arrive m) (serverMessage m (p.server u)) :=
        does_step u.member (by rintro ⟨⟩) rfl
      rw [← afterServer_of_out hsame]
      refine ⟨orderInv_server hI hdoes (fun m' heq => ?_) fun _ _ => id, exitOrdered_server hI hdoes⟩
      cases heq
      exact ⟨hm, hnot⟩

/-- The step lemma. -/
theorem orderInv_step {a : ProgramAction} (hI : OrderInv p) (h : p.step config a = some p')
    (horderly : Orderly p a) : OrderInv p' ∧ ExitOrdered p p' := by
  have hmanager : ∀ {a : ManagerAction}, (∀ m, a ≠ .arrive m) →
      (∀ input, a = .task input → OnDuty p.manager) → (p.manager.step a).bind p.afterManager = some p' →
      OrderInv p' ∧ ExitOrdered p p' := by
    intro a ha hduty h
    obtain ⟨s, hs, hafter⟩ := Option.bind_eq_some_iff.mp h
    exact ⟨orderInv_manager hI hs hduty (fun m heq => absurd heq (ha m)) hafter,
      exitOrdered_manager hI hs hduty hafter⟩
  have hserver : ∀ {t : Child} {a : ServerAction}, (∀ m, a ≠ .arrive m) → a ≠ .start →
      Orderly p (.server t a) → (t.code.step config (p.server t) a).map (p.afterServer t) = some p' →
      OrderInv p' ∧ ExitOrdered p p' := by
    intro t a ha hstart hkeep h
    obtain ⟨s, hs, rfl⟩ := Option.map_eq_some_iff.mp h
    have hdoes := does_step t.member hstart hs
    refine ⟨orderInv_server hI hdoes (fun m heq => absurd heq (ha m)) ?_, exitOrdered_server hI hdoes⟩
    rintro i ⟨hlist, u, rfl, hrun⟩
    exact hkeep ⟨u, hlist, hrun⟩
  have hordinary : ∀ {receiver m}, (if Ordinary m then p.arrival receiver m else none) = some p' →
      OrderInv p' ∧ ExitOrdered p p' := by
    intro receiver m h
    split_ifs at h with hm
    exact orderInv_arrival hI (.of_ordinary hm) (fun _ => hm.1) h
  cases a with
  | manager a =>
    cases a with
    | arrive m => exact hordinary h
    | task input => exact hmanager (by rintro m ⟨⟩) (fun _ _ => horderly) h
    | _ => exact hmanager (by rintro m ⟨⟩) (by rintro _ ⟨⟩) h
  | server t a =>
    cases a with
    | arrive m => exact hordinary h
    | start => cases h
    | _ => exact hserver (by rintro m ⟨⟩) (by rintro ⟨⟩) horderly h
  | deliver i =>
    rw [Program.step] at h
    split at h
    · cases h
    · next receiver m hget =>
      have hmem := List.mem_of_getElem? hget
      have hless : ∀ {P}, Everywhere P p → Everywhere P { p with flight := p.flight.eraseIdx i } :=
        fun hall => ⟨fun m hm => hall.flight m (List.mem_of_mem_eraseIdx hm), hall.manager, hall.msg,
          hall.server⟩
      have hI' : OrderInv { p with flight := p.flight.eraseIdx i } := by
        refine ⟨hI.manager, hless (hI.messages.mono fun m hm => ⟨hm.exit, hm.ack⟩), fun hbefore => ?_,
          hI.listed, hI.waiting, hI.drains⟩
        obtain ⟨hall, hstopped⟩ := hI.before hbefore
        exact ⟨hless hall, hstopped⟩
      have hsound := hI.messages.flight _ hmem
      obtain ⟨hnext, hordered⟩ := orderInv_arrival hI' ⟨hsound.exit, hsound.ack⟩
        (fun hbefore => (hI.before hbefore).1.flight _ hmem) h
      exact ⟨hnext, ⟨hordered.server, hordered.manager⟩⟩

theorem orderInv_init {own : (t : Child) → t.Statics} : OrderInv (programInit config own) := by
  have hall : ∀ {P}, RingProperty P → Everywhere P (programInit config own) := by
    intro P hP
    have hsleep : Ordinary sleepInitMsg := by decide
    have hroutine : Ordinary routineInitMsg := by decide
    have hinit : Sends (managerBoot config) (managerInit config) := (Sends.refl.send hsleep).send hroutine
    refine ⟨?_, hinit.slots hP (.init hP.toSlotProperty), ?_, fun t => ?_⟩
    · rintro m ⟨⟩
    · show P (managerInit config).info.task.msg
      rw [hinit.msg]
      exact hP.init
    · exact .of_nil hP.toSlotProperty rfl
  have hstopped : ∀ t, ¬ Running (programInit config own) t := fun t hrun => hrun.1 rfl
  constructor
  case manager => exact exitInv_init
  case messages => exact hall ringProperty_sound
  case before => exact fun _ => ⟨hall ringProperty_notExit, fun t => ⟨rfl, by rintro ⟨⟩⟩⟩
  case listed => exact fun t hrun => absurd hrun (hstopped t)
  case waiting =>
    refine fun t => ⟨fun i hi => .inl rfl, ?_⟩
    rintro i - ⟨⟩
  case drains =>
    intro t status hdrain
    cases hdrain

/-- In every orderly run of the program, with any configuration: a server goes past `EXIT_SERVER` only when
none of the servers it waits for runs any more without having acknowledged the exit, and the manager only
when no server does. -/
theorem exit_ordered (config : ManagerConfig) (own : (t : Child) → t.Statics) (actions : List ProgramAction)
    (h : AllSteps (Program.step config) (fun p a _ => Orderly p a) (programInit config own) actions) :
    AllSteps (Program.step config) (fun p _ p' => ExitOrdered p p') (programInit config own) actions :=
  h.imp (fun _ _ _ hI hstep hok => orderInv_step hI hstep hok) orderInv_init

/-! ### Runs -/

/-- The static variables as the program is loaded. -/
def loaded : (t : Child) → t.Statics
  | .device => ({} : DeviceServer.Statics)
  | .goke => ()
  | .video => ({} : Video.Statics)
  | .audio => ()
  | .recorder => ({} : Recorder.Statics)
  | .player => ({} : Player.Statics)
  | .aliyun => ({} : Aliyun.Statics)

/-- The manager starts those of the two servers, both enter their loops, and then the program is told to end. -/
def startTwo (t u : Child) : List ProgramAction :=
  let pass (input : ManagerInput) : List ProgramAction :=
    [.manager (.task input), .manager (.message input)]
  pass {} ++ pass {} ++ pass { startOk := fun server => server = t.type || server = u.type } ++
    [.server t (.main {}), .server u (.main {}), .manager (.arrive { message := msgDeviceSigint })] ++
    pass {}

/-- The manager takes up the exit, and its requests arrive. -/
def requestExit : List ProgramAction :=
  [.manager (.task {}), .manager (.message {}), .deliver 0, .deliver 0]

def mains (n : ℕ) (t : Child) : List ProgramAction := List.replicate n (.server t (.main {}))

/-- Goke, which waits for video, takes the request first. -/
def exitOfTwo : List ProgramAction :=
  startTwo .goke .video ++ requestExit ++ mains 4 .goke ++ mains 22 .video ++
    [.deliver 0, .manager (.task {}), .manager (.message {}), .manager (.task {}), .deliver 0] ++
    mains 18 .goke ++ [.deliver 0, .manager (.message {}), .manager (.task {})]

/-- The run is orderly, and comes to the end of the wait of the manager. -/
theorem exit_ordered_exitOfTwo :
    AllSteps (Program.step {}) (fun p _ p' => ExitOrdered p p') (programInit {} loaded) exitOfTwo ∧
      ((exec (Program.step {}) (fun p a => decide (Orderly p a)) (programInit {} loaded) exitOfTwo).any
        fun p => p.manager.info.status = .exitStage1) = true :=
  ⟨exit_ordered {} loaded exitOfTwo (by decide), by decide⟩

/-- A format of the card makes the player initialise itself again, before the exit. -/
def formatThenExit : List ProgramAction :=
  startTwo .player .aliyun ++ [.server .player (.arrive { message := msgDeviceSdFormatStart })] ++
    mains 6 .player ++ requestExit ++ mains 7 .player

/-- After that the player does not wait for the aliyun server. -/
theorem formatThenExit_not_ordered : ∃ p a p', Reach (Program.step {}) AllRuns (programInit {} loaded) p ∧
    Program.step {} p a = some p' ∧ ¬ ExitOrdered p p' := by
  have hrun : ((exec (Program.step {}) (fun _ _ => true) (programInit {} loaded) formatThenExit).any
      fun p => (Program.step {} p (.server .player (.main {}))).any fun p' =>
        decide ((p.server .player).info.status = .exitServer ∧
          (p'.server .player).info.status = .exitStage1 ∧ Running p .aliyun)) = true := by
    decide
  obtain ⟨p, p', hreach, hstep, hserver, hnext, hrunning⟩ :=
    Reach.exists_step_of_exec (fun _ _ _ => trivial) hrun
  refine ⟨p, _, p', hreach, hstep, fun hordered => ?_⟩
  exact hordered.server .player hserver hnext .aliyun (by decide) hrunning

end GokeWebcam.Webcam
