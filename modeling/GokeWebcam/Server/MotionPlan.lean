import GokeWebcam.Global.Interface
import GokeWebcam.Server.ConfigProperty

/-!
# The plan of the motion alarm

The cloud sets `AlarmNotifyPlan` to an array with an entry for each weekday that has an interval.
`Ali_SetAlarmNotifyPlan` sends the video server one message for an entry; the server writes one row of
the scheduler for a message. A timer compares the local time with the row of the weekday.

`parse` is `cJSON_Parse`. A read through a null pointer has no result.

* `aliSetAlarmNotifyPlan`, `videoSetMotionPlan`, `videoMdCheckSchedulerTime`: the three functions.
* `row_handle`: after some messages a row is what the last message for its day says.
* `PlanHeld`: the scheduler holds a plan and nothing else, and the alarm follows it.
* `planHeld_iff`: after any sequence of plans the last one is held iff every weekday that had an
  interval before is in it.
* `planHeld_shrunk`: a plan with fewer days.
-/

namespace GokeWebcam.Server.Property

open Lib Common Global

/-! ### Sending a plan -/

/-- An entry of the plan. -/
structure PlanEntry where
  day : CInt
  beginTime : CInt
  endTime : CInt
  deriving DecidableEq, Repr

/-- Source: `server/video/video_interface.h` `VIDEO_PROPERTY_MOTION_PLAN` -/
def videoPropertyMotionPlan : CInt := 0x0013#32

/-- The name of the property.
Source: `server/aliyun/linkkit_client.c` `gAliCmdMap` -/
def alarmNotifyPlan : List Char := "AlarmNotifyPlan".toList

/-- Source: `server/aliyun/linkkit_client.c` `Ali_SetAlarmNotifyPlan`, `day`, `begin` and `end` -/
def planEntry (item : CJson) : Option PlanEntry :=
  (CJson.getObjectItem "DayOfWeek".toList item).bind fun day =>
    (CJson.getObjectItem "BeginTime".toList item).bind fun begin =>
      (CJson.getObjectItem "EndTime".toList item).map fun finish =>
        ⟨day.valueint, begin.valueint, finish.valueint⟩

/-- Source: `server/aliyun/linkkit_client.c` `Ali_SetAlarmNotifyPlan`, the message of an entry -/
def planMessage (devid : CInt) (entry : PlanEntry) : Message where
  message := msgVideoPropertySetDirect
  argIn := { cat := videoPropertyMotionPlan, dog := entry.day, chick := entry.beginTime,
             duck := entry.endTime }
  argPass := { wolf := devid, cat := videoPropertyMotionPlan }

/-- Source: `server/aliyun/linkkit_client.c` `Ali_SetAlarmNotifyPlan`, the `while` loop -/
def planMessages (devid : CInt) : List CJson → Option (List Message)
  | [] => some []
  | item :: items => (planEntry item).bind fun entry =>
      (planMessages devid items).map fun msgs => planMessage devid entry :: msgs

/-- The messages sent to the video server; `msg` is what the variable holds when nothing has set it.
Source: `server/aliyun/linkkit_client.c` `Ali_SetAlarmNotifyPlan` -/
def aliSetAlarmNotifyPlan (parse : List Char → Option CJson) (msg : Message) (devid : CInt)
    (pData : List Char) : Option (List Message) :=
  match parse pData with
  | none => some []
  | some root =>
    match CJson.getObjectItem alarmNotifyPlan root with
    | some (.array child) => planMessages devid child
    | _ => some [{ msg with
        message := msgVideoPropertySetDirect
        argIn := { msg.argIn with cat := videoPropertyMotionPlan, dog := -1#32, chick := -1#32,
                                  duck := -1#32 }
        argPass := { msg.argPass with cat := videoPropertyMotionPlan } }]

/-- The messages of several requests, in their order. -/
def sentMessages (parse : List Char → Option CJson) (msg : Message) (devid : CInt) :
    List (List Char) → Option (List Message)
  | [] => some []
  | pData :: requests => (aliSetAlarmNotifyPlan parse msg devid pData).bind fun msgs =>
      (sentMessages parse msg devid requests).map fun rest => msgs ++ rest

/-! ### Holding it -/

/-- Source: `server/video/video.c` `video_set_property`, `VIDEO_PROPERTY_MOTION_PLAN` -/
def videoSetMotionPlan (env : Surroundings) (config : Memory) (msg : Message) : Option Memory :=
  (applyProperty env config
    (.motionPlan msg.argIn.dog msg.argIn.chick msg.argIn.duck)).map (·.1)

/-- The video server handles the messages. -/
def handlePlans (env : Surroundings) : Memory → List Message → Option Memory
  | config, [] => some config
  | config, msg :: msgs => (videoSetMotionPlan env config msg).bind fun config =>
      handlePlans env config msgs

def intOf (config : Memory) (member : Member) : CInt := readNumber .cfgU32 config member.offset

/-- `_config_.motion_scheduler[day]`. -/
def row (config : Memory) (day : Fin 7) : CInt × CInt :=
  (intOf config (.motionSchedulerBegin day), intOf config (.motionSchedulerEnd day))

/-- The members of `struct tm` that are read. -/
structure LocalTime where
  tmWday : Fin 7
  tmHour : ℕ
  tmMin : ℕ
  tmSec : ℕ

/-- The time of the day in seconds. -/
def LocalTime.seconds (t : LocalTime) : ℤ := t.tmHour * 3600 + t.tmMin * 60 + t.tmSec

/-- Whether the function returns 0.
Source: `server/video/video.c` `video_md_check_scheduler_time` -/
def videoMdCheckSchedulerTime (config : Memory) (t : LocalTime) : Bool :=
  if byteOf config .motionSchedulerEnable = 0#32 then true
  else if (row config t.tmWday).2 ≠ 0#32 then
    (row config t.tmWday).1.toInt ≤ t.seconds && t.seconds ≤ (row config t.tmWday).2.toInt
  else false

/-- `running_info.md_run` after the call.
Source: `server/video/video.c` `video_md_check_scheduler` -/
def videoMdCheckScheduler (config : Memory) (t : LocalTime) : Bool :=
  if videoMdCheckSchedulerTime config t then true else false

/-! ### Plans -/

/-- An entry for a weekday with an interval that has an end. -/
structure EntryOk (entry : PlanEntry) : Prop where
  day : 0 ≤ entry.day.toInt ∧ entry.day.toInt ≤ 6
  interval : 0 ≤ entry.beginTime.toInt ∧ entry.beginTime.toInt ≤ entry.endTime.toInt
  endTime : 0 < entry.endTime.toInt

/-- At least one entry, and at most one for each weekday. -/
structure PlanOk (plan : List PlanEntry) : Prop where
  ne_nil : plan ≠ []
  nodup : (plan.map (·.day)).Nodup
  entries : ∀ entry ∈ plan, EntryOk entry

/-- The text of a request for a plan. -/
structure Requests (parse : List Char → Option CJson) (pData : List Char)
    (plan : List PlanEntry) : Prop where
  parsed : ∃ root child, parse pData = some root ∧
    CJson.getObjectItem alarmNotifyPlan root = some (.array child) ∧
    child.map planEntry = plan.map some
  ok : PlanOk plan

/-- The plan has an entry for the weekday. -/
def Lists (plan : List PlanEntry) (day : Fin 7) : Prop := ∃ entry ∈ plan, entry.day.toInt = day.val

/-- The scheduler holds the intervals of the plan and no others, and motion is looked for exactly in
the interval of the day. -/
structure PlanHeld (plan : List PlanEntry) (config : Memory) : Prop where
  listed : ∀ entry ∈ plan, ∀ day : Fin 7, entry.day.toInt = day.val →
    row config day = (entry.beginTime, entry.endTime)
  unlisted : ∀ day, ¬ Lists plan day → (row config day).2 = 0#32
  enabled : ∀ t : LocalTime, videoMdCheckScheduler config t = true ↔
    ∃ entry ∈ plan, entry.day.toInt = t.tmWday.val ∧
      entry.beginTime.toInt ≤ t.seconds ∧ t.seconds ≤ entry.endTime.toInt

/-! ### The rows -/

variable {config config' : Memory} {env : Surroundings} {entry : PlanEntry} {day d : Fin 7}
  {plan : List PlanEntry} {m m' : Member} {v : CInt} {devid : CInt}

/-- An assigned `int` is read back. -/
theorem intOf_assignInt : intOf (assignInt config m v) m = v :=
  readNumber_writeNumber (by decide) (BitVec.le_toInt v)
    (Int.le_of_lt_add_one (BitVec.toInt_lt (x := v)))

/-- An assignment elsewhere leaves an `int` alone. -/
theorem intOf_assignInt_of_disjoint
    (h : m.offset + 4 ≤ m'.offset ∨ m'.offset + 4 ≤ m.offset) :
    intOf (assignInt config m v) m' = intOf config m' := by
  apply readNumber_congr
  intro i hle hlt
  have hlt : i < m'.offset + 4 := hlt
  rcases h with h | h
  · exact writeNumber_of_le (show m.offset + 4 ≤ i by omega)
  · exact writeNumber_of_lt (by omega)

theorem intOf_assignByte_of_disjoint
    (h : m.offset + 1 ≤ m'.offset ∨ m'.offset + 4 ≤ m.offset) :
    intOf (assignByte config m v) m' = intOf config m' := by
  apply readNumber_congr
  intro i hle hlt
  have hlt : i < m'.offset + 4 := hlt
  rcases h with h | h
  · exact writeNumber_of_le (show m.offset + 1 ≤ i by omega)
  · exact writeNumber_of_lt (by omega)

/-- The plan of a day is its row, and the other rows stay. -/
theorem row_setMotionPlan (chick duck : CInt) :
    row (setMotionPlan config day chick duck) d =
      if d = day then (chick, duck) else row config d := by
  have hbegin : intOf (setMotionPlan config day chick duck) (.motionSchedulerBegin d) =
      if d = day then chick else intOf config (.motionSchedulerBegin d) := by
    rw [setMotionPlan, intOf_assignByte_of_disjoint (by simp [Member.offset]),
      intOf_assignInt_of_disjoint (by simp only [Member.offset]; omega)]
    by_cases hd : d = day
    · rw [if_pos hd, hd, intOf_assignInt]
    · have hval : (d : ℕ) ≠ day := fun heq => hd (Fin.ext heq)
      rw [if_neg hd, intOf_assignInt_of_disjoint (by simp only [Member.offset]; omega)]
  have hend : intOf (setMotionPlan config day chick duck) (.motionSchedulerEnd d) =
      if d = day then duck else intOf config (.motionSchedulerEnd d) := by
    rw [setMotionPlan, intOf_assignByte_of_disjoint (by simp only [Member.offset]; omega)]
    by_cases hd : d = day
    · rw [if_pos hd, hd, intOf_assignInt]
    · have hval : (d : ℕ) ≠ day := fun heq => hd (Fin.ext heq)
      rw [if_neg hd, intOf_assignInt_of_disjoint (by simp only [Member.offset]; omega),
        intOf_assignInt_of_disjoint (by simp only [Member.offset]; omega)]
  rw [row, hbegin, hend]
  split_ifs <;> rfl

/-- With a plan the scheduler is on. -/
theorem byteOf_setMotionPlan (chick duck : CInt) :
    byteOf (setMotionPlan config day chick duck) .motionSchedulerEnable = 1#32 :=
  readNumber_writeNumber (by decide) (by decide) (by decide)

/-- The message of an entry sets the row of its day. -/
theorem videoSetMotionPlan_eq (h : EntryOk entry) : ∃ day : Fin 7, entry.day.toInt = day.val ∧
    videoSetMotionPlan env config (planMessage devid entry) =
      some (setMotionPlan config day entry.beginTime entry.endTime) := by
  obtain ⟨hlo, hhi⟩ := h.day
  have hne : ¬ entry.day = -1#32 := by
    intro heq
    rw [heq] at hlo
    exact absurd hlo (by decide)
  have hday : 0 ≤ entry.day.toInt ∧ entry.day.toInt < 7 := ⟨hlo, by omega⟩
  refine ⟨⟨entry.day.toInt.toNat, by omega⟩, by simp [hlo], ?_⟩
  have hmsg : applyProperty env config (.motionPlan entry.day entry.beginTime entry.endTime) =
      some (setMotionPlan config ⟨entry.day.toInt.toNat, by omega⟩ entry.beginTime entry.endTime,
        true) := by
    rw [applyProperty, if_neg hne, dif_pos hday]
  exact congrArg (Option.map (·.1)) hmsg

/-! ### Sequences of messages -/

/-- A row after some entries, by the entries alone. -/
def rowAfter (d : Fin 7) : List PlanEntry → CInt × CInt → CInt × CInt
  | [], old => old
  | entry :: entries, old =>
    rowAfter d entries
      (if entry.day.toInt = d.val then (entry.beginTime, entry.endTime) else old)

theorem rowAfter_append (entries entries' : List PlanEntry) (old : CInt × CInt) :
    rowAfter d (entries ++ entries') old = rowAfter d entries' (rowAfter d entries old) := by
  induction entries generalizing old with
  | nil => rfl
  | cons entry entries ih =>
      rw [List.cons_append, rowAfter, rowAfter]
      exact ih _

/-- The messages of the entries are all handled; each row is what the entries make of it, and the
scheduler is on if there was an entry. -/
theorem handlePlans_eq (entries : List PlanEntry) (h : ∀ entry ∈ entries, EntryOk entry) :
    ∃ config', handlePlans env config (entries.map (planMessage devid)) = some config' ∧
      (∀ d, row config' d = rowAfter d entries (row config d)) ∧
      (entries ≠ [] → byteOf config' .motionSchedulerEnable = 1#32) := by
  induction entries generalizing config with
  | nil => exact ⟨config, rfl, fun _ => rfl, fun hne => absurd rfl hne⟩
  | cons entry entries ih =>
      rw [List.forall_mem_cons] at h
      obtain ⟨day, hday, hset⟩ := @videoSetMotionPlan_eq config env entry devid h.1
      obtain ⟨config', hrest, hrows, henable⟩ :=
        @ih (setMotionPlan config day entry.beginTime entry.endTime) h.2
      refine ⟨config', ?_, fun d => ?_, fun _ => ?_⟩
      · rw [List.map_cons, handlePlans, hset, Option.bind_some, hrest]
      · have hiff : d = day ↔ entry.day.toInt = d.val := by
          rw [hday, Fin.ext_iff]
          omega
        rw [hrows, row_setMotionPlan, rowAfter]
        simp only [hiff]
      · rcases entries with _ | ⟨next, entries⟩
        · cases hrest
          exact byteOf_setMotionPlan _ _
        · exact henable (List.cons_ne_nil _ _)

/-- What the cloud sends for a request is the messages of its entries. -/
theorem aliSetAlarmNotifyPlan_eq {parse : List Char → Option CJson} {msg : Message}
    {pData : List Char} (h : Requests parse pData plan) :
    aliSetAlarmNotifyPlan parse msg devid pData = some (plan.map (planMessage devid)) := by
  obtain ⟨root, child, hparse, hitem, hentries⟩ := h.parsed
  have hmessages : ∀ (child : List CJson) (plan : List PlanEntry),
      child.map planEntry = plan.map some →
        planMessages devid child = some (plan.map (planMessage devid)) := by
    intro child
    induction child with
    | nil =>
        intro plan hmap
        rw [List.map_nil, eq_comm, List.map_eq_nil_iff] at hmap
        rw [hmap]
        rfl
    | cons item items ih =>
        intro plan hmap
        rcases plan with _ | ⟨entry, rest⟩
        · cases hmap
        · rw [List.map_cons, List.map_cons, List.cons.injEq] at hmap
          rw [planMessages, hmap.1, Option.bind_some, ih rest hmap.2]
          rfl
  rw [aliSetAlarmNotifyPlan, hparse]
  simp only [hitem]
  exact hmessages child plan hentries

theorem sentMessages_eq {parse : List Char → Option CJson} {msg : Message}
    {requests : List (List Char)} {plans : List (List PlanEntry)}
    (h : List.Forall₂ (Requests parse) requests plans) :
    sentMessages parse msg devid requests =
      some (plans.flatten.map (planMessage devid)) := by
  induction h with
  | nil => rfl
  | cons hfirst _ ih =>
      rw [sentMessages, aliSetAlarmNotifyPlan_eq hfirst, Option.bind_some, ih, List.flatten_cons,
        List.map_append]
      rfl

/-! ### What a row holds -/

/-- Without an entry for the day the row stays. -/
theorem rowAfter_of_not_lists {entries : List PlanEntry} (h : ¬ Lists entries d)
    (old : CInt × CInt) : rowAfter d entries old = old := by
  induction entries generalizing old with
  | nil => rfl
  | cons entry entries ih =>
      have hfirst : ¬ entry.day.toInt = d.val := fun heq => h ⟨entry, List.mem_cons_self, heq⟩
      have hrest : ¬ Lists entries d := by
        rintro ⟨e, he, heq⟩
        exact h ⟨e, List.mem_cons_of_mem _ he, heq⟩
      rw [rowAfter, if_neg hfirst]
      exact ih hrest old

/-- With entries for the day the row is one of them. -/
theorem exists_rowAfter {entries : List PlanEntry} (h : Lists entries d) (old : CInt × CInt) :
    ∃ entry ∈ entries, entry.day.toInt = d.val ∧
      rowAfter d entries old = (entry.beginTime, entry.endTime) := by
  induction entries generalizing old with
  | nil =>
      obtain ⟨entry, hmem, -⟩ := h
      cases hmem
  | cons entry entries ih =>
      rw [rowAfter]
      by_cases hrest : Lists entries d
      · obtain ⟨e, he, hday, hrow⟩ := ih hrest (if entry.day.toInt = d.val then
          (entry.beginTime, entry.endTime) else old)
        exact ⟨e, List.mem_cons_of_mem _ he, hday, hrow⟩
      · have hfirst : entry.day.toInt = d.val := by
          obtain ⟨e, he, hday⟩ := h
          rcases List.mem_cons.mp he with rfl | he
          · exact hday
          · exact absurd ⟨e, he, hday⟩ hrest
        refine ⟨entry, List.mem_cons_self, hfirst, ?_⟩
        rw [if_pos hfirst]
        exact rowAfter_of_not_lists hrest _

/-- A plan has one entry for a weekday. -/
theorem eq_of_day (h : PlanOk plan) {e e' : PlanEntry} (he : e ∈ plan) (he' : e' ∈ plan)
    (heq : e.day.toInt = e'.day.toInt) : e = e' :=
  List.inj_on_of_nodup_map h.nodup he he' (BitVec.eq_of_toInt_eq heq)

/-- After a plan, the row of a day it lists is that of its entry. -/
theorem rowAfter_of_mem (h : PlanOk plan) (he : entry ∈ plan) (hday : entry.day.toInt = d.val)
    (old : CInt × CInt) : rowAfter d plan old = (entry.beginTime, entry.endTime) := by
  obtain ⟨e, hmem, heday, hrow⟩ := exists_rowAfter ⟨entry, he, hday⟩ old
  rw [hrow, eq_of_day h he hmem (hday.trans heday.symm)]

/-! ### Holding a plan -/

/-- An interval that has an end is not the row of a day without one. -/
theorem EntryOk.endTime_ne (h : EntryOk entry) : entry.endTime ≠ 0#32 := by
  intro hzero
  have hend := h.endTime
  rw [hzero] at hend
  exact absurd hend (by decide)

/-- With the scheduler on, motion is looked for in the interval of the row. -/
theorem videoMdCheckScheduler_iff (henable : byteOf config .motionSchedulerEnable = 1#32)
    (t : LocalTime) : videoMdCheckScheduler config t = true ↔ (row config t.tmWday).2 ≠ 0#32 ∧
      (row config t.tmWday).1.toInt ≤ t.seconds ∧ t.seconds ≤ (row config t.tmWday).2.toInt := by
  have hne : ¬ byteOf config .motionSchedulerEnable = 0#32 := by
    rw [henable]
    decide
  rw [videoMdCheckScheduler, videoMdCheckSchedulerTime, if_neg hne]
  by_cases hend : (row config t.tmWday).2 = 0#32
  · simp [hend]
  · simp [hend]

/-- A scheduler with the rows of the plan and no others follows it. -/
theorem planHeld_of_rows (h : PlanOk plan) (henable : byteOf config .motionSchedulerEnable = 1#32)
    (hlisted : ∀ entry ∈ plan, ∀ day : Fin 7, entry.day.toInt = day.val →
      row config day = (entry.beginTime, entry.endTime))
    (hunlisted : ∀ day, ¬ Lists plan day → (row config day).2 = 0#32) : PlanHeld plan config := by
  refine ⟨hlisted, hunlisted, fun t => ?_⟩
  rw [videoMdCheckScheduler_iff henable]
  by_cases hday : Lists plan t.tmWday
  · obtain ⟨entry, hmem, heq⟩ := hday
    rw [hlisted entry hmem t.tmWday heq]
    constructor
    · rintro ⟨-, hbegin, hend⟩
      exact ⟨entry, hmem, heq, hbegin, hend⟩
    · rintro ⟨other, hother, hsame, hbegin, hend⟩
      obtain rfl := eq_of_day h hmem hother (heq.trans hsame.symm)
      exact ⟨(h.entries entry hmem).endTime_ne, hbegin, hend⟩
  · constructor
    · rintro ⟨hne, -⟩
      exact absurd (hunlisted _ hday) hne
    · rintro ⟨entry, hmem, heq, -⟩
      exact absurd ⟨entry, hmem, heq⟩ hday

theorem planOk_of_requests {parse : List Char → Option CJson} {requests : List (List Char)}
    {plans : List (List PlanEntry)} (h : List.Forall₂ (Requests parse) requests plans) :
    ∀ plan ∈ plans, PlanOk plan := by
  induction h with
  | nil => simp
  | cons hfirst _ ih => exact List.forall_mem_cons.mpr ⟨hfirst.ok, ih⟩

/-- After any sequence of plans, the scheduler holds the last one and no other interval, and motion
is looked for by it, iff every weekday that had an interval before, of an earlier plan or from the
start, is in the last plan. -/
theorem planHeld_iff {parse : List Char → Option CJson} (msg : Message) (devid : CInt)
    (env : Surroundings) (config : Memory) {requests : List (List Char)}
    {earlier : List (List PlanEntry)} {last : List PlanEntry}
    (h : List.Forall₂ (Requests parse) requests (earlier ++ [last])) :
    ∃ config', (sentMessages parse msg devid requests).bind (handlePlans env config) =
        some config' ∧
      (PlanHeld last config' ↔ ∀ day, ¬ Lists last day →
        (row config day).2 = 0#32 ∧ ∀ plan ∈ earlier, ¬ Lists plan day) := by
  have hok := planOk_of_requests h
  have hlast : PlanOk last := hok last (by simp)
  have hentries : ∀ entry ∈ (earlier ++ [last]).flatten, EntryOk entry := by
    intro entry hentry
    obtain ⟨plan, hplan, hmem⟩ := List.mem_flatten.mp hentry
    exact (hok plan hplan).entries entry hmem
  obtain ⟨config', hhandle, hrows, henable⟩ :=
    @handlePlans_eq config env devid (earlier ++ [last]).flatten hentries
  have hflatten : (earlier ++ [last]).flatten = earlier.flatten ++ last := by simp
  have hrows : ∀ d, row config' d = rowAfter d last (rowAfter d earlier.flatten (row config d)) := by
    intro d
    rw [hrows, hflatten, rowAfter_append]
  have hon : byteOf config' .motionSchedulerEnable = 1#32 := by
    apply henable
    rw [hflatten]
    exact List.append_ne_nil_of_right_ne_nil _ hlast.ne_nil
  refine ⟨config', by rw [sentMessages_eq h, Option.bind_some, hhandle], ?_⟩
  constructor
  · intro hheld day hday
    have hzero := hheld.unlisted day hday
    rw [hrows, rowAfter_of_not_lists hday] at hzero
    have hbefore : ¬ Lists earlier.flatten day := by
      intro hlists
      obtain ⟨entry, hmem, -, hrow⟩ := exists_rowAfter hlists (row config day)
      rw [hrow] at hzero
      exact (hentries entry (hflatten ▸ List.mem_append_left _ hmem)).endTime_ne hzero
    rw [rowAfter_of_not_lists hbefore] at hzero
    refine ⟨hzero, fun plan hplan hlists => hbefore ?_⟩
    obtain ⟨entry, hmem, hentry⟩ := hlists
    exact ⟨entry, List.mem_flatten.mpr ⟨plan, hplan, hmem⟩, hentry⟩
  · intro hcond
    apply planHeld_of_rows hlast hon
    · intro entry hmem day hday
      rw [hrows, rowAfter_of_mem hlast hmem hday]
    · intro day hday
      obtain ⟨hzero, hearlier⟩ := hcond day hday
      have hbefore : ¬ Lists earlier.flatten day := by
        rintro ⟨entry, hmem, hentry⟩
        obtain ⟨plan, hplan, hin⟩ := List.mem_flatten.mp hmem
        exact hearlier plan hplan ⟨entry, hin, hentry⟩
      rw [hrows, rowAfter_of_not_lists hday, rowAfter_of_not_lists hbefore]
      exact hzero

/-- The item of an entry. -/
def planItem (entry : PlanEntry) : CJson :=
  .object [("DayOfWeek".toList, .number entry.day), ("BeginTime".toList, .number entry.beginTime),
    ("EndTime".toList, .number entry.endTime)]

/-- A plan for Sunday, and one for Sunday and Monday. -/
def shortPlan : List PlanEntry := [⟨0#32, 3600#32, 7200#32⟩]

def longPlan : List PlanEntry := [⟨0#32, 0#32, 86400#32⟩, ⟨1#32, 60#32, 120#32⟩]

/-- Reads `s` as the short plan and `l` as the long one. -/
def parsePlans (text : List Char) : Option CJson :=
  let plan := if text = ['s'] then shortPlan else longPlan
  some (.object [(alarmNotifyPlan, .array (plan.map planItem))])

theorem shortPlan_ok : PlanOk shortPlan := by
  refine ⟨by simp [shortPlan], by decide, ?_⟩
  intro entry hentry
  rw [shortPlan, List.mem_singleton] at hentry
  subst hentry
  exact ⟨by decide, by decide, by decide⟩

theorem longPlan_ok : PlanOk longPlan := by
  refine ⟨by simp [longPlan], by decide, ?_⟩
  intro entry hentry
  simp only [longPlan, List.mem_cons, List.not_mem_nil, or_false] at hentry
  rcases hentry with rfl | rfl
  · exact ⟨by decide, by decide, by decide⟩
  · exact ⟨by decide, by decide, by decide⟩

/-- A day is added to the plan of a new camera. -/
theorem planHeld_grown : ∃ config', (sentMessages parsePlans {} 0#32 [['s'], ['l']]).bind
    (handlePlans ⟨true, true, true, true, true, ⟨true, 0⟩⟩ zeroed) = some config' ∧
      PlanHeld longPlan config' := by
  have hshort : Requests parsePlans ['s'] shortPlan := ⟨⟨_, _, rfl, rfl, rfl⟩, shortPlan_ok⟩
  have hlong : Requests parsePlans ['l'] longPlan := ⟨⟨_, _, rfl, rfl, rfl⟩, longPlan_ok⟩
  obtain ⟨config', hhandled, hiff⟩ := @planHeld_iff parsePlans {} 0#32
    ⟨true, true, true, true, true, ⟨true, 0⟩⟩ zeroed [['s'], ['l']] [shortPlan] longPlan
    (.cons hshort (.cons hlong .nil))
  refine ⟨config', hhandled, hiff.mpr fun day hday => ⟨?_, ?_⟩⟩
  · have hall : ∀ day : Fin 7, (row zeroed day).2 = 0#32 := by decide
    exact hall day
  · intro plan hplan hlists
    rw [List.mem_singleton] at hplan
    subst hplan
    obtain ⟨entry, hentry, heq⟩ := hlists
    rw [shortPlan, List.mem_singleton] at hentry
    subst hentry
    exact hday ⟨⟨0#32, 0#32, 86400#32⟩, by simp [longPlan], heq⟩

/-- A day that is taken out of the plan stays in the scheduler. -/
theorem planHeld_shrunk : ∃ config', (sentMessages parsePlans {} 0#32 [['l'], ['s']]).bind
    (handlePlans ⟨true, true, true, true, true, ⟨true, 0⟩⟩ zeroed) = some config' ∧
      ¬ PlanHeld shortPlan config' := by
  refine ⟨_, rfl, fun hheld => ?_⟩
  have hmonday : ¬ Lists shortPlan 1 := by
    rintro ⟨entry, hentry, heq⟩
    rw [shortPlan, List.mem_singleton] at hentry
    subst hentry
    exact absurd heq (by decide)
  exact absurd (hheld.unlisted 1 hmonday) (by decide)

end GokeWebcam.Server.Property
