import GokeWebcam.Server.PropertyGet

/-!
# What setting a property leaves alone

* `untouched_applyProperty`: the members that a message is not for keep their bytes, when a text ends in its
  member.
* `told_of_apply`: when the property of a message is reported, all that has changed is.
* `stringItemsFit_of_set`: the file can be read after a write that stops anywhere.
-/

namespace GokeWebcam.Server.Property

open Lib Common Global Manager Aliyun

/-- The members that a message is for. -/
def PropertySet.members : PropertySet → List Member
  | .byte property _ => [property.member]
  | .motionSensitivity _ => [.motionDetectSensitivity]
  | .imageFlip _ => [.videoMirror]
  | .motionPlan _ _ _ => .motionSchedulerEnable ::
      (List.finRange 7).flatMap fun day => [.motionSchedulerBegin day, .motionSchedulerEnd day]
  | .ipcVersion _ => [.ipcVersion]
  | .deviceName _ => [.deviceName]
  | .deviceTimeZone _ => [.timeZone]

/-- A text ends in its member. -/
def PropertySet.TextFits : PropertySet → Prop
  | .ipcVersion valuestring => valuestring.strlen < Member.ipcVersion.size
  | .deviceName valuestring => valuestring.strlen < Member.deviceName.size
  | _ => True

/-- A member has an entry in the table. -/
def Listed (member : Member) : Prop := ∃ e ∈ configProfileMap, e.dataAddress = member

/-- A member keeps its bytes. -/
def Untouched (m m' : Memory) (member : Member) : Prop :=
  ∀ i, member.offset ≤ i → i < member.offset + member.size → m' i = m i

variable {m m' config config' saved w : Memory} {a b member : Member} {env : Surroundings} {msg : PropertySet}
  {save : Bool} {v temp : CInt} {str : CStr} {k l : Kept} {e : ConfigMap} {report : Report}
  {file file' : Option (List Char)} {o : WriteOutcome} {ret : CInt} {days : List (Fin 7)}

theorem untouched_refl : Untouched m m member := fun _ _ _ => rfl

theorem Untouched.trans (h : Untouched m m' member) (h' : Untouched m' config member) :
    Untouched m config member :=
  fun i hlo hhi => (h' i hlo hhi).trans (h i hlo hhi)

/-! ### Writes -/

theorem disjoint_of_listed (ha : Listed a) (hb : Listed b) (hne : a ≠ b) :
    a.offset + a.size ≤ b.offset ∨ b.offset + b.size ≤ a.offset := by
  obtain ⟨e, he, rfl⟩ := ha
  obtain ⟨f, hf, rfl⟩ := hb
  exact disjoint_of_ne he hf fun h => hne (congrArg _ h)

/-- A number that fills its member. -/
theorem untouched_writeNumber {t : ConfigDataType} (hwidth : t.width = a.size) (ha : Listed a) (hb : Listed b)
    (hne : b ≠ a) : Untouched m (writeNumber t m a.offset v) b := by
  intro i hlo hhi
  rcases disjoint_of_listed hb ha hne with h | h
  · exact writeNumber_of_lt (by omega)
  · exact writeNumber_of_le (by omega)

theorem untouched_storeStr (hfits : str.strlen < a.size) (ha : Listed a) (hb : Listed b) (hne : b ≠ a) :
    Untouched m (storeStr m a.offset str) b := by
  intro i hlo hhi
  rcases disjoint_of_listed hb ha hne with h | h
  · exact storeStr_of_lt (by omega)
  · exact storeStr_of_le (by omega)

theorem untouched_assignByte (hsize : a.size = 1) (ha : Listed a) (hb : Listed b) (hne : b ≠ a) :
    Untouched m (assignByte m a temp) b :=
  untouched_writeNumber hsize.symm ha hb hne

theorem untouched_setByte (hsize : a.size = 1) (ha : Listed a) (hb : Listed b) (hne : b ≠ a) :
    Untouched m (setByte m a temp).1 b := by
  unfold setByte
  split_ifs
  · exact untouched_assignByte hsize ha hb hne
  · exact untouched_refl

theorem listed_property (property : ByteProperty) : Listed property.member ∧ property.member.size = 1 := by
  obtain ⟨e, he, heq, -⟩ := exists_byte_entry property
  exact ⟨⟨e, he, heq⟩, by cases property <;> rfl⟩

theorem listed_day (day : Fin 7) : Listed (.motionSchedulerBegin day) ∧ Listed (.motionSchedulerEnd day) := by
  obtain ⟨e, he, heq, -⟩ := exists_begin_entry day
  obtain ⟨f, hf, hfeq, -⟩ := exists_end_entry day
  exact ⟨⟨e, he, heq⟩, ⟨f, hf, hfeq⟩⟩

theorem listed_enable : Listed .motionSchedulerEnable := by
  obtain ⟨e, he, heq, -⟩ := exists_enable_entry
  exact ⟨e, he, heq⟩

theorem listed_other : ∀ member ∈ [Member.motionDetectSensitivity, .videoMirror, .ipcVersion, .deviceName, .timeZone],
    Listed member := by
  unfold Listed
  decide

/-- A member that is not in a plan. -/
def OffPlan (member : Member) : Prop :=
  ∀ day, member ≠ .motionSchedulerBegin day ∧ member ≠ .motionSchedulerEnd day

theorem untouched_day (hb : Listed b) (hnot : OffPlan b) (day : Fin 7) {chick duck : CInt} :
    Untouched m (assignInt (assignInt m (.motionSchedulerBegin day) chick) (.motionSchedulerEnd day) duck) b :=
  (untouched_writeNumber rfl (listed_day day).1 hb (hnot day).1).trans
    (untouched_writeNumber rfl (listed_day day).2 hb (hnot day).2)

theorem untouched_days (hb : Listed b) (hnot : OffPlan b) :
    Untouched m (days.foldl (fun config day => assignInt (assignInt config (.motionSchedulerBegin day) 0#32)
      (.motionSchedulerEnd day) 0#32) m) b := by
  induction days generalizing m with
  | nil => exact untouched_refl
  | cons day days ih => exact (untouched_day hb hnot day).trans ih

/-- The members that a message is not for keep their bytes. -/
theorem untouched_applyProperty (hfits : msg.TextFits) (happly : applyProperty env config msg = some (config', save))
    (hb : Listed b) (hnot : b ∉ msg.members) : Untouched config config' b := by
  cases msg with
  | byte property temp =>
    have hset : (setByte config property.member temp).1 = config' := congrArg Prod.fst (Option.some.inj happly)
    rw [← hset]
    exact untouched_setByte (listed_property property).2 (listed_property property).1 hb (by simpa [PropertySet.members] using hnot)
  | motionSensitivity temp =>
    have hne : b ≠ .motionDetectSensitivity := by
      simpa [PropertySet.members] using hnot
    simp only [applyProperty, setMotionSensitivity] at happly
    split_ifs at happly with hcond hset
    · obtain ⟨-, -, happly⟩ := Option.map_eq_some_iff.mp happly
      rw [← (Prod.mk.inj happly).1]
      exact untouched_assignByte rfl (listed_other _ (by simp)) hb hne
    · obtain ⟨-, -, happly⟩ := Option.map_eq_some_iff.mp happly
      rw [← (Prod.mk.inj happly).1]
      exact untouched_refl
    · rw [← (Prod.mk.inj (Option.some.inj happly)).1]
      exact untouched_refl
  | imageFlip temp =>
    have heq := Option.some.inj happly
    unfold setImageFlip at heq
    split_ifs at heq
    · rw [← (Prod.mk.inj heq).1]
      exact untouched_refl
    · have hset : (setByte config .videoMirror temp).1 = config' := congrArg Prod.fst heq
      rw [← hset]
      exact untouched_setByte rfl (listed_other _ (by simp)) hb (by simpa [PropertySet.members] using hnot)
  | motionPlan dog chick duck =>
    have hplan : OffPlan b := by
      intro day
      refine ⟨fun h => hnot ?_, fun h => hnot ?_⟩ <;> simp [PropertySet.members, h]
    have henable : b ≠ .motionSchedulerEnable := fun h => hnot (by simp [PropertySet.members, h])
    simp only [applyProperty] at happly
    split_ifs at happly with hclear hday
    · rw [← (Prod.mk.inj (Option.some.inj happly)).1]
      exact (untouched_assignByte rfl listed_enable hb henable).trans (untouched_days hb hplan)
    · rw [← (Prod.mk.inj (Option.some.inj happly)).1]
      exact (untouched_day hb hplan _).trans (untouched_assignByte rfl listed_enable hb henable)
  | ipcVersion valuestring =>
    rw [← (Prod.mk.inj (Option.some.inj happly)).1]
    exact untouched_storeStr hfits (listed_other _ (by simp)) hb (by simpa [PropertySet.members] using hnot)
  | deviceName valuestring =>
    rw [← (Prod.mk.inj (Option.some.inj happly)).1]
    exact untouched_storeStr hfits (listed_other _ (by simp)) hb (by simpa [PropertySet.members] using hnot)
  | deviceTimeZone zone =>
    have heq := Option.some.inj happly
    unfold setTimeZone at heq
    split_ifs at heq
    · rw [← (Prod.mk.inj heq).1]
      exact untouched_refl
    · have hset : (setByte config .timeZone zone).1 = config' := congrArg Prod.fst heq
      rw [← hset]
      exact untouched_setByte rfl (listed_other _ (by simp)) hb (by simpa [PropertySet.members] using hnot)

/-! ### Values that are kept -/

theorem listed_of_mem_kept (hk : k ∈ kept) : Listed k.member := by
  have hall : ∀ k ∈ kept, Listed k.member := by
    unfold Listed
    decide
  exact hall k hk

/-- No two are kept in one member. -/
theorem eq_of_member (hk : k ∈ kept) (hl : l ∈ kept) (h : k.member = l.member) : k = l := by
  have hnodup : (kept.map (·.member)).Nodup := by decide
  exact List.inj_on_of_nodup_map hnodup hk hl h

theorem size_of_number (hk : k ∈ kept) (h : k.isString = false) : k.member.size = 1 := by
  have hall : ∀ k ∈ kept, k.isString = false → k.member.size = 1 := by decide
  exact hall k hk h

theorem item_of_untouched (hk : k ∈ kept) (h : Untouched m m' k.member) : k.item m' = k.item m := by
  unfold Kept.item
  split_ifs with hstring
  · rw [loadStr_congr h]
  · have hsize : k.member.size = 1 := size_of_number hk (by simpa using hstring)
    have hbyte : byteOf m' k.member = byteOf m k.member :=
      readNumber_congr fun i hlo hhi => h i hlo (by rw [hsize]; exact hhi)
    rw [hbyte]

/-- All strings of the table are kept. -/
theorem isSome_item (h : StringsFit configProfileMap config) (hk : k ∈ kept) : (k.item config).isSome = true := by
  have hentry : ∀ k ∈ kept, k.isString = true → ∃ e ∈ configProfileMap, e.isString = true ∧ e.dataAddress = k.member ∧
      e.max.toNat = k.member.size := by decide
  unfold Kept.item
  split_ifs with hstring
  · obtain ⟨e, he, hestring, hmember, hmax⟩ := hentry k hk hstring
    obtain ⟨s, hs⟩ := h e he hestring
    rw [hmember, hmax] at hs
    rw [hs]
    rfl
  · rfl

/-- A message whose text fits leaves strings that fit. -/
theorem stringsFit_applyProperty (h : StringsFit configProfileMap config) (hfits : msg.TextFits)
    (happly : applyProperty env config msg = some (config', save)) : StringsFit configProfileMap config' := by
  intro e he hstring
  have hmember : e.dataAddress = .ipcVersion ∨ e.dataAddress = .deviceName := by
    have hall : ∀ e ∈ configProfileMap, e.isString = true → e.dataAddress = .ipcVersion ∨ e.dataAddress = .deviceName := by
      decide
    exact hall e he hstring
  have hsize : e.max.toNat = e.dataAddress.size := loadStr_size he hstring
  by_cases hmem : e.dataAddress ∈ msg.members
  · have hstored : ∃ str, str.strlen < e.dataAddress.size ∧ config' = storeStr config e.dataAddress.offset str := by
      cases msg with
      | ipcVersion str =>
        have heq : e.dataAddress = .ipcVersion := by simpa [PropertySet.members] using hmem
        rw [heq]
        exact ⟨str, hfits, (Prod.mk.inj (Option.some.inj happly)).1.symm⟩
      | deviceName str =>
        have heq : e.dataAddress = .deviceName := by simpa [PropertySet.members] using hmem
        rw [heq]
        exact ⟨str, hfits, (Prod.mk.inj (Option.some.inj happly)).1.symm⟩
      | byte property temp =>
        rcases hmember with heq | heq <;> rw [heq] at hmem <;> cases property <;>
          exact absurd hmem (by simp [PropertySet.members, ByteProperty.member])
      | motionSensitivity | imageFlip | motionPlan | deviceTimeZone =>
        rcases hmember with heq | heq <;> rw [heq] at hmem <;>
          exact absurd hmem (by simp [PropertySet.members])
    obtain ⟨str, hlt, rfl⟩ := hstored
    exact ⟨str, by rw [hsize]; exact loadStr_storeStr hlt⟩
  · obtain ⟨str, hstr⟩ := h e he hstring
    have huntouched : Untouched config config' e.dataAddress :=
      untouched_applyProperty hfits happly ⟨e, he, rfl⟩ hmem
    rw [hsize] at hstr ⊢
    exact ⟨str, by rw [loadStr_congr huntouched]; exact hstr⟩

/-- All that has changed is reported, and what is reported is what is kept. -/
structure Told (config config' : Memory) (reports : List Report) : Prop where
  truthful : ∀ report ∈ reports, Truthful config' report
  changed : ∀ k ∈ kept, k.item config' = k.item config ∨ ∃ report ∈ reports, report.name = k.name

theorem told_nil : Told config config [] where
  truthful := List.forall_mem_nil _
  changed := fun _ _ => .inl rfl

/-- A message for no property that is kept. -/
theorem told_of_untouched (hfits : msg.TextFits) (happly : applyProperty env config msg = some (config', save))
    (hnot : ∀ k ∈ kept, k.member ∉ msg.members) : Told config config' [] where
  truthful := List.forall_mem_nil _
  changed := fun k hk =>
    .inl (item_of_untouched hk (untouched_applyProperty hfits happly (listed_of_mem_kept hk) (hnot k hk)))

/-- A message for one property, and the report of it. -/
theorem told_of_apply (hk : k ∈ kept) (hmembers : msg.members = [k.member]) (hfits : msg.TextFits)
    (happly : applyProperty env config msg = some (config', save))
    (hname : report.propName = (CStr.ofChars k.name).bytes) (hvalue : k.item config' = some report.value.item) :
    Told config config' [report] where
  truthful := by
    intro r hr
    rw [List.mem_singleton.mp hr]
    refine truthful_of_item (name_of_mem_kept hk) hname fun l hl heq => ?_
    rw [eq_of_name hl hk heq, hvalue]
  changed := by
    intro l hl
    by_cases heq : l = k
    · exact .inr ⟨report, List.mem_singleton_self _, by rw [name_of_propName (name_of_mem_kept hk) hname, heq]⟩
    · have hne : l.member ∉ msg.members := by
        rw [hmembers, List.mem_singleton]
        exact fun h => heq (eq_of_member hl hk h)
      exact .inl (item_of_untouched hl (untouched_applyProperty hfits happly (listed_of_mem_kept hl) hne))

/-! ### The file -/

theorem stringItemsFit_objectOf (h : StringsFit configProfileMap w) :
    StringItemsFit configProfileMap (some (objectOf w)) := by
  intro e he hstring js hjs
  obtain ⟨str, hstr⟩ := h e he hstring
  have hitem : CJson.getObjectItem e.stringName (objectOf w) = some (itemOf w e) :=
    getObjectItem_of_encode configProfileMap_wellFormed he
  rw [Option.bind_some, hitem, itemOf, encode_of_fit configProfileMap_wellFormed he hstring hstr] at hjs
  rw [loadStr_size he hstring] at hstr
  exact ⟨str, (Option.some.inj hjs).symm, strlen_of_loadStr hstr⟩

/-- The file can be read after a write that stops anywhere. -/
theorem stringItemsFit_of_set (hfile : StringItemsFit configProfileMap (loadJson parseText file))
    (h : StringsFit configProfileMap config) (hset : configSet printText o saved config file = some (ret, w, file')) :
    StringItemsFit configProfileMap (loadJson parseText file') := by
  rw [configSet_eq _ o file (json_copyConfig h)] at hset
  have htext : printText (objectOf config) = configText config := rfl
  rw [htext] at hset
  split_ifs at hset with hclosed hlt
  · cases hset
    exact hfile
  · cases hset
    rw [loadJson, Option.bind_some, parseText_take hlt]
    intro e he hstring js hjs
    cases hjs
  · cases hset
    rw [loadJson, Option.bind_some, parseText_configText]
    exact stringItemsFit_objectOf h

end GokeWebcam.Server.Property
