import GokeWebcam.Lib.Transition
import GokeWebcam.Server.Recorder

/-!
# The slots and the threads of the recorder

A slot of the table `jobs` is taken exactly while a thread for it exists, from `pthread_create` to
the end of the thread, which clears the slot. `Linked` says so; the lemmas follow it through the
functions that fill and clear slots.
-/

namespace GokeWebcam.Server.Recorder

open Common Global

variable {input : ServerInput} {s s' : State} {t u : RecorderThread} {i j : ℕ} {job : Job}

/-! ### Reading and writing a slot -/

theorem jobAt_congr (h : s'.own.jobs = s.own.jobs) : jobAt s' i = jobAt s i := by
  rw [jobAt, jobAt, h]

theorem jobAt_setJob (hi : i < s.own.jobs.length) : jobAt (setJob s i job) i = job := by
  simp [jobAt, setJob, hi]

theorem jobAt_setJob_of_ne (h : i ≠ j) : jobAt (setJob s i job) j = jobAt s j := by
  simp [jobAt, setJob, List.getElem?_set_ne h]

theorem lt_of_taken (h : (jobAt s i).status ≠ .none) : i < s.own.jobs.length := by
  by_contra hi
  rw [jobAt, List.getD_eq_default _ _ (le_of_not_gt hi)] at h
  exact h rfl

/-- A slot that is found is free. -/
theorem of_findIdx (h : (s.own.jobs.findIdx? fun job => job.status = .none) = some i) :
    i < s.own.jobs.length ∧ (jobAt s i).status = .none := by
  obtain ⟨hlt, hfree, -⟩ := List.findIdx?_eq_some_iff_getElem.mp h
  refine ⟨hlt, ?_⟩
  rw [jobAt, List.getD_eq_getElem _ _ hlt]
  exact of_decide_eq_true hfree

/-- A slot is free as long as not all are counted. -/
theorem exists_findIdx (h : countJobNumber s < s.own.jobs.length) :
    ∃ i, (s.own.jobs.findIdx? fun job => job.status = .none) = some i := by
  rw [← Option.isSome_iff_exists, Option.isSome_iff_ne_none, ne_eq, List.findIdx?_eq_none_iff]
  intro hall
  refine absurd h ?_
  rw [countJobNumber, List.countP_eq_length.mpr]
  · exact lt_irrefl _
  · intro job hjob
    have htaken := hall job hjob
    simpa using htaken

/-! ### Slots and threads -/

/-- The slot of a thread; from its first lock on the thread has a copy of the job and its bit. -/
structure Attached (s : State) (t : RecorderThread) : Prop where
  lt : t.job < maxRecorderJob
  taken : (jobAt s t.job).status ≠ .none
  tid : (jobAt s t.job).tid = BitVec.ofNat 32 t.job
  begun : t.pc ≠ .begin → t.tid = t.job ∧ t.init = (jobAt s t.job).init ∧
    s.info.threadStart.getLsbD t.job = true

/-- Every taken slot has exactly one thread. -/
structure Linked (s : State) : Prop where
  length : s.own.jobs.length = maxRecorderJob
  attached : ∀ t ∈ s.own.threads, Attached s t
  differ : (s.own.threads.map (·.job)).Nodup
  owner : ∀ i, (jobAt s i).status ≠ .none → ∃ t ∈ s.own.threads, t.job = i

/-- Only the slot of the thread and its bit matter. -/
theorem Attached.congr (h : Attached s t) (hjob : jobAt s' t.job = jobAt s t.job)
    (hbit : s'.info.threadStart.getLsbD t.job = s.info.threadStart.getLsbD t.job) :
    Attached s' t where
  lt := h.lt
  taken := by rw [hjob]; exact h.taken
  tid := by rw [hjob]; exact h.tid
  begun hpc := by
    rw [hjob, hbit]
    exact h.begun hpc

theorem Linked.congr (h : Linked s) (hjobs : s'.own.jobs = s.own.jobs)
    (hthreads : s'.own.threads = s.own.threads)
    (hstart : s'.info.threadStart = s.info.threadStart) : Linked s' where
  length := by rw [hjobs]; exact h.length
  attached t ht := by
    rw [hthreads] at ht
    exact (h.attached t ht).congr (jobAt_congr hjobs) (by rw [hstart])
  differ := by rw [hthreads]; exact h.differ
  owner i hi := by
    rw [jobAt_congr hjobs] at hi
    rw [hthreads]
    exact h.owner i hi

theorem linked_start {enable : BitVec 8} : Linked { own := { recorderEnable := enable } } where
  length := rfl
  attached := by simp
  differ := List.nodup_nil
  owner i hi := by
    refine absurd ?_ hi
    rw [jobAt, List.getD_replicate]
    exact lt_of_taken hi

/-- Without threads, all slots are free. -/
theorem Linked.free (h : Linked s) (hnil : s.own.threads = []) (i : ℕ) :
    (jobAt s i).status = .none := by
  by_contra hi
  obtain ⟨t, ht, -⟩ := h.owner i hi
  rw [hnil] at ht
  cases ht

/-- No thread has begun once all bits are cleared. -/
theorem Linked.threads_eq_nil (h : Linked s) (hstart : s.info.threadStart = 0#32)
    (hbegun : ∀ t ∈ s.own.threads, t.pc ≠ .begin) : s.own.threads = [] := by
  rw [List.eq_nil_iff_forall_not_mem]
  intro t ht
  obtain ⟨-, -, hbit⟩ := (h.attached t ht).begun (hbegun t ht)
  rw [hstart, BitVec.getLsbD_zero] at hbit
  cases hbit

/-! ### A new job -/

/-- A job that is refused its thread leaves its slot free. -/
theorem Linked.setJob_free (h : Linked s) (hi : (jobAt s i).status = .none)
    (hjob : job.status = .none) : Linked (setJob s i job) := by
  have hne : ∀ j, (jobAt s j).status ≠ .none → i ≠ j := by
    rintro j hj rfl
    exact hj hi
  refine ⟨?_, fun t ht => ?_, h.differ, fun j hj => ?_⟩
  · exact (List.length_set ..).trans h.length
  · have hattached := h.attached t ht
    exact hattached.congr (jobAt_setJob_of_ne (hne _ hattached.taken)) rfl
  · by_cases hij : i = j
    · subst hij
      rw [jobAt_setJob (lt_of_taken hj |>.trans_eq (List.length_set ..))] at hj
      exact absurd hjob hj
    · rw [jobAt_setJob_of_ne hij] at hj
      exact h.owner j hj

/-- A slot is filled and its thread is created. -/
theorem Linked.fill {init : RecorderInit} (h : Linked s) (hlt : i < s.own.jobs.length)
    (hi : (jobAt s i).status = .none)
    (hjobs : s'.own.jobs = s.own.jobs.set i
      { tid := BitVec.ofNat 32 i, status := .started, init := init })
    (hthreads : s'.own.threads = s.own.threads ++ [{ job := i }])
    (hstart : s'.info.threadStart = s.info.threadStart) : Linked s' := by
  have hsame : ∀ j, i ≠ j → jobAt s' j = jobAt s j := fun j hij => by
    rw [jobAt, hjobs, jobAt, List.getD_eq_getElem?_getD, List.getElem?_set_ne hij,
      List.getD_eq_getElem?_getD]
  have hnew : jobAt s' i = { tid := BitVec.ofNat 32 i, status := .started, init := init } := by
    rw [jobAt, hjobs]
    simp [hlt]
  have hne : ∀ t ∈ s.own.threads, i ≠ t.job := by
    rintro t ht rfl
    exact (h.attached t ht).taken hi
  constructor
  · rw [hjobs, List.length_set]
    exact h.length
  · intro t ht
    rw [hthreads, List.mem_append, List.mem_singleton] at ht
    rcases ht with ht | rfl
    · exact (h.attached t ht).congr (hsame _ (hne t ht)) (by rw [hstart])
    · exact ⟨h.length ▸ hlt, by rw [hnew]; rintro ⟨⟩, by rw [hnew], fun hpc => absurd rfl hpc⟩
  · rw [hthreads, List.map_append, List.nodup_append]
    refine ⟨h.differ, List.nodup_singleton _, ?_⟩
    intro a ha b hb
    obtain ⟨t, ht, rfl⟩ := List.mem_map.mp ha
    rw [List.map_singleton, List.mem_singleton] at hb
    rw [hb]
    exact (hne t ht).symm
  · intro j hj
    rw [hthreads]
    by_cases hij : i = j
    · exact ⟨{ job := i }, List.mem_append_right _ List.mem_cons_self, hij⟩
    · rw [hsame j hij] at hj
      obtain ⟨t, ht, htj⟩ := h.owner j hj
      exact ⟨t, List.mem_append_left _ ht, htj⟩

/-! ### A thread goes on, and ends -/

/-- A thread goes on in its slot. -/
theorem Linked.advance {n : ℕ} (h : Linked s) (ht : s.own.threads[n]? = some t)
    (hjobs : s'.own.jobs = s.own.jobs) (hthreads : s'.own.threads = s.own.threads.set n u)
    (hjob : u.job = t.job) (hbits : ∀ j, s.info.threadStart.getLsbD j = true →
      s'.info.threadStart.getLsbD j = true)
    (hu : Attached s' u) : Linked s' := by
  have hmap : s'.own.threads.map (·.job) = s.own.threads.map (·.job) := by
    rw [hthreads, List.map_set, hjob]
    refine List.ext_getElem? fun m => ?_
    rcases eq_or_ne n m with rfl | hnm
    · rw [List.getElem?_set_self', List.getElem?_map, ht]
      rfl
    · rw [List.getElem?_set_ne hnm]
  constructor
  · rw [hjobs]
    exact h.length
  · intro v hv
    rw [hthreads] at hv
    rcases List.mem_or_eq_of_mem_set hv with hv | rfl
    · have hattached := h.attached v hv
      refine ⟨hattached.lt, ?_, ?_, fun hpc => ?_⟩
      · rw [jobAt_congr hjobs]
        exact hattached.taken
      · rw [jobAt_congr hjobs]
        exact hattached.tid
      · rw [jobAt_congr hjobs]
        obtain ⟨htid, hinit, hbit⟩ := hattached.begun hpc
        exact ⟨htid, hinit, hbits _ hbit⟩
    · exact hu
  · rw [hmap]
    exact h.differ
  · intro j hj
    rw [jobAt_congr hjobs] at hj
    obtain ⟨v, hv, rfl⟩ := h.owner j hj
    have hmem : v.job ∈ s'.own.threads.map (·.job) := by
      rw [hmap]
      exact List.mem_map_of_mem hv
    exact List.mem_map.mp hmem

/-- A thread that ends clears its slot and its bit. -/
theorem Linked.release {n : ℕ} (h : Linked s) (ht : s.own.threads[n]? = some t)
    (hjobs : s'.own.jobs = s.own.jobs.set t.job {})
    (hthreads : s'.own.threads = s.own.threads.eraseIdx n)
    (hbits : ∀ j, j ≠ t.job → j < 32 →
      s'.info.threadStart.getLsbD j = s.info.threadStart.getLsbD j) : Linked s' := by
  have hmem := List.mem_of_getElem? ht
  have hsame : ∀ j, t.job ≠ j → jobAt s' j = jobAt s j := fun j hij => by
    rw [jobAt, hjobs, jobAt, List.getD_eq_getElem?_getD, List.getElem?_set_ne hij,
      List.getD_eq_getElem?_getD]
  have hother : ∀ v ∈ s.own.threads.eraseIdx n, v ∈ s.own.threads ∧ t.job ≠ v.job := by
    intro v hv
    refine ⟨List.mem_of_mem_eraseIdx hv, fun hjob => ?_⟩
    obtain ⟨m, hmn, hm⟩ := List.mem_eraseIdx_iff_getElem?.mp hv
    refine hmn ?_
    have hidx : (s.own.threads.map (·.job))[m]? = (s.own.threads.map (·.job))[n]? := by
      rw [List.getElem?_map, List.getElem?_map, hm, ht]
      exact congrArg some hjob.symm
    have hlt : m < (s.own.threads.map (·.job)).length := by
      rw [List.length_map]
      exact (List.getElem?_eq_some_iff.mp hm).1
    exact (List.getElem?_inj hlt h.differ).mp hidx
  constructor
  · rw [hjobs, List.length_set]
    exact h.length
  · intro v hv
    rw [hthreads] at hv
    obtain ⟨hv, hne⟩ := hother v hv
    have hattached := h.attached v hv
    exact hattached.congr (hsame _ hne) (hbits _ hne.symm (hattached.lt.trans (by decide)))
  · rw [hthreads]
    exact h.differ.sublist ((List.eraseIdx_sublist _ _).map _)
  · intro j hj
    by_cases hij : t.job = j
    · subst hij
      refine absurd ?_ hj
      rw [jobAt, hjobs]
      simp [h.length, (h.attached t hmem).lt]
    · rw [hsame j hij] at hj
      obtain ⟨v, hv, rfl⟩ := h.owner j hj
      refine ⟨v, ?_, rfl⟩
      rw [hthreads]
      obtain ⟨m, hm⟩ := List.getElem?_of_mem hv
      refine List.mem_eraseIdx_iff_getElem?.mpr ⟨m, ?_, hm⟩
      rintro rfl
      rw [ht] at hm
      cases hm
      exact hij rfl

end GokeWebcam.Server.Recorder
