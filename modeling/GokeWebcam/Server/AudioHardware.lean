import GokeWebcam.Lib.Attempt
import GokeWebcam.Server.Info

/-!
# The stages of the audio hardware

`server/audio/audio.c` brings the stages of the audio hardware up and down one after the other, with
a flag of `running_info` for each that is up; it stops at the first call that fails.

* `audioInit`, `audioStart`, `audioStop`, `audioUninit`: the functions.
* `isOk_audioInit`: whether the initialisation succeeds does not depend on the flags.
* `audioRelease1_eq_false`: an exit whose calls succeed leaves no flag set but that of the codec, which
  nothing clears and nothing reads.
-/

namespace GokeWebcam.Server.Audio

open Lib Common

/-- The flags.
Source: `server/audio/audio.h` `audio_running_info_t` -/
inductive AudioFlag
  | aiInit | aiStart | codecInit | aeInit | aeStart | aoInit | aoStart | adInit | adStart
  | aeAiBind | aoAdBind
  deriving DecidableEq, Repr

/-- Source: `server/audio/audio.c` `running_info` -/
abbrev AudioRunning := AudioFlag → Bool

/-- What the calls return: those that bring up what the flag stands for, those that take it down, and
the creation of the encoder's thread. -/
structure AudioCalls where
  upOk : AudioFlag → Bool := fun _ => true
  downOk : AudioFlag → Bool := fun _ => true
  threadOk : Bool := true

variable (calls : AudioCalls)

/-- A stage of the initialisation. -/
def initFlag (r : AudioRunning) (flag : AudioFlag) : Except AudioRunning AudioRunning :=
  if calls.upOk flag then .ok (Function.update r flag true) else .error r

/-- Source: `server/audio/audio.c` `audio_init` -/
def audioInit (r : AudioRunning) : Except AudioRunning AudioRunning :=
  [AudioFlag.aiInit, .codecInit, .aeInit, .aoInit, .adInit].foldlM (initFlag calls) r

/-- A stage that is started unless it is up. With the encoder goes its thread. -/
def startFlag (r : AudioRunning) (flag : AudioFlag) : Except AudioRunning AudioRunning :=
  if r flag then .ok r
  else if calls.upOk flag ∧ (flag = .aeStart → calls.threadOk) then
    .ok (Function.update r flag true)
  else .error r

/-- Source: `server/audio/audio.c` `audio_start` -/
def audioStart (r : AudioRunning) : Except AudioRunning AudioRunning :=
  [AudioFlag.aiStart, .aeStart, .adStart, .aoStart, .aeAiBind, .aoAdBind].foldlM (startFlag calls) r

/-- A stage that is taken down if it is up. -/
def clearFlag (r : AudioRunning) (flag : AudioFlag) : Except AudioRunning AudioRunning :=
  if r flag then
    if calls.downOk flag then .ok (Function.update r flag false) else .error r
  else .ok r

/-- The flags that `audio_stop` clears, in its order. -/
def stopFlags : List AudioFlag := [.aoAdBind, .aeAiBind, .aoStart, .adStart, .aeStart, .aiStart]

/-- The flags that `audio_uninit` clears, in its order. -/
def uninitFlags : List AudioFlag := [.aoInit, .adInit, .aeInit, .aiInit]

/-- Source: `server/audio/audio.c` `audio_stop` -/
def audioStop (r : AudioRunning) : Except AudioRunning AudioRunning :=
  stopFlags.foldlM (clearFlag calls) r

/-- Source: `server/audio/audio.c` `audio_uninit` -/
def audioUninit (r : AudioRunning) : Except AudioRunning AudioRunning :=
  uninitFlags.foldlM (clearFlag calls) r

/-- A failure of the first does not keep the second from running.
Source: `server/audio/audio.c` `server_release_1` -/
def audioRelease1 (r : AudioRunning) : AudioRunning :=
  reached (audioUninit calls (reached (audioStop calls r)))

variable {calls} {r r' : AudioRunning}

theorem isOk_foldlM_initFlag (l : List AudioFlag) :
    (l.foldlM (initFlag calls) r).isOk = l.all calls.upOk := by
  induction l generalizing r with
  | nil => rfl
  | cons flag l ih =>
      rw [List.foldlM_cons, initFlag, List.all_cons]
      split_ifs with hup
      · rw [hup, Bool.true_and]
        exact ih
      · rw [Bool.eq_false_iff.mpr hup, Bool.false_and]
        rfl

theorem isOk_audioInit : (audioInit calls r).isOk = (audioInit calls r').isOk := by
  rw [audioInit, isOk_foldlM_initFlag, audioInit, isOk_foldlM_initFlag]

/-- Taking flags down succeeds if the calls for those that are set do. -/
theorem foldlM_clearFlag {l : List AudioFlag}
    (h : ∀ flag ∈ l, r flag = true → calls.downOk flag = true) :
    l.foldlM (clearFlag calls) r = .ok fun flag => if flag ∈ l then false else r flag := by
  induction l generalizing r with
  | nil => simp; rfl
  | cons flag l ih =>
      rw [List.forall_mem_cons] at h
      have hstep : clearFlag calls r flag = .ok (Function.update r flag false) := by
        rw [clearFlag]
        split_ifs with hset hdown
        · rfl
        · exact absurd (h.1 hset) hdown
        · rw [Function.update_eq_self_iff.2 (Bool.eq_false_iff.mpr hset).symm]
      have hrest : ∀ f ∈ l, Function.update r flag false f = true → calls.downOk f = true := by
        intro f hf hset
        by_cases heq : f = flag
        · subst heq
          simp at hset
        · rw [Function.update_of_ne heq] at hset
          exact h.2 f hf hset
      rw [List.foldlM_cons, hstep]
      refine (ih hrest).trans (congrArg Except.ok (funext fun f => ?_))
      by_cases heq : f = flag
      · subst heq
        simp
      · simp [heq]

theorem audioRelease1_eq_false
    (h : ∀ flag ∈ stopFlags ++ uninitFlags, r flag = true → calls.downOk flag = true)
    {flag : AudioFlag} (hflag : flag ≠ .codecInit) : audioRelease1 calls r flag = false := by
  have hrest : ∀ f ∈ uninitFlags, (if f ∈ stopFlags then false else r f) = true →
      calls.downOk f = true := by
    intro f hf hset
    split_ifs at hset
    exact h f (List.mem_append_right _ hf) hset
  have hstop : ∀ f ∈ stopFlags, r f = true → calls.downOk f = true :=
    fun f hf => h f (List.mem_append_left _ hf)
  rw [audioRelease1, audioStop, foldlM_clearFlag hstop, reached, audioUninit,
    foldlM_clearFlag hrest, reached]
  cases flag <;> first | rfl | exact absurd rfl hflag

end GokeWebcam.Server.Audio
