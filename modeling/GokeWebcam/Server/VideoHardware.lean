import GokeWebcam.Common.Misc
import GokeWebcam.Lib.Attempt

/-!
# The stages of the video hardware

`video_init` and `video_start` bring up the stages of the video hardware one after the other and stop
at the first that fails; `server_release_1` takes them down by the flags that were kept. `Hardware`
has these flags and a ledger of the calls that took a stage up or down.

* `videoInit`, `videoStart`, `videoStop`, `videoUninit`, `serverRelease1`: the functions.
* `lifeCycle`: one initialisation, the starts and stops that follow it, and the exit.
* `Balanced`: what came up went down once, and nothing else did.
* `balanced_iff`: that is so iff the first stage never came up and no stream is of the type JPEG.
* `default_unbalanced`: so it is not with the streams of the device.
-/

namespace GokeWebcam.Server.VideoHardware

open Lib Common

/-! ### The configuration -/

/-- Source: `gmp/include/common.h` `PT_JPEG`, `PT_H264` -/
def ptJpeg : CInt := 26#32
def ptH264 : CInt := 96#32

/-- Source: `server/goke/hisi/hisi_common.h` `picture_size_t` -/
inductive PictureSize
  | cif | s360P | vga | s640x360 | d1Pal | d1Ntsc | s720P | s1080P | s2304x1296 | s2592x1520
  | s2592x1536 | s2592x1944 | s2688x1520 | s2688x1536 | s2688x1944 | s2716x1524 | s3840x2160
  | s4096x2160 | s3000x3000 | s4000x3000 | s7680x4320 | s3840x8640 | butt
  deriving DecidableEq, Repr

/-- Source: `server/goke/hisi/hisi_sys.c` `hisi_get_pic_size` -/
def hisiGetPicSize : PictureSize → Option (ℕ × ℕ)
  | .cif => some (352, 288)
  | .s360P => some (640, 360)
  | .vga => some (640, 480)
  | .s640x360 => some (640, 360)
  | .d1Pal => some (720, 576)
  | .d1Ntsc => some (720, 480)
  | .s720P => some (1280, 720)
  | .s1080P => some (1920, 1080)
  | .s2304x1296 => some (2304, 1296)
  | .s2592x1520 => some (2592, 1520)
  | .s2592x1944 => some (2592, 1944)
  | .s2592x1536 => some (2592, 1536)
  | .s2688x1520 => some (2688, 1520)
  | .s2716x1524 => some (2716, 1524)
  | .s3840x2160 => some (3840, 2160)
  | .s3000x3000 => some (3000, 3000)
  | .s4000x3000 => some (4000, 3000)
  | .s4096x2160 => some (4096, 2160)
  | .s7680x4320 => some (7680, 4320)
  | .s3840x8640 => some (3840, 8640)
  | .s2688x1536 => some (2688, 1536)
  | .s2688x1944 => some (2688, 1944)
  | .butt => none

/-- Source: `server/video/config.h` `MAX_STREAM_NUM`, `gmp/include/defines.h` `VPSS_MAX_PHY_CHN_NUM` -/
def maxStreamNum : ℕ := 5
def vpssMaxPhyChnNum : ℕ := 3

/-- The fields of a stream that are read here.
Source: `server/video/config.h` `stream_profile_info_t` -/
structure StreamProfile where
  type : CInt := 0#32
  size : PictureSize := .cif
  width : ℕ := 0
  height : ℕ := 0
  enable : Bool := false
  deriving DecidableEq, Repr

/-- Source: `server/video/config.h` `video_config_t`, `vpss.group_info` -/
structure VideoConfig where
  stream : Fin maxStreamNum → StreamProfile := fun _ => {}
  maxW : ℕ := 0
  maxH : ℕ := 0

/-- The stream of the motion detection.
Source: `server/video/config.h` `ID_MD` -/
def idMd : Fin maxStreamNum := (3 : Fin 5)

/-- A channel of the encoder and its stream. -/
abbrev VpssChannel := Fin vpssMaxPhyChnNum

theorem vpssMaxPhyChnNum_le : vpssMaxPhyChnNum ≤ maxStreamNum := by decide

def VideoConfig.channel (config : VideoConfig) (i : VpssChannel) : StreamProfile :=
  config.stream (i.castLE vpssMaxPhyChnNum_le)

/-- One stream.
Source: `server/video/video.c` `video_adjust_parameters`, the body of the loop -/
def adjustStream (config : VideoConfig) (i : Fin maxStreamNum) : VideoConfig :=
  let stream := config.stream i
  if stream.enable then
    match hisiGetPicSize stream.size with
    | some (width, height) =>
      let config := { config with
        stream := Function.update config.stream i { stream with width := width, height := height } }
      if config.maxW < width then { config with maxW := width, maxH := height } else config
    | none => config
  else config

/-- The streams from the last to the first; without a width there is an error.
Source: `server/video/video.c` `video_adjust_parameters` -/
def videoAdjustParameters (config : VideoConfig) : VideoConfig × Bool :=
  let config := (List.finRange maxStreamNum).reverse.foldl adjustStream
    { config with maxW := 0, maxH := 0 }
  (config, config.maxW ≠ 0)

variable {config : VideoConfig}

/-- Only the measures of a stream change. -/
theorem stream_adjustStream (i j : Fin maxStreamNum) :
    ∃ width height, (adjustStream config i).stream j =
      { config.stream j with width := width, height := height } := by
  rw [adjustStream]
  by_cases hj : j = i
  · subst hj
    split_ifs
    · split
      · dsimp only
        split_ifs <;> exact ⟨_, _, Function.update_self ..⟩
      · exact ⟨_, _, rfl⟩
    · exact ⟨_, _, rfl⟩
  · split_ifs
    · split
      · dsimp only
        split_ifs <;> exact ⟨_, _, Function.update_of_ne hj ..⟩
      · exact ⟨_, _, rfl⟩
    · exact ⟨_, _, rfl⟩

theorem stream_foldl_adjustStream (l : List (Fin maxStreamNum)) (j : Fin maxStreamNum) :
    ∃ width height, (l.foldl adjustStream config).stream j =
      { config.stream j with width := width, height := height } := by
  induction l generalizing config with
  | nil => exact ⟨_, _, rfl⟩
  | cons i l ih =>
      obtain ⟨width, height, h⟩ := @ih (adjustStream config i)
      obtain ⟨_, _, hi⟩ := @stream_adjustStream config i j
      rw [hi] at h
      exact ⟨width, height, h⟩

theorem type_videoAdjustParameters (i : VpssChannel) :
    ((videoAdjustParameters config).1.channel i).type = (config.channel i).type := by
  obtain ⟨_, _, h⟩ := @stream_foldl_adjustStream { config with maxW := 0, maxH := 0 }
    (List.finRange maxStreamNum).reverse (i.castLE vpssMaxPhyChnNum_le)
  have htype := congrArg StreamProfile.type h
  exact htype

/-- A stream that counts for the measures of the group. -/
def StreamProfile.Sized (stream : StreamProfile) : Prop :=
  stream.enable = true ∧ stream.size ≠ .butt

theorem hisiGetPicSize_eq_none {size : PictureSize} : hisiGetPicSize size = none ↔ size = .butt := by
  cases size <;> simp [hisiGetPicSize]

theorem hisiGetPicSize_pos {size : PictureSize} {width height : ℕ}
    (h : hisiGetPicSize size = some (width, height)) : 0 < width := by
  cases size <;> simp [hisiGetPicSize] at h <;> omega

/-- The width of the group is zero as long as no stream has counted. -/
theorem maxW_adjustStream (i : Fin maxStreamNum) :
    (adjustStream config i).maxW = 0 ↔ config.maxW = 0 ∧ ¬ (config.stream i).Sized := by
  rw [adjustStream, StreamProfile.Sized]
  by_cases henable : (config.stream i).enable = true
  · rw [if_pos henable]
    rcases hsize : hisiGetPicSize (config.stream i).size with _ | ⟨width, height⟩
    · simp [hisiGetPicSize_eq_none.1 hsize]
    · have hbutt : (config.stream i).size ≠ .butt := fun h => by
        rw [hisiGetPicSize_eq_none.2 h] at hsize
        simp at hsize
      have hpos := hisiGetPicSize_pos hsize
      simp only [henable, hbutt, ne_eq, not_false_eq_true, and_self, not_true_eq_false, and_false,
        iff_false]
      split_ifs with hlt
      · exact hpos.ne'
      · simp only at hlt ⊢
        omega
  · simp [henable]

theorem maxW_foldl_adjustStream (l : List (Fin maxStreamNum)) :
    (l.foldl adjustStream config).maxW = 0 ↔
      config.maxW = 0 ∧ ∀ i ∈ l, ¬ (config.stream i).Sized := by
  induction l generalizing config with
  | nil => simp
  | cons i l ih =>
      have hsame : ∀ j, ((adjustStream config i).stream j).Sized ↔ (config.stream j).Sized := by
        intro j
        obtain ⟨_, _, h⟩ := @stream_adjustStream config i j
        rw [h]
        rfl
      rw [List.foldl_cons, ih, maxW_adjustStream, List.forall_mem_cons, and_assoc]
      simp only [hsame]

/-- The parameters are in order iff some stream is enabled and has a size. -/
theorem videoAdjustParameters_iff :
    (videoAdjustParameters config).2 = true ↔ ∃ i, (config.stream i).Sized := by
  rw [videoAdjustParameters, decide_eq_true_iff, ne_eq, maxW_foldl_adjustStream]
  simp

/-! ### The hardware -/

/-- The stages of the input, whose bits are kept.
Source: `server/video/config.h` `vi_init_start_enum` -/
inductive ViStage
  | mipi | device | isp | pipe | channel
  deriving DecidableEq, Repr

def ViStage.bit : ViStage → ℕ
  | .mipi => 0
  | .device => 1
  | .isp => 2
  | .pipe => 3
  | .channel => 4

def viInitStartButt : ℕ := 5

/-- A stage of the hardware. -/
inductive Stage
  | vi (stage : ViStage)
  | vpss
  | encoder (i : VpssChannel)
  | snap (i : VpssChannel)
  | region
  | md
  | od
  deriving DecidableEq, Repr

/-- The encoder of a stream, by its type. -/
def encoderStage (config : VideoConfig) (i : VpssChannel) : Stage :=
  if (config.channel i).type ≠ ptJpeg then .encoder i else .snap i

/-- What is done to a stage. -/
inductive StageCall
  | init | start | stop | uninit
  deriving DecidableEq, Repr

/-- Source: `server/video/video.h` `video_running_info_t` -/
structure VideoRunning where
  viInit : CInt := 0#32
  viStart : CInt := 0#32
  vpssInit : Bool := false
  vpssStart : Bool := false
  vencInit : VpssChannel → Bool := fun _ => false
  vencStart : VpssChannel → Bool := fun _ => false
  regionInit : Bool := false
  regionStart : Bool := false
  mdInit : Bool := false
  mdStart : Bool := false

/-- `running_info`, the local variable `info` of `video_init` and `video_start`, and the calls that
have succeeded, oldest first. -/
structure Hardware where
  running : VideoRunning := {}
  info : CInt := 0#32
  log : List (StageCall × Stage) := []

/-- The address of an `int`. -/
structure IntAddress where
  value : CInt
  aligned : value &&& 3#32 = 0#32

namespace Hardware

def note (call : StageCall) (stage : Stage) (s : Hardware) : Hardware :=
  { s with log := s.log ++ [(call, stage)] }

/-- A call that may fail. -/
def attempt (ok : Bool) (call : StageCall) (stage : Stage) (s : Hardware) :
    Except Hardware Hardware :=
  if ok then .ok (s.note call stage) else .error s

/-- The same for a stage of the input, whose bit is set in `info`. -/
def attemptVi (ok : Bool) (call : StageCall) (stage : ViStage) (s : Hardware) :
    Except Hardware Hardware :=
  if ok then .ok { s.note call (.vi stage) with info := miscSetBit s.info stage.bit } else .error s

/-- A stage of the input that is started only when its bit is clear. -/
def startVi (ok : Bool) (stage : ViStage) (s : Hardware) : Except Hardware Hardware :=
  if miscGetBit s.info stage.bit = 0#32 then s.attemptVi ok .start stage else .ok s

/-- A stage of the input is taken down by a bit of the address of the word, and its bit in the word is
cleared. -/
def takeDownVi (call : StageCall) (address : IntAddress) (s : Hardware) (stage : ViStage) :
    Hardware :=
  if miscGetBit address.value stage.bit ≠ 0#32 then
    { s.note call (.vi stage) with info := miscClearBit s.info stage.bit }
  else s

end Hardware

open Hardware

/-- What the calls of an initialisation return, and whether the shape detection is on. -/
structure InitInput where
  chipOk : Bool := true
  viOk : ViStage → Bool := fun _ => true
  vpssOk : Bool := true
  vencOk : VpssChannel → Bool := fun _ => true
  mdOk : Bool := true
  odOk : Bool := true
  smdEnable : Bool := true

/-- What the calls of a start return. -/
structure StartInput where
  viOk : ViStage → Bool := fun _ => true
  ispOk : Bool := true
  ispExtraOk : Bool := true
  vpssOk : Bool := true
  vencOk : VpssChannel → Bool := fun _ => true
  threadOk : VpssChannel → Bool := fun _ => true
  osdOk : Bool := true
  mdOk : Bool := true

/-- The address of the local variable `temp` of `video_stop`, and what stands in it. -/
structure StopInput where
  address : IntAddress
  temp : CInt := 0#32

/-- What an exit finds: the same, the address of `temp` in `video_uninit`, and whether the shape
detection is on. -/
structure ReleaseInput where
  stop : StopInput
  uninitAddress : IntAddress
  smdEnable : Bool := true

/-! ### Bringing up -/

/-- Source: `server/goke/hisi/hisi_vi.c` `hisi_init_vi` -/
def hisiInitVi (input : InitInput) (s : Hardware) : Except Hardware Hardware := do
  let s ← s.attemptVi (input.viOk .mipi) .init .mipi
  let s ← s.attemptVi (input.viOk .device) .init .device
  let s ← s.attemptVi (input.viOk .pipe) .init .pipe
  let s ← s.attemptVi (input.viOk .channel) .init .channel
  s.attemptVi (input.viOk .isp) .init .isp

/-- The encoder of one stream.
Source: `server/video/video.c` `video_init`, the loop -/
def initEncoder (config : VideoConfig) (input : InitInput) (s : Hardware) (i : VpssChannel) :
    Except Hardware Hardware :=
  if (config.channel i).enable then do
    let s ← s.attempt (input.vencOk i) .init (encoderStage config i)
    .ok { s with running := { s.running with
      vencInit := Function.update s.running.vencInit i true } }
  else .ok s

/-- Source: `server/video/video.c` `video_init`, `//md` -/
def initMd (config : VideoConfig) (input : InitInput) (s : Hardware) : Except Hardware Hardware :=
  if (config.stream idMd).enable then
    let md := reached (s.attempt input.mdOk .init .md)
    let s := if input.smdEnable then reached (md.attempt input.odOk .init .od) else md
    if input.mdOk ∧ (input.smdEnable → input.odOk) then
      .ok { s with running := { s.running with mdInit := true } }
    else .error s
  else .ok s

/-- Source: `server/video/video.c` `video_init` -/
def videoInit (config : VideoConfig) (input : InitInput) (s : Hardware) : Except Hardware Hardware :=
  let s := { s with running := {}, info := 0#32 }
  let adjusted := videoAdjustParameters config
  if !adjusted.2 then .error s
  else if !input.chipOk then .error s
  else do
    let s ← hisiInitVi input s
    let s := { s with running := { s.running with viInit := s.info } }
    let s ← s.attempt input.vpssOk .init .vpss
    let s := { s with running := { s.running with vpssInit := true } }
    let s ← (List.finRange vpssMaxPhyChnNum).foldlM (initEncoder adjusted.1 input) s
    let s := s.note .init .region
    let s := { s with running := { s.running with regionInit := true } }
    initMd adjusted.1 input s

/-- Source: `server/goke/hisi/hisi_vi.c` `hisi_start_vi` -/
def hisiStartVi (input : StartInput) (s : Hardware) : Except Hardware Hardware := do
  let s ← s.startVi (input.viOk .mipi) .mipi
  let s ← s.startVi (input.viOk .device) .device
  let s ← s.startVi (input.viOk .pipe) .pipe
  s.startVi (input.viOk .channel) .channel

def setViStart (viStart : CInt) (s : Hardware) : Hardware :=
  { s with running := { s.running with viStart := viStart } }

/-- Both threads set the bit of the image processor.
Source: `server/video/video.c` `video_start`, `//vi` -/
def startInput (input : StartInput) (s : Hardware) : Except Hardware Hardware :=
  if miscFullBit s.running.viStart viInitStartButt then .ok s
  else do
    let s ← hisiStartVi input s
    let s := setViStart s.info s
    let s ← s.attempt input.ispOk .start (.vi .isp)
    let s := setViStart (miscSetBit s.running.viStart ViStage.isp.bit) s
    if input.ispExtraOk then .ok (setViStart (miscSetBit s.running.viStart ViStage.isp.bit) s)
    else .error s

/-- Source: `server/video/video.c` `video_start`, `//vpss` -/
def startVpss (input : StartInput) (s : Hardware) : Except Hardware Hardware :=
  if s.running.vpssStart then .ok s
  else do
    let s ← s.attempt input.vpssOk .start .vpss
    .ok { s with running := { s.running with vpssStart := true } }

/-- An encoder whose thread is not created is stopped again.
Source: `server/video/video.c` `video_start`, the loop -/
def startEncoder (config : VideoConfig) (input : StartInput) (s : Hardware) (i : VpssChannel) :
    Except Hardware Hardware :=
  if (config.channel i).enable ∧ !s.running.vencStart i then do
    let s ← s.attempt (input.vencOk i) .start (encoderStage config i)
    if input.threadOk i then
      .ok { s with running := { s.running with
        vencStart := Function.update s.running.vencStart i true } }
    else .error (s.note .stop (encoderStage config i))
  else .ok s

/-- Source: `server/video/video.c` `video_start`, `//region` -/
def startRegion (input : StartInput) (s : Hardware) : Except Hardware Hardware :=
  if s.running.regionStart then .ok s
  else do
    let s ← s.attempt input.osdOk .start .region
    .ok { s with running := { s.running with regionStart := true } }

/-- Source: `server/video/video.c` `video_start`, `//start md thread` -/
def startMd (config : VideoConfig) (input : StartInput) (s : Hardware) : Except Hardware Hardware :=
  if (config.stream idMd).enable ∧ !s.running.mdStart then do
    let s ← s.attempt input.mdOk .start .md
    .ok { s with running := { s.running with mdStart := true } }
  else .ok s

/-- Source: `server/video/video.c` `video_start` -/
def videoStart (config : VideoConfig) (input : StartInput) (s : Hardware) :
    Except Hardware Hardware := do
  let s ← startInput input { s with info := 0#32 }
  let s ← startVpss input s
  let s ← (List.finRange vpssMaxPhyChnNum).foldlM (startEncoder config input) s
  let s ← startRegion input s
  startMd config input s

/-! ### Taking down -/

/-- The stages in the order in which they are taken down.
Source: `server/goke/hisi/hisi_vi.c` `hisi_stop_vi`, `hisi_uninit_vi` -/
def viTakenDown : List ViStage := [.isp, .channel, .pipe, .device, .mipi]

/-- The bits of the argument `info` are tested, which is a pointer.
Source: `server/goke/hisi/hisi_vi.c` `hisi_stop_vi` -/
def hisiStopVi (address : IntAddress) (s : Hardware) : Hardware :=
  viTakenDown.foldl (takeDownVi .stop address) s

/-- Source: `server/goke/hisi/hisi_vi.c` `hisi_uninit_vi` -/
def hisiUninitVi (address : IntAddress) (s : Hardware) : Hardware :=
  viTakenDown.foldl (takeDownVi .uninit address) s

/-- For a stream of the type JPEG the flag is not tested.
Source: `server/video/video.c` `video_stop`, the loop -/
def stopEncoder (config : VideoConfig) (s : Hardware) (i : VpssChannel) : Hardware :=
  if (config.channel i).type = ptJpeg ∨ s.running.vencStart i then
    let s := s.note .stop (encoderStage config i)
    { s with running := { s.running with vencStart := Function.update s.running.vencStart i false } }
  else s

/-- Source: `server/video/video.c` `video_stop`, `//md` -/
def stopMd (s : Hardware) : Hardware :=
  if s.running.mdStart then
    { s.note .stop .md with running := { s.running with mdStart := false } }
  else s

/-- Source: `server/video/video.c` `video_stop`, `//osd` -/
def stopRegion (s : Hardware) : Hardware :=
  if s.running.regionStart then
    { s.note .stop .region with running := { s.running with regionStart := false } }
  else s

/-- Source: `server/video/video.c` `video_stop`, `//vpss` -/
def stopVpss (s : Hardware) : Hardware :=
  if s.running.vpssStart then
    { s.note .stop .vpss with running := { s.running with vpssStart := false } }
  else s

/-- Source: `server/video/video.c` `video_stop`, `//vi` -/
def stopVi (input : StopInput) (s : Hardware) : Hardware :=
  if s.running.viStart ≠ 0#32 then
    let s := hisiStopVi input.address { s with info := input.temp }
    setViStart s.info s
  else s

/-- Source: `server/video/video.c` `video_stop` -/
def videoStop (config : VideoConfig) (input : StopInput) (s : Hardware) : Hardware :=
  let s := stopRegion (stopMd s)
  let s := (List.finRange vpssMaxPhyChnNum).foldl (stopEncoder config) s
  stopVi input (stopVpss s)

/-- Source: `server/video/video.c` `video_uninit`, the loop -/
def uninitEncoder (config : VideoConfig) (s : Hardware) (i : VpssChannel) : Hardware :=
  if (config.channel i).type = ptJpeg ∨ s.running.vencInit i then
    let s := s.note .uninit (encoderStage config i)
    { s with running := { s.running with vencInit := Function.update s.running.vencInit i false } }
  else s

/-- Source: `server/video/video.c` `video_uninit`, `//md` -/
def uninitMd (input : ReleaseInput) (s : Hardware) : Hardware :=
  if s.running.mdInit then
    let s := if input.smdEnable then s.note .uninit .od else s
    { s.note .uninit .md with running := { s.running with mdInit := false } }
  else s

/-- Source: `server/video/video.c` `video_uninit`, `//osd` -/
def uninitRegion (s : Hardware) : Hardware :=
  if s.running.regionInit then
    { s.note .uninit .region with running := { s.running with regionInit := false } }
  else s

/-- Source: `server/video/video.c` `video_uninit`, `//vpss` -/
def uninitVpss (s : Hardware) : Hardware :=
  if s.running.vpssInit then
    { s.note .uninit .vpss with running := { s.running with vpssInit := false } }
  else s

/-- Source: `server/video/video.c` `video_uninit`, `//vi` -/
def uninitVi (input : ReleaseInput) (s : Hardware) : Hardware :=
  if s.running.viInit ≠ 0#32 then
    let s := hisiUninitVi input.uninitAddress { s with info := 0#32 }
    { s with running := { s.running with viInit := s.info } }
  else s

/-- Source: `server/video/video.c` `video_uninit` -/
def videoUninit (config : VideoConfig) (input : ReleaseInput) (s : Hardware) : Hardware :=
  let s := uninitRegion (uninitMd input s)
  let s := (List.finRange vpssMaxPhyChnNum).foldl (uninitEncoder config) s
  uninitVi input (uninitVpss s)

/-- Source: `server/video/video.c` `server_release_1` -/
def serverRelease1 (config : VideoConfig) (input : ReleaseInput) (s : Hardware) : Hardware :=
  videoUninit config input (videoStop config input.stop s)

/-! ### A life of the server -/

/-- What is done between the initialisation and the exit. -/
inductive Use
  | start (input : StartInput)
  | stop (input : StopInput)

def Use.apply (config : VideoConfig) (s : Hardware) : Use → Except Hardware Hardware
  | .start input => videoStart config input s
  | .stop input => .ok (videoStop config input s)

/-- From the initialisation to the exit: after a failure comes the exit. -/
def lifeCycle (config : VideoConfig) (init : InitInput) (uses : List Use) (release : ReleaseInput) :
    Hardware :=
  let adjusted := (videoAdjustParameters config).1
  serverRelease1 adjusted release
    (reached ((videoInit config init {}) >>= uses.foldlM (Use.apply adjusted)))

/-- What came up went down as many times. -/
def Balanced (log : List (StageCall × Stage)) : Prop :=
  ∀ stage, log.count (.init, stage) = log.count (.uninit, stage) ∧
    log.count (.start, stage) = log.count (.stop, stage)

/-! ### The first stage is never taken down -/

variable {s : Hardware} {call : StageCall} {stage : Stage}

/-- The bits of an aligned address that the first two stages are tested with are clear. -/
theorem getLsbD_address_zero (address : IntAddress) : address.value.getLsbD 0 = false := by
  have h := congrArg (fun a : CInt => a.getLsbD 0) address.aligned
  simpa using h

theorem takeDownVi_mipi (address : IntAddress) (s : Hardware) :
    s.takeDownVi call address .mipi = s := by
  rw [takeDownVi, if_neg]
  rw [not_not, miscGetBit_eq_zero (by decide)]
  exact getLsbD_address_zero address

/-- The first stage came up, and was not taken down. -/
def Leaks (s : Hardware) : Prop :=
  (StageCall.init, Stage.vi .mipi) ∈ s.log ∧ (StageCall.uninit, Stage.vi .mipi) ∉ s.log

namespace Leaks

theorem note (h : Leaks s) (hne : (call, stage) ≠ (.uninit, .vi .mipi)) :
    Leaks (s.note call stage) := by
  refine ⟨List.mem_append_left _ h.1, ?_⟩
  rw [Hardware.note, List.mem_append, List.mem_singleton]
  rintro (hmem | heq)
  · exact h.2 hmem
  · exact hne heq.symm

/-- A call that does not take a stage down for good. -/
theorem noteCall (h : Leaks s) (hcall : call ≠ .uninit) : Leaks (s.note call stage) :=
  h.note fun heq => hcall (congrArg Prod.fst heq)

/-- A call about another stage. -/
theorem noteStage (h : Leaks s) (hstage : stage ≠ .vi .mipi) : Leaks (s.note call stage) :=
  h.note fun heq => hstage (congrArg Prod.snd heq)

theorem running (h : Leaks s) (running : VideoRunning) : Leaks { s with running := running } := h

theorem info (h : Leaks s) (info : CInt) : Leaks { s with info := info } := h

/-- A stage that is taken down when a flag says so. -/
theorem ite {c : Prop} [Decidable c] {s' : Hardware} (hs' : Leaks s') (h : Leaks s) :
    Leaks (if c then s' else s) := by
  split_ifs
  · exact hs'
  · exact h

theorem attempt (h : Leaks s) (ok : Bool) (hcall : call ≠ .uninit) :
    Keeps Leaks (s.attempt ok call stage) :=
  .ite (.ok (h.noteCall hcall)) (.error h)

theorem attemptVi (h : Leaks s) (ok : Bool) (vi : ViStage) (hcall : call ≠ .uninit) :
    Keeps Leaks (s.attemptVi ok call vi) :=
  .ite (.ok (h.noteCall hcall)) (.error h)

theorem startVi (h : Leaks s) (ok : Bool) (vi : ViStage) : Keeps Leaks (s.startVi ok vi) :=
  .ite (h.attemptVi ok vi (by decide)) (.ok h)

theorem takeDownVi (h : Leaks s) (address : IntAddress) (vi : ViStage) :
    Leaks (s.takeDownVi call address vi) := by
  cases vi with
  | mipi => rwa [takeDownVi_mipi]
  | device | isp | pipe | channel => exact ite ((h.noteStage (by decide)).info _) h

theorem initEncoder (h : Leaks s) (config : VideoConfig) (input : InitInput) (i : VpssChannel) :
    Keeps Leaks (initEncoder config input s i) :=
  .ite ((h.attempt _ (by decide)).bind fun _ h => .ok (h.running _)) (.ok h)

theorem initMd (h : Leaks s) (config : VideoConfig) (input : InitInput) :
    Keeps Leaks (initMd config input s) := by
  refine .ite ?_ (.ok h)
  have hmd : Leaks (reached (s.attempt input.mdOk .init .md)) := h.attempt _ (by decide)
  have hod : Leaks (if input.smdEnable then
      reached ((reached (s.attempt input.mdOk .init .md)).attempt input.odOk .init .od)
      else reached (s.attempt input.mdOk .init .md)) :=
    ite (hmd.attempt _ (by decide)) hmd
  exact .ite (.ok (hod.running _)) (.error hod)

theorem hisiStartVi (h : Leaks s) (input : StartInput) : Keeps Leaks (hisiStartVi input s) := by
  apply (h.startVi _ .mipi).bind
  intro s h
  apply (h.startVi _ .device).bind
  intro s h
  exact (h.startVi _ .pipe).bind fun _ h => h.startVi _ .channel

theorem startInput (h : Leaks s) (input : StartInput) : Keeps Leaks (startInput input s) := by
  apply Keeps.ite (.ok h)
  apply (h.hisiStartVi input).bind
  intro s h
  apply ((h.running _).attempt _ (by decide)).bind
  intro s h
  exact .ite (.ok (h.running _)) (.error (h.running _))

theorem startVpss (h : Leaks s) (input : StartInput) : Keeps Leaks (startVpss input s) :=
  .ite (.ok h) ((h.attempt _ (by decide)).bind fun _ h => .ok (h.running _))

theorem startEncoder (h : Leaks s) (config : VideoConfig) (input : StartInput) (i : VpssChannel) :
    Keeps Leaks (startEncoder config input s i) := by
  refine .ite ?_ (.ok h)
  apply (h.attempt _ (by decide)).bind
  intro s h
  exact .ite (.ok (h.running _)) (.error (h.noteCall (by decide)))

theorem startRegion (h : Leaks s) (input : StartInput) : Keeps Leaks (startRegion input s) :=
  .ite (.ok h) ((h.attempt _ (by decide)).bind fun _ h => .ok (h.running _))

theorem startMd (h : Leaks s) (config : VideoConfig) (input : StartInput) :
    Keeps Leaks (startMd config input s) :=
  .ite ((h.attempt _ (by decide)).bind fun _ h => .ok (h.running _)) (.ok h)

theorem videoStart (h : Leaks s) (config : VideoConfig) (input : StartInput) :
    Keeps Leaks (videoStart config input s) := by
  apply ((h.info 0#32).startInput input).bind
  intro s h
  apply (h.startVpss input).bind
  intro s h
  apply (Keeps.foldlM h fun _ i h => h.startEncoder config input i).bind
  intro s h
  exact (h.startRegion input).bind fun _ h => h.startMd config input

theorem stopEncoder (h : Leaks s) (config : VideoConfig) (i : VpssChannel) :
    Leaks (stopEncoder config s i) :=
  ite ((h.noteCall (by decide)).running _) h

theorem hisiStopVi (h : Leaks s) (address : IntAddress) : Leaks (hisiStopVi address s) :=
  List.foldlRecOn _ _ h fun _ h vi _ => h.takeDownVi address vi

theorem hisiUninitVi (h : Leaks s) (address : IntAddress) : Leaks (hisiUninitVi address s) :=
  List.foldlRecOn _ _ h fun _ h vi _ => h.takeDownVi address vi

theorem stopMd (h : Leaks s) : Leaks (stopMd s) := ite ((h.noteCall (by decide)).running _) h

theorem stopRegion (h : Leaks s) : Leaks (stopRegion s) :=
  ite ((h.noteCall (by decide)).running _) h

theorem stopVpss (h : Leaks s) : Leaks (stopVpss s) :=
  ite ((h.noteCall (by decide)).running _) h

theorem stopVi (h : Leaks s) (input : StopInput) : Leaks (stopVi input s) :=
  ite (((h.info _).hisiStopVi input.address).running _) h

theorem videoStop (h : Leaks s) (config : VideoConfig) (input : StopInput) :
    Leaks (videoStop config input s) := by
  apply stopVi
  apply stopVpss
  exact List.foldlRecOn _ _ h.stopMd.stopRegion fun _ h i _ => h.stopEncoder config i

theorem uninitEncoder (h : Leaks s) (config : VideoConfig) (i : VpssChannel) :
    Leaks (uninitEncoder config s i) := by
  have hstage : encoderStage config i ≠ .vi .mipi := by
    rw [encoderStage]
    split_ifs <;> simp
  exact ite ((h.noteStage hstage).running _) h

theorem uninitMd (h : Leaks s) (input : ReleaseInput) : Leaks (uninitMd input s) := by
  have hod : Leaks (if input.smdEnable then s.note .uninit .od else s) :=
    ite (h.noteStage (by decide)) h
  exact ite ((hod.noteStage (by decide)).running _) h

theorem uninitRegion (h : Leaks s) : Leaks (uninitRegion s) :=
  ite ((h.noteStage (by decide)).running _) h

theorem uninitVpss (h : Leaks s) : Leaks (uninitVpss s) :=
  ite ((h.noteStage (by decide)).running _) h

theorem uninitVi (h : Leaks s) (input : ReleaseInput) : Leaks (uninitVi input s) :=
  ite (((h.info _).hisiUninitVi input.uninitAddress).running _) h

theorem videoUninit (h : Leaks s) (config : VideoConfig) (input : ReleaseInput) :
    Leaks (videoUninit config input s) := by
  apply uninitVi
  apply uninitVpss
  exact List.foldlRecOn _ _ (h.uninitMd input).uninitRegion fun _ h i _ => h.uninitEncoder config i

theorem serverRelease1 (h : Leaks s) (config : VideoConfig) (input : ReleaseInput) :
    Leaks (serverRelease1 config input s) :=
  (h.videoStop config input.stop).videoUninit config input

theorem apply (h : Leaks s) (config : VideoConfig) (use : Use) :
    Keeps Leaks (use.apply config s) := by
  cases use with
  | start input => exact h.videoStart config input
  | stop input => exact .ok (h.videoStop config input)

end Leaks

/-! ### An exit before anything came up -/

/-- The channels of the type JPEG. -/
def jpegs (config : VideoConfig) : List VpssChannel :=
  (List.finRange vpssMaxPhyChnNum).filter fun i => (config.channel i).type = ptJpeg

/-- As long as no flag is set. -/
theorem stopEncoder_of_idle (h : s.running = {}) (i : VpssChannel) :
    stopEncoder config s i =
      if (config.channel i).type = ptJpeg then s.note .stop (.snap i) else s := by
  rw [stopEncoder, h, encoderStage]
  split_ifs <;> simp_all [Hardware.note]

theorem uninitEncoder_of_idle (h : s.running = {}) (i : VpssChannel) :
    uninitEncoder config s i =
      if (config.channel i).type = ptJpeg then s.note .uninit (.snap i) else s := by
  rw [uninitEncoder, h, encoderStage]
  split_ifs <;> simp_all [Hardware.note]

/-- A loop over the channels that does so. -/
theorem foldl_note_of_idle {f : Hardware → VpssChannel → Hardware}
    (hf : ∀ s i, s.running = {} →
      f s i = if (config.channel i).type = ptJpeg then s.note call (.snap i) else s)
    (h : s.running = {}) (l : List VpssChannel) :
    l.foldl f s = { s with
      log := s.log ++ (l.filter fun i => (config.channel i).type = ptJpeg).map
        fun i => (call, Stage.snap i) } := by
  induction l generalizing s with
  | nil => simp
  | cons i l ih =>
      rw [List.foldl_cons, hf s i h]
      by_cases hi : (config.channel i).type = ptJpeg
      · rw [if_pos hi, ih (s := s.note call (.snap i)) h,
          List.filter_cons_of_pos (by simpa using hi)]
        simp [Hardware.note]
      · rw [if_neg hi, ih h, List.filter_cons_of_neg (by simpa using hi)]

theorem videoStop_of_idle (h : s.running = {}) (input : StopInput) :
    videoStop config input s = { s with
      log := s.log ++ (jpegs config).map fun i => (.stop, .snap i) } := by
  have hmd : stopRegion (stopMd s) = s := by simp [stopRegion, stopMd, h]
  rw [videoStop, hmd, foldl_note_of_idle (fun _ i h => stopEncoder_of_idle h i) h]
  simp [stopVi, stopVpss, h, jpegs]

theorem videoUninit_of_idle (h : s.running = {}) (input : ReleaseInput) :
    videoUninit config input s = { s with
      log := s.log ++ (jpegs config).map fun i => (.uninit, .snap i) } := by
  have hmd : uninitRegion (uninitMd input s) = s := by simp [uninitRegion, uninitMd, h]
  rw [videoUninit, hmd, foldl_note_of_idle (fun _ i h => uninitEncoder_of_idle h i) h]
  simp [uninitVi, uninitVpss, h, jpegs]

/-- The encoders of the type JPEG are taken down although they never came up. -/
theorem log_serverRelease1_of_idle (h : s.running = {}) (input : ReleaseInput) :
    (serverRelease1 config input s).log =
      s.log ++ (jpegs config).map (fun i => (.stop, .snap i)) ++
        (jpegs config).map fun i => (.uninit, .snap i) := by
  have hstop : (videoStop config input.stop s).running = {} := by
    rw [videoStop_of_idle h]
    exact h
  rw [serverRelease1, videoUninit_of_idle hstop, videoStop_of_idle h]

theorem balanced_jpegs_iff (l : List VpssChannel) :
    Balanced (l.map (fun i => (.stop, .snap i)) ++ l.map fun i => (.uninit, .snap i)) ↔ l = [] := by
  constructor
  · intro h
    rcases l with _ | ⟨i, l⟩
    · rfl
    · have hi := (h (.snap i)).1
      rw [List.count_eq_zero_of_not_mem (by simp)] at hi
      simp at hi
  · rintro rfl stage
    simp

/-! ### When a life is balanced -/

/-- The first stage comes up: some stream is enabled and has a size, the chip is the right one, and the
call for the stage succeeds. -/
def FirstStageUp (config : VideoConfig) (init : InitInput) : Prop :=
  (∃ i, (config.stream i).Sized) ∧ init.chipOk = true ∧ init.viOk .mipi = true

theorem videoInit_of_not_up {init : InitInput} (h : ¬ FirstStageUp config init) :
    videoInit config init {} = .error {} := by
  rw [videoInit]
  by_cases hadjust : (videoAdjustParameters config).2 = true
  · rcases hchip : init.chipOk with _ | _
    · simp [hadjust]
    · have hmipi : init.viOk .mipi = false := by
        rw [← Bool.not_eq_true]
        exact fun hmipi => h ⟨videoAdjustParameters_iff.1 hadjust, hchip, hmipi⟩
      simp [hadjust, hisiInitVi, Hardware.attemptVi, hmipi]
      rfl
  · simp [hadjust]

/-- Once the first stage has come up it has leaked, wherever the initialisation stops. -/
theorem keeps_videoInit {init : InitInput} (h : FirstStageUp config init) :
    Keeps Leaks (videoInit config init {}) := by
  obtain ⟨hsized, hchip, hmipi⟩ := h
  have hadjust := videoAdjustParameters_iff.2 hsized
  rw [videoInit]
  simp only [hadjust, hchip, Bool.not_true, Bool.false_eq_true, if_false]
  have hvi : Keeps Leaks (hisiInitVi init {}) := by
    rw [hisiInitVi, Hardware.attemptVi, if_pos hmipi]
    have hfirst : Leaks (Hardware.note .init (.vi .mipi) {}) := ⟨by decide, by decide⟩
    apply ((hfirst.info _).attemptVi _ .device (by decide)).bind
    intro s h
    apply (h.attemptVi _ .pipe (by decide)).bind
    intro s h
    exact (h.attemptVi _ .channel (by decide)).bind fun _ h => h.attemptVi _ .isp (by decide)
  apply hvi.bind
  intro s h
  apply ((h.running _).attempt _ (by decide)).bind
  intro s h
  apply (Keeps.foldlM (h.running _) fun _ i h => h.initEncoder _ init i).bind
  intro s h
  exact ((h.noteCall (by decide)).running _).initMd _ init

/-- What came up went down once and nothing else did iff nothing came up and no stream is of the type
JPEG. -/
theorem balanced_iff (config : VideoConfig) (init : InitInput) (uses : List Use)
    (release : ReleaseInput) :
    Balanced (lifeCycle config init uses release).log ↔
      ¬ FirstStageUp config init ∧ ∀ i, (config.channel i).type ≠ ptJpeg := by
  rw [lifeCycle]
  by_cases hup : FirstStageUp config init
  · have hkeeps : Keeps Leaks (videoInit config init {} >>=
        uses.foldlM (Use.apply (videoAdjustParameters config).1)) :=
      (keeps_videoInit hup).bind fun _ h => Keeps.foldlM h fun _ use h => h.apply _ use
    obtain ⟨hinit, huninit⟩ := Leaks.serverRelease1 hkeeps (videoAdjustParameters config).1 release
    refine iff_of_false (fun h => ?_) fun h => h.1 hup
    have hcount := (h (.vi .mipi)).1
    rw [List.count_eq_zero_of_not_mem huninit, List.count_eq_zero] at hcount
    exact hcount hinit
  · have hinit : reached (videoInit config init {} >>=
        uses.foldlM (Use.apply (videoAdjustParameters config).1)) = {} := by
      rw [videoInit_of_not_up hup]
      rfl
    rw [hinit, log_serverRelease1_of_idle rfl, List.nil_append, balanced_jpegs_iff, jpegs,
      List.filter_eq_nil_iff]
    simp [hup, type_videoAdjustParameters]

/-- The streams of the device.
Source: `server/video/config.c` `video_config` -/
def deviceStreams : Fin 5 → StreamProfile
  | 0 => { enable := true, type := ptH264, size := .s1080P }
  | 1 => { enable := true, type := ptH264, size := .vga }
  | 2 => { enable := true, type := ptJpeg, size := .vga }
  | 3 => { enable := true, type := ptJpeg, size := .s360P }
  | 4 => {}

theorem aligned_stackWord : 0xBEFFF3A4#32 &&& 3#32 = 0#32 := by decide

/-- A word of the stack. -/
def stackWord : IntAddress := ⟨0xBEFFF3A4#32, aligned_stackWord⟩

/-- With the streams of the device and no failure the first stage is not taken down. -/
theorem default_unbalanced :
    ¬ Balanced (lifeCycle { stream := deviceStreams } {} [.start {}]
      { stop := { address := stackWord }, uninitAddress := stackWord }).log := by
  intro h
  have hcount := (h (.vi .mipi)).1
  exact absurd hcount (by decide)

end GokeWebcam.Server.VideoHardware
