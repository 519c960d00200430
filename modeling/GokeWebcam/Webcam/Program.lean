import GokeWebcam.Lib.Transition
import GokeWebcam.Manager.Manager
import GokeWebcam.Server.Aliyun
import GokeWebcam.Server.Audio
import GokeWebcam.Server.DeviceServer
import GokeWebcam.Server.Goke
import GokeWebcam.Server.Player
import GokeWebcam.Server.Recorder
import GokeWebcam.Server.Video

/-!
# The whole program

The manager, the seven servers it starts, and the messages between them. What is sent is in flight until
it is pushed into the queue of its receiver, and any message in flight may be the next one to arrive.

* `Child`: the servers the manager starts, each with its static variables and its code.
* `Program`: the states of all of them and the messages in flight.
* `Program.step`: a step of one of them, or the arrival of a message.

Messages also come from the threads of libraries and from the functions that other threads call, so any
message may arrive at any time, but for those of the exit protocol, which only the servers send. A second
thread of a server that still runs is not modelled: its start has no successor.
-/

namespace GokeWebcam.Webcam

open Lib Common Global Manager Server

/-! ### The servers -/

/-- The servers that the manager starts.
Source: `server/manager/manager.c` `manager_server_start` -/
inductive Child
  | device | goke | video | audio | recorder | player | aliyun
  deriving DecidableEq, Repr

namespace Child

def type : Child → ServerType
  | device => .device
  | goke => .goke
  | video => .video
  | audio => .audio
  | recorder => .recorder
  | player => .player
  | aliyun => .aliyun

def all : List Child := [device, goke, video, audio, recorder, player, aliyun]

theorem mem_all {t : Child} : t ∈ all := by cases t <;> decide

instance : Fintype Child := ⟨⟨all, by decide⟩, fun _ => mem_all⟩

theorem type_inj {t u : Child} : t.type = u.type ↔ t = u := by cases t <;> cases u <;> decide

theorem type_ne_manager {t : Child} : t.type ≠ .manager := by cases t <;> decide

/-- The server with the number, if it is one of them. -/
def ofNumber? (n : CInt) : Option Child := all.find? fun t => t.type.toInt = n

theorem ofNumber?_toInt {t : Child} : ofNumber? t.type.toInt = some t := by cases t <;> decide

theorem ofNumber?_eq {n : CInt} {t : Child} (h : ofNumber? n = some t) : t.type.toInt = n := by
  rw [ofNumber?] at h
  simpa using List.find?_some h

/-- The static variables of its file, besides `info` and `message`. -/
def Statics : Child → Type
  | device => DeviceServer.Statics
  | goke => Unit
  | video => Video.Statics
  | audio => Unit
  | recorder => Recorder.Statics
  | player => Player.Statics
  | aliyun => Aliyun.Statics

/-- Source: `server/*/*.c` -/
def code : (t : Child) → ServerCode t.Statics
  | device => DeviceServer.server
  | goke => Goke.server
  | video => Video.server
  | audio => Audio.server
  | recorder => Recorder.server
  | player => Player.server
  | aliyun => Aliyun.server

theorem server_code {t : Child} : t.code.server = t.type := by cases t <;> rfl

/-- The server `u` is in the `*_EXIT_CONDITION` of the server. -/
def waitsFor (t u : Child) : Bool := t.code.exitCondition.getLsbD u.type.toNat

end Child

/-! ### The program -/

/-- The manager, the servers, and what has been sent to whom and not arrived. -/
structure Program where
  manager : ManagerState
  server : (t : Child) → ServerState t.Statics
  flight : List (CInt × Message) := []

/-- A step of the manager, a step of a server, or the arrival of a message in flight. -/
inductive ProgramAction
  | manager (a : ManagerAction)
  | server (t : Child) (a : ServerAction)
  | deliver (i : ℕ)

/-- The messages among what the manager did. -/
def sendsOf (outs : List ManagerOutput) : List (CInt × Message) :=
  outs.filterMap fun
    | .send receiver msg => some (receiver, msg)
    | .start _ => none

/-- The server is started by what the manager did. -/
def startsOf (outs : List ManagerOutput) (t : Child) : Bool := outs.contains (.start t.type)

/-- What a step of the manager added to what it did. -/
def managerOuts (s s' : ManagerState) : List ManagerOutput := s'.out.drop s.out.length

/-- What a step of a server sent. -/
def serverOuts {κ : Type} (s s' : ServerState κ) : List (CInt × Message) := s'.out.drop s.out.length

/-- The thread of the server is created. -/
def begin {κ : Type} (c : ServerCode κ) (s : ServerState κ) : ServerState κ :=
  { c.serverStart s with pc := .boot }

namespace Program

variable (config : ManagerConfig) (p : Program)

/-- The manager's part of the program has gone on to `s`. -/
def afterManager (s : ManagerState) : Option Program :=
  let outs := managerOuts p.manager s
  if ∀ t, startsOf outs t = true → (p.server t).pc = .stopped then
    some {
      manager := s
      server := fun t => if startsOf outs t then begin t.code (p.server t) else p.server t
      flight := p.flight ++ sendsOf outs }
  else none

/-- The part of the server `t` has gone on to `s`. -/
def afterServer (t : Child) (s : ServerState t.Statics) : Program :=
  { p with
    server := Function.update p.server t s
    flight := p.flight ++ serverOuts (p.server t) s }

/-- The message is pushed into the queue of its receiver.
Source: `global/common.c` `global_common_send_message` -/
def arrival (receiver : CInt) (msg : Message) : Option Program :=
  if receiver = ServerType.manager.toInt then
    (p.manager.step (.arrive msg)).map fun s => { p with manager := s }
  else
    match Child.ofNumber? receiver with
    | none => some p
    | some t => some { p with server := Function.update p.server t (serverMessage msg (p.server t)) }

/-- One step; `none` where the action is not enabled. -/
def step : ProgramAction → Option Program
  | .manager (.arrive msg) =>
    if Ordinary msg then p.arrival ServerType.manager.toInt msg else none
  | .manager a => (p.manager.step a).bind p.afterManager
  | .server t (.arrive msg) => if Ordinary msg then p.arrival t.type.toInt msg else none
  | .server _ .start => none
  | .server t a => (t.code.step config (p.server t) a).map (p.afterServer t)
  | .deliver i =>
    match p.flight[i]? with
    | none => none
    | some (receiver, msg) => ({ p with flight := p.flight.eraseIdx i } : Program).arrival receiver msg

end Program

/-- The manager has set itself up, and no server has been started. -/
def programInit (config : ManagerConfig) (own : (t : Child) → t.Statics) : Program where
  manager := managerInit config
  server := fun t => { own := own t }

end GokeWebcam.Webcam
