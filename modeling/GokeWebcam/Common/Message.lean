import GokeWebcam.Common.Misc

/-!
# Messages

`message_t` of `common/buffer/msg_buffer.h`: the record the servers exchange.

* `arg` and `extra` are the payload blocks as bytes (`none` is the null pointer). A deep copy of a
  message is then the message itself, and freeing a block is forgetting it; which allocation a
  pointer names, and whether it is freed once, is not expressed at this level.
* `handler` is a function pointer. The functions whose address the program ever stores there are
  the constructors of `Handler`.
* `msgIsSystem`, `msgIsResponse`: the two classifications of an id by its bits.
-/

namespace GokeWebcam.Common

/-- The functions stored in `arg_in.handler` anywhere in the program. -/
inductive Handler
  | managerRoutineProc | managerDelayedStart | managerKillAll | testFunc | sleepCheckScheduler
  | deviceCheckReset | ircutOptRelease | videoMdCheckScheduler
  deriving DecidableEq, Repr

/-- Source: `common/buffer/msg_buffer.h` `message_arg_t` -/
structure MessageArg where
  dog : CInt := 0#32
  cat : CInt := 0#32
  duck : CInt := 0#32
  chick : CInt := 0#32
  tiger : CInt := 0#32
  wolf : CInt := 0#32
  handler : Option Handler := none
  deriving DecidableEq, Repr

/-- Source: `common/buffer/msg_buffer.h` `message_t` -/
structure Message where
  message : CInt := 0#32
  sender : CInt := 0#32
  receiver : CInt := 0#32
  result : CInt := 0#32
  argIn : MessageArg := {}
  argPass : MessageArg := {}
  argSize : CInt := 0#32
  arg : Option (List (BitVec 8)) := none
  extraSize : CInt := 0#32
  extra : Option (List (BitVec 8)) := none
  sequence : BitVec 32 := 0#32
  deriving DecidableEq, Repr

/-- The zeroed record.
Source: `common/buffer/msg_buffer.c` `msg_init` -/
def msgInit : Message := {}

instance : Inhabited Message := ⟨msgInit⟩

/-- Drop the payload blocks that are really there.
Source: `common/buffer/msg_buffer.c` `msg_free` -/
def msgFree (data : Message) : Message :=
  let data := if data.arg.isSome ∧ BitVec.slt 0#32 data.argSize then
    { data with arg := none, argSize := 0#32 } else data
  if data.extra.isSome ∧ BitVec.slt 0#32 data.extraSize then
    { data with extra := none, extraSize := 0#32 } else data

/-- Source: `common/buffer/msg_buffer.c` `msg_is_system` -/
def msgIsSystem (id : CInt) : Bool := id &&& 0xFFF0#32 == 0#32

/-- Source: `common/buffer/msg_buffer.c` `msg_is_response` -/
def msgIsResponse (id : CInt) : Bool := id &&& 0xF000#32 != 0#32

/-- The `int` in the first four bytes of a payload block, little-endian; a missing byte reads as
zero. -/
def readInt (block : List (BitVec 8)) : CInt :=
  (block.getD 3 0#8 ++ block.getD 2 0#8 ++ block.getD 1 0#8 ++ block.getD 0 0#8).cast (by rfl)

/-- The payload block of an `int`. -/
def intBytes (v : CInt) : List (BitVec 8) :=
  [v.extractLsb' 0 8, v.extractLsb' 8 8, v.extractLsb' 16 8, v.extractLsb' 24 8]

@[simp] theorem readInt_intBytes (v : CInt) : readInt (intBytes v) = v := by
  apply BitVec.eq_of_getLsbD_eq
  intro i hi
  simp [readInt, intBytes]
  grind

end GokeWebcam.Common
