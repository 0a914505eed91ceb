import RadioBoard.Error

/-!
The trigger block of the FPGA, with which several boards start together.
-/

namespace RadioBoard

namespace Trigger

/-! Bits of the trigger control register. -/

def armBit : UInt8 := (1 : UInt8) <<< 0
def fireBit : UInt8 := (1 : UInt8) <<< 1
def masterBit : UInt8 := (1 : UInt8) <<< 2
def lineBit : UInt8 := (1 : UInt8) <<< 3

inductive Role
  | invalid
  | disabled
  /-- The signal leaves the board. -/
  | master
  /-- The signal enters the board. -/
  | slave
  deriving DecidableEq

inductive Signal
  | invalid
  | j71Pin4
  | j51Pin1
  | miniExpansion1
  /-- A signal of a custom FPGA image. -/
  | user (n : UInt8)
  deriving DecidableEq

structure Status where
  isArmed : Bool
  hasFired : Bool
  fireRequested : Bool
  deriving DecidableEq

end Trigger

structure Trigger where
  channel : UInt8
  role : Trigger.Role
  signal : Trigger.Signal
  options : UInt64
  deriving DecidableEq

namespace Trigger

inductive Call
  | describe (channel : UInt8) (signal : Signal)
  | arm (t : Trigger) (on : Bool)
  | fire (t : Trigger)
  | status (t : Trigger)
  | read (channel : UInt8) (signal : Signal)
  | write (channel : UInt8) (signal : Signal) (value : UInt8)

/-- What messages call a call. -/
def Call.name : Call → String
  | describe _ _ => "fpga_trigger_init"
  | arm _ _ => "fpga_trigger_arm"
  | fire _ => "fpga_trigger_fire"
  | status _ => "fpga_trigger_state"
  | read _ _ => "fpga_trigger_read"
  | write _ _ _ => "fpga_trigger_write"

abbrev Call.Reply : Call → Type
  | describe _ _ => Trigger
  | status _ => Status
  | read _ _ => UInt8
  | _ => Unit

end Trigger
end RadioBoard
