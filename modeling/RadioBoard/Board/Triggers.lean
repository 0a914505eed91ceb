import RadioBoard.Board.Basic

/-!
The trigger block, as the board lets it through.
-/

namespace RadioBoard.Board

def describeTrigger (channel : UInt8) (signal : Trigger.Signal) : Action Trigger := do
  expect .initialized
  trigger "trigger_init" (.describe channel signal)

def armTrigger (t : Trigger) (on : Bool) : Action Unit := do
  expect .initialized
  trigger "trigger_arm" (.arm t on)

def fireTrigger (t : Trigger) : Action Unit := do
  expect .initialized
  trigger "trigger_fire" (.fire t)

def triggerStatus (t : Trigger) : Action Trigger.Status := do
  expect .initialized
  trigger "trigger_state" (.status t)

def readTrigger (channel : UInt8) (signal : Trigger.Signal) : Action UInt8 := do
  expect .fpgaLoaded
  trigger "read_trigger" (.read channel signal)

def writeTrigger (channel : UInt8) (signal : Trigger.Signal) (value : UInt8) : Action Unit := do
  expect .fpgaLoaded
  trigger "write_trigger" (.write channel signal value)

end RadioBoard.Board
