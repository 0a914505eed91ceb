import RadioBoard.Board.Basic

/-!
What the board knows about itself and the bus it is attached to.
-/

namespace RadioBoard.Board

def linkSpeed : Action LinkSpeed := do
  expect .firmwareLoaded
  transport "device_speed" .speed

def getFpgaSize : Action FpgaSize := do
  expect .firmwareLoaded
  return (← get).fpgaSize

def isFpgaConfigured : Action Bool := do
  expect .firmwareLoaded
  transport "is_fpga_configured" .isFpgaConfigured

def hasCapability (b : Board) (bits : UInt64) : Bool := b.capabilities &&& bits == bits

def getFpgaVersion : Action Version := do
  expect .fpgaLoaded
  return (← get).fpgaVersion

def getFirmwareVersion : Action Version := do
  expect .firmwareLoaded
  return (← get).firmwareVersion

end RadioBoard.Board
