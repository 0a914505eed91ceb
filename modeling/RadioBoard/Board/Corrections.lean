import RadioBoard.Board.Basic
import RadioBoard.Correction

/-!
Reading and writing the manual corrections of a channel, in the bank of the port in use.
-/

namespace RadioBoard.Board

open Correction

/-- Only the channels on the board have corrections. -/
def expectChannel (channel : UInt8) : Action Unit := do
  if !Channel.onBoard channel then
    logError s!"channel {channel} is not valid"
    throw .invalid

/-- The bank of correction registers behind the port in use. -/
def correctionBank (operation : String) (d : Direction) : Action Bank := do
  let port ← transceiver operation (.port d)
  match Bank.ofPort? d port with
  | some bank => return bank
  | none =>
    logError s!"{operation}: RX port {port} has no correction registers"
    throw .unsupported

/-- The bits of a field, read from the transceiver. -/
def readField (operation : String) : Field → Action Nat
  | .whole register => do
    return (← transceiver operation (.readRegister register) "(reg)").toNat
  | .split top bottom => do
    let high ← transceiver operation (.readRegister top.register) "(top)"
    let low ← transceiver operation (.readRegister bottom.register) "(bottom)"
    return top.get high <<< bottom.width + bottom.get low

/-- Writes the bits of a field and keeps what its registers hold besides. -/
def writeField (operation : String) (bits : Nat) : Field → Action Unit
  | .whole register =>
    transceiver operation (.writeRegister register (UInt8.ofNat bits)) "(reg)"
  | .split top bottom => do
    let high ← transceiver operation (.readRegister top.register) "(top)"
    let low ← transceiver operation (.readRegister bottom.register) "(bottom)"
    transceiver operation
      (.writeRegister top.register (top.put (bits >>> bottom.width) high)) "(top)"
    transceiver operation (.writeRegister bottom.register (bottom.put bits low)) "(bottom)"

def getCorrection (channel : UInt8) (c : Correction) : Action Int16 := do
  expect .initialized
  expectChannel channel
  let d := Direction.ofChannel channel
  let bank ← correctionBank "get_correction" d
  let bits ← readField "get_correction" (field d c (Chain.ofChannel channel) bank)
  return (precision d c).decode bits

/-- Writes a correction and its force bit, so that the chip uses it in place of its own calibration. -/
def setCorrection (channel : UInt8) (c : Correction) (value : Int16) : Action Unit := do
  expect .initialized
  expectChannel channel
  let d := Direction.ofChannel channel
  let bank ← correctionBank "set_correction" d
  let chain := Chain.ofChannel channel
  writeField "set_correction" ((precision d c).encode value) (field d c chain bank)
  let force ← transceiver "set_correction" (.readRegister (forceRegister d)) "(force)"
  transceiver "set_correction"
    (.writeRegister (forceRegister d) (force ||| forceBit c chain bank)) "(force)"

end RadioBoard.Board
