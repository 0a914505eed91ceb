import RadioBoard.Transport

/-!
The power monitor chip: its reset and calibration, and its readings in volts, watts and amperes.
-/

namespace RadioBoard.PowerMonitor

inductive Register
  | configuration | shuntVoltage | busVoltage | power | current | calibration
  deriving DecidableEq

def Register.address : Register → UInt8
  | configuration => 0
  | shuntVoltage => 1
  | busVoltage => 2
  | power => 3
  | current => 4
  | calibration => 5

inductive Reading
  | raw (contents : UInt16)
  /-- In volts, watts or amperes, as the register has it. -/
  | measured (value : Float32)

def resetBit : UInt16 := 0x8000

/-- Bus up to 32 V, shunt up to 320 mV, twelve bits, both converted all the time. -/
def settings : UInt16 := 0x019f

/-- The current behind the lowest bit, in amperes. -/
def currentUnit : Float32 := 0.001

/-- How often the chip is asked whether it has left its reset. -/
def resetPolls : Nat := 10

/-- The calibration that goes with a shunt resistor, given in ohms. -/
def calibrationFor (shunt : Float32) : UInt16 :=
  (0.04096 / (currentUnit * shunt) + 0.5).toUInt16

def read (r : Register) : Transport.Action UInt16 := Transport.perform (.readMonitor r.address)

def write (r : Register) (value : UInt16) : Transport.Action Unit :=
  Transport.perform (.writeMonitor r.address value)

/-- Asks at most so many times, a millisecond apart. -/
def awaitReset : Nat → Transport.Action Unit
  | 0 => do
    logError "INA219 did not come out of reset"
    throw .timeout
  | n + 1 => do
    let contents ← read .configuration
    if contents &&& resetBit = 0 then return
    if n ≠ 0 then pause 1
    awaitReset n

def start (shunt : Float32) : Transport.Action Unit := do
  write .configuration resetBit
  awaitReset resetPolls
  write .configuration settings
  write .calibration (calibrationFor shunt)

/-- Ten microvolts to the lowest bit. -/
def readShuntVoltage : Transport.Action Float32 := do
  return (← read .shuntVoltage).toInt16.toFloat32 * 0.00001

/-- Four millivolts to the lowest bit, above three bits of flags. -/
def readBusVoltage : Transport.Action Float32 := do
  return ((← read .busVoltage) >>> 3).toFloat32 * 0.004

/-- Twenty times the unit of the current to the lowest bit. -/
def readPower : Transport.Action Float32 := do
  return (← read .power).toFloat32 * 20.0 * currentUnit

def readCurrent : Transport.Action Float32 := do
  return (← read .current).toInt16.toFloat32 * currentUnit

def readRegister : Register → Transport.Action Reading
  | .configuration => return .raw (← read .configuration)
  | .calibration => return .raw (← read .calibration)
  | .shuntVoltage => return .measured (← readShuntVoltage)
  | .busVoltage => return .measured (← readBusVoltage)
  | .power => return .measured (← readPower)
  | .current => return .measured (← readCurrent)

end RadioBoard.PowerMonitor
