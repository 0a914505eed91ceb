import RadioBoard.Board.Basic
import RadioBoard.PowerMonitor
import RadioBoard.Rfic.Register

/-!
Registers one by one: transceiver, reference oscillator, power monitor, trim converter and the
configuration register of the FPGA.
-/

namespace RadioBoard.Board

def readRfic (address : UInt16) : Action UInt8 := do
  expect .fpgaLoaded
  return Rfic.Command.unpack
    (← transport "ad9361_read" (.readSpi (Rfic.Command.readByte address)))

def writeRfic (address : UInt16) (value : UInt8) : Action Unit := do
  expect .fpgaLoaded
  transport "ad9361_write" (.writeSpi (Rfic.Command.writeByte address) (Rfic.Command.pack value))

/-- The reference oscillator has four latches. -/
def latch (address : UInt8) : UInt8 := address &&& 3

def readPll (address : UInt8) : Action UInt32 := do
  expect .fpgaLoaded
  transport "adf4002_read" (.readPll (latch address))

def writePll (address : UInt8) (value : UInt32) : Action Unit := do
  expect .fpgaLoaded
  transport "adf4002_write" (.writePll (latch address) value)

def readMonitor (r : PowerMonitor.Register) : Action PowerMonitor.Reading := do
  expect .fpgaLoaded
  step "get_pmic_register" "ina219" (onTransport (PowerMonitor.readRegister r))

/-- The oscillator's trim where none was measured: the middle of the scale. -/
def defaultTrim : UInt16 := 0x7fff

def getTrim : Action UInt16 := do
  expect .firmwareLoaded
  return defaultTrim

def readTrim : Action UInt16 := do
  expect .fpgaLoaded
  transport "trim_dac_read" .readTrim

def writeTrim (value : UInt16) : Action Unit := do
  expect .fpgaLoaded
  transport "trim_dac_write" (.writeTrim value)

def readGpio : Action UInt32 := do
  expect .fpgaLoaded
  transport "config_gpio_read" .readGpio

def writeGpio (value : UInt32) : Action Unit := do
  expect .fpgaLoaded
  transport "config_gpio_write" (.writeGpio value)

end RadioBoard.Board
