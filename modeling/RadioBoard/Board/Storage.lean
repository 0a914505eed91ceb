import RadioBoard.Board.BringUp

/-!
Images for the FPGA and the firmware, loaded or stored in flash, and the flash itself.
-/

namespace RadioBoard.Board

/-- Refuses an FPGA image of the wrong size, unless the check is switched off. -/
def expectBitstream (operation : String) (image : ByteArray) : Action Unit := do
  let variant := (← get).fpgaSize
  if (← read).config.skipFpgaSizeCheck then
    logInfo s!"Overriding FPGA size check per {Variable.skipFpgaSizeCheck}"
  else if !Flash.fitsBitstream variant image.size then
    logWarn "Detected potentially incorrect FPGA file."
    logError s!"{operation}: fpga size {variant.name} is not valid for {image.size} bytes"
    throw .invalid

/-- Configures the FPGA and sets the board up with it. -/
def loadFpga (image : ByteArray) : Action Unit := do
  expect .firmwareLoaded
  expectBitstream "load_fpga" image
  transport "load_fpga" (.loadFpga image)
  modify ({ · with stage := .fpgaLoaded })
  step "load_fpga" "initialize" setUp

/-- Stores an image from which the FPGA is configured at power-up. -/
def storeFpga (image : ByteArray) : Action Unit := do
  expect .firmwareLoaded
  expectBitstream "flash_fpga" image
  flash "flash_fpga" (.writeBitstream image)

def eraseStoredFpga : Action Unit := do
  expect .firmwareLoaded
  flash "erase_stored_fpga" .eraseBitstream

def storeFirmware (image : ByteArray) : Action Unit := do
  expect .firmwareLoaded
  if !(← read).config.skipFirmwareSizeCheck && !Flash.fitsFirmware image.size then
    logInfo "Detected potentially invalid firmware file."
    logInfo s!"Set {Variable.skipFirmwareSizeCheck} to skip this check."
    logError s!"flash_firmware: firmware size {image.size} is not valid"
    throw .invalid
  flash "flash_firmware" (.writeFirmware image)

def eraseFlash (block count : UInt32) : Action Unit := do
  expect .firmwareLoaded
  flash "erase_flash" (.erase block count)

def readFlash (page count : UInt32) : Action ByteArray := do
  expect .firmwareLoaded
  flash "read_flash" (.read page count)

def writeFlash (page : UInt32) (data : ByteArray) : Action Unit := do
  expect .firmwareLoaded
  flash "write_flash" (.write page data)

def resetDevice : Action Unit := do
  expect .firmwareLoaded
  transport "device_reset" .reset

end RadioBoard.Board
