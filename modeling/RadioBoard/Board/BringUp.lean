import RadioBoard.Board.Band
import RadioBoard.PowerMonitor

/-!
Bringing the board up: firmware, bus, FPGA, power monitor, transceiver and front end.

A board without an FPGA image stays in an early stage, so that an image can still be loaded or stored.
-/

namespace RadioBoard.Board

def messageSizeSuper : Nat := 2048
def messageSizeHigh : Nat := 1024

/-- Versions that do not go together only earn a warning, so that another image can be loaded. -/
def warnIncompatible (fpga : Version) : Action Unit := do
  let firmware := (← get).firmwareVersion
  match (← read).classifier.check firmware fpga with
  | .compatible => return
  | .updateFpga required =>
    logWarn (s!"FPGA v{fpga.text} was detected. Firmware v{firmware.text} requires " ++
      s!"FPGA v{required.text} or later. Please load a different FPGA version before continuing.")
  | .updateFirmware required =>
    logWarn (s!"FPGA v{fpga.text} was detected, which requires firmware v{required.text} or later. " ++
      s!"The device firmware is currently v{firmware.text}. " ++
      "Please upgrade the device firmware before continuing.")

/-- Notes the version of the FPGA and what it is capable of. -/
def identifyFpga : Action Unit := do
  let version ← transport "initialize" .fpgaVersion
  let granted := (← read).classifier.fpgaCapabilities version
  modify fun b => { b with fpgaVersion := version, capabilities := b.capabilities ||| granted }
  warnIncompatible version

/-- Starts the transceiver driver in place of one that may still be there. -/
def startRfic : Action Unit := do
  releaseRfic
  let params := (← read).config.rfic
  let handle ← step "initialize" "ad9361_init" do throwIfStatus (← peer (.startRfic params))
  modify ({ · with rfic := some handle })
  transceiver "initialize" (.setFir .tx params.txFir)
  transceiver "initialize" (.setFir .rx params.rxFir)
  transceiver "initialize" (.enableRxFir true)

/-- Takes a board with a configured FPGA to the last stage, with both directions turned off. -/
def setUp : Action Unit := do
  identifyFpga
  transport "initialize" (.setFraming .packets)
  transport "initialize" (.writeFrontEnd FrontEnd.bothEnabled) " initialization"
  let config := (← read).config
  step "initialize" "ina219_init" (onTransport (PowerMonitor.start config.shunt))
  startRfic
  let register ← transport "initialize" .readFrontEnd
  transport "initialize" (.writeFrontEnd (FrontEnd.disable (FrontEnd.disable register .tx) .rx))
  step "initialize" "select_band (TX)" (selectBand .tx (config.rfic.loHz .tx))
  step "initialize" "select_band (RX)" (selectBand .rx (config.rfic.loHz .rx))
  modify ({ · with stage := .initialized })

/-- Asks the firmware whether it is ready, `left` more times out of `polls`. -/
def awaitReady (polls : Nat) : Nat → Action Unit
  | 0 => do
    logError s!"open: is_fw_ready failed: {Error.timeout.message}"
    throw .timeout
  | left + 1 => do
    if ← transport "open" .isReady then return
    if left + 1 = polls then logInfo "Waiting for device to become ready..."
    pause (← read).config.readyPauseMs
    awaitReady polls left

def identifyFirmware : Action Version := do
  let version ← transport "open" .firmwareVersion
  let granted := (← read).classifier.firmwareCapabilities version
  modify fun b => { b with
    firmwareVersion := version
    capabilities := b.capabilities ||| granted
    stage := .firmwareLoaded }
  return version

/-- The message size that goes with the speed of the bus. -/
def identifyBus : Action Unit := do
  match ← transport "open" .speed with
  | .super => modify ({ · with messageSize := messageSizeSuper })
  | .high => modify ({ · with messageSize := messageSizeHigh })
  | .unknown =>
    logError s!"open: Got unsupported device speed {LinkSpeed.unknown.name}"
    throw .unexpected

def checkFirmware (version : Version) : Action Unit := do
  if let .updateFirmware required := (← read).classifier.checkFirmware version then
    logWarn (s!"Firmware v{version.text} was detected. This driver requires firmware " ++
      s!"v{required.text} or later. An upgrade via the bootloader is required.")
    throw (.firmwareOutdated version required)

/-- Configures the FPGA from the search paths; tells whether there was an image. -/
def loadFromFiles : Action Bool := do
  let setup ← read
  match setup.config.lookUp setup.files a4ImageName with
  | none =>
    logWarn "FPGA bitstream file not found."
    logWarn "Skipping further initialization..."
    return false
  | some (path, .error reason) =>
    logError s!"open: reading {path} failed: {reason}"
    throw .io
  | some (_, .ok image) =>
    transport "open" (.loadFpga image)
    return true

/-- Makes sure that the FPGA is configured; tells whether it is. -/
def provideFpga : Action Bool := do
  if ← transport "open" .isFpgaConfigured then return true
  loadFromFiles

/-- The whole way up, as far as it goes. This board comes with the A4 variant only. -/
def bringUp : Action Unit := do
  let version ← identifyFirmware
  let config := (← read).config
  awaitReady config.readyPolls config.readyPolls
  identifyBus
  checkFirmware version
  modify ({ · with fpgaSize := .a4 })
  if config.forceNoFpga then return
  if ← provideFpga then
    modify ({ · with stage := .fpgaLoaded })
    step "open" "initialize" setUp

/-- Opens a board. If that fails, what was started so far is released. -/
def start (setup : Setup) : Program boardInterface (Except Error Board) := do
  match ← (bringUp setup).run {} with
  | (.ok (), board) => return .ok board
  | (.error e, board) => do
    let _ ← (release setup).run board
    return .error e

/-- Closes a board. -/
def stop (setup : Setup) (board : Board) : Program boardInterface Unit := do
  let _ ← (release setup).run board

end RadioBoard.Board
