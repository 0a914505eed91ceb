import RadioBoard.LittleEndian
import RadioBoard.Text.Digits
import RadioBoard.Usb.Device
import RadioBoard.Version.Reader

/-!
Vendor requests to the firmware: its version and status, loopback, and the programming of the FPGA.
-/

namespace RadioBoard.Usb

/-- What can be done with an attached board. -/
abbrev Action (α : Type) := ExceptT Error (StateT Device (Program interface)) α

/-- English, the only language of the firmware. -/
def language : UInt16 := 0x409

/-- Texts that the firmware describes the device with. -/
inductive Description
  | manufacturer | product | serial | firmware
  deriving DecidableEq

def Description.index : Description → UInt8
  | manufacturer => 1
  | product => 2
  | serial => 3
  | firmware => 4

inductive Command
  | queryVersion | queryFpgaStatus | beginProgramming | endProgramming | enableRx | enableTx
  | queryReady | reset | setLoopback | loopback
  deriving DecidableEq

def Command.code : Command → UInt8
  | queryVersion => 0
  | queryFpgaStatus => 1
  | beginProgramming => 2
  | endProgramming => 3
  | enableRx => 4
  | enableTx => 5
  | queryReady => 6
  | reset => 105
  | setLoopback => 113
  | loopback => 114

/-- Bulk data for the FPGA goes out here. -/
def endpointOut : UInt8 := 0x02
def endpointIn : UInt8 := 0x82

/-- The firmware's status for a direction that is enabled already, which does no harm. -/
def alreadyStarted : Int32 := 0x44

def fpgaStatusPolls : Nat := 10
def fpgaStatusPauseMs : Nat := 200

def describe (d : Description) : Action String := do
  match ← ask (.describe d.index language) with
  | .ok text => return text
  | .error reason =>
    logError s!"get_string_descriptor: {reason}"
    throw .invalid

def firmwareVersion : Action Version := do
  let text ← describe .firmware
  match Version.parse text with
  | some version => return version
  | none =>
    logError s!"Unable to parse firmware version \"{text}\""
    throw .unexpected

def setAlternate (s : Setting) : Action Unit := do orIo (← ask (.setAlternate s.code))

/-- A vendor request that is answered with a status word of four bytes. -/
def command (c : Command) (value : UInt16) : Action Int32 := do
  let answer ← orTransfer (← ask (.controlIn ⟨c.code, value, 0⟩ 4))
  if answer.size ≠ 4 then throw (.truncated answer.size 4)
  return Int32.ofInt (LittleEndian.decode answer.data.toList)

def flag (on : Bool) : UInt16 := if on then 1 else 0

def isReady : Action Bool := do return (← command .queryReady 0) = 1

def isFpgaConfigured : Action Bool := do
  let status ← command .queryFpgaStatus 0
  if status = 0 then return false
  if status = 1 then return true
  logError s!"Unexpected FPGA status {status}"
  throw .unexpected

/-- Asks at most so many times. -/
def awaitFpga : Nat → Action Unit
  | 0 => do
    logError "Timeout while waiting for FPGA configuration status"
    throw .timeout
  | n + 1 => do
    if ← isFpgaConfigured then return
    pause fpgaStatusPauseMs
    awaitFpga n

/-- Sends an image as a whole. -/
def sendImage (image : ByteArray) : Action Unit := do
  let completion ← ask (.bulkOut endpointOut image)
  if let some fault := completion.fault then throw (.transfer fault)
  if completion.moved ≠ image.size then throw (.truncated completion.moved image.size)

def loadFpga (image : ByteArray) : Action Unit := do
  setAlternate .programming
  let status ← command .beginProgramming 0
  if status ≠ 0 then
    logError s!"Failed to start FPGA programming, result = {status}"
    throw .unexpected
  sendImage image
  let status ← command .endProgramming 0
  if status ≠ 0 then logWarn s!"Unexpected end programming result: {status}"
  awaitFpga fpgaStatusPolls
  setAlternate .rfLink

def enablePath (d : Direction) (on : Bool) : Action Unit := do
  let status ← command (match d with | .rx => .enableRx | .tx => .enableTx) (flag on)
  if status ≠ 0 then
    let verb := if on then "enabling" else "disabling"
    logWarn s!"FX3 reported error={Text.markedHex status.toUInt32.toNat} when {verb} RF {d.name}"
    if status ≠ alreadyStarted then throw .unexpected

def reset : Action Unit := do
  orTransfer (← ask (.controlOut ⟨Command.reset.code, 0, 0⟩ .empty))

/-- The change of settings makes the firmware take the new path. -/
def setLoopback (on : Bool) : Action Unit := do
  let _ ← command .setLoopback (flag on)
  setAlternate .idle
  setAlternate .rfLink

def loopback : Action Bool := do return (← command .loopback 0) ≠ 0

end RadioBoard.Usb
