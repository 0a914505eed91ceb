import RadioBoard.Usb.Service

/-!
A report on an attached board, one line for each thing that the transport knows.
-/

namespace RadioBoard.Usb

def print (label text : String) : Action Unit :=
  note (.line (label ++ ":" ++ "".pushn ' ' (17 - label.length) ++ text))

/-- A register as eight hexadecimal digits. -/
def wordText (word : UInt32) : String := "0x" ++ Text.paddedHex 8 word.toNat

def reportDevice : Action Unit := do
  print "Manufacturer" (← describe .manufacturer)
  print "Product" (← describe .product)
  print "Serial" (← describe .serial)
  print "Firmware version" (← serve .firmwareVersion).text
  print "Firmware ready" (toString (← serve .isReady))
  print "Device speed" (← serve .speed).name
  if !(← serve .isFpgaConfigured) then
    print "FPGA" "not configured"
    return
  print "FPGA version" (← serve .fpgaVersion).text
  print "RFFE control" (wordText (← serve .readFrontEnd))
  print "Config GPIO" (wordText (← serve .readGpio))
  print "RX timestamp" (toString (← serve (.timestamp .rx)))
  print "TX timestamp" (toString (← serve (.timestamp .tx)))

/-- Attaches to a board and reports on it. -/
def report (selector : Selector) : ExceptT Error (Program interface) Unit := do
  let device ← attach selector
  let (result, _) ← (reportDevice.run device : Program interface (Except Error Unit × Device))
  match result with
  | .ok () => return
  | .error e => throw e

end RadioBoard.Usb
