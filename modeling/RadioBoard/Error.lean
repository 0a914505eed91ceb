import RadioBoard.Version

/-!
Why an operation fails, and the text each cause is reported with.
-/

namespace RadioBoard

/-- How a single USB transfer can go wrong. -/
inductive TransferFault
  | cancelled | stall | disconnected | deviceFault | unknown
  deriving DecidableEq

inductive Error
  | argument (reason : String)
  | invalid
  /-- The board has not been brought up far enough. -/
  | notReady (required actual : String)
  | outOfRange
  | unsupported
  | io
  | wouldBlock
  | timeout
  | outOfMemory
  | noDevice
  /-- The hardware answered with something that no table of the board holds. -/
  | unexpected
  | firmwareOutdated (detected required : Version)
  | fpgaOutdated (detected required : Version)
  | notFound
  | transfer (fault : TransferFault)
  | truncated (actual expected : Nat)
  deriving DecidableEq

namespace Error

def message : Error → String
  | argument reason => reason
  | invalid => "invalid"
  | notReady required actual =>
    s!"board state insufficient for operation (current \"{actual}\", requires \"{required}\")"
  | outOfRange => "value out of range"
  | unsupported => "operation not supported"
  | io => "io"
  | wouldBlock => "operation would block"
  | timeout => "operation timed out"
  | outOfMemory => "memory allocation failed"
  | noDevice => "no device"
  | unexpected => "unexpected error"
  | firmwareOutdated detected required =>
    s!"firmware update required (detected {detected.text}, requires {required.text})"
  | fpgaOutdated detected required =>
    s!"FPGA update required (detected {detected.text}, requires {required.text})"
  | notFound => "not found"
  | transfer _ => "transfer"
  | truncated _ _ => "transfer truncated"

/-- The cause behind a status code of the transceiver driver; the sign of a code carries no meaning. -/
def ofStatus (code : Int32) : Error :=
  match code.abs.toInt with
  | 5 => io
  | 11 => wouldBlock
  | 12 => outOfMemory
  | 14 => unexpected
  | 19 => noDevice
  | 22 => invalid
  | 110 => timeout
  | _ => unexpected

/-- The same where overflows are checked: there is no cause behind a code whose absolute value overflows, and
the program ends with it. -/
def ofStatus? (code : Int32) : Option Error :=
  if code.abs.toInt = code.toInt.natAbs then some (ofStatus code) else none

end Error
end RadioBoard
