import RadioBoard.Transport
import RadioBoard.Usb.Bus

/-!
Finding a board on the bus and attaching to it.
-/

namespace RadioBoard.Usb

def vendorId : UInt16 := 0x2cf0
def productId : UInt16 := 0x5250

/-- Alternate settings of the device's interface. -/
inductive Setting
  | idle | rfLink | flash | programming
  deriving DecidableEq

def Setting.code : Setting → UInt8
  | idle => 0
  | rfLink => 1
  | flash => 2
  | programming => 3

/-- An attached board: the speed of its bus and the framing in use. -/
structure Device where
  speed : LinkSpeed
  framing : Framing
  deriving DecidableEq

/-- Which of the boards on the bus to use. -/
inductive Selector
  | first
  | serial (s : String)
  | place (bus address : UInt8)
  deriving DecidableEq

def Selector.accepts : Selector → DeviceInfo → Bool
  | first, _ => true
  | serial s, d => d.serial == some s
  | place bus address, d => d.bus == bus && d.address == address

def isBoard (d : DeviceInfo) : Bool := d.vendor == vendorId && d.product == productId

def linkSpeed : Option Speed → LinkSpeed
  | some .super | some .superPlus => .super
  | some .high => .high
  | _ => .unknown

/-- Attaches to the first board that the selector accepts and puts it on the link to the FPGA. -/
def attach (selector : Selector) : ExceptT Error (Program interface) Device := do
  let devices ← orIo (← ask .list)
  match (devices.filter isBoard).find? selector.accepts with
  | none => throw .notFound
  | some device =>
    orIo (← ask (.attach device))
    orIo (← ask (.claim 0))
    orIo (← ask (.setAlternate Setting.rfLink.code))
    return ⟨linkSpeed device.speed, .packets⟩

end RadioBoard.Usb
