import RadioBoard.Error
import RadioBoard.Program

/-!
The USB bus: the calls to the operating system, and what devices and transfers look like there.
-/

namespace RadioBoard.Usb

inductive Speed
  | low | full | high | super | superPlus
  deriving DecidableEq

/-- A device as the bus lists it. -/
structure DeviceInfo where
  vendor : UInt16
  product : UInt16
  speed : Option Speed
  bus : UInt8
  address : UInt8
  serial : Option String
  deriving DecidableEq

/-- A vendor request to the device as a whole. -/
structure Control where
  request : UInt8
  value : UInt16
  index : UInt16
  deriving DecidableEq

/-- How an outgoing transfer ended, and how many bytes it moved. -/
structure Completion where
  fault : Option TransferFault
  moved : Nat
  deriving DecidableEq

inductive Call
  | list
  | attach (device : DeviceInfo)
  | claim (number : UInt8)
  /-- The text of a string descriptor in a language. -/
  | describe (index : UInt8) (language : UInt16)
  | setAlternate (setting : UInt8)
  | controlIn (c : Control) (length : Nat)
  | controlOut (c : Control) (data : ByteArray)
  | bulkOut (endpoint : UInt8) (data : ByteArray)
  | bulkIn (endpoint : UInt8) (length : Nat)

/-- The operating system answers `none` where it refuses. -/
abbrev Call.Answer : Call → Type
  | list => Option (List DeviceInfo)
  | attach _ | claim _ | setAlternate _ => Option Unit
  | describe _ _ => Except String String
  | controlIn _ _ | bulkIn _ _ => Except TransferFault ByteArray
  | controlOut _ _ => Except TransferFault Unit
  | bulkOut _ _ => Completion

def interface : Interface := ⟨Call, Call.Answer⟩

def ask (c : Call) : Program interface c.Answer := Program.ask (I := interface) c

/-- A refusal is an input/output error. -/
def orIo {m : Type → Type} [Monad m] [MonadExceptOf Error m] {α : Type} : Option α → m α
  | some a => pure a
  | none => throw .io

def orTransfer {m : Type → Type} [Monad m] [MonadExceptOf Error m] {α : Type} :
    Except TransferFault α → m α
  | .ok a => pure a
  | .error fault => throw (.transfer fault)

end RadioBoard.Usb
