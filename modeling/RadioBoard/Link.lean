import RadioBoard.Error
import RadioBoard.Packet.Text
import RadioBoard.Program

/-!
Accesses to the FPGA over a link that carries packets: each is one request and one response.
-/

namespace RadioBoard.Link

/-- Sends a request to an endpoint and takes the response from another. -/
structure Call where
  endpointIn : UInt8
  endpointOut : UInt8
  request : List UInt8
  deriving DecidableEq

def interface : Interface := ⟨Call, fun _ => Except Error (List UInt8)⟩

abbrev Action (α : Type) := ExceptT Error (Program interface) α

/-- The endpoints of a link, in and out. -/
structure Endpoints where
  input : UInt8
  output : UInt8
  deriving DecidableEq

variable {f : Packet.Format}

/-- The packet in a response. A short one is filled up, with a warning. -/
def received (f : Packet.Format) (response : List UInt8) : Action (Packet f) := do
  if response.length < Packet.size then
    logWarn s!"short NIOS packet ({response.length} bytes), padding with zeros"
  return Packet.ofBytes f response

/-- Sends a request and expects its success. -/
def access (e : Endpoints) (request : Packet f) : Action (Packet f) := do
  let response ← ExceptT.mk (Program.ask (I := interface) ⟨e.input, e.output, request.bytes⟩)
  let packet ← received f response
  if !packet.isValid then
    logError s!"nios_access: malformed response {packet.bytesText}"
    throw .unexpected
  if !packet.isSuccess then
    logError s!"nios_access: request failed: {packet.fieldsText}"
    throw .unexpected
  return packet

def read (f : Packet.Format) (e : Endpoints) (target : UInt8) (address : Packet.Address f) :
    Action (Packet.Data f) := do
  return (← access e (Packet.readRequest f target address)).data

def write (f : Packet.Format) (e : Endpoints) (target : UInt8) (address : Packet.Address f)
    (data : Packet.Data f) : Action Unit := do
  let _ ← access e (Packet.writeRequest f target address data)

end RadioBoard.Link
