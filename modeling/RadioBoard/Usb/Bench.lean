import RadioBoard.LittleEndian
import RadioBoard.Packet.Registers
import RadioBoard.Usb.Bus

/-!
A bus on the bench: every call succeeds, and packets reach registers that keep what is written to them.
-/

namespace RadioBoard.Usb

structure Bench where
  devices : List DeviceInfo
  /-- The texts of the string descriptors. -/
  texts : UInt8 → Option String
  /-- The status word that answers each vendor request. -/
  status : UInt8 → Int32 := fun _ => 0
  registers : Packet.Registers := {}
  /-- What a register keeps of a value that is written to it. -/
  keeps : Packet.Location → Nat → Nat := fun _ value => value
  /-- The response that waits to be taken. -/
  response : List UInt8 := List.replicate Packet.size 0

namespace Bench

/-- A message of a packet's length is a request; any other is data for the FPGA. -/
def receive (message : List UInt8) (b : Bench) : Bench :=
  if message.length = Packet.size then
    let (response, registers) := Packet.respond b.keeps message b.registers
    { b with response, registers }
  else b

def handler : Handler interface Bench
  | .list => fun b => (some b.devices, b)
  | .attach _ => fun b => (some (), b)
  | .claim _ => fun b => (some (), b)
  | .describe index _ => fun b => ((b.texts index).elim (.error "stall") .ok, b)
  | .setAlternate _ => fun b => (some (), b)
  | .controlIn c _ => fun b =>
    (.ok ⟨(LittleEndian.encode 4 (b.status c.request).toUInt32.toNat).toArray⟩, b)
  | .controlOut _ _ => fun b => (.ok (), b)
  | .bulkOut _ data => fun b => (⟨none, data.size⟩, b.receive data.data.toList)
  | .bulkIn _ _ => fun b =>
    (.ok ⟨b.response.toArray⟩, { b with response := List.replicate Packet.size 0 })

end Bench
end RadioBoard.Usb
