import RadioBoard.Link
import RadioBoard.Packet.Target
import RadioBoard.Peer
import RadioBoard.Usb.Firmware

/-!
The transport over USB: `serve` makes every transport call by calls to the bus.

Registers of the FPGA are reached by packets on the bulk endpoints, everything else by vendor requests.
-/

namespace RadioBoard.Usb

def endpoints : Link.Endpoints := ⟨endpointIn, endpointOut⟩

/-- Moves one request out and one response, of a packet's length, in. -/
def exchange (c : Link.Call) : ExceptT Error (Program interface) (List UInt8) := do
  let completion ← ask (.bulkOut c.endpointOut ⟨c.request.toArray⟩)
  if let some fault := completion.fault then throw (.transfer fault)
  let response ← orTransfer (← ask (.bulkIn c.endpointIn Packet.size))
  if response.size ≠ Packet.size then throw (.truncated response.size Packet.size)
  return response.data.toList

/-- Makes the accesses of a link by exchanges on the bus. -/
def overBus {α : Type} (act : Link.Action α) : Program interface (Except Error α) := do
  let (result, _) ← Program.expand (fun c _ => do return (← (exchange c).run, ())) act.run ()
  return result

/-- Boards of this kind understand packets only. -/
def expectPackets : Action Unit := do
  if (← get).framing = .legacy then
    logError "Legacy NIOS II framing is not supported by this board"
    throw .unsupported

def onLink {α : Type} (act : Link.Action α) : Action α := do
  expectPackets
  match ← (overBus act : Program interface (Except Error α)) with
  | .ok a => return a
  | .error e => throw e

def readRegister (f : Packet.Format) (target : UInt8) (address : Packet.Address f) :
    Action (Packet.Data f) :=
  onLink (Link.read f endpoints target address)

def writeRegister (f : Packet.Format) (target : UInt8) (address : Packet.Address f)
    (data : Packet.Data f) : Action Unit :=
  onLink (Link.write f endpoints target address data)

def timestampAddress : Direction → UInt8
  | .rx => Packet.Target.rxTimestamp
  | .tx => Packet.Target.txTimestamp

open Packet in
/-- Makes one call to the transport. -/
def serve : (c : Transport.Call) → Action c.Reply
  | .firmwareVersion => firmwareVersion
  | .fpgaVersion => return Version.ofWord ⟨← readRegister .a8d32 Target.version 0⟩
  | .isReady => isReady
  | .speed => return (← get).speed
  | .isFpgaConfigured => isFpgaConfigured
  | .loadFpga image => loadFpga image
  | .setFraming framing => modify ({ · with framing })
  | .readFrontEnd => return ⟨← readRegister .a8d32 Target.frontEnd 0⟩
  | .writeFrontEnd value => writeRegister .a8d32 Target.frontEnd 0 value.toBitVec
  | .enablePath d on => enablePath d on
  | .timestamp d => return ⟨← readRegister .a8d64 Target.timestamp (timestampAddress d).toBitVec⟩
  | .readGpio => return ⟨← readRegister .a8d32 Target.gpio 0⟩
  | .writeGpio value => writeRegister .a8d32 Target.gpio 0 value.toBitVec
  | .readSpi command => return ⟨← readRegister .a16d64 Target.rfic command.toBitVec⟩
  | .writeSpi command data => writeRegister .a16d64 Target.rfic command.toBitVec data.toBitVec
  | .readPll latch => return ⟨← readRegister .a8d32 Target.pll latch.toBitVec⟩
  | .writePll latch value => writeRegister .a8d32 Target.pll latch.toBitVec value.toBitVec
  | .readMonitor register => return ⟨← readRegister .a8d16 Target.powerMonitor register.toBitVec⟩
  | .writeMonitor register value =>
    writeRegister .a8d16 Target.powerMonitor register.toBitVec value.toBitVec
  | .readTrim => return ⟨← readRegister .a8d16 Target.trim 0⟩
  | .writeTrim value => writeRegister .a8d16 Target.trim 0 value.toBitVec
  | .reset => reset
  | .setLoopback on => setLoopback on
  | .loopback => loopback

/-- A program of the board with its transport over USB; the other collaborators stay as they are. -/
def carry {α : Type} : Program boardInterface α → Device →
    Program (interface.sum Peer.interface) (α × Device) :=
  Program.expand fun
    | .inl c, device => Program.left ((serve c).run device)
    | .inr c, device => do
      let answer ← Program.right (Program.ask (I := Peer.interface) c)
      return (answer, device)

end RadioBoard.Usb
