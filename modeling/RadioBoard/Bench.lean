import RadioBoard.Peer
import RadioBoard.RegisterFile

/-!
A board on the bench: collaborators that keep whatever is written to them and never fail.

The laws of the board speak of such collaborators. What a chip cannot keep exactly has a field of its
own: rates come in steps, and a firmware or a chip that starts up needs to be asked a number of times.
-/

namespace RadioBoard

namespace Bench

/-- What the transceiver keeps for one direction. -/
structure Path where
  lo : UInt64 := 0
  port : UInt32 := 0
  bandwidth : UInt32 := 0
  sampleRate : UInt32 := 0
  deriving DecidableEq

end Bench

structure Bench where
  firmware : Version
  fpga : Version
  speed : LinkSpeed
  /-- How often the firmware still answers that it is not ready. -/
  busyPolls : Nat := 0
  isConfigured : Bool := false
  isLooped : Bool := false
  frontEnd : UInt32 := 0
  gpio : UInt32 := 0
  trim : UInt16 := 0
  rxClock : UInt64 := 0
  txClock : UInt64 := 0
  spi : RegisterFile UInt16 UInt64 := {}
  pll : RegisterFile UInt8 UInt32 := {}
  monitor : RegisterFile UInt8 UInt16 := {}
  /-- How often the power monitor still shows its reset bit. -/
  resetPolls : Nat := 0
  rx : Bench.Path := {}
  tx : Bench.Path := {}
  /-- Bandwidths and sample rates come in multiples of this. -/
  rateStep : UInt32 := 1
  rxGain : RegisterFile UInt8 Int32 := {}
  digitalGain : UInt32 := 0
  attenuation : RegisterFile UInt8 UInt32 := {}
  gainControl : RegisterFile UInt8 UInt8 := {}
  selfTest : Int32 := 0
  registers : RegisterFile UInt16 UInt8 := {}
  /-- What a read of the flash gives. -/
  flash : ByteArray := .empty
  role : Trigger.Role := .disabled
  triggerOptions : UInt64 := 0
  triggerStatus : Trigger.Status := ⟨false, false, false⟩
  triggers : RegisterFile UInt8 UInt8 := {}
  /-- The streams that were created and not removed, the last one first. -/
  streams : List (Streaming.StreamHandle × Streaming.Callback) := []
  /-- The numbers of the last stream, the last synchronous stream and the last driver. -/
  lastStream : UInt32 := 0
  lastSync : Nat := 0
  lastDriver : Nat := 0

namespace Bench

def path (b : Bench) : Direction → Path
  | .rx => b.rx
  | .tx => b.tx

def withPath (b : Bench) (p : Path) : Direction → Bench
  | .rx => { b with rx := p }
  | .tx => { b with tx := p }

/-- The rate that the transceiver settles on. -/
def settle (b : Bench) (hz : UInt32) : UInt32 := hz - hz % b.rateStep

/-- Commands that differ in direction and byte count only reach the same byte. -/
def spiAddress (command : UInt16) : UInt16 := command &&& 0x3ff

/-- The configuration of the power monitor shows its reset bit until the chip has started up. -/
def readMonitor (b : Bench) (register : UInt8) : UInt16 × Bench :=
  let contents := b.monitor.read register
  if register = 0 ∧ b.resetPolls ≠ 0 then
    (contents ||| 0x8000, { b with resetPolls := b.resetPolls - 1 })
  else (contents, b)

def writeMonitor (b : Bench) (register : UInt8) (value : UInt16) : Bench :=
  { b with monitor := b.monitor.write register (if register = 0 then value &&& 0x7fff else value) }

def transport : (c : Transport.Call) → Bench → c.Reply × Bench
  | .firmwareVersion, b => (b.firmware, b)
  | .fpgaVersion, b => (b.fpga, b)
  | .isReady, b => (b.busyPolls == 0, { b with busyPolls := b.busyPolls - 1 })
  | .speed, b => (b.speed, b)
  | .isFpgaConfigured, b => (b.isConfigured, b)
  | .loadFpga _, b => ((), { b with isConfigured := true })
  | .setFraming _, b => ((), b)
  | .readFrontEnd, b => (b.frontEnd, b)
  | .writeFrontEnd value, b => ((), { b with frontEnd := value })
  | .enablePath _ _, b => ((), b)
  | .timestamp .rx, b => (b.rxClock, b)
  | .timestamp .tx, b => (b.txClock, b)
  | .readGpio, b => (b.gpio, b)
  | .writeGpio value, b => ((), { b with gpio := value })
  | .readSpi command, b => (b.spi.read (spiAddress command), b)
  | .writeSpi command data, b => ((), { b with spi := b.spi.write (spiAddress command) data })
  | .readPll latch, b => (b.pll.read latch, b)
  | .writePll latch value, b => ((), { b with pll := b.pll.write latch value })
  | .readMonitor register, b => b.readMonitor register
  | .writeMonitor register value, b => ((), b.writeMonitor register value)
  | .readTrim, b => (b.trim, b)
  | .writeTrim value, b => ((), { b with trim := value })
  | .reset, b => ((), b)
  | .setLoopback on, b => ((), { b with isLooped := on })
  | .loopback, b => (b.isLooped, b)

def rfic : (c : Rfic.Call) → Bench → c.Reply × Bench
  | .lo d, b => ((b.path d).lo, b)
  | .setLo d hz, b => ((), b.withPath { b.path d with lo := hz } d)
  | .port d, b => ((b.path d).port, b)
  | .setPort d id, b => ((), b.withPath { b.path d with port := id } d)
  | .rxGain channel, b => (b.rxGain.read channel, b)
  | .setRxGain channel db, b => ((), { b with rxGain := b.rxGain.write channel db })
  | .attenuation channel, b => (b.attenuation.read channel, b)
  | .setAttenuation channel mdb, b => ((), { b with attenuation := b.attenuation.write channel mdb })
  | .receiverGain receiver, b => (⟨b.rxGain.read (receiver - 1), b.digitalGain⟩, b)
  | .gainControl channel, b => (b.gainControl.read channel, b)
  | .setGainControl channel mode, b =>
    ((), { b with gainControl := b.gainControl.write channel mode.code })
  | .bandwidth d, b => ((b.path d).bandwidth, b)
  | .setBandwidth d hz, b => ((), b.withPath { b.path d with bandwidth := b.settle hz } d)
  | .sampleRate d, b => ((b.path d).sampleRate, b)
  | .setSampleRate d hz, b => ((), b.withPath { b.path d with sampleRate := b.settle hz } d)
  | .setFir _ _, b => ((), b)
  | .enableRxFir _, b => ((), b)
  | .setSelfTest mode, b => ((), { b with selfTest := mode })
  | .selfTest, b => (b.selfTest, b)
  | .readRegister address, b => (b.registers.read address, b)
  | .writeRegister address value, b => ((), { b with registers := b.registers.write address value })

/-- A driver that starts sets the transceiver to its parameters. -/
def startRfic (p : Rfic.Params) (b : Bench) : Rfic.Handle × Bench :=
  (⟨b.lastDriver + 1⟩, { b with
    rx := ⟨p.rxLoHz, p.rxPort, p.rxBandwidthHz, p.rxClocks.sample⟩
    tx := ⟨p.txLoHz, p.txPort, p.txBandwidthHz, p.txClocks.sample⟩
    gainControl := ⟨[(0, p.rx1GainControl.code), (1, p.rx2GainControl.code)]⟩
    attenuation := ⟨[(0, p.txAttenuationMdb), (1, p.txAttenuationMdb)]⟩
    lastDriver := b.lastDriver + 1 })

/-- Metadata of a transfer of so many bytes, four to a sample. -/
def moved (bytes : Nat) (m : Metadata) : Metadata := { m with actualCount := UInt32.ofNat (bytes / 4) }

/-- Streams are numbered from one on, synchronous streams with their direction in the lowest bit. The
engine runs out of samples to transmit at once; what it receives counts up. -/
def streaming : (c : Streaming.Call) → Bench → c.Reply × Bench
  | .create _ callback, b =>
    let handle := ⟨b.lastStream + 1⟩
    (handle, { b with lastStream := handle.id, streams := (handle, callback) :: b.streams })
  | .run _ _, b => ((), b)
  | .submit _ _ _ _, b => ((), b)
  | .startSync config, b =>
    (⟨2 * (b.lastSync + 1) + config.layout.direction.index⟩, { b with lastSync := b.lastSync + 1 })
  | .transmit _ samples metadata _, b =>
    (metadata.map fun m => { moved samples.size m with status := Metadata.underrun }, b)
  | .receive _ size metadata _, b =>
    ((⟨((List.range size).map UInt8.ofNat).toArray⟩,
      metadata.map fun m => { moved size m with timestamp := m.timestamp + 1 }), b)

def removeStream (s : Streaming.StreamHandle) (b : Bench) : Bench :=
  { b with streams := b.streams.filter (·.1 != s) }

def flashMemory : (c : Flash.Call) → Bench → c.Reply × Bench
  | .erase _ _, b => ((), b)
  | .read _ _, b => (b.flash, b)
  | .write _ _, b => ((), b)
  | .writeFirmware _, b => ((), b)
  | .writeBitstream _, b => ((), b)
  | .eraseBitstream, b => ((), b)

/-- A trigger fires at once if it is armed. -/
def triggerBlock : (c : Trigger.Call) → Bench → c.Reply × Bench
  | .describe channel signal, b => (⟨channel, b.role, signal, b.triggerOptions⟩, b)
  | .arm _ on, b => ((), { b with triggerStatus := { b.triggerStatus with isArmed := on } })
  | .fire _, b =>
    ((), { b with triggerStatus := ⟨b.triggerStatus.isArmed, b.triggerStatus.isArmed, true⟩ })
  | .status _, b => (b.triggerStatus, b)
  | .read channel _, b => (b.triggers.read channel, b)
  | .write channel _ value, b => ((), { b with triggers := b.triggers.write channel value })

def peer : (c : Peer.Call) → Bench → c.Answer × Bench
  | .startRfic params, b => let (handle, b) := b.startRfic params; (.ok handle, b)
  | .rfic _ c, b => let (reply, b) := rfic c b; (.ok reply, b)
  | .releaseRfic _, b => ((), b)
  | .streaming c, b => let (reply, b) := streaming c b; (.ok reply, b)
  | .removeStream s, b => ((), b.removeStream s)
  | .stopSync _, b => ((), b)
  | .flash c, b => let (reply, b) := flashMemory c b; (.ok reply, b)
  | .trigger c, b => let (reply, b) := triggerBlock c b; (.ok reply, b)

def handler : Handler boardInterface Bench
  | .inl c => fun b => let (reply, b) := transport c b; (.ok reply, b)
  | .inr c => peer c

end Bench
end RadioBoard
