import RadioBoard.Version

/-!
What firmware and FPGA versions allow: capability bits and compatibility advice.

A `Classifier` gives the advice; a `VersionTable` is the classifier that looks it up.
-/

namespace RadioBoard

namespace Capability

/-! Capability bits: those from bit 32 on come from the firmware, the others from the FPGA. -/

def scheduledRetune : UInt64 := (1 : UInt64) <<< 4
def timestamps : UInt64 := (1 : UInt64) <<< 5
def fpgaTuning : UInt64 := (1 : UInt64) <<< 6
def syncTrigger : UInt64 := (1 : UInt64) <<< 8
def packetMeta : UInt64 := (1 : UInt64) <<< 10
def firmwareLoopback : UInt64 := (1 : UInt64) <<< 32
def queryReady : UInt64 := (1 : UInt64) <<< 33
def readFirmwareLog : UInt64 := (1 : UInt64) <<< 34
def boardSupport : UInt64 := (1 : UInt64) <<< 35
def flashId : UInt64 := (1 : UInt64) <<< 36
def fpgaSource : UInt64 := (1 : UInt64) <<< 37
def shortPacket : UInt64 := (1 : UInt64) <<< 38

/-- The capabilities by the names that host software has for them. -/
def named : List (String × UInt64) :=
  [("FW_LOOPBACK", firmwareLoopback), ("QUERY_DEVICE_READY", queryReady),
   ("READ_FW_LOG_ENTRY", readFirmwareLog), ("FW_SUPPORTS_BLADERF2", boardSupport),
   ("FW_FLASH_ID", flashId), ("FW_FPGA_SOURCE", fpgaSource), ("FW_SHORT_PACKET", shortPacket),
   ("SCHEDULED_RETUNE", scheduledRetune), ("TIMESTAMPS", timestamps), ("FPGA_TUNING", fpgaTuning),
   ("TRX_SYNC_TRIG", syncTrigger), ("FPGA_PACKET_META", packetMeta)]

/-- No two capabilities share a bit. -/
theorem named_disjoint : named.Pairwise fun a b => a.2 &&& b.2 = 0 := by decide

end Capability

inductive Compatibility
  | compatible
  | updateFpga (required : Version)
  | updateFirmware (required : Version)
  deriving DecidableEq

structure Classifier where
  firmwareCapabilities : Version → UInt64
  fpgaCapabilities : Version → UInt64
  /-- The firmware alone, against what the library requires. -/
  checkFirmware : Version → Compatibility
  /-- The pairing of a firmware with an FPGA image. -/
  check : Version → Version → Compatibility

/-- Bits granted from a version onward. -/
structure Grant where
  since : Version
  bits : UInt64

structure VersionTable where
  minFirmware : Version
  /-- Firmware versions with the least FPGA version each asks for; the last applicable entry counts. -/
  fpgaForFirmware : List (Version × Version)
  firmwareGrants : List Grant
  fpgaGrants : List Grant

namespace VersionTable

def granted (grants : List Grant) (v : Version) : UInt64 :=
  (grants.filter (·.since ≤ v)).foldl (fun bits grant => bits ||| grant.bits) 0

def checkFirmware (t : VersionTable) (firmware : Version) : Compatibility :=
  if firmware < t.minFirmware then .updateFirmware t.minFirmware else .compatible

/-- The least FPGA version that goes with a firmware. -/
def requiredFpga (t : VersionTable) (firmware : Version) : Option Version :=
  (t.fpgaForFirmware.reverse.find? (·.1 ≤ firmware)).map (·.2)

def check (t : VersionTable) (firmware fpga : Version) : Compatibility :=
  match t.checkFirmware firmware with
  | .updateFirmware required => .updateFirmware required
  | _ =>
    match t.requiredFpga firmware with
    | some required => if fpga < required then .updateFpga required else .compatible
    | none => .compatible

def classifier (t : VersionTable) : Classifier where
  firmwareCapabilities := granted t.firmwareGrants
  fpgaCapabilities := granted t.fpgaGrants
  checkFirmware := t.checkFirmware
  check := t.check

/-- The table of the released firmware and FPGA images. -/
def released : VersionTable where
  minFirmware := ⟨2, 0, 0⟩
  fpgaForFirmware := [(⟨2, 0, 0⟩, ⟨0, 6, 0⟩), (⟨2, 3, 0⟩, ⟨0, 10, 0⟩)]
  firmwareGrants :=
    [⟨⟨1, 7, 1⟩, Capability.firmwareLoopback⟩,
     ⟨⟨1, 8, 0⟩, Capability.queryReady⟩,
     ⟨⟨1, 9, 0⟩, Capability.readFirmwareLog⟩,
     ⟨⟨2, 0, 0⟩, Capability.boardSupport⟩,
     ⟨⟨2, 3, 0⟩, Capability.flashId ||| Capability.fpgaSource⟩,
     ⟨⟨2, 3, 1⟩, Capability.shortPacket⟩]
  fpgaGrants :=
    [⟨⟨0, 0, 0⟩, Capability.timestamps⟩,
     ⟨⟨0, 2, 0⟩, Capability.scheduledRetune ||| Capability.fpgaTuning⟩,
     ⟨⟨0, 6, 0⟩, Capability.syncTrigger⟩,
     ⟨⟨0, 10, 0⟩, Capability.packetMeta⟩]

end VersionTable
end RadioBoard
