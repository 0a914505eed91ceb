import RadioBoard.Channel
import RadioBoard.Error
import RadioBoard.Program

/-!
The transport: calls to the firmware, and through it to the FPGA and the chips behind it.
-/

namespace RadioBoard

/-- The speed of the bus that a device is attached to. -/
inductive LinkSpeed
  | unknown | high | super
  deriving DecidableEq

def LinkSpeed.name : LinkSpeed → String
  | unknown => "Unknown"
  | high => "High"
  | super => "Super"

/-- How accesses to the FPGA are framed. -/
inductive Framing
  /-- The framing of images for earlier boards. -/
  | legacy
  | packets
  deriving DecidableEq

namespace Transport

inductive Call
  | firmwareVersion
  | fpgaVersion
  | isReady
  | speed
  | isFpgaConfigured
  | loadFpga (image : ByteArray)
  | setFraming (framing : Framing)
  | readFrontEnd
  | writeFrontEnd (value : UInt32)
  /-- Starts or stops the sample path of one direction in the firmware. -/
  | enablePath (d : Direction) (on : Bool)
  | timestamp (d : Direction)
  | readGpio
  | writeGpio (value : UInt32)
  /-- The transceiver's own bus: a command with direction, byte count and address; data in the top bytes. -/
  | readSpi (command : UInt16)
  | writeSpi (command : UInt16) (data : UInt64)
  | readPll (latch : UInt8)
  | writePll (latch : UInt8) (value : UInt32)
  | readMonitor (register : UInt8)
  | writeMonitor (register : UInt8) (value : UInt16)
  | readTrim
  | writeTrim (value : UInt16)
  | reset
  | setLoopback (on : Bool)
  | loopback

abbrev Call.Reply : Call → Type
  | firmwareVersion | fpgaVersion => Version
  | isReady | isFpgaConfigured | loopback => Bool
  | speed => LinkSpeed
  | readFrontEnd | readGpio | readPll _ => UInt32
  | timestamp _ | readSpi _ => UInt64
  | readMonitor _ | readTrim => UInt16
  | _ => Unit

/-- What messages call a call. -/
def Call.name : Call → String
  | firmwareVersion => "get_fw_version"
  | fpgaVersion => "get_fpga_version"
  | isReady => "is_fw_ready"
  | speed => "get_device_speed"
  | isFpgaConfigured => "is_fpga_configured"
  | loadFpga _ => "load_fpga"
  | setFraming _ => "set_fpga_protocol"
  | readFrontEnd => "rffe_control_read"
  | writeFrontEnd _ => "rffe_control_write"
  | enablePath _ _ => "enable_module"
  | timestamp _ => "get_timestamp"
  | readGpio => "config_gpio_read"
  | writeGpio _ => "config_gpio_write"
  | readSpi _ => "ad9361_spi_read"
  | writeSpi _ _ => "ad9361_spi_write"
  | readPll _ => "adf400x_read"
  | writePll _ _ => "adf400x_write"
  | readMonitor _ => "ina219_read"
  | writeMonitor _ _ => "ina219_write"
  | readTrim => "ad56x1_vctcxo_trim_dac_read"
  | writeTrim _ => "ad56x1_vctcxo_trim_dac_write"
  | reset => "device_reset"
  | setLoopback _ => "set_firmware_loopback"
  | loopback => "get_firmware_loopback"

/-- Every call to the transport can fail. -/
abbrev interface : Interface where
  Call := Call
  Answer c := Except Error c.Reply

/-- A program over the transport alone that stops at the first error. -/
abbrev Action (α : Type) := ExceptT Error (Program interface) α

def perform (c : Call) : Action c.Reply := ExceptT.mk (Program.ask (I := interface) c)

end Transport
end RadioBoard
