import RadioBoard.Error

/-!
The flash memory of the board: its geometry, the images that fit it, and the calls that change it.

Reads and writes count in pages, erasures in erase blocks.
-/

namespace RadioBoard

/-- The FPGA variants of the board family, named after their thousands of logic elements. -/
inductive FpgaSize
  | unknown | kle40 | kle115 | a4 | a5 | a9
  deriving DecidableEq

namespace FpgaSize

def code : FpgaSize → Nat
  | unknown => 0
  | kle40 => 40
  | kle115 => 115
  | a4 => 49
  | a5 => 77
  | a9 => 301

def name : FpgaSize → String
  | unknown => "Unknown"
  | kle40 => "Kle40"
  | kle115 => "Kle115"
  | a4 => "A4"
  | a5 => "A5"
  | a9 => "A9"

end FpgaSize

namespace Flash

def pageSize : UInt32 := 256
def eraseBlockSize : UInt32 := 0x10000

def firmwareAddress : UInt32 := 0
def firmwareLength : UInt32 := 0x30000

def calibrationAddress : UInt32 := 0x30000
def calibrationLength : UInt32 := 0x100

def bitstreamAddress : UInt32 := 0x40000
def bitstreamLength : UInt32 := 0x370000

/-- The size of every image for the A4 variant; images are built without compression. -/
def a4BitstreamSize : Nat := 2632660

/-- No image for an unknown variant is smaller. -/
def smallestBitstream : Nat := 1024 * 1024

/-- No firmware is smaller. -/
def smallestFirmware : Nat := 50 * 1024

def fitsBitstream (variant : FpgaSize) (size : Nat) : Bool :=
  match variant with
  | .a4 => size == a4BitstreamSize
  | _ => decide (smallestBitstream ≤ size) && decide (size ≤ bitstreamLength.toNat)

def fitsFirmware (size : Nat) : Bool :=
  decide (smallestFirmware ≤ size) && decide (size ≤ firmwareLength.toNat)

inductive Call
  | erase (block count : UInt32)
  | read (page count : UInt32)
  | write (page : UInt32) (data : ByteArray)
  | writeFirmware (image : ByteArray)
  | writeBitstream (image : ByteArray)
  | eraseBitstream

/-- What messages call a call. -/
def Call.name : Call → String
  | erase _ _ => "spi_flash_erase"
  | read _ _ => "spi_flash_read"
  | write _ _ => "spi_flash_write"
  | writeFirmware _ => "write_fx3_fw"
  | writeBitstream _ => "write_fpga_bitstream"
  | eraseBitstream => "erase_fpga"

abbrev Call.Reply : Call → Type
  | read _ _ => ByteArray
  | _ => Unit

end Flash
end RadioBoard
