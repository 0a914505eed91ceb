import RadioBoard.LittleEndian

/-!
Packets to and from the processor in the FPGA, for accesses to blocks of registers.

```text
byte       0      magic, one value for each format
byte       1      target: the block
byte       2      flags: bit 0 write, bit 1 success
byte       3      reserved
from byte  4      address, little endian
after it          data, little endian
up to byte 15     reserved
```

Reserved bytes are zero. A response has the fields of its request; a response to a read holds the value
in its data field.
-/

namespace RadioBoard

namespace Packet

/-- A format is named after the bits of its address and its data. -/
inductive Format
  | a8d8 | a8d16 | a8d32 | a8d64 | a16d64 | a32d32
  deriving DecidableEq

namespace Format

def addressBytes : Format → Nat
  | a8d8 | a8d16 | a8d32 | a8d64 => 1
  | a16d64 => 2
  | a32d32 => 4

def dataBytes : Format → Nat
  | a8d8 => 1
  | a8d16 => 2
  | a8d32 | a32d32 => 4
  | a8d64 | a16d64 => 8

def magic : Format → UInt8
  | a8d8 => 0x41
  | a8d16 => 0x42
  | a8d32 => 0x43
  | a8d64 => 0x44
  | a16d64 => 0x45
  | a32d32 => 0x4b

/-- Where the data field starts. -/
def dataOffset (f : Format) : Nat := 4 + f.addressBytes

theorem fits (f : Format) : f.dataOffset + f.dataBytes ≤ 16 := by cases f <;> decide

theorem magic_injective {f g : Format} (h : f.magic = g.magic) : f = g := by
  revert h; cases f <;> cases g <;> decide

end Format

/-- The length of every packet on the bus. -/
def size : Nat := 16

def readFlag : UInt8 := 0
def writeFlag : UInt8 := 1
def successFlag : UInt8 := 2

end Packet

/-- A packet as it came in: of the right length or longer. -/
structure Packet (f : Packet.Format) where
  bytes : List UInt8
  size_le : Packet.size ≤ bytes.length

namespace Packet

variable {f : Format}

abbrev Address (f : Format) := BitVec (8 * f.addressBytes)
abbrev Data (f : Format) := BitVec (8 * f.dataBytes)

@[ext] theorem ext {p q : Packet f} (h : p.bytes = q.bytes) : p = q := by
  cases p; cases q; simpa using h

/-- The fields of a packet in a row. -/
def fields (f : Format) (target flags : UInt8) (address : Address f) (data : Data f) : List UInt8 :=
  f.magic :: target :: flags :: 0 ::
    (LittleEndian.encode f.addressBytes address.toNat ++ LittleEndian.encode f.dataBytes data.toNat)

def make (f : Format) (target flags : UInt8) (address : Address f) (data : Data f) : Packet f where
  bytes := fields f target flags address data ++ List.replicate (size - f.dataOffset - f.dataBytes) 0
  size_le := by cases f <;> simp [fields, size, Format.dataOffset, Format.addressBytes, Format.dataBytes]

def readRequest (f : Format) (target : UInt8) (address : Address f) : Packet f :=
  make f target readFlag address 0

def writeRequest (f : Format) (target : UInt8) (address : Address f) (data : Data f) : Packet f :=
  make f target writeFlag address data

/-- Bytes that are too few are followed by zeros. -/
def ofBytes (f : Format) (bytes : List UInt8) : Packet f where
  bytes := bytes ++ List.replicate (size - bytes.length) 0
  size_le := by simp; omega

/-- The list with some elements replaced, from a position on. -/
def overwrite (bytes : List UInt8) (offset : Nat) (part : List UInt8) : List UInt8 :=
  bytes.take offset ++ part ++ bytes.drop (offset + part.length)

theorem overwrite_length {bytes : List UInt8} {offset : Nat} {part : List UInt8}
    (h : offset + part.length ≤ bytes.length) : (overwrite bytes offset part).length = bytes.length := by
  simp [overwrite]; omega

/-- Cleared bytes with every field written in its place. -/
def fieldsInPlace (f : Format) (cleared : List UInt8) (target flags : UInt8) (address : Address f)
    (data : Data f) : List UInt8 :=
  let withHead := overwrite cleared 0 [f.magic, target, flags, 0]
  let withAddress := overwrite withHead 4 (LittleEndian.encode f.addressBytes address.toNat)
  overwrite withAddress f.dataOffset (LittleEndian.encode f.dataBytes data.toNat)

theorem fieldsInPlace_length {cleared : List UInt8} (h : cleared.length = size) (target flags : UInt8)
    (address : Address f) (data : Data f) :
    (fieldsInPlace f cleared target flags address data).length = size := by
  have fits := f.fits
  have offset : 4 + f.addressBytes = f.dataOffset := rfl
  have head : (overwrite cleared 0 [f.magic, target, flags, 0]).length = size := by
    rw [← h]
    exact overwrite_length (by simp [h, size])
  have addressed : (overwrite (overwrite cleared 0 [f.magic, target, flags, 0]) 4
      (LittleEndian.encode f.addressBytes address.toNat)).length = size := by
    rw [← head]
    exact overwrite_length (by simp only [LittleEndian.encode_length, head, size]; omega)
  rw [fieldsInPlace, ← addressed]
  exact overwrite_length (by simp only [LittleEndian.encode_length, addressed, size]; omega)

/-- The bytes of a packet, cleared and cut to length. -/
def cleared (p : Packet f) : List UInt8 := (p.bytes.take size).map fun _ => 0

theorem cleared_length (p : Packet f) : p.cleared.length = size := by
  have h := p.size_le
  simp only [cleared, List.length_map, List.length_take]
  omega

/-- Sets every field in place; what the packet held before is cleared and cut to length. -/
def set (p : Packet f) (target flags : UInt8) (address : Address f) (data : Data f) : Packet f where
  bytes := fieldsInPlace f p.cleared target flags address data
  size_le := Nat.le_of_eq (fieldsInPlace_length p.cleared_length target flags address data).symm

def byte (p : Packet f) (i : Nat) : UInt8 := p.bytes.getD i 0

def magic (p : Packet f) : UInt8 := p.byte 0
def target (p : Packet f) : UInt8 := p.byte 1
def flags (p : Packet f) : UInt8 := p.byte 2

def address (p : Packet f) : Address f :=
  BitVec.ofNat _ (LittleEndian.decode ((p.bytes.drop 4).take f.addressBytes))

def data (p : Packet f) : Data f :=
  BitVec.ofNat _ (LittleEndian.decode ((p.bytes.drop f.dataOffset).take f.dataBytes))

def isWrite (p : Packet f) : Bool := p.flags &&& writeFlag != 0

def isSuccess (p : Packet f) : Bool := p.flags &&& successFlag != 0

/-- Whether the packet has the length and the magic of its format. -/
def isValid (p : Packet f) : Bool := p.bytes.length == size && p.magic == f.magic

end Packet
end RadioBoard
