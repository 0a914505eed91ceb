import RadioBoard.Packet
import RadioBoard.RegisterFile

/-!
The far end of the link: registers that are read and written by packets.

There is one register for each format, target and address. A response is its request with the success
bit set and, where the request was a read, with the contents of the register. What a register keeps of a
written value is up to the register: a bit that only starts something is not kept.
-/

namespace RadioBoard.Packet

/-- A packet with an unknown magic is taken for one of the widest format. -/
def Format.ofMagic (magic : UInt8) : Format :=
  if magic = 0x41 then a8d8
  else if magic = 0x42 then a8d16
  else if magic = 0x43 then a8d32
  else if magic = 0x44 then a8d64
  else if magic = 0x45 then a16d64
  else a32d32

theorem Format.ofMagic_magic (f : Format) : ofMagic f.magic = f := by cases f <;> decide

/-- Magic, target and address. -/
abbrev Location := UInt8 × UInt8 × Nat

abbrev Registers := RegisterFile Location Nat

def location {f : Format} (p : Packet f) : Location := (p.magic, p.target, p.address.toNat)

def respond (keeps : Location → Nat → Nat) (request : List UInt8) (r : Registers) :
    List UInt8 × Registers :=
  let f := Format.ofMagic (request.headD 0)
  let p := Packet.ofBytes f request
  let response := request.set 2 (p.flags ||| successFlag)
  if p.isWrite then (response, r.write p.location (keeps p.location p.data.toNat))
  else
    let contents := LittleEndian.encode f.dataBytes (r.read p.location)
    (overwrite response f.dataOffset contents, r)

end RadioBoard.Packet
