import RadioBoard.Packet
import RadioBoard.Text.Digits

/-!
How packets are shown in messages: byte by byte, or field by field.
-/

namespace RadioBoard.Packet

variable {f : Format}

def bytesText (p : Packet f) : String :=
  "[" ++ String.join (p.bytes.map fun b => Text.paddedHex 2 b.toNat ++ " ") ++ "]"

/-- What the flags say of an access and its outcome. -/
def flagsText (p : Packet f) : String :=
  (if p.isWrite then "WRITE" else "READ") ++ (if p.isSuccess then " SUCCESS" else " FAILURE")

def fieldsText (p : Packet f) : String :=
  "NiosPkt \x7b magic: " ++ Text.markedHex p.magic.toNat ++
  ", target: " ++ Text.markedHex p.target.toNat ++
  ", flags: \"" ++ p.flagsText ++
  "\", addr: " ++ Text.markedHex p.address.toNat ++
  ", data: " ++ Text.markedHex p.data.toNat ++ " \x7d"

end RadioBoard.Packet
