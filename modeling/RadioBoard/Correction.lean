import RadioBoard.Channel
import RadioBoard.Rfic.Port

/-!
Manual corrections: what they adjust, and which bits of which transceiver registers keep them.

A correction is kept in coarse units and in few bits. Offsets of the receivers are spread
over two registers that they share with each other; every other correction has a register to itself.
A *force bit* tells the chip to use the written value in place of its own calibration.
-/

namespace RadioBoard

inductive Correction
  | offsetI | offsetQ | phase | gain
  deriving DecidableEq

namespace Correction

def code : Correction → UInt8
  | offsetI => 0
  | offsetQ => 1
  | phase => 2
  | gain => 3

def ofCode? : UInt8 → Option Correction
  | 0 => some offsetI
  | 1 => some offsetQ
  | 2 => some phase
  | 3 => some gain
  | _ => none

def isOffset : Correction → Bool
  | offsetI | offsetQ => true
  | phase | gain => false

theorem ofCode?_code (c : Correction) : ofCode? c.code = some c := by cases c <;> rfl

/-- The signal chain of a channel within its direction. -/
inductive Chain
  | first | second
  deriving DecidableEq

def Chain.ofChannel (channel : UInt8) : Chain :=
  if Channel.pair channel = 0 then .first else .second

/-- Each correction has two sets of registers; the port in use decides between them. -/
inductive Bank
  | low | high
  deriving DecidableEq

/-- The bank behind a port, unless the port has no correction registers. -/
def Bank.ofPort? : Direction → UInt32 → Option Bank
  | .tx, port => some (if port = Rfic.Port.txA then .high else .low)
  | .rx, port =>
    if port = Rfic.Port.aBalanced then some .high
    else if port = Rfic.Port.bBalanced ∨ port = Rfic.Port.cBalanced then some .low
    else none

/-- A value in multiples of `unit`, of which `steps` are told apart; the upper half of them are negative. -/
structure Precision where
  unit : Nat
  steps : Nat
  deriving DecidableEq

namespace Precision

def encode (p : Precision) (value : Int16) : Nat :=
  (value.toInt / p.unit % p.steps).toNat

def decode (p : Precision) (bits : Nat) : Int16 :=
  Int16.ofInt (Int.bmod (bits * p.unit) (p.unit * p.steps))

end Precision

def precision : Direction → Correction → Precision
  | .rx, offsetI | .rx, offsetQ => ⟨8, 1024⟩
  | .tx, offsetI | .tx, offsetQ => ⟨32, 256⟩
  | _, phase | _, gain => ⟨64, 256⟩

/-- Part of a register: `width` bits from bit `low` on. -/
structure Slice where
  register : UInt16
  low : Nat
  width : Nat
  deriving DecidableEq

namespace Slice

def get (s : Slice) (contents : UInt8) : Nat :=
  (contents.toNat >>> s.low) % (1 <<< s.width)

/-- The contents with this part replaced and the bits around it kept. -/
def put (s : Slice) (bits : Nat) (contents : UInt8) : UInt8 :=
  UInt8.ofNat (contents.toNat - s.get contents <<< s.low + (bits % (1 <<< s.width)) <<< s.low)

end Slice

/-- Where the bits of a correction are kept. -/
inductive Field
  | whole (register : UInt16)
  /-- The more significant bits in `top`, the others in `bottom`. -/
  | split (top bottom : Slice)
  deriving DecidableEq

/-- The receive offsets, most significant bit first:

```text
           top                 bottom
RX1 I: | x x x x 9 8 7 6 | 5 4 3 2 1 0 x x |
RX1 Q: | x x x x x x 9 8 | 7 6 5 4 3 2 1 0 |
RX2 I: | 9 8 7 6 5 4 3 2 | x x x x x x 1 0 |
RX2 Q: | x x 9 8 7 6 5 4 | 3 2 1 0 x x x x |
``` -/
def rxOffsetField (i : Bool) : Chain → Bank → Field
  | .first, .low =>
    if i then .split ⟨0x176, 0, 4⟩ ⟨0x175, 2, 6⟩ else .split ⟨0x175, 0, 2⟩ ⟨0x174, 0, 8⟩
  | .first, .high =>
    if i then .split ⟨0x17f, 0, 4⟩ ⟨0x17e, 2, 6⟩ else .split ⟨0x17e, 0, 2⟩ ⟨0x17d, 0, 8⟩
  | .second, .low =>
    if i then .split ⟨0x178, 0, 8⟩ ⟨0x177, 0, 2⟩ else .split ⟨0x177, 0, 6⟩ ⟨0x176, 4, 4⟩
  | .second, .high =>
    if i then .split ⟨0x181, 0, 8⟩ ⟨0x180, 0, 2⟩ else .split ⟨0x180, 0, 6⟩ ⟨0x17f, 4, 4⟩

def field : Direction → Correction → Chain → Bank → Field
  | .rx, offsetI, chain, bank => rxOffsetField true chain bank
  | .rx, offsetQ, chain, bank => rxOffsetField false chain bank
  | .rx, phase, .first, .low => .whole 0x170
  | .rx, phase, .first, .high => .whole 0x179
  | .rx, phase, .second, .low => .whole 0x172
  | .rx, phase, .second, .high => .whole 0x17b
  | .rx, gain, .first, .low => .whole 0x171
  | .rx, gain, .first, .high => .whole 0x17a
  | .rx, gain, .second, .low => .whole 0x173
  | .rx, gain, .second, .high => .whole 0x17c
  | .tx, offsetI, .first, .low => .whole 0x092
  | .tx, offsetI, .first, .high => .whole 0x09a
  | .tx, offsetI, .second, .low => .whole 0x094
  | .tx, offsetI, .second, .high => .whole 0x09c
  | .tx, offsetQ, .first, .low => .whole 0x093
  | .tx, offsetQ, .first, .high => .whole 0x09b
  | .tx, offsetQ, .second, .low => .whole 0x095
  | .tx, offsetQ, .second, .high => .whole 0x09d
  | .tx, phase, .first, .low => .whole 0x08e
  | .tx, phase, .first, .high => .whole 0x096
  | .tx, phase, .second, .low => .whole 0x090
  | .tx, phase, .second, .high => .whole 0x098
  | .tx, gain, .first, .low => .whole 0x08f
  | .tx, gain, .first, .high => .whole 0x097
  | .tx, gain, .second, .low => .whole 0x091
  | .tx, gain, .second, .high => .whole 0x099

/-- The register with the force bits of a direction. -/
def forceRegister : Direction → UInt16
  | .rx => 0x182
  | .tx => 0x09f

/-- Both offsets share a force bit, and so do phase and gain. -/
def forceBit (c : Correction) : Chain → Bank → UInt8
  | .first, .low => if c.isOffset then 0x04 else 0x01
  | .first, .high => if c.isOffset then 0x40 else 0x10
  | .second, .low => if c.isOffset then 0x08 else 0x02
  | .second, .high => if c.isOffset then 0x80 else 0x20

end Correction
end RadioBoard
