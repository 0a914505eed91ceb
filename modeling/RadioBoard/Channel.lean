/-!
Channels, directions and sample formats.

A channel number carries its direction in the lowest bit and the number of the transceiver channel
above it.
-/

namespace RadioBoard

inductive Direction
  | rx | tx
  deriving DecidableEq

namespace Direction

def ofChannel (channel : UInt8) : Direction :=
  if channel &&& 1 = 0 then rx else tx

def index : Direction → Nat
  | rx => 0
  | tx => 1

def name : Direction → String
  | rx => "RX"
  | tx => "TX"

end Direction

namespace Channel

def directionMask : UInt8 := 1

/-- The number of a channel, cut to eight bits. -/
def ofIndex (d : Direction) (n : Nat) : UInt8 := UInt8.ofNat (2 * n + d.index)

def rx0 : UInt8 := ofIndex .rx 0
def tx0 : UInt8 := ofIndex .tx 0
def rx1 : UInt8 := ofIndex .rx 1
def tx1 : UInt8 := ofIndex .tx 1

/-- The board has two channels in each direction. -/
def onBoard (channel : UInt8) : Bool := channel < 4

/-- The transceiver's own number of a channel. -/
def pair (channel : UInt8) : UInt8 := channel >>> 1

end Channel

/-- Which channels of one direction a stream carries. -/
inductive Layout
  | rxX1 | txX1 | rxX2 | txX2
  deriving DecidableEq

namespace Layout

def code : Layout → UInt8
  | rxX1 => 0
  | txX1 => 1
  | rxX2 => 2
  | txX2 => 3

def direction (l : Layout) : Direction := Direction.ofChannel l.code

end Layout

/-- How the samples of a stream are laid out in bytes. -/
inductive SampleFormat
  | sc16Q11 | sc16Q11Meta | packetMeta | sc8Q7 | sc8Q7Meta
  deriving DecidableEq

def SampleFormat.code : SampleFormat → Nat
  | sc16Q11 => 0
  | sc16Q11Meta => 1
  | packetMeta => 2
  | sc8Q7 => 3
  | sc8Q7Meta => 4

end RadioBoard
