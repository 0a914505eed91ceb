import RadioBoard.Channel
import RadioBoard.Range.Scaled
import RadioBoard.Rfic.Port

/-!
The analog front end: frequency bands, the signal path that serves each, and the control register in
the FPGA that switches antennas and enables directions.
-/

namespace RadioBoard

/-- A coarse frequency region. -/
inductive Band
  /-- No region: nothing is connected. -/
  | shutdown
  | low
  | high
  deriving DecidableEq

namespace Band

/-- The bands of a direction with their frequencies, the first match counting. The low band ends one
hertz below 3 GHz, so that the boundary itself is in the high band. -/
def table : Direction → List (Band × ScaledRange Rat)
  | .rx => [(low, ⟨70000000, 2999999999, 2, 1⟩), (high, ⟨3000000000, 6000000000, 2, 1⟩)]
  | .tx => [(low, ⟨46875000, 2999999999, 2, 1⟩), (high, ⟨3000000000, 6000000000, 2, 1⟩)]

def ofFrequency? (d : Direction) (hz : UInt64) : Option Band :=
  ((table d).find? (·.2.contains hz.toInt64)).map (·.1)

def ofFrequency (d : Direction) (hz : UInt64) : Band :=
  (ofFrequency? d hz).getD shutdown

/-- The band of a direction that may be turned off. -/
def inUse (d : Direction) (enabled : Bool) (hz : UInt64) : Band :=
  if enabled then ofFrequency d hz else shutdown

end Band

/-- Where signals of a band go: the position of the antenna switch and the port of the transceiver. -/
structure SignalPath where
  switch : UInt32
  port : UInt32
  deriving DecidableEq

namespace SignalPath

def disconnected : UInt32 := 0x0
/-- The common contact to the third. -/
def lowSwitch : UInt32 := 0xa
/-- The common contact to the second. -/
def highSwitch : UInt32 := 0x5

def ofBand : Direction → Band → SignalPath
  | _, .shutdown => ⟨disconnected, 0⟩
  | .rx, .low => ⟨lowSwitch, Rfic.Port.bBalanced⟩
  | .rx, .high => ⟨highSwitch, Rfic.Port.aBalanced⟩
  | .tx, .low => ⟨lowSwitch, Rfic.Port.txB⟩
  | .tx, .high => ⟨highSwitch, Rfic.Port.txA⟩

/-- A direction that is turned off has no path, whatever its frequency. -/
def inUse (d : Direction) (enabled : Bool) (hz : UInt64) : SignalPath :=
  ofBand d (Band.inUse d enabled hz)

end SignalPath

/-! The control register: an enable bit and four switch bits for each direction. -/

namespace FrontEnd

def enableBit : Direction → UInt32
  | .rx => 1
  | .tx => 2

def switchShift : Direction → UInt32
  | .rx => 6
  | .tx => 11

def switchMask : UInt32 := 0xf

def isEnabled (register : UInt32) (d : Direction) : Bool :=
  register >>> enableBit d &&& 1 == 1

def switch (register : UInt32) (d : Direction) : UInt32 :=
  register >>> switchShift d &&& switchMask

def enable (register : UInt32) (d : Direction) : UInt32 :=
  register ||| 1 <<< enableBit d

def disable (register : UInt32) (d : Direction) : UInt32 :=
  register &&& ~~~(1 <<< enableBit d)

def withSwitch (register : UInt32) (d : Direction) (position : UInt32) : UInt32 :=
  register &&& ~~~(switchMask <<< switchShift d) ||| position <<< switchShift d

/-- Both directions enabled and nothing else, as the transceiver is set up with. -/
def bothEnabled : UInt32 := 1 <<< enableBit .rx ||| 1 <<< enableBit .tx

end FrontEnd
end RadioBoard
