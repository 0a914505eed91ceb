import RadioBoard.Board.Band

/-!
Frequency, bandwidth and sample rate of the two directions.
-/

namespace RadioBoard

/-- A sample rate with a fraction. -/
structure RationalRate where
  whole : UInt64
  num : UInt64
  den : UInt64
  deriving DecidableEq

/-- The rate without its fraction, cut to 64 and then to 32 bits at the top of their ranges. -/
def RationalRate.floor (r : RationalRate) : UInt32 :=
  let whole := min (r.whole.toNat + r.num.toNat / r.den.toNat) (UInt64.size - 1)
  UInt32.ofNat (min whole (UInt32.size - 1))

namespace Board

def frequencyRange : Direction → ScaledRange Rat
  | .rx => ⟨70000000, 6000000000, 2, 1⟩
  | .tx => ⟨70000000, 6000000000, 2, 1⟩

def sampleRateRange : ScaledRange Rat := ⟨2083334, 61440000, 1, 1⟩

def bandwidthRange : ScaledRange Rat := ⟨200000, 56000000, 1, 1⟩

/-- Brings a value into a range. A value outside of it is worth a warning. -/
def clampTo (r : ScaledRange Rat) (value : Int64) : Action Int64 := do
  let clamped := r.clamp value
  match r.place value with
  | .below => logWarn s!"Requested value {value} is below range, clamping to {clamped}"
  | .within => pure ()
  | .above => logWarn s!"Requested value {value} is above range, clamping to {clamped}"
  return clamped

def clampWord (r : ScaledRange Rat) (value : UInt32) : Action UInt32 := do
  return (← clampTo r value.toUInt64.toInt64).toUInt64.toUInt32

def getFrequency (channel : UInt8) : Action UInt64 := do
  expect .initialized
  transceiver "get_frequency" (.lo (Direction.ofChannel channel))

/-- Tunes a direction and switches to the band of the frequency. The oscillator stays tuned if the
switching fails. -/
def setFrequency (channel : UInt8) (hz : UInt64) : Action Unit := do
  expect .initialized
  let d := Direction.ofChannel channel
  if !(frequencyRange d).contains hz.toInt64 then
    logError s!"set_frequency: frequency {hz}Hz is out of range"
    throw .outOfRange
  transceiver "set_frequency" (.setLo d hz)
  step "set_frequency" "select_band" (selectBand d hz)

def getBandwidth (channel : UInt8) : Action UInt32 := do
  expect .initialized
  transceiver "get_bandwidth" (.bandwidth (Direction.ofChannel channel))

/-- Sets the bandwidth and tells the one that the transceiver settled on. -/
def setBandwidth (channel : UInt8) (hz : UInt32) : Action UInt32 := do
  expect .initialized
  let hz ← clampWord bandwidthRange hz
  transceiver "set_bandwidth" (.setBandwidth (Direction.ofChannel channel) hz)
  getBandwidth channel

def getSampleRate (channel : UInt8) : Action UInt32 := do
  expect .initialized
  transceiver "get_sample_rate" (.sampleRate (Direction.ofChannel channel))

/-- Sets the sample rate and tells the one that the transceiver settled on. -/
def setSampleRate (channel : UInt8) (hz : UInt32) : Action UInt32 := do
  expect .initialized
  let hz ← clampWord sampleRateRange hz
  transceiver "set_sample_rate" (.setSampleRate (Direction.ofChannel channel) hz)
  getSampleRate channel

/-- The transceiver runs at whole rates only. -/
def getRationalSampleRate (channel : UInt8) : Action RationalRate := do
  expect .initialized
  let hz ← step "get_rational_sample_rate" "get_sample_rate" (getSampleRate channel)
  return ⟨hz.toUInt64, 0, 1⟩

def setRationalSampleRate (channel : UInt8) (rate : RationalRate) : Action RationalRate := do
  expect .initialized
  if rate.den = 0 then
    logError "set_rational_sample_rate: denominator is zero"
    throw (.argument "denominator must be greater than 0")
  let _ ← step "set_rational_sample_rate" "set_sample_rate" (setSampleRate channel rate.floor)
  getRationalSampleRate channel

end Board
end RadioBoard
