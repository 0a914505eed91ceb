import RadioBoard.Board.Tuning

/-!
Gain: overall, by named stage, and who controls it.

Transmit gain is attenuation with its sign turned; the range counts it in thousandths of a decibel.
-/

namespace RadioBoard

inductive GainMode
  /-- The mode that the transceiver starts with. -/
  | default
  | manual | fastAttack | slowAttack | hybrid
  deriving DecidableEq

namespace GainMode

def control? : GainMode → Option Rfic.GainControl
  | default => none
  | manual => some .manual
  | fastAttack => some .fastAttack
  | slowAttack => some .slowAttack
  | hybrid => some .hybrid

def ofControl : Rfic.GainControl → GainMode
  | .manual => manual
  | .fastAttack => fastAttack
  | .slowAttack => slowAttack
  | .hybrid => hybrid

theorem control?_ofControl (g : Rfic.GainControl) : (ofControl g).control? = some g := by
  cases g <;> rfl

end GainMode

namespace Board

/-- The nearest integer, a half going away from zero. -/
def roundRat (q : Rat) : Int :=
  if q < 0 then -(-q + 1/2).floor else (q + 1/2).floor

def txGainRange : ScaledRange Rat := ⟨-89750, 0, 250, 1/1000⟩

/-- Receive gain by frequency: the first range of frequencies that matches counts. -/
def rxGainTable : List (ScaledRange Rat × ScaledRange Rat) :=
  [(⟨0, 1300000000, 1, 1⟩, ⟨1, 77, 1, 1⟩),
   (⟨1300000000, 4000000000, 1, 1⟩, ⟨-4, 71, 1, 1⟩),
   (⟨4000000000, 6000000000, 1, 1⟩, ⟨-10, 62, 1, 1⟩)]

def rxGainRange? (hz : UInt64) : Option (ScaledRange Rat) :=
  (rxGainTable.find? (·.1.contains hz.toInt64)).map (·.2)

/-- The gain stages of a direction, by name. -/
def gainStages : Direction → List (String × ScaledRange Rat)
  | .rx => [("full", ⟨-10, 77, 1, 1⟩), ("digital", ⟨0, 31, 1, 1⟩)]
  | .tx => [("dsa", ⟨-89750, 0, 250, 1/1000⟩)]

/-- The attenuation for a gain, in the range's own unit. -/
def attenuationFor (r : ScaledRange Rat) (gain : Int64) : UInt32 :=
  UInt32.ofNat (min (roundRat (-(gain.toInt : Rat) / r.scale)).toNat (UInt32.size - 1))

def gainFor (r : ScaledRange Rat) (gain : Int64) : Int32 :=
  Int32.ofIntClamp (roundRat ((gain.toInt : Rat) / r.scale))

def gainOfAttenuation (r : ScaledRange Rat) (attenuation : UInt32) : Int32 :=
  Int32.ofIntClamp (roundRat (-((attenuation.toNat : Rat) * r.scale)))

def gainOfReading (r : ScaledRange Rat) (gain : Int32) : Int32 :=
  Int32.ofIntClamp (roundRat ((gain.toInt : Rat) * r.scale))

/-- The range of the gain; on receive it depends on the frequency. -/
def getGainRange (channel : UInt8) : Action (ScaledRange Rat) := do
  expect .initialized
  match Direction.ofChannel channel with
  | .tx => return txGainRange
  | .rx =>
    let hz ← step "get_gain_range" "get_frequency" (getFrequency channel)
    match rxGainRange? hz with
    | some range => return range
    | none =>
      logError s!"get_gain_range: no RX gain range for {hz}Hz"
      throw .outOfRange

/-- Sets the overall gain, brought into its range. -/
def setGain (channel : UInt8) (gain : Int32) : Action Unit := do
  expect .initialized
  let range ← step "set_gain" "get_gain_range" (getGainRange channel)
  let clamped ← clampTo range gain.toInt64
  match Direction.ofChannel channel with
  | .tx =>
    transceiver "set_gain" (.setAttenuation (Channel.pair channel) (attenuationFor range clamped))
  | .rx =>
    transceiver "set_gain" (.setRxGain (Channel.pair channel) (gainFor range clamped))

def getGain (channel : UInt8) : Action Int32 := do
  expect .initialized
  let range ← step "get_gain" "get_gain_range" (getGainRange channel)
  match Direction.ofChannel channel with
  | .tx =>
    return gainOfAttenuation range
      (← transceiver "get_gain" (.attenuation (Channel.pair channel)))
  | .rx =>
    return gainOfReading range
      (← transceiver "get_gain" (.rxGain (Channel.pair channel)))

def gainModes : Direction → List GainMode
  | .tx => []
  | .rx => [.default, .manual, .fastAttack, .slowAttack, .hybrid]

/-- The transceiver's number of a receive channel; nothing else has a gain mode. -/
def gainModeChannel (operation : String) (channel : UInt8) : Action UInt8 := do
  if channel = Channel.rx0 then return 0
  if channel = Channel.rx1 then return 1
  logError s!"{operation}: channel {channel} has no gain control mode"
  throw .unsupported

def setGainMode (channel : UInt8) (mode : GainMode) : Action Unit := do
  expect .initialized
  let pair ← gainModeChannel "set_gain_mode" channel
  let params := (← read).config.rfic
  let control := mode.control?.getD (if pair = 0 then params.rx1GainControl else params.rx2GainControl)
  transceiver "set_gain_mode" (.setGainControl pair control)

/-- A mode that the transceiver cannot have been set to reads as the default. -/
def getGainMode (channel : UInt8) : Action GainMode := do
  expect .initialized
  let pair ← gainModeChannel "get_gain_mode" channel
  let code ← transceiver "get_gain_mode" (.gainControl pair)
  return ((Rfic.GainControl.ofCode? code).map GainMode.ofControl).getD .default

def gainStageNames (d : Direction) : List String := (gainStages d).map (·.1)

def getGainStageRange (channel : UInt8) (stage : String) : Action (ScaledRange Rat) := do
  match (gainStages (Direction.ofChannel channel)).find? (·.1 == stage) with
  | some (_, range) => return range
  | none =>
    logError s!"get_gain_stage_range: gain stage \"{stage}\" unsupported"
    throw .unsupported

/-- Sets one stage of the gain. Only a stage that is all of its direction's gain can be set; any other
is left alone with a warning. -/
def setGainStage (channel : UInt8) (stage : String) (gain : Int32) : Action Unit := do
  expect .initialized
  match Direction.ofChannel channel, stage with
  | .tx, "dsa" => setGain channel gain
  | .rx, "full" => setGain channel gain
  | .rx, "digital" => logWarn s!"set_gain_stage: gain stage '{stage}' unsupported"
  | _, _ => logWarn s!"set_gain_stage: gain stage '{stage}' invalid"

/-- An unknown stage reads as zero, with a warning. -/
def noGainStage (stage : String) : Action Int32 := do
  logWarn s!"get_gain_stage: gain stage '{stage}' invalid"
  return 0

def getGainStage (channel : UInt8) (stage : String) : Action Int32 := do
  expect .initialized
  match Direction.ofChannel channel with
  | .tx => if stage = "dsa" then getGain channel else noGainStage stage
  | .rx =>
    let gain ← transceiver "get_gain_stage"
      (.receiverGain (Channel.pair channel + 1))
    match stage with
    | "full" => return gain.gainDb
    | "digital" => return gain.digital.toInt32
    | _ => noGainStage stage

end Board
end RadioBoard
