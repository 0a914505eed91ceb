import RadioBoard.Channel
import RadioBoard.Program

/-!
The transceiver chip as its driver presents it: parameters, calls, and status codes on failure.
-/

namespace RadioBoard.Rfic

/-- Who sets the receive gain: the host, or one of the chip's own controllers. -/
inductive GainControl
  | manual | fastAttack | slowAttack | hybrid
  deriving DecidableEq

namespace GainControl

def code : GainControl → UInt8
  | manual => 0
  | fastAttack => 1
  | slowAttack => 2
  | hybrid => 3

def ofCode? : UInt8 → Option GainControl
  | 0 => some manual
  | 1 => some fastAttack
  | 2 => some slowAttack
  | 3 => some hybrid
  | _ => none

theorem ofCode?_code (g : GainControl) : ofCode? g.code = some g := by cases g <;> rfl

end GainControl

/-- A programmable filter; the factor decimates on receive and interpolates on transmit. -/
structure Fir where
  /-- Channel 1, channel 2 or, as their sum, both. -/
  channels : UInt8
  gainDb : Int32
  rateFactor : UInt32
  coefficients : List Int16
  deriving DecidableEq

/-- The filter that passes everything: one coefficient at full scale. -/
def Fir.unity (channels : UInt8) (gainDb : Int32) (taps : Nat) : Fir where
  channels := channels
  gainDb := gainDb
  rateFactor := 1
  coefficients := (List.range taps).map fun i => if i = 0 then 32767 else 0

/-- The clocks along one signal path, from the synthesizer's to the sample clock. -/
structure PathClocks where
  synthesizer : UInt32
  converter : UInt32
  secondStage : UInt32
  firstStage : UInt32
  filter : UInt32
  sample : UInt32
  deriving DecidableEq

structure Params where
  referenceHz : UInt32 := 38400000
  twoByTwo : Bool := true
  rxLoHz : UInt64 := 2400000000
  txLoHz : UInt64 := 2400000000
  rxBandwidthHz : UInt32 := 18000000
  txBandwidthHz : UInt32 := 18000000
  rxClocks : PathClocks := ⟨983040000, 245760000, 122880000, 61440000, 30720000, 30720000⟩
  txClocks : PathClocks := ⟨983040000, 122880000, 122880000, 61440000, 30720000, 30720000⟩
  rxPort : UInt32 := 0
  txPort : UInt32 := 0
  rx1GainControl : GainControl := .slowAttack
  rx2GainControl : GainControl := .slowAttack
  txAttenuationMdb : UInt32 := 10000
  rxFir : Fir := .unity 3 (-6) 64
  txFir : Fir := .unity 3 0 64
  deriving DecidableEq

/-- The frequency that a direction's oscillator starts with. -/
def Params.loHz (p : Params) : Direction → UInt64
  | .rx => p.rxLoHz
  | .tx => p.txLoHz

/-- The gain of one receiver as a whole, and the digital part of it. -/
structure ReceiverGain where
  gainDb : Int32
  digital : UInt32
  deriving DecidableEq

/-- Calls to a running driver. Channels count from zero, receivers from one. -/
inductive Call
  | lo (d : Direction)
  | setLo (d : Direction) (hz : UInt64)
  | port (d : Direction)
  | setPort (d : Direction) (id : UInt32)
  | rxGain (channel : UInt8)
  | setRxGain (channel : UInt8) (db : Int32)
  | attenuation (channel : UInt8)
  | setAttenuation (channel : UInt8) (mdb : UInt32)
  | receiverGain (receiver : UInt8)
  | gainControl (channel : UInt8)
  | setGainControl (channel : UInt8) (mode : GainControl)
  | bandwidth (d : Direction)
  | setBandwidth (d : Direction) (hz : UInt32)
  | sampleRate (d : Direction)
  | setSampleRate (d : Direction) (hz : UInt32)
  | setFir (d : Direction) (fir : Fir)
  | enableRxFir (on : Bool)
  /-- The built-in self test: 1 loops transmitted samples back, 0 turns it off. -/
  | setSelfTest (mode : Int32)
  | selfTest
  | readRegister (address : UInt16)
  | writeRegister (address : UInt16) (value : UInt8)

abbrev Call.Reply : Call → Type
  | lo _ => UInt64
  | port _ | attenuation _ | bandwidth _ | sampleRate _ => UInt32
  | rxGain _ | selfTest => Int32
  | receiverGain _ => ReceiverGain
  | gainControl _ | readRegister _ => UInt8
  | _ => Unit

/-- The names that messages use for what either direction has. -/
def pathName : Direction → String
  | .rx => "rx"
  | .tx => "tx"

def portName : Direction → String
  | .rx => "rx_rf_port_input"
  | .tx => "tx_rf_port_output"

/-- What messages call a call. -/
def Call.name : Call → String
  | lo d => s!"ad9361_get_{pathName d}_lo_freq"
  | setLo d _ => s!"ad9361_set_{pathName d}_lo_freq"
  | port d => s!"ad9361_get_{portName d}"
  | setPort d _ => s!"ad9361_set_{portName d}"
  | rxGain _ => "ad9361_get_rx_rf_gain"
  | setRxGain _ _ => "ad9361_set_rx_rf_gain"
  | attenuation _ => "ad9361_get_tx_attenuation"
  | setAttenuation _ _ => "ad9361_set_tx_attenuation"
  | receiverGain _ => "ad9361_get_rx_gain"
  | gainControl _ => "ad9361_get_rx_gain_control_mode"
  | setGainControl _ _ => "ad9361_set_rx_gain_control_mode"
  | bandwidth d => s!"ad9361_get_{pathName d}_rf_bandwidth"
  | setBandwidth d _ => s!"ad9361_set_{pathName d}_rf_bandwidth"
  | sampleRate d => s!"ad9361_get_{pathName d}_sampling_freq"
  | setSampleRate d _ => s!"ad9361_set_{pathName d}_sampling_freq"
  | setFir d _ => s!"ad9361_set_{pathName d}_fir_config"
  | enableRxFir _ => "ad9361_set_rx_fir_en_dis"
  | setSelfTest _ => "ad9361_bist_loopback"
  | selfTest => "ad9361_get_bist_loopback"
  | readRegister _ => "ad9361_spi_read"
  | writeRegister _ _ => "ad9361_spi_write"

/-- A driver that was started and not yet released. -/
structure Handle where
  id : Nat
  deriving DecidableEq

end RadioBoard.Rfic
