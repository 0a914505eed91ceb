import RadioBoard.Board.Corrections
import RadioBoard.Board.Gain
import RadioBoard.Board.Module
import RadioBoard.Board.Ports
import RadioBoard.Board.Properties
import RadioBoard.Board.Registers
import RadioBoard.Board.Routing
import RadioBoard.Board.Storage
import RadioBoard.Board.Streams
import RadioBoard.Board.Triggers

/-!
Everything that can be asked of a board, as one type.

Each operation has a kind of result, the action that performs it and, where it is guarded, the stage
that it needs. A session is a list of operations; one that fails does not end it.
-/

namespace RadioBoard

/-- Expansion boards of the board family. -/
inductive Expansion
  | none | xb100 | xb200 | xb300
  deriving DecidableEq

def Expansion.code : Expansion → Nat
  | none => 0
  | xb100 => 1
  | xb200 => 2
  | xb300 => 3

namespace Board

inductive Operation
  | stage
  | config
  | expect (required : Stage)
  | linkSpeed
  | fpgaSize
  | isFpgaConfigured
  | capabilities
  | hasCapability (bits : UInt64)
  | fpgaVersion
  | firmwareVersion
  | band (channel : UInt8) (hz : UInt64)
  | frequencyRange (channel : UInt8)
  | frequency (channel : UInt8)
  | setFrequency (channel : UInt8) (hz : UInt64)
  | bandwidthRange
  | bandwidth (channel : UInt8)
  | setBandwidth (channel : UInt8) (hz : UInt32)
  | sampleRateRange
  | sampleRate (channel : UInt8)
  | setSampleRate (channel : UInt8) (hz : UInt32)
  | rationalSampleRate (channel : UInt8)
  | setRationalSampleRate (channel : UInt8) (rate : RationalRate)
  | gainRange (channel : UInt8)
  | gain (channel : UInt8)
  | setGain (channel : UInt8) (db : Int32)
  | gainModes (channel : UInt8)
  | gainMode (channel : UInt8)
  | setGainMode (channel : UInt8) (mode : GainMode)
  | gainStages (channel : UInt8)
  | gainStageRange (channel : UInt8) (name : String)
  | gainStage (channel : UInt8) (name : String)
  | setGainStage (channel : UInt8) (name : String) (db : Int32)
  | supportsLoopback (l : Loopback)
  | loopback
  | setLoopback (l : Loopback)
  | rxSource
  | setRxSource (s : RxSource)
  | ports (channel : UInt8)
  | port (channel : UInt8)
  | setPort (channel : UInt8) (name : String)
  | correction (channel : UInt8) (c : Correction)
  | setCorrection (channel : UInt8) (c : Correction) (value : Int16)
  | enableModule (channel : UInt8) (on : Bool)
  | loadFpga (image : ByteArray)
  | storeFpga (image : ByteArray)
  | eraseStoredFpga
  | storeFirmware (image : ByteArray)
  | eraseFlash (block count : UInt32)
  | readFlash (page count : UInt32)
  | writeFlash (page : UInt32) (data : ByteArray)
  | resetDevice
  | createStream (format : SampleFormat) (buffers samplesPerBuffer transfers : Nat)
      (callback : Streaming.Callback)
  | runStream (s : Streaming.StreamHandle) (layout : Layout)
  | submitBuffer (s : Streaming.StreamHandle) (buffer : ByteArray) (timeoutMs : Nat)
      (nonblocking : Bool)
  | removeStream (s : Streaming.StreamHandle)
  | configureSync (layout : Layout) (format : SampleFormat) (buffers bufferSize transfers : UInt32)
      (timeoutMs : Nat)
  | transmit (samples : ByteArray) (metadata : Option Metadata) (timeoutMs : Nat)
  | receive (size : Nat) (metadata : Option Metadata) (timeoutMs : Nat)
  | timestamp (d : Direction)
  | describeTrigger (channel : UInt8) (signal : Trigger.Signal)
  | armTrigger (t : Trigger) (on : Bool)
  | fireTrigger (t : Trigger)
  | triggerStatus (t : Trigger)
  | readTrigger (channel : UInt8) (signal : Trigger.Signal)
  | writeTrigger (channel : UInt8) (signal : Trigger.Signal) (value : UInt8)
  | readRfic (address : UInt16)
  | writeRfic (address : UInt16) (value : UInt8)
  | readPll (address : UInt8)
  | writePll (address : UInt8) (value : UInt32)
  | readMonitor (r : PowerMonitor.Register)
  | trim
  | readTrim
  | writeTrim (value : UInt16)
  | readGpio
  | writeGpio (value : UInt32)
  | expansion
  /-- Asks for what other boards of the family can do and this one cannot, by its name. -/
  | absent (feature : String)

namespace Operation

abbrev Result : Operation → Type
  | stage => Stage
  | config => Config
  | linkSpeed => LinkSpeed
  | fpgaSize => FpgaSize
  | isFpgaConfigured | hasCapability _ | supportsLoopback _ => Bool
  | capabilities | frequency _ | timestamp _ => UInt64
  | fpgaVersion | firmwareVersion => Version
  | band _ _ => Band
  | frequencyRange _ | bandwidthRange | sampleRateRange | gainRange _ | gainStageRange _ _ =>
    ScaledRange Rat
  | bandwidth _ | setBandwidth _ _ | sampleRate _ | setSampleRate _ _ | readPll _ | readGpio => UInt32
  | rationalSampleRate _ | setRationalSampleRate _ _ => RationalRate
  | gain _ | gainStage _ _ => Int32
  | gainModes _ => List GainMode
  | gainMode _ => GainMode
  | gainStages _ | ports _ => List String
  | loopback => Loopback
  | rxSource => RxSource
  | port _ => String
  | correction _ _ => Int16
  | readFlash _ _ => ByteArray
  | createStream _ _ _ _ _ => Streaming.StreamHandle
  | transmit _ _ _ => Option Metadata
  | receive _ _ _ => ByteArray × Option Metadata
  | describeTrigger _ _ => Trigger
  | triggerStatus _ => Trigger.Status
  | readTrigger _ _ | readRfic _ => UInt8
  | readMonitor _ => PowerMonitor.Reading
  | trim | readTrim => UInt16
  | expansion => Expansion
  | _ => Unit

def perform : (o : Operation) → Action o.Result
  | stage => return (← get).stage
  | config => return (← read).config
  | expect required => Board.expect required
  | linkSpeed => Board.linkSpeed
  | fpgaSize => getFpgaSize
  | isFpgaConfigured => Board.isFpgaConfigured
  | capabilities => return (← get).capabilities
  | hasCapability bits => return (← get).hasCapability bits
  | fpgaVersion => getFpgaVersion
  | firmwareVersion => getFirmwareVersion
  | band channel hz => bandOf (Direction.ofChannel channel) hz
  | frequencyRange channel => return Board.frequencyRange (Direction.ofChannel channel)
  | frequency channel => getFrequency channel
  | setFrequency channel hz => Board.setFrequency channel hz
  | bandwidthRange => return Board.bandwidthRange
  | bandwidth channel => getBandwidth channel
  | setBandwidth channel hz => Board.setBandwidth channel hz
  | sampleRateRange => return Board.sampleRateRange
  | sampleRate channel => getSampleRate channel
  | setSampleRate channel hz => Board.setSampleRate channel hz
  | rationalSampleRate channel => getRationalSampleRate channel
  | setRationalSampleRate channel rate => Board.setRationalSampleRate channel rate
  | gainRange channel => getGainRange channel
  | gain channel => getGain channel
  | setGain channel db => Board.setGain channel db
  | gainModes channel => return Board.gainModes (Direction.ofChannel channel)
  | gainMode channel => getGainMode channel
  | setGainMode channel mode => Board.setGainMode channel mode
  | gainStages channel => return gainStageNames (Direction.ofChannel channel)
  | gainStageRange channel name => getGainStageRange channel name
  | gainStage channel name => getGainStage channel name
  | setGainStage channel name db => Board.setGainStage channel name db
  | supportsLoopback l => return l.isSupported
  | loopback => getLoopback
  | setLoopback l => Board.setLoopback l
  | rxSource => getRxSource
  | setRxSource s => Board.setRxSource s
  | ports channel => return Rfic.Port.names (Direction.ofChannel channel)
  | port channel => getPort channel
  | setPort channel name => Board.setPort channel name
  | correction channel c => getCorrection channel c
  | setCorrection channel c value => Board.setCorrection channel c value
  | enableModule channel on => Board.enableModule channel on
  | loadFpga image => Board.loadFpga image
  | storeFpga image => Board.storeFpga image
  | eraseStoredFpga => Board.eraseStoredFpga
  | storeFirmware image => Board.storeFirmware image
  | eraseFlash block count => Board.eraseFlash block count
  | readFlash page count => Board.readFlash page count
  | writeFlash page data => Board.writeFlash page data
  | resetDevice => Board.resetDevice
  | createStream format buffers samplesPerBuffer transfers callback =>
    Board.createStream format buffers samplesPerBuffer transfers callback
  | runStream s layout => Board.runStream s layout
  | submitBuffer s buffer timeoutMs nonblocking => Board.submitBuffer s buffer timeoutMs nonblocking
  | removeStream s => Board.removeStream s
  | configureSync layout format buffers bufferSize transfers timeoutMs =>
    Board.configureSync layout format buffers bufferSize transfers timeoutMs
  | transmit samples metadata timeoutMs => Board.transmit samples metadata timeoutMs
  | receive size metadata timeoutMs => Board.receive size metadata timeoutMs
  | timestamp d => getTimestamp d
  | describeTrigger channel signal => Board.describeTrigger channel signal
  | armTrigger t on => Board.armTrigger t on
  | fireTrigger t => Board.fireTrigger t
  | triggerStatus t => Board.triggerStatus t
  | readTrigger channel signal => Board.readTrigger channel signal
  | writeTrigger channel signal value => Board.writeTrigger channel signal value
  | readRfic address => Board.readRfic address
  | writeRfic address value => Board.writeRfic address value
  | readPll address => Board.readPll address
  | writePll address value => Board.writePll address value
  | readMonitor r => Board.readMonitor r
  | trim => getTrim
  | readTrim => Board.readTrim
  | writeTrim value => Board.writeTrim value
  | readGpio => Board.readGpio
  | writeGpio value => Board.writeGpio value
  | expansion => return .none
  | absent _ => throw .unsupported

/-- The stage that an operation needs. The others can always be asked for. -/
def requires : Operation → Option Stage
  | expect required => some required
  | linkSpeed | fpgaSize | isFpgaConfigured | firmwareVersion | loadFpga _ | storeFpga _
  | eraseStoredFpga | storeFirmware _ | eraseFlash _ _ | readFlash _ _ | writeFlash _ _ | resetDevice
  | trim => some .firmwareLoaded
  | fpgaVersion | readTrigger _ _ | writeTrigger _ _ _ | readRfic _ | writeRfic _ _ | readPll _
  | writePll _ _ | readMonitor _ | readTrim | writeTrim _ | readGpio | writeGpio _ => some .fpgaLoaded
  | stage | config | capabilities | hasCapability _ | band _ _ | frequencyRange _ | bandwidthRange
  | sampleRateRange | gainModes _ | gainStages _ | gainStageRange _ _ | supportsLoopback _ | ports _
  | runStream _ _ | submitBuffer _ _ _ _ | removeStream _ | transmit _ _ _ | receive _ _ _ | expansion
  | absent _ => none
  | _ => some .initialized

/-- Performs an operation on a board. -/
def attempt (setup : Setup) (o : Operation) (b : Board) :
    Program boardInterface (Except Error o.Result × Board) :=
  (o.perform setup).run b

end Operation

/-- Performs operations one after the other, each on what the one before has left. -/
def session (setup : Setup) : List Operation → Board → Program boardInterface Board
  | [], b => return b
  | o :: os, b => do session setup os (← o.attempt setup b).2

end Board
end RadioBoard
