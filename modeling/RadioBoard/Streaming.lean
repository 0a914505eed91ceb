import RadioBoard.Channel
import RadioBoard.Error
import RadioBoard.Program

/-!
The sample streaming engine: streams driven by a callback, and synchronous streams of one direction.
-/

namespace RadioBoard

/-- What travels beside the samples of a buffer. -/
structure Metadata where
  /-- A counter in the FPGA that runs at the sample rate. -/
  timestamp : UInt64 := 0
  flags : UInt32 := 0
  status : UInt32 := 0
  /-- The number of samples that were moved. -/
  actualCount : UInt32 := 0
  deriving DecidableEq

namespace Metadata

/-- A burst starts with this buffer. -/
def burstStart : UInt32 := (1 : UInt32) <<< 0
/-- A burst ends with this buffer. -/
def burstEnd : UInt32 := (1 : UInt32) <<< 1
/-- A starting burst is sent at once and not at its timestamp. -/
def transmitNow : UInt32 := (1 : UInt32) <<< 2
/-- What is left of a partial buffer is filled with zeros. -/
def updateTimestamp : UInt32 := (1 : UInt32) <<< 3
/-- Samples are read from the present time on. -/
def receiveNow : UInt32 := (1 : UInt32) <<< 31

def overrun : UInt32 := (1 : UInt32) <<< 0
def underrun : UInt32 := (1 : UInt32) <<< 1

end Metadata

namespace Streaming

structure StreamConfig where
  format : SampleFormat
  buffers : Nat
  samplesPerBuffer : Nat
  transfers : Nat
  /-- The message size of the bus. -/
  messageSize : Nat
  deriving DecidableEq

structure SyncConfig where
  layout : Layout
  format : SampleFormat
  buffers : UInt32
  /-- In samples. -/
  bufferSize : UInt32
  messageSize : Nat
  transfers : UInt32
  timeoutMs : Nat
  deriving DecidableEq

/-- Answers a completed buffer with the next one to submit, or with none to end the stream. The first
argument counts the buffers before. -/
abbrev Callback := Nat → Metadata → ByteArray → Option ByteArray

/-- A stream of the engine. -/
structure StreamHandle where
  id : UInt32
  deriving DecidableEq

/-- A running synchronous stream. -/
structure SyncHandle where
  id : Nat
  deriving DecidableEq

inductive Call
  | create (config : StreamConfig) (callback : Callback)
  /-- Runs a stream until its callback ends it. -/
  | run (stream : StreamHandle) (layout : Layout)
  | submit (stream : StreamHandle) (buffer : ByteArray) (timeoutMs : Nat) (nonblocking : Bool)
  | startSync (config : SyncConfig)
  | transmit (stream : SyncHandle) (samples : ByteArray) (metadata : Option Metadata) (timeoutMs : Nat)
  | receive (stream : SyncHandle) (size : Nat) (metadata : Option Metadata) (timeoutMs : Nat)

abbrev Call.Reply : Call → Type
  | create _ _ => StreamHandle
  | startSync _ => SyncHandle
  | transmit _ _ _ _ => Option Metadata
  | receive _ _ _ _ => ByteArray × Option Metadata
  | _ => Unit

/-- What messages call a call. -/
def Call.name : Call → String
  | create _ _ => "async_init_stream"
  | run _ _ => "async_run_stream"
  | submit _ _ _ _ => "async_submit_stream_buffer"
  | startSync _ => "sync_init"
  | transmit _ _ _ _ => "sync_tx"
  | receive _ _ _ _ => "sync_rx"

end Streaming
end RadioBoard
