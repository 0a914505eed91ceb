import RadioBoard.Board.Basic

/-!
Streams of the board: those that run by a callback, and one synchronous stream for each direction.
-/

namespace RadioBoard.Board

open Streaming

/-- Creates a stream that calls back for each completed buffer once it runs. -/
def createStream (format : SampleFormat) (buffers samplesPerBuffer transfers : Nat)
    (callback : Callback) : Action StreamHandle := do
  expect .initialized
  let messageSize := (← get).messageSize
  streaming "init_stream"
    (.create { format, buffers, samplesPerBuffer, transfers, messageSize } callback)

def runStream (s : StreamHandle) (layout : Layout) : Action Unit :=
  streaming "stream" (.run s layout)

def submitBuffer (s : StreamHandle) (buffer : ByteArray) (timeoutMs : Nat) (nonblocking : Bool) :
    Action Unit :=
  streaming "submit_stream_buffer" (.submit s buffer timeoutMs nonblocking)

def removeStream (s : StreamHandle) : Action Unit := peer (.removeStream s)

/-- Starts the synchronous stream of a direction, in place of one that may be there. -/
def configureSync (layout : Layout) (format : SampleFormat) (buffers bufferSize transfers : UInt32)
    (timeoutMs : Nat) : Action Unit := do
  expect .initialized
  let messageSize := (← get).messageSize
  stopSync layout.direction
  let handle ← streaming "sync_config"
    (.startSync { layout, format, buffers, bufferSize, messageSize, transfers, timeoutMs })
  modify (·.withSync (some handle) layout.direction)

def transmit (samples : ByteArray) (metadata : Option Metadata) (timeoutMs : Nat) :
    Action (Option Metadata) := do
  match (← get).sync .tx with
  | none =>
    logError "sync_tx: TX synchronous interface is not configured"
    throw .invalid
  | some handle => streaming "sync_tx" (.transmit handle samples metadata timeoutMs)

def receive (size : Nat) (metadata : Option Metadata) (timeoutMs : Nat) :
    Action (ByteArray × Option Metadata) := do
  match (← get).sync .rx with
  | none =>
    logError "sync_rx: RX synchronous interface is not configured"
    throw .invalid
  | some handle => streaming "sync_rx" (.receive handle size metadata timeoutMs)

/-- The sample counter of a direction. -/
def getTimestamp (d : Direction) : Action UInt64 := do
  expect .initialized
  transport "get_timestamp" (.timestamp d)

end RadioBoard.Board
