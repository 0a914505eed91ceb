import RadioBoard.Config
import RadioBoard.Peer
import RadioBoard.Version.Table

/-!
The board: what is known about it, and the actions on it.

An action reads the setup, works on the board, calls collaborators and stops at the first error. What
it changed before an error stays changed. `expect` guards an action by the stage it needs; `step` puts
the name of an action and of a step of it in front of the error that the step ends with.
-/

namespace RadioBoard

/-- How far the board has been brought up. Each stage implies the ones before. -/
inductive Stage
  | uninitialized
  /-- The firmware has told its version. -/
  | firmwareLoaded
  /-- The FPGA is configured. -/
  | fpgaLoaded
  /-- The transceiver and the front end are set up. -/
  | initialized
  deriving DecidableEq

namespace Stage

def rank : Stage → Nat
  | uninitialized => 0
  | firmwareLoaded => 1
  | fpgaLoaded => 2
  | initialized => 3

instance : LE Stage := ⟨fun a b => a.rank ≤ b.rank⟩
instance : LT Stage := ⟨fun a b => a.rank < b.rank⟩
instance : DecidableLE Stage := fun a b => inferInstanceAs (Decidable (a.rank ≤ b.rank))
instance : DecidableLT Stage := fun a b => inferInstanceAs (Decidable (a.rank < b.rank))

def name : Stage → String
  | uninitialized => "Uninitialized"
  | firmwareLoaded => "Firmware Loaded"
  | fpgaLoaded => "FPGA Loaded"
  | initialized => "Initialized"

end Stage

structure Board where
  stage : Stage := .uninitialized
  capabilities : UInt64 := 0
  fpgaSize : FpgaSize := .unknown
  /-- The message size of the bus that the board is attached to. -/
  messageSize : Nat := 0
  firmwareVersion : Version := ⟨0, 0, 0⟩
  fpgaVersion : Version := ⟨0, 0, 0⟩
  rfic : Option Rfic.Handle := none
  rxSync : Option Streaming.SyncHandle := none
  txSync : Option Streaming.SyncHandle := none
  deriving DecidableEq

/-- What a board is opened with and keeps for its lifetime. -/
structure Setup where
  config : Config
  classifier : Classifier
  files : Files

namespace Board

/-- The synchronous stream of a direction. -/
def sync (b : Board) : Direction → Option Streaming.SyncHandle
  | .rx => b.rxSync
  | .tx => b.txSync

def withSync (b : Board) (h : Option Streaming.SyncHandle) : Direction → Board
  | .rx => { b with rxSync := h }
  | .tx => { b with txSync := h }

abbrev Action (α : Type) := ReaderT Setup (ExceptT Error (StateT Board (Program boardInterface))) α

/-- Makes a program a part of an action. -/
def embed {α : Type} (p : Program boardInterface α) : Action α :=
  fun _ => ExceptT.mk fun b => p.bind fun a => .done (.ok a, b)

/-- An error of `act` is logged as that of a step of `operation`, and handed on. -/
def step {α : Type} (operation what : String) (act : Action α) : Action α :=
  tryCatch act fun e => do
    logError s!"{operation}: {what} failed: {e.message}"
    throw e

/-- Fails unless the board has been brought up to a stage. -/
def expect (required : Stage) : Action Unit := do
  let actual := (← get).stage
  if actual < required then
    logError s!"Board state insufficient for operation (current \"{actual.name}\", requires \"{required.name}\")"
    throw (.notReady required.name actual.name)

/-- Makes transport calls as a part of an action. -/
def onTransport {α : Type} (act : Transport.Action α) : Action α := do
  match ← embed (Program.left act.run) with
  | .ok a => return a
  | .error e => throw e

/-- Makes a call to the transport; messages call it by its name, with a detail where one is given. -/
def transport (operation : String) (c : Transport.Call) (detail : String := "") : Action c.Reply :=
  step operation (c.name ++ detail) (onTransport (Transport.perform c))

def peer (c : Peer.Call) : Action c.Answer :=
  embed (Program.right (Program.ask (I := Peer.interface) c))

def throwIfError {α : Type} : Except Error α → Action α
  | .ok a => return a
  | .error e => throw e

/-- The error that a status code of the transceiver driver stands for. -/
def throwIfStatus {α : Type} : Except Int32 α → Action α
  | .ok a => return a
  | .error code => throw (.ofStatus code)

/-- The transceiver driver, which only a board that was set up has. -/
def driver : Action Rfic.Handle := do
  match (← get).rfic with
  | some handle => return handle
  | none =>
    logError "RFIC is not initialized"
    throw .unexpected

def transceiver (operation : String) (c : Rfic.Call) (detail : String := "") : Action c.Reply := do
  let handle ← driver
  step operation (c.name ++ detail) do throwIfStatus (← peer (.rfic handle c))

def flash (operation : String) (c : Flash.Call) : Action c.Reply :=
  step operation c.name do throwIfError (← peer (.flash c))

def streaming (operation : String) (c : Streaming.Call) : Action c.Reply :=
  step operation c.name do throwIfError (← peer (.streaming c))

def trigger (operation : String) (c : Trigger.Call) : Action c.Reply :=
  step operation c.name do throwIfError (← peer (.trigger c))

/-- Stops the synchronous stream of a direction, if there is one. -/
def stopSync (d : Direction) : Action Unit := do
  if let some handle := (← get).sync d then
    modify (·.withSync none d)
    peer (.stopSync handle)

/-- Releases the transceiver driver, if there is one. -/
def releaseRfic : Action Unit := do
  if let some handle := (← get).rfic then
    modify ({ · with rfic := none })
    peer (.releaseRfic handle)

/-- Gives back whatever the board still holds: streams first, the transceiver last. -/
def release : Action Unit := do
  stopSync .rx
  stopSync .tx
  releaseRfic

end Board
end RadioBoard
