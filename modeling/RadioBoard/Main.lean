import RadioBoard.Report

/-!
The command that reports on a board: the first one, or the one with the serial number given.
-/

namespace RadioBoard

/-- A bus that nothing is attached to. -/
def emptyBus : (c : Usb.Call) → Usb.Call.Answer c
  | .list => some []
  | .attach _ | .claim _ | .setAlternate _ => none
  | .describe _ _ => .error "disconnected"
  | .controlIn _ _ | .bulkIn _ _ => .error .disconnected
  | .controlOut _ _ => .error .disconnected
  | .bulkOut _ _ => ⟨some .disconnected, 0⟩

def Level.label : Level → String
  | error => "ERROR"
  | warn => "WARN"
  | info => "INFO"

def Note.perform : Note → IO Unit
  | log level text => IO.eprintln (level.label ++ " " ++ text)
  | line text => IO.println text
  | pause milliseconds => IO.sleep (UInt32.ofNat milliseconds)

/-- Follows a program with collaborators that act in the world. -/
def Program.perform {I : Interface} {α : Type} (answer : (c : I.Call) → IO (I.Answer c)) :
    Program I α → IO α
  | done a => return a
  | say n p => do
    n.perform
    p.perform answer
  | call c k => do (k (← answer c)).perform answer

end RadioBoard

open RadioBoard in
def main (args : List String) : IO UInt32 := do
  let selector := match args with
    | serial :: _ => Usb.Selector.serial serial
    | [] => Usb.Selector.first
  match ← (Usb.report selector).run.perform fun c => return emptyBus c with
  | .ok () => return 0
  | .error e =>
    IO.eprintln ("Error: " ++ e.message)
    return 1
