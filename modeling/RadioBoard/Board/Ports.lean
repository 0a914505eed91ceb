import RadioBoard.Board.Basic
import RadioBoard.Rfic.Port

/-!
Choosing a port of the transceiver by name, until the next change of frequency chooses again.
-/

namespace RadioBoard.Board

def getPort (channel : UInt8) : Action String := do
  expect .initialized
  let d := Direction.ofChannel channel
  let id ← transceiver "get_rf_port" (.port d)
  match Rfic.Port.name? d id with
  | some name => return name
  | none =>
    logError s!"get_rf_port: unexpected port_id {id}"
    throw .unexpected

def setPort (channel : UInt8) (name : String) : Action Unit := do
  expect .initialized
  let d := Direction.ofChannel channel
  match Rfic.Port.ofName? d name with
  | none =>
    logError s!"set_rf_port: port \"{name}\" is not valid"
    throw .invalid
  | some id => transceiver "set_rf_port" (.setPort d id)

end RadioBoard.Board
