import RadioBoard.Board.Basic
import RadioBoard.FrontEnd

/-!
Choosing the signal path for a frequency: the antenna switch and the port of the transceiver.
-/

namespace RadioBoard.Board

/-- The band of a frequency. A frequency outside of all bands is worth a warning. -/
def bandOf (d : Direction) (hz : UInt64) : Action Band := do
  if (Band.ofFrequency? d hz).isNone then
    logWarn s!"frequency {hz} not found in {d.name} band map"
  return Band.ofFrequency d hz

def pathInUse (d : Direction) (enabled : Bool) (hz : UInt64) : Action SignalPath := do
  if enabled then return SignalPath.ofBand d (← bandOf d hz)
  return SignalPath.ofBand d .shutdown

/-- The register with the antenna switch of a direction set for a frequency. -/
def switchFor (register : UInt32) (d : Direction) (enabled : Bool) (hz : UInt64) : Action UInt32 := do
  return FrontEnd.withSwitch register d (← pathInUse d enabled hz).switch

/-- Connects the transceiver to the port that serves a frequency. -/
def setPortFor (d : Direction) (enabled : Bool) (hz : UInt64) : Action Unit := do
  expect .fpgaLoaded
  let path ← pathInUse d enabled hz
  let handle ← driver
  step "set_rfic_port" "setting rf port" do throwIfStatus (← peer (.rfic handle (.setPort d path.port)))

/-- Sets the antenna switch and the port for a frequency; the direction stays enabled or disabled. -/
def selectBand (d : Direction) (hz : UInt64) : Action Unit := do
  expect .fpgaLoaded
  let register ← transport "select_band" .readFrontEnd
  let enabled := FrontEnd.isEnabled register d
  let register ← switchFor register d enabled hz
  step "select_band" "set_rfic_port" (setPortFor d enabled hz)
  transport "select_band" (.writeFrontEnd register)

end RadioBoard.Board
