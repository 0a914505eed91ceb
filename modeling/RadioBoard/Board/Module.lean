import RadioBoard.Board.Tuning

/-!
Enabling and disabling the directions.

Enabling routes antenna and port for the present frequency. Disabling stops the synchronous stream of
the direction before anything is switched off.
-/

namespace RadioBoard.Board

/-- The front end first, the firmware's sample path second. -/
def switchModule (d : Direction) (on : Bool) (hz : UInt64) : Action Unit := do
  let register ← transport "enable_module" .readFrontEnd
  let register := if on then FrontEnd.enable register d else FrontEnd.disable register d
  let register ← switchFor register d on hz
  transport "enable_module" (.writeFrontEnd register)
  transport "enable_module" (.enablePath d on)

def enableModule (channel : UInt8) (on : Bool) : Action Unit := do
  expect .initialized
  let d := Direction.ofChannel channel
  if on then
    let hz ← step "enable_module" "get_frequency" (getFrequency channel)
    step "enable_module" "set_rfic_port" (setPortFor d true hz)
    switchModule d true hz
  else
    stopSync d
    switchModule d false 0

end RadioBoard.Board
