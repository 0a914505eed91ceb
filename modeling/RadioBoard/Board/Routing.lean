import RadioBoard.Board.Basic

/-!
Where received samples come from: loopbacks, and the multiplexer in the FPGA.
-/

namespace RadioBoard

/-- Loopbacks of the board family; most need a transceiver that this board does not have. -/
inductive Loopback
  | none
  /-- Inside of the USB controller. -/
  | firmware
  | txLpfToRxVga2
  | txVga1ToRxVga2
  | txLpfToRxLpf
  | txVga1ToRxLpf
  | lna1
  | lna2
  | lna3
  /-- The built-in self test of the transceiver. -/
  | selfTest
  deriving DecidableEq

namespace Loopback

def code : Loopback → Nat
  | none => 0
  | firmware => 1
  | txLpfToRxVga2 => 2
  | txVga1ToRxVga2 => 3
  | txLpfToRxLpf => 4
  | txVga1ToRxLpf => 5
  | lna1 => 6
  | lna2 => 7
  | lna3 => 8
  | selfTest => 9

def name : Loopback → String
  | none => "None"
  | firmware => "Firmware"
  | txLpfToRxVga2 => "BbTxlpfRxvga2"
  | txVga1ToRxVga2 => "BbTxvga1Rxvga2"
  | txLpfToRxLpf => "BbTxlpfRxlpf"
  | txVga1ToRxLpf => "BbTxvga1Rxlpf"
  | lna1 => "Lna1"
  | lna2 => "Lna2"
  | lna3 => "Lna3"
  | selfTest => "RficBist"

def isSupported : Loopback → Bool
  | none | firmware | selfTest => true
  | _ => false

end Loopback

/-- What the multiplexer hands to the host. -/
inductive RxSource
  | baseband
  /-- A counter of twelve bits in each of both parts of a sample. -/
  | counter12
  /-- One counter of 32 bits, its upper half in the first part of a sample. -/
  | counter32
  /-- The samples to be transmitted. -/
  | digitalLoopback
  deriving DecidableEq

namespace RxSource

def code : RxSource → UInt32
  | baseband => 0
  | counter12 => 1
  | counter32 => 2
  | digitalLoopback => 4

def ofCode? : UInt32 → Option RxSource
  | 0 => some baseband
  | 1 => some counter12
  | 2 => some counter32
  | 4 => some digitalLoopback
  | _ => none

theorem ofCode?_code (s : RxSource) : ofCode? s.code = some s := by cases s <;> rfl

/-! The selection within the configuration register of the FPGA. -/

def shift : UInt32 := 8
def mask : UInt32 := 7 <<< shift

def ofGpio (gpio : UInt32) : UInt32 := (gpio &&& mask) >>> shift

def inGpio (gpio : UInt32) (s : RxSource) : UInt32 := gpio &&& ~~~mask ||| s.code <<< shift

end RxSource

namespace Board

def selfTestLoopback : Int32 := 1

def setLoopback (l : Loopback) : Action Unit := do
  expect .initialized
  if !l.isSupported then
    logError s!"set_loopback: decoding loopback mode {l.name} failed"
    throw .unsupported
  transceiver "set_loopback"
    (.setSelfTest (if l = .selfTest then selfTestLoopback else 0))
  transport "set_loopback" (.setLoopback (l = .firmware))

/-- The loopback of the firmware hides that of the transceiver. -/
def getLoopback : Action Loopback := do
  expect .initialized
  if ← transport "get_loopback" .loopback then return .firmware
  let mode ← transceiver "get_loopback" .selfTest
  return if mode = selfTestLoopback then .selfTest else .none

def setRxSource (s : RxSource) : Action Unit := do
  expect .initialized
  let gpio ← transport "set_rx_mux" .readGpio
  transport "set_rx_mux" (.writeGpio (RxSource.inGpio gpio s))

def getRxSource : Action RxSource := do
  expect .initialized
  let gpio ← transport "get_rx_mux" .readGpio
  match RxSource.ofCode? (RxSource.ofGpio gpio) with
  | some s => return s
  | none =>
    logError s!"invalid RX mux mode {RxSource.ofGpio gpio} read from config GPIO"
    throw .unexpected

end Board
end RadioBoard
