/-!
The blocks of the FPGA that packets reach. Each format has targets of its own.
-/

namespace RadioBoard.Packet.Target

/-! Targets from here on are free for custom images. -/

def firstCustom : UInt8 := 0x80
def lastCustom : UInt8 := 0xff

/-! Eight bits of data. -/

def txTrigger : UInt8 := 0x03
def rxTrigger : UInt8 := 0x04

/-! Sixteen bits of data. -/

def trim : UInt8 := 0x03
def powerMonitor : UInt8 := 0x04

/-! Thirty-two bits of data. -/

def version : UInt8 := 0x00
def gpio : UInt8 := 0x01
def frontEnd : UInt8 := 0x03
def pll : UInt8 := 0x04

/-! Sixty-four bits of data. -/

def timestamp : UInt8 := 0x00
def rxTimestamp : UInt8 := 0x00
def txTimestamp : UInt8 := 0x01

/-! Sixteen bits of address. -/

def rfic : UInt8 := 0x00

end RadioBoard.Packet.Target
