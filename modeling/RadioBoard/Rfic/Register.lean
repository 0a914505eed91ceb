/-!
Transceiver registers behind manual corrections, and the commands that reach registers one by one.
-/

namespace RadioBoard.Rfic

namespace Register

/-- The correction registers by the names of the chip's register map. -/
def named : List (String × UInt16) :=
  [("TX1_OUT_1_PHASE_CORR", 0x08e), ("TX1_OUT_1_GAIN_CORR", 0x08f),
   ("TX2_OUT_1_PHASE_CORR", 0x090), ("TX2_OUT_1_GAIN_CORR", 0x091),
   ("TX1_OUT_1_OFFSET_I", 0x092), ("TX1_OUT_1_OFFSET_Q", 0x093),
   ("TX2_OUT_1_OFFSET_I", 0x094), ("TX2_OUT_1_OFFSET_Q", 0x095),
   ("TX1_OUT_2_PHASE_CORR", 0x096), ("TX1_OUT_2_GAIN_CORR", 0x097),
   ("TX2_OUT_2_PHASE_CORR", 0x098), ("TX2_OUT_2_GAIN_CORR", 0x099),
   ("TX1_OUT_2_OFFSET_I", 0x09a), ("TX1_OUT_2_OFFSET_Q", 0x09b),
   ("TX2_OUT_2_OFFSET_I", 0x09c), ("TX2_OUT_2_OFFSET_Q", 0x09d),
   ("TX_FORCE_BITS", 0x09f),
   ("RX1_INPUT_A_PHASE_CORR", 0x170), ("RX1_INPUT_A_GAIN_CORR", 0x171),
   ("RX2_INPUT_A_PHASE_CORR", 0x172), ("RX2_INPUT_A_GAIN_CORR", 0x173),
   ("RX1_INPUT_A_Q_OFFSET", 0x174), ("RX1_INPUT_A_OFFSETS", 0x175),
   ("INPUT_A_OFFSETS_1", 0x176), ("RX2_INPUT_A_OFFSETS", 0x177),
   ("RX2_INPUT_A_I_OFFSET", 0x178),
   ("RX1_INPUT_BC_PHASE_CORR", 0x179), ("RX1_INPUT_BC_GAIN_CORR", 0x17a),
   ("RX2_INPUT_BC_PHASE_CORR", 0x17b), ("RX2_INPUT_BC_GAIN_CORR", 0x17c),
   ("RX1_INPUT_BC_Q_OFFSET", 0x17d), ("RX1_INPUT_BC_OFFSETS", 0x17e),
   ("INPUT_BC_OFFSETS_1", 0x17f), ("RX2_INPUT_BC_OFFSETS", 0x180),
   ("RX2_INPUT_BC_I_OFFSET", 0x181), ("FORCE_BITS", 0x182)]

end Register

namespace Command

/-! Command words: the direction in bit 15, the byte count less one from bit 12 on, then the address. -/

def read : UInt16 := 0
def write : UInt16 := 0x8000
def addressMask : UInt16 := 0x3ff

def count (bytes : UInt16) : UInt16 := ((bytes - 1) &&& 7) <<< 12

def readByte (address : UInt16) : UInt16 := read ||| count 1 ||| (address &&& addressMask)
def writeByte (address : UInt16) : UInt16 := write ||| count 1 ||| (address &&& addressMask)

/-- A single byte travels at the top of the data word. -/
def pack (value : UInt8) : UInt64 := value.toUInt64 <<< 56
def unpack (data : UInt64) : UInt8 := (data >>> 56).toUInt8

end Command
end RadioBoard.Rfic
