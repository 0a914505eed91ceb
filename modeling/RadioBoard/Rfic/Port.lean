import RadioBoard.Channel

/-!
The signal ports of the transceiver, by name and number.
-/

namespace RadioBoard.Rfic.Port

def aBalanced : UInt32 := 0
def bBalanced : UInt32 := 1
def cBalanced : UInt32 := 2

def txA : UInt32 := 0
def txB : UInt32 := 1

/-- The ports of a direction. Inputs are three pairs, balanced or by one leg, and transmit monitors. -/
def named : Direction → List (String × UInt32)
  | .rx =>
    [("A_BALANCED", aBalanced), ("B_BALANCED", bBalanced), ("C_BALANCED", cBalanced),
     ("A_N", 3), ("A_P", 4), ("B_N", 5), ("B_P", 6), ("C_N", 7), ("C_P", 8),
     ("TX_MON1", 9), ("TX_MON2", 10), ("TX_MON1_2", 11)]
  | .tx => [("TXA", txA), ("TXB", txB)]

def names (d : Direction) : List String := (named d).map (·.1)

def ofName? (d : Direction) (name : String) : Option UInt32 :=
  ((named d).find? (·.1 == name)).map (·.2)

def name? (d : Direction) (id : UInt32) : Option String :=
  ((named d).find? (·.2 == id)).map (·.1)

/-- A name leads to the number that leads back to it. -/
theorem name?_of_mem (d : Direction) : ∀ p ∈ named d, name? d p.2 = some p.1 ∧ ofName? d p.1 = some p.2 := by
  cases d <;> decide

end RadioBoard.Rfic.Port
