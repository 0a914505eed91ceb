/-!
Numerals in base sixteen, as they appear in messages.
-/

namespace RadioBoard.Text

/-- Lower-case digits without leading zeros. -/
def hex (n : Nat) : String := String.ofList (Nat.toDigits 16 n)

/-- The same with a mark in front. -/
def markedHex (n : Nat) : String := "0x" ++ hex n

/-- At least `width` digits, filled up with zeros from the left. -/
def paddedHex (width n : Nat) : String :=
  let digits := hex n
  "".pushn '0' (width - digits.length) ++ digits

end RadioBoard.Text
