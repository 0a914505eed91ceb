import RadioBoard.Text.Blank
import RadioBoard.Version

/-!
Reading a version from the text that the firmware describes itself with.

Leading `v`s and white space around the text and around each component are skipped, a missing
component counts as zero, and whatever follows the digits of the third component is ignored.
-/

namespace RadioBoard.Version

/-- The pieces of a text between the occurrences of `separator`: always one more than there are. -/
def pieces (separator : Char) : List Char → List (List Char)
  | [] => [[]]
  | c :: cs =>
    match pieces separator cs with
    | [] => [[c]]
    | piece :: rest => if c = separator then [] :: piece :: rest else (c :: piece) :: rest

def decimal (digits : List Char) : Nat :=
  digits.foldl (fun n c => 10 * n + (c.toNat - '0'.toNat)) 0

/-- The number that a plain decimal numeral denotes, if it fits 16 bits. -/
def numeral? (digits : List Char) : Option UInt16 :=
  if !digits.isEmpty && digits.all Char.isDigit && decimal digits < 65536 then
    some (UInt16.ofNat (decimal digits))
  else
    none

/-- A numeral between white space, with a plus sign allowed in front. -/
def component? (piece : List Char) : Option UInt16 :=
  match Text.trim piece with
  | '+' :: digits => numeral? digits
  | digits => numeral? digits

/-- The digits that the last component starts with. -/
def leading? (piece : List Char) : Option UInt16 :=
  numeral? ((Text.trim piece).takeWhile Char.isDigit)

def parseChars (cs : List Char) : Option Version :=
  match pieces '.' ((Text.trim cs).dropWhile (· == 'v')) with
  | [] => none
  | [a] => do return ⟨← component? a, 0, 0⟩
  | [a, b] => do return ⟨← component? a, ← component? b, 0⟩
  | a :: b :: c :: _ => do return ⟨← component? a, ← component? b, ← leading? c⟩

def parse (s : String) : Option Version := parseChars s.toList

theorem pieces_ne_nil (separator : Char) (cs : List Char) : pieces separator cs ≠ [] := by
  cases cs with
  | nil => simp [pieces]
  | cons c cs =>
    rw [pieces]
    split
    · simp
    · split <;> simp

end RadioBoard.Version
