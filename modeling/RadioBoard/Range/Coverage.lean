import RadioBoard.Range.Scaled

/-!
The values that a setting supports, described as a list of intervals, single values and steps.
-/

namespace RadioBoard

inductive CoverageItem (F : Type)
  | interval (low high : F)
  | value (v : F)
  | step (low high step scale : F)

namespace CoverageItem

variable {F : Type} [Scalar F]

def lower : CoverageItem F → F
  | interval low _ => low
  | value v => v
  | step low _ _ scale => low * scale

def upper : CoverageItem F → F
  | interval _ high => high
  | value v => v
  | step _ high _ scale => high * scale

def contains : CoverageItem F → F → Bool
  | interval low high, x => decide (low ≤ x) && decide (x ≤ high)
  | value v, x => v == x
  | step low high _ scale, x => decide (low * scale ≤ x) && decide (x ≤ high * scale)

end CoverageItem

structure Coverage (F : Type) where
  items : List (CoverageItem F)

namespace Coverage

variable {F : Type} [Scalar F]

/-- The lesser of two numbers, the first if neither is less; what is no number gives way. -/
def lesser (x y : F) : F :=
  if Scalar.isNaN x then y else if y < x then y else x

/-- The greater of two numbers, the first if neither is greater; what is no number gives way. -/
def greater (x y : F) : F :=
  if Scalar.isNaN x then y else if x < y then y else x

def min? (c : Coverage F) : Option F :=
  match c.items.map CoverageItem.lower with
  | [] => none
  | x :: xs => some (xs.foldl lesser x)

def max? (c : Coverage F) : Option F :=
  match c.items.map CoverageItem.upper with
  | [] => none
  | x :: xs => some (xs.foldl greater x)

def contains (c : Coverage F) (x : F) : Bool := c.items.any (·.contains x)

/-- The values that a scaled range stands for, as a single step. -/
def ofScaled (r : ScaledRange F) : Coverage F where
  items := [.step (Scalar.ofInt64 r.min) (Scalar.ofInt64 r.max) (Scalar.ofInt64 r.step) r.scale]

end Coverage
end RadioBoard
