/-!
Ranges over a scaled integer domain, and the numbers they can be scaled with.

A raw value lies in a range when the value divided by the range's scale lies between its bounds.
The scale is any kind of number with the operations of `Scalar`: binary floating point, or exact
rationals, with which the tables of the board are written.
-/

namespace RadioBoard

/-- Numbers that a range can be scaled with. -/
class Scalar (F : Type) extends Mul F, Div F, LT F, LE F, BEq F where
  decLt : DecidableLT F
  decLe : DecidableLE F
  ofInt64 : Int64 → F
  /-- The integer part, brought to the nearest 64-bit integer; what is no number counts as zero. -/
  toInt64 : F → Int64
  isNaN : F → Bool

attribute [reducible, instance] Scalar.decLt Scalar.decLe

instance : Scalar Float where
  decLt := inferInstance
  decLe := inferInstance
  ofInt64 := Int64.toFloat
  toInt64 := Float.toInt64
  isNaN := Float.isNaN

instance : Scalar Rat where
  decLt := inferInstance
  decLe := inferInstance
  ofInt64 v := (v.toInt : Rat)
  toInt64 q := Int64.ofIntClamp (q.num.tdiv q.den)
  isNaN _ := false

structure ScaledRange (F : Type) where
  min : Int64
  max : Int64
  step : Int64
  scale : F

/-- Where a value lies with respect to a range. -/
inductive Placement
  | below | within | above
  deriving DecidableEq

namespace ScaledRange

variable {F : Type} [Scalar F]

def contains (r : ScaledRange F) (value : Int64) : Bool :=
  let scaled := Scalar.ofInt64 value / r.scale
  decide (Scalar.ofInt64 r.min ≤ scaled) && decide (scaled ≤ Scalar.ofInt64 r.max)

def place (r : ScaledRange F) (value : Int64) : Placement :=
  let scaled := Scalar.ofInt64 value / r.scale
  if scaled < Scalar.ofInt64 r.min then .below
  else if Scalar.ofInt64 r.max < scaled then .above
  else .within

/-- A value outside of the range becomes the bound it is beyond, without the bound's fraction. -/
def clamp (r : ScaledRange F) (value : Int64) : Int64 :=
  match r.place value with
  | .below => Scalar.toInt64 (Scalar.ofInt64 r.min * r.scale)
  | .within => value
  | .above => Scalar.toInt64 (Scalar.ofInt64 r.max * r.scale)

end ScaledRange
end RadioBoard
