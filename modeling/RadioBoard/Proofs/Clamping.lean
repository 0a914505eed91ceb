import Mathlib.Data.Rat.Floor
import Mathlib.Tactic.Linarith
import RadioBoard.Board.Gain

/-!
Clamping to a range of any scale.

The bounds of a range are scaled, and a bound that a value is clamped to loses its fraction toward zero, so that
the value may end outside of the range once more. Clamping is the choice of the middle one among the value and
the two bounds without their fractions all the same. Main statements: it leaves alone what is in the range, it
keeps the order, a second time it changes nothing, and it misses the exact bound by less than one; to the ranges
of the board, which have whole bounds or lie around zero, it never leaves a value outside.
-/

namespace RadioBoard

namespace Scalar

/-! The integer part, and its cut to 64 bits. -/

theorem tdiv_of_nonneg {q : Rat} (sign : 0 ≤ q) : q.num.tdiv q.den = ⌊q⌋ := by
  rw [Int.tdiv_eq_ediv_of_nonneg (Rat.num_nonneg.mpr sign), Rat.floor_def']

theorem tdiv_of_nonpos {q : Rat} (sign : q ≤ 0) : q.num.tdiv q.den = ⌈q⌉ := by
  have turned : 0 ≤ -q.num := Int.neg_nonneg_of_nonpos (Rat.num_nonpos.mpr sign)
  rw [Rat.ceil_def', ← Int.tdiv_eq_ediv_of_nonneg turned, Int.neg_tdiv, Int.neg_neg]

theorem floor_le_tdiv (q : Rat) : ⌊q⌋ ≤ q.num.tdiv q.den := by
  rcases le_total 0 q with sign | sign
  · exact (tdiv_of_nonneg sign).ge
  · rw [tdiv_of_nonpos sign]
    exact Int.floor_le_ceil q

theorem tdiv_le_ceil (q : Rat) : q.num.tdiv q.den ≤ ⌈q⌉ := by
  rcases le_total 0 q with sign | sign
  · rw [tdiv_of_nonneg sign]
    exact Int.floor_le_ceil q
  · exact (tdiv_of_nonpos sign).le

theorem tdiv_mono {p q : Rat} (less : p ≤ q) : p.num.tdiv p.den ≤ q.num.tdiv q.den := by
  rcases le_total 0 p with sign | sign
  · rw [tdiv_of_nonneg sign, tdiv_of_nonneg (sign.trans less)]
    exact Int.floor_le_floor less
  rcases le_total q 0 with sign' | sign'
  · rw [tdiv_of_nonpos sign, tdiv_of_nonpos sign']
    exact Int.ceil_le_ceil less
  · -- Zero lies between the two.
    calc
      p.num.tdiv p.den ≤ ⌈p⌉ := tdiv_le_ceil p
      _ ≤ 0 := Int.ceil_le.mpr (by exact_mod_cast sign)
      _ ≤ ⌊q⌋ := Int.floor_nonneg.mpr sign'
      _ ≤ q.num.tdiv q.den := floor_le_tdiv q

theorem toInt_ofIntClamp (n : Int) :
    (Int64.ofIntClamp n).toInt = max (-9223372036854775808) (min n 9223372036854775807) := by
  have ends : Int64.minValue.toInt = -9223372036854775808 ∧ Int64.maxValue.toInt = 9223372036854775807 := by
    decide
  rw [Int64.ofIntClamp]
  split_ifs with least most
  · rw [Int64.toInt_ofIntLE]
    omega
  · omega
  · omega

/-- The integer part of a number, cut to 64 bits. -/
theorem toInt_toInt64 (q : Rat) :
    (toInt64 q).toInt = max (-9223372036854775808) (min (q.num.tdiv q.den) 9223372036854775807) :=
  toInt_ofIntClamp _

theorem toInt64_mono {p q : Rat} (less : p ≤ q) : (toInt64 p).toInt ≤ (toInt64 q).toInt := by
  have parts := tdiv_mono less
  rw [toInt_toInt64, toInt_toInt64]
  omega

theorem le_toInt64 {v : Int64} {q : Rat} (less : (v.toInt : Rat) ≤ q) : v.toInt ≤ (toInt64 q).toInt := by
  have part : v.toInt ≤ q.num.tdiv q.den := (Int.le_floor.mpr less).trans (floor_le_tdiv q)
  have top := v.toInt_lt
  rw [toInt_toInt64]
  omega

theorem toInt64_le {v : Int64} {q : Rat} (less : q ≤ (v.toInt : Rat)) : (toInt64 q).toInt ≤ v.toInt := by
  have part : q.num.tdiv q.den ≤ v.toInt := (tdiv_le_ceil q).trans (Int.ceil_le.mpr less)
  have bottom := v.le_toInt
  rw [toInt_toInt64]
  omega

theorem toInt64_intCast (v : Int64) : toInt64 (v.toInt : Rat) = v := by
  apply Int64.toInt_inj.mp
  have bottom := v.le_toInt
  have top := v.toInt_lt
  rw [toInt_toInt64, Rat.num_intCast, Rat.den_intCast, Nat.cast_one, Int.tdiv_one]
  omega

/-! Toward zero is up from below zero, and down from above it. -/

theorem le_toInt64_of_nonpos {q : Rat} (sign : q ≤ 0) : q ≤ ((toInt64 q).toInt : Rat) := by
  have top : ⌈q⌉ ≤ 0 := Int.ceil_le.mpr (by exact_mod_cast sign)
  have part : ⌈q⌉ ≤ (toInt64 q).toInt := by
    rw [toInt_toInt64, tdiv_of_nonpos sign]
    omega
  exact (Int.le_ceil q).trans (by exact_mod_cast part)

theorem toInt64_le_of_nonneg {q : Rat} (sign : 0 ≤ q) : ((toInt64 q).toInt : Rat) ≤ q := by
  have bottom : 0 ≤ ⌊q⌋ := Int.floor_nonneg.mpr sign
  have part : (toInt64 q).toInt ≤ ⌊q⌋ := by
    rw [toInt_toInt64, tdiv_of_nonneg sign]
    omega
  exact le_trans (by exact_mod_cast part) (Int.floor_le q)

/-- The integer part of a number has 64 bits. -/
def Fits (q : Rat) : Prop := -9223372036854775809 < q ∧ q < 9223372036854775808

theorem toInt_toInt64_of_fits {q : Rat} (fits : Fits q) : (toInt64 q).toInt = q.num.tdiv q.den := by
  rw [toInt_toInt64]
  rcases le_total 0 q with sign | sign
  · have bottom : 0 ≤ ⌊q⌋ := Int.floor_nonneg.mpr sign
    have top : ⌊q⌋ < 9223372036854775808 := Int.floor_lt.mpr (by exact_mod_cast fits.2)
    rw [tdiv_of_nonneg sign]
    omega
  · have bottom : -9223372036854775809 < ⌈q⌉ := Int.lt_ceil.mpr (by exact_mod_cast fits.1)
    have top : ⌈q⌉ ≤ 0 := Int.ceil_le.mpr (by exact_mod_cast sign)
    rw [tdiv_of_nonpos sign]
    omega

theorem abs_toInt64_sub_lt {q : Rat} (fits : Fits q) : |((toInt64 q).toInt : Rat) - q| < 1 := by
  have below : (⌊q⌋ : Rat) ≤ (q.num.tdiv q.den : Int) := by exact_mod_cast floor_le_tdiv q
  have above : ((q.num.tdiv q.den : Int) : Rat) ≤ ⌈q⌉ := by exact_mod_cast tdiv_le_ceil q
  rw [toInt_toInt64_of_fits fits, abs_lt]
  constructor
  · linarith [Int.lt_floor_add_one q]
  · linarith [Int.ceil_lt_add_one q]

end Scalar

namespace ScaledRange

/-- The lower bound in the unit of the values. -/
def low (r : ScaledRange Rat) : Rat := r.min.toInt * r.scale

/-- The upper bound in the unit of the values. -/
def high (r : ScaledRange Rat) : Rat := r.max.toInt * r.scale

/-- The lower bound without its fraction, cut to 64 bits. -/
def least (r : ScaledRange Rat) : Int := (Scalar.toInt64 r.low).toInt

/-- The upper bound without its fraction, cut to 64 bits. -/
def most (r : ScaledRange Rat) : Int := (Scalar.toInt64 r.high).toInt

/-- A bound that is as near to a value as the other one. -/
def IsNearest (r : ScaledRange Rat) (v : Int64) (bound : Rat) : Prop :=
  (bound = r.low ∨ bound = r.high) ∧ |v.toInt - bound| ≤ |v.toInt - r.low| ∧ |v.toInt - bound| ≤ |v.toInt - r.high|

variable {r : ScaledRange Rat}

section Laws

variable (positive : 0 < r.scale)

include positive

theorem contains_iff_bounds (v : Int64) : r.contains v = true ↔ r.low ≤ v.toInt ∧ v.toInt ≤ r.high := by
  simp only [contains, Scalar.ofInt64, Bool.and_eq_true, decide_eq_true_iff, le_div_iff₀ positive,
    div_le_iff₀ positive]
  rfl

theorem clamp_eq_bounds (v : Int64) : r.clamp v =
    if (v.toInt : Rat) < r.low then Scalar.toInt64 r.low
    else if r.high < v.toInt then Scalar.toInt64 r.high else v := by
  simp only [clamp, place, Scalar.ofInt64, div_lt_iff₀ positive, lt_div_iff₀ positive]
  change _ = if (v.toInt : Rat) < r.min.toInt * r.scale then _ else if r.max.toInt * r.scale < v.toInt then _ else _
  split_ifs <;> rfl

variable (ordered : r.min ≤ r.max)

include ordered

theorem low_le_high : r.low ≤ r.high := by
  have order : (r.min.toInt : Rat) ≤ r.max.toInt := by exact_mod_cast Int64.le_iff_toInt_le.mp ordered
  exact mul_le_mul_of_nonneg_right order positive.le

theorem least_le_most : r.least ≤ r.most := Scalar.toInt64_mono (low_le_high positive ordered)

/-- Clamping is the choice of the middle one, although the bounds without their fractions may lie outside. -/
theorem toInt_clamp (v : Int64) : (r.clamp v).toInt = Max.max r.least (Min.min v.toInt r.most) := by
  have order := least_le_most positive ordered
  rw [clamp_eq_bounds positive]
  split_ifs with below above
  · have less : v.toInt ≤ r.least := Scalar.le_toInt64 below.le
    change r.least = _
    omega
  · have less : r.most ≤ v.toInt := Scalar.toInt64_le above.le
    change r.most = _
    omega
  · have bottom : r.least ≤ v.toInt := Scalar.toInt64_le (not_lt.mp below)
    have top : v.toInt ≤ r.most := Scalar.le_toInt64 (not_lt.mp above)
    omega

theorem clamp_clamp (v : Int64) : r.clamp (r.clamp v) = r.clamp v := by
  apply Int64.toInt_inj.mp
  have order := least_le_most positive ordered
  rw [toInt_clamp positive ordered, toInt_clamp positive ordered]
  omega

theorem clamp_mono {v w : Int64} (less : v ≤ w) : r.clamp v ≤ r.clamp w := by
  rw [Int64.le_iff_toInt_le] at less ⊢
  rw [toInt_clamp positive ordered, toInt_clamp positive ordered]
  omega

theorem low_eq_of_nearest {v : Int64} {bound : Rat} (below : v.toInt < r.low) (nearest : r.IsNearest v bound) :
    bound = r.low := by
  have order := low_le_high positive ordered
  obtain ⟨rfl | rfl, near, _⟩ := nearest
  · rfl
  · rw [abs_of_neg (by linarith), abs_of_neg (by linarith)] at near
    linarith

theorem high_eq_of_nearest {v : Int64} {bound : Rat} (above : r.high < v.toInt) (nearest : r.IsNearest v bound) :
    bound = r.high := by
  have order := low_le_high positive ordered
  obtain ⟨rfl | rfl, _, near⟩ := nearest
  · rw [abs_of_pos (by linarith), abs_of_pos (by linarith)] at near
    linarith
  · rfl

/-- A value outside of the range becomes the bound that is nearer to it, without its fraction. -/
theorem clamp_of_nearest {v : Int64} {bound : Rat} (outside : r.contains v = false)
    (nearest : r.IsNearest v bound) : r.clamp v = Scalar.toInt64 bound := by
  have beyond : ¬(r.low ≤ v.toInt ∧ (v.toInt : Rat) ≤ r.high) := by
    rw [← contains_iff_bounds positive, outside]
    exact Bool.false_ne_true
  rw [clamp_eq_bounds positive]
  split_ifs with below above
  · rw [low_eq_of_nearest positive ordered below nearest]
  · rw [high_eq_of_nearest positive ordered above nearest]
  · exact absurd ⟨not_lt.mp below, not_lt.mp above⟩ beyond

/-- If the bounds without their fractions are in the range, then so is whatever is clamped to it. -/
theorem contains_clamp (bottom : r.low ≤ r.least) (top : (r.most : Rat) ≤ r.high) (v : Int64) :
    r.contains (r.clamp v) = true := by
  have order := least_le_most positive ordered
  have chosen := toInt_clamp positive ordered v
  have above : r.least ≤ (r.clamp v).toInt := by omega
  have below : (r.clamp v).toInt ≤ r.most := by omega
  rw [contains_iff_bounds positive]
  exact ⟨bottom.trans (by exact_mod_cast above), le_trans (by exact_mod_cast below) top⟩

end Laws

/-- A range of scale one has its bounds as they are. -/
theorem closed_of_unscaled (unscaled : r.scale = 1) : r.low ≤ r.least ∧ (r.most : Rat) ≤ r.high := by
  simp only [low, high, least, most, unscaled, mul_one, Scalar.toInt64_intCast, le_refl, and_self]

/-- The bounds of a range around zero lose their fractions toward its inside. -/
theorem closed_of_zero (positive : 0 < r.scale) (bottom : r.min ≤ 0) (top : 0 ≤ r.max) :
    r.low ≤ r.least ∧ (r.most : Rat) ≤ r.high := by
  have bottom' : (r.min.toInt : Rat) ≤ 0 := by exact_mod_cast Int64.le_iff_toInt_le.mp bottom
  have top' : 0 ≤ (r.max.toInt : Rat) := by exact_mod_cast Int64.le_iff_toInt_le.mp top
  exact ⟨Scalar.le_toInt64_of_nonpos (mul_nonpos_of_nonpos_of_nonneg bottom' positive.le),
    Scalar.toInt64_le_of_nonneg (mul_nonneg top' positive.le)⟩

theorem clamp_of_contains (positive : 0 < r.scale) {v : Int64} (inside : r.contains v = true) : r.clamp v = v := by
  obtain ⟨above, below⟩ := (contains_iff_bounds positive v).mp inside
  rw [clamp_eq_bounds positive, if_neg (not_lt.mpr above), if_neg (not_lt.mpr below)]

end ScaledRange

namespace Board

/-- The ranges that rates, bandwidths and gains are brought into. -/
def clampingRanges : List (ScaledRange Rat) :=
  sampleRateRange :: bandwidthRange :: txGainRange ::
    (rxGainTable.map (·.2) ++ (gainStages .rx).map (·.2) ++ (gainStages .tx).map (·.2))

theorem clampingRanges_kinds : ∀ r ∈ clampingRanges, 0 < r.scale ∧ r.min ≤ r.max ∧
    (r.scale = 1 ∨ r.min ≤ 0 ∧ 0 ≤ r.max) := by
  simp [clampingRanges, sampleRateRange, bandwidthRange, txGainRange, rxGainTable, gainStages]

/-- The ranges of the board contain what their bounds become. -/
theorem clampingRanges_closed {r : ScaledRange Rat} (known : r ∈ clampingRanges) :
    r.low ≤ r.least ∧ (r.most : Rat) ≤ r.high := by
  obtain ⟨positive, _, unscaled | ⟨bottom, top⟩⟩ := clampingRanges_kinds r known
  · exact ScaledRange.closed_of_unscaled unscaled
  · exact ScaledRange.closed_of_zero positive bottom top

/-- Clamping leaves alone what is in a range, changes nothing a second time, keeps the order, and misses the bound
that is nearer by less than one. To the ranges of the board it leaves nothing outside. -/
theorem clamping_laws :
    (∀ r : ScaledRange Rat, r.min ≤ r.max → 0 < r.scale →
      (∀ v, r.contains v = true → r.clamp v = v) ∧
      (∀ v, r.clamp (r.clamp v) = r.clamp v) ∧
      (∀ v w, v ≤ w → r.clamp v ≤ r.clamp w) ∧
      ∀ v bound, r.contains v = false → r.IsNearest v bound → Scalar.Fits bound →
        |((r.clamp v).toInt : Rat) - bound| < 1) ∧
    ∀ r ∈ clampingRanges, ∀ v, r.contains (r.clamp v) = true := by
  refine ⟨fun r ordered positive => ⟨?_, ?_, ?_, ?_⟩, fun r known v => ?_⟩
  · intro v inside
    exact ScaledRange.clamp_of_contains positive inside
  · exact ScaledRange.clamp_clamp positive ordered
  · intro v w less
    exact ScaledRange.clamp_mono positive ordered less
  · intro v bound outside nearest fits
    rw [ScaledRange.clamp_of_nearest positive ordered outside nearest]
    exact Scalar.abs_toInt64_sub_lt fits
  · obtain ⟨positive, ordered, _⟩ := clampingRanges_kinds r known
    obtain ⟨bottom, top⟩ := clampingRanges_closed known
    exact ScaledRange.contains_clamp positive ordered bottom top v

/-- In a range from three to seven halves one is too low, and is what it is clamped to, since three halves lose
their fraction. -/
theorem clamping_laws_halves :
    let r : ScaledRange Rat := ⟨3, 7, 1, 1/2⟩
    r.min ≤ r.max ∧ 0 < r.scale ∧
      (r.contains 2 = true ∧ r.clamp 2 = 2) ∧
      (r.contains 1 = false ∧ r.IsNearest 1 (3/2) ∧ Scalar.Fits (3/2) ∧ |((r.clamp 1).toInt : Rat) - 3/2| < 1) ∧
      (r.contains (r.clamp (-5)) = false ∧ r.clamp (r.clamp (-5)) = r.clamp (-5)) ∧
      ((-5 : Int64) ≤ 9 ∧ r.clamp (-5) ≤ r.clamp 9) ∧
      txGainRange ∈ clampingRanges ∧ txGainRange.contains (-90) = false ∧
      txGainRange.contains (txGainRange.clamp (-90)) = true := by
  intro r
  have ordered : r.min ≤ r.max := by decide
  have positive : 0 < r.scale := by decide +kernel
  have inside : r.contains 2 = true := by decide +kernel
  have outside : r.contains 1 = false := by decide +kernel
  have nearest : r.IsNearest 1 (3/2) := ⟨.inl (by decide +kernel), by decide +kernel, by decide +kernel⟩
  have fits : Scalar.Fits (3/2) := ⟨by decide +kernel, by decide +kernel⟩
  have listed : txGainRange ∈ clampingRanges := by simp [clampingRanges]
  obtain ⟨keeps, again, order, near⟩ := clamping_laws.1 r ordered positive
  refine ⟨ordered, positive, ⟨inside, keeps 2 inside⟩, ⟨outside, nearest, fits, near 1 _ outside nearest fits⟩,
    ⟨by decide +kernel, again (-5)⟩, ⟨by decide, order (-5) 9 (by decide)⟩, listed, by decide +kernel, ?_⟩
  exact clamping_laws.2 txGainRange listed (-90)

end Board
end RadioBoard
