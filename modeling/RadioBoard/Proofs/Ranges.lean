import Mathlib.Tactic.Linarith
import Mathlib.Tactic.Ring
import RadioBoard.Board.Gain

/-!
What the ranges of the board do to a value.

A range of scale one holds the integers between its bounds, and clamping to it chooses among the value and
the bounds. Main statements: rates and receive gains that are set become the nearest ones in their range,
and a transmit gain in decibels comes back from its attenuation as the nearest whole number in its range.
-/

namespace RadioBoard

namespace ScaledRange

variable {r : ScaledRange Rat}

theorem contains_iff (unscaled : r.scale = 1) (v : Int64) :
    r.contains v = true ↔ r.min.toInt ≤ v.toInt ∧ v.toInt ≤ r.max.toInt := by
  simp [contains, unscaled, Scalar.ofInt64]

/-- A frequency too high for 63 bits counts as a negative one, and is in no range of frequencies either. -/
theorem contains_frequency (unscaled : r.scale = 1) (low : 0 ≤ r.min.toInt) (hz : UInt64) :
    r.contains hz.toInt64 = true ↔ r.min.toInt ≤ hz.toNat ∧ (hz.toNat : Int) ≤ r.max.toInt := by
  rw [contains_iff unscaled]
  have top : r.max.toInt < 2 ^ 63 := Int64.toInt_lt _
  have size := hz.toNat_lt
  have wrapped : hz.toInt64.toInt = if hz.toNat < 2 ^ 63 then (hz.toNat : Int) else hz.toNat - 2 ^ 64 := by
    change hz.toBitVec.toInt = _
    rw [BitVec.toInt_eq_toNat_cond]
    have same : hz.toBitVec.toNat = hz.toNat := rfl
    rw [same]
    push_cast
    split_ifs <;> omega
  rw [wrapped]
  split_ifs <;> omega

theorem contains_frequency_eq (unscaled : r.scale = 1) (low : 0 ≤ r.min.toInt) (hz : UInt64) :
    r.contains hz.toInt64 = decide (r.min.toInt ≤ hz.toNat ∧ (hz.toNat : Int) ≤ r.max.toInt) := by
  rw [Bool.eq_iff_iff, contains_frequency unscaled low, decide_eq_true_iff]

theorem clamp_eq (unscaled : r.scale = 1) (v : Int64) :
    r.clamp v = if v.toInt < r.min.toInt then r.min else if r.max.toInt < v.toInt then r.max else v := by
  simp only [clamp, place, unscaled, Scalar.ofInt64, Scalar.toInt64, div_one, mul_one, Int.cast_lt,
    Rat.num_intCast, Rat.den_intCast, Int.tdiv_one, Nat.cast_one, Int64.ofIntClamp_toInt]
  split_ifs <;> rfl

end ScaledRange

theorem toInt_wordToInt64 (v : UInt32) : v.toUInt64.toInt64.toInt = v.toNat := by
  have small : v.toUInt64.toNat < 2 ^ 32 := by
    rw [UInt32.toNat_toUInt64]
    exact v.toNat_lt
  have positive : 2 * v.toUInt64.toBitVec.toNat < 2 ^ 64 := by
    have same : v.toUInt64.toBitVec.toNat = v.toUInt64.toNat := rfl
    omega
  change v.toUInt64.toBitVec.toInt = _
  rw [BitVec.toInt_eq_toNat_of_lt positive]
  simp

theorem Int32.toInt_max (a b : Int32) : (max a b).toInt = max a.toInt b.toInt := by
  change (if a ≤ b then b else a).toInt = _
  split_ifs with less
  · exact (max_eq_right (Int32.le_iff_toInt_le.mp less)).symm
  · exact (max_eq_left (le_of_not_ge (mt Int32.le_iff_toInt_le.mpr less))).symm

theorem Int32.toInt_min (a b : Int32) : (min a b).toInt = min a.toInt b.toInt := by
  change (if a ≤ b then a else b).toInt = _
  split_ifs with less
  · exact (min_eq_left (Int32.le_iff_toInt_le.mp less)).symm
  · exact (min_eq_right (le_of_not_ge (mt Int32.le_iff_toInt_le.mpr less))).symm

namespace Board

/-- A rate or a bandwidth becomes the nearest one in its range. -/
theorem clamp_word {r : ScaledRange Rat} (unscaled : r.scale = 1) {lo hi : UInt32}
    (least : r.min = lo.toUInt64.toInt64) (most : r.max = hi.toUInt64.toInt64) (order : lo ≤ hi) (v : UInt32) :
    (r.clamp v.toUInt64.toInt64).toUInt64.toUInt32 = max lo (min v hi) := by
  have chosen : (r.clamp v.toUInt64.toInt64).toUInt64.toUInt32 =
      if v.toNat < lo.toNat then lo else if hi.toNat < v.toNat then hi else v := by
    rw [ScaledRange.clamp_eq unscaled, least, most]
    simp only [toInt_wordToInt64, Int.ofNat_lt]
    split_ifs <;> simp
  rw [UInt32.le_iff_toNat_le] at order
  rw [chosen]
  apply UInt32.toNat_inj.mp
  rw [UInt32.toNat_max, UInt32.toNat_min]
  split_ifs <;> omega

theorem sampleRateRange_clamp (hz : UInt32) :
    (sampleRateRange.clamp hz.toUInt64.toInt64).toUInt64.toUInt32 = max 2083334 (min hz 61440000) :=
  clamp_word rfl rfl rfl (by decide) hz

theorem bandwidthRange_clamp (hz : UInt32) :
    (bandwidthRange.clamp hz.toUInt64.toInt64).toUInt64.toUInt32 = max 200000 (min hz 56000000) :=
  clamp_word rfl rfl rfl (by decide) hz

theorem roundRat_intCast (n : Int) : roundRat n = n := by
  have half (m : Int) : ((m : Rat) + 1/2).floor = m := by
    rw [add_comm, Rat.floor_add_intCast]
    have nothing : (1/2 : Rat).floor = 0 := by decide +kernel
    omega
  rw [roundRat]
  split_ifs
  · have turned : (-(n : Rat)) = ((-n : Int) : Rat) := by simp
    rw [turned, half, Int.neg_neg]
  · exact half n

theorem gainFor_eq {r : ScaledRange Rat} (unscaled : r.scale = 1) (v : Int64) :
    gainFor r v = Int32.ofIntClamp v.toInt := by
  rw [gainFor, unscaled, div_one, roundRat_intCast]

theorem gainOfReading_eq {r : ScaledRange Rat} (unscaled : r.scale = 1) (gain : Int32) :
    gainOfReading r gain = gain := by
  rw [gainOfReading, unscaled, mul_one, roundRat_intCast, Int32.ofIntClamp_toInt]

/-- A receive gain becomes the nearest one in its range. -/
theorem gainFor_clamp {r : ScaledRange Rat} (unscaled : r.scale = 1) {lo hi : Int32}
    (least : r.min = lo.toInt64) (most : r.max = hi.toInt64) (order : lo ≤ hi) (db : Int32) :
    gainFor r (r.clamp db.toInt64) = max lo (min db hi) := by
  have chosen : gainFor r (r.clamp db.toInt64) =
      if db.toInt < lo.toInt then lo else if hi.toInt < db.toInt then hi else db := by
    rw [gainFor_eq unscaled, ScaledRange.clamp_eq unscaled, least, most]
    simp only [Int32.toInt_toInt64]
    split_ifs <;> simp
  rw [Int32.le_iff_toInt_le] at order
  rw [chosen]
  apply Int32.toInt_inj.mp
  rw [Int32.toInt_max, Int32.toInt_min]
  split_ifs <;> omega

/-! The receive gain. -/

/-- The ranges of the receive gain are counted in decibels, with bounds of 32 bits. -/
theorem rxGainTable_unscaled : ∀ row ∈ rxGainTable, row.2.scale = 1 ∧
    row.2.min = row.2.min.toInt32.toInt64 ∧ row.2.max = row.2.max.toInt32.toInt64 ∧
    row.2.min.toInt32 ≤ row.2.max.toInt32 := by
  decide

theorem rxGainRange?_unscaled {hz : UInt64} {r : ScaledRange Rat} (known : rxGainRange? hz = some r) :
    r.scale = 1 ∧ r.min = r.min.toInt32.toInt64 ∧ r.max = r.max.toInt32.toInt64 ∧
      r.min.toInt32 ≤ r.max.toInt32 := by
  obtain ⟨row, found, same⟩ := Option.map_eq_some_iff.mp known
  rw [← same]
  exact rxGainTable_unscaled row (List.mem_of_find?_eq_some found)

/-- What a direction can be tuned to. -/
theorem frequencyRange_contains (d : Direction) (hz : UInt64) :
    (frequencyRange d).contains hz.toInt64 = true ↔ 70000000 ≤ hz.toNat ∧ hz.toNat ≤ 6000000000 := by
  have same : frequencyRange d = ⟨70000000, 6000000000, 2, 1⟩ := by cases d <;> rfl
  rw [same, ScaledRange.contains_frequency rfl (by decide)]
  have edges : (70000000 : Int64).toInt = 70000000 ∧ (6000000000 : Int64).toInt = 6000000000 := by decide
  rw [edges.1, edges.2]
  omega

/-- The bounds of the receive gain, by frequency. Where two ranges of frequencies meet, the lower one counts. -/
def receiveBounds? (hz : UInt64) : Option (Int32 × Int32) :=
  if hz.toNat ≤ 1300000000 then some (1, 77)
  else if hz.toNat ≤ 4000000000 then some (-4, 71)
  else if hz.toNat ≤ 6000000000 then some (-10, 62)
  else none

/-- The table of the receive gain, as bounds. -/
theorem rxGainRange?_eq (hz : UInt64) :
    rxGainRange? hz = (receiveBounds? hz).map fun bounds => ⟨bounds.1.toInt64, bounds.2.toInt64, 1, 1⟩ := by
  have row (low high : Int64) (positive : 0 ≤ low.toInt) :
      (⟨low, high, 1, 1⟩ : ScaledRange Rat).contains hz.toInt64 =
        decide (low.toInt ≤ hz.toNat ∧ (hz.toNat : Int) ≤ high.toInt) :=
    ScaledRange.contains_frequency_eq rfl positive hz
  have edges : (0 : Int64).toInt = 0 ∧ (1300000000 : Int64).toInt = 1300000000 ∧
      (4000000000 : Int64).toInt = 4000000000 ∧ (6000000000 : Int64).toInt = 6000000000 := by
    decide
  have first := row 0 1300000000 (by decide)
  have second := row 1300000000 4000000000 (by decide)
  have third := row 4000000000 6000000000 (by decide)
  rw [edges.1, edges.2.1] at first
  rw [edges.2.1, edges.2.2.1] at second
  rw [edges.2.2.1, edges.2.2.2] at third
  by_cases low : hz.toNat ≤ 1300000000
  · have within : (0 : Int) ≤ hz.toNat ∧ (hz.toNat : Int) ≤ 1300000000 := by omega
    rw [decide_eq_true within] at first
    simp [rxGainRange?, rxGainTable, first, receiveBounds?, low]
  have above : ¬((0 : Int) ≤ hz.toNat ∧ (hz.toNat : Int) ≤ 1300000000) := by omega
  rw [decide_eq_false above] at first
  by_cases mid : hz.toNat ≤ 4000000000
  · have within : (1300000000 : Int) ≤ hz.toNat ∧ (hz.toNat : Int) ≤ 4000000000 := by omega
    rw [decide_eq_true within] at second
    simp [rxGainRange?, rxGainTable, first, second, receiveBounds?, low, mid]
  have beyond : ¬((1300000000 : Int) ≤ hz.toNat ∧ (hz.toNat : Int) ≤ 4000000000) := by omega
  rw [decide_eq_false beyond] at second
  have last : ((4000000000 : Int) ≤ hz.toNat ∧ (hz.toNat : Int) ≤ 6000000000) ↔ hz.toNat ≤ 6000000000 := by
    omega
  rw [show decide _ = decide (hz.toNat ≤ 6000000000) from decide_eq_decide.mpr last] at third
  by_cases high : hz.toNat ≤ 6000000000 <;>
    simp [rxGainRange?, rxGainTable, first, second, third, receiveBounds?, low, mid, high]

/-- There is a range of the receive gain at every frequency that can be asked for. -/
theorem rxGainRange?_isSome {d : Direction} {hz : UInt64}
    (tunable : (frequencyRange d).contains hz.toInt64 = true) : (rxGainRange? hz).isSome = true := by
  have highest : hz.toNat ≤ 6000000000 := ((frequencyRange_contains d hz).mp tunable).2
  rw [rxGainRange?_eq, Option.isSome_map, receiveBounds?]
  split_ifs <;> rfl

/-! The transmit gain. -/

theorem thousandths (n : Int) : (n : Rat) / (1/1000) = ((n * 1000 : Int) : Rat) := by
  push_cast
  ring

theorem txGain_place (v : Int64) : txGainRange.place v =
    if v.toInt < -89 then .below else if 0 < v.toInt then .above else .within := by
  have below : v.toInt * 1000 < -89750 ↔ v.toInt < -89 := by omega
  have above : 0 < v.toInt * 1000 ↔ 0 < v.toInt := by omega
  simp only [ScaledRange.place, txGainRange, Scalar.ofInt64, thousandths, Int.cast_lt]
  exact if_congr below rfl (if_congr above rfl rfl)

theorem txGainRange_contains (v : Int64) :
    txGainRange.contains v = true ↔ -89 ≤ v.toInt ∧ v.toInt ≤ 0 := by
  have edges : (-89750 : Int64).toInt = -89750 ∧ (0 : Int64).toInt = 0 := by decide
  simp only [ScaledRange.contains, txGainRange, Scalar.ofInt64, thousandths, Int.cast_le, edges,
    Bool.and_eq_true, decide_eq_true_iff]
  omega

/-- The lowest gain loses its fraction. -/
theorem txGainRange_clamp (db : Int32) : txGainRange.clamp db.toInt64 = (max (-89) (min db 0)).toInt64 := by
  have lowest : Scalar.toInt64 (Scalar.ofInt64 txGainRange.min * txGainRange.scale) = (-89 : Int32).toInt64 := by
    decide +kernel
  have highest : Scalar.toInt64 (Scalar.ofInt64 txGainRange.max * txGainRange.scale) = (0 : Int32).toInt64 := by
    decide +kernel
  have chosen : txGainRange.clamp db.toInt64 =
      (if db.toInt < -89 then -89 else if 0 < db.toInt then 0 else db : Int32).toInt64 := by
    rw [ScaledRange.clamp, txGain_place, Int32.toInt_toInt64]
    split_ifs
    · exact lowest
    · exact highest
    · rfl
  have same : (if db.toInt < -89 then -89 else if 0 < db.toInt then 0 else db) = max (-89) (min db 0) := by
    apply Int32.toInt_inj.mp
    rw [Int32.toInt_max, Int32.toInt_min]
    have ends : (-89 : Int32).toInt = -89 ∧ (0 : Int32).toInt = 0 := by decide
    split_ifs <;> omega
  rw [chosen, same]

/-- Attenuation counts in thousandths of a decibel, with the sign turned. -/
theorem toNat_attenuationFor {db : Int32} (lowest : -89 ≤ db.toInt) (highest : db.toInt ≤ 0) :
    (attenuationFor txGainRange db.toInt64).toNat = (-db.toInt * 1000).toNat := by
  have mdb : -(db.toInt : Rat) / (1/1000) = ((-db.toInt * 1000 : Int) : Rat) := by
    rw [← Int.cast_neg, thousandths]
  have size : UInt32.size = 4294967296 := rfl
  have attenuation : attenuationFor txGainRange db.toInt64 = UInt32.ofNat (-db.toInt * 1000).toNat := by
    simp only [attenuationFor, txGainRange, Int32.toInt_toInt64, mdb, roundRat_intCast]
    congr 1
    omega
  rw [attenuation]
  apply UInt32.toNat_ofNat_of_lt'
  omega

/-- A whole number of decibels from the range comes back from its attenuation. -/
theorem gainOfAttenuation_attenuationFor {db : Int32} (lowest : -89 ≤ db.toInt) (highest : db.toInt ≤ 0) :
    gainOfAttenuation txGainRange (attenuationFor txGainRange db.toInt64) = db := by
  have back : -((((-db.toInt * 1000).toNat : Nat) : Rat) * (1/1000)) = ((db.toInt : Int) : Rat) := by
    have cast : (((-db.toInt * 1000).toNat : Nat) : Rat) = ((-db.toInt * 1000 : Int) : Rat) := by
      rw [← Int.cast_natCast, Int.toNat_of_nonneg (by omega)]
    rw [cast]
    push_cast
    ring
  rw [gainOfAttenuation, toNat_attenuationFor lowest highest]
  simp only [txGainRange]
  rw [back, roundRat_intCast, Int32.ofIntClamp_toInt]

/-- A transmit gain comes back as the nearest whole number of decibels in its range. -/
theorem txGain_round_trip (db : Int32) :
    gainOfAttenuation txGainRange (attenuationFor txGainRange (txGainRange.clamp db.toInt64)) =
      max (-89) (min db 0) := by
  have ends : (-89 : Int32).toInt = -89 ∧ (0 : Int32).toInt = 0 := by decide
  have toInt : (max (-89) (min db 0)).toInt = max (-89) (min db.toInt 0) := by
    rw [Int32.toInt_max, Int32.toInt_min, ends.1, ends.2]
  rw [txGainRange_clamp]
  apply gainOfAttenuation_attenuationFor
  · omega
  · omega

end Board

end RadioBoard
