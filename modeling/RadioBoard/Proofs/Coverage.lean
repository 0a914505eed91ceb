import RadioBoard.Proofs.Clamping
import RadioBoard.Range.Coverage

/-!
The values that a setting supports, and the range that they are described from.

A description is read in two ways: by searching its items for a value, and by its least and greatest value.
Main statement: the two fit together whenever no item has its bounds the wrong way round, and the description of
a range holds the same values as the range does.
-/

namespace RadioBoard

namespace CoverageItem

/-- The three kinds of items are all intervals. -/
theorem contains_iff (item : CoverageItem Rat) (x : Rat) :
    item.contains x = true ↔ item.lower ≤ x ∧ x ≤ item.upper := by
  cases item with
  | interval low high => simp [contains, lower, upper]
  | value v =>
    simp only [contains, lower, upper, beq_iff_eq]
    exact le_antisymm_iff
  | step low high step scale => simp [contains, lower, upper]

end CoverageItem

namespace Coverage

theorem lesser_eq : (lesser : Rat → Rat → Rat) = min := by
  funext x y
  rw [lesser, min_def]
  simp only [Scalar.isNaN, Bool.false_eq_true, if_false]
  split_ifs with less other other
  · exact absurd other (not_le.mpr less)
  · rfl
  · rfl
  · exact absurd (not_lt.mp less) other

theorem greater_eq : (greater : Rat → Rat → Rat) = max := by
  funext x y
  rw [greater, max_def]
  simp only [Scalar.isNaN, Bool.false_eq_true, if_false]
  split_ifs with less other other
  · rfl
  · exact absurd less.le other
  · exact le_antisymm other (not_lt.mp less)
  · rfl

theorem min?_eq (c : Coverage Rat) : c.min? = (c.items.map CoverageItem.lower).min? := by
  rw [min?, lesser_eq]
  cases c.items.map CoverageItem.lower <;> rfl

theorem max?_eq (c : Coverage Rat) : c.max? = (c.items.map CoverageItem.upper).max? := by
  rw [max?, greater_eq]
  cases c.items.map CoverageItem.upper <;> rfl

variable {c : Coverage Rat}

theorem min?_eq_some_iff {lo : Rat} : c.min? = some lo ↔
    (∃ item ∈ c.items, item.lower = lo) ∧ ∀ item ∈ c.items, lo ≤ item.lower := by
  rw [min?_eq, List.min?_eq_some_iff, List.mem_map, List.forall_mem_map]

theorem max?_eq_some_iff {hi : Rat} : c.max? = some hi ↔
    (∃ item ∈ c.items, item.upper = hi) ∧ ∀ item ∈ c.items, item.upper ≤ hi := by
  rw [max?_eq, List.max?_eq_some_iff, List.mem_map, List.forall_mem_map]

theorem contains_eq_true_iff {x : Rat} :
    c.contains x = true ↔ ∃ item ∈ c.items, item.lower ≤ x ∧ x ≤ item.upper := by
  simp only [contains, List.any_eq_true, CoverageItem.contains_iff]

theorem exists_bounds (filled : c.items ≠ []) : ∃ lo hi, c.min? = some lo ∧ c.max? = some hi := by
  have least : (c.items.map CoverageItem.lower).min?.isSome = true :=
    List.isSome_min?_of_ne_nil (mt List.map_eq_nil_iff.mp filled)
  have greatest : (c.items.map CoverageItem.upper).max?.isSome = true :=
    List.isSome_max?_of_ne_nil (mt List.map_eq_nil_iff.mp filled)
  rw [min?_eq, max?_eq]
  exact ⟨_, _, Option.eq_some_of_isSome least, Option.eq_some_of_isSome greatest⟩

theorem between_of_contains {x lo hi : Rat} (inside : c.contains x = true) (least : c.min? = some lo)
    (greatest : c.max? = some hi) : lo ≤ x ∧ x ≤ hi := by
  obtain ⟨item, listed, above, below⟩ := contains_eq_true_iff.mp inside
  exact ⟨((min?_eq_some_iff.mp least).2 item listed).trans above,
    below.trans ((max?_eq_some_iff.mp greatest).2 item listed)⟩

/-- No item has its bounds the wrong way round. -/
def Ordered (c : Coverage Rat) : Prop := ∀ item ∈ c.items, item.lower ≤ item.upper

theorem contains_min {lo : Rat} (ordered : c.Ordered) (least : c.min? = some lo) : c.contains lo = true := by
  obtain ⟨⟨item, listed, rfl⟩, _⟩ := min?_eq_some_iff.mp least
  exact contains_eq_true_iff.mpr ⟨item, listed, le_rfl, ordered item listed⟩

theorem contains_max {hi : Rat} (ordered : c.Ordered) (greatest : c.max? = some hi) : c.contains hi = true := by
  obtain ⟨⟨item, listed, rfl⟩, _⟩ := max?_eq_some_iff.mp greatest
  exact contains_eq_true_iff.mpr ⟨item, listed, ordered item listed, le_rfl⟩

theorem contains_ofScaled {r : ScaledRange Rat} (positive : 0 < r.scale) (v : Int64) :
    (ofScaled r).contains v.toInt = r.contains v := by
  rw [Bool.eq_iff_iff, ScaledRange.contains_iff_bounds positive, contains_eq_true_iff]
  simp only [ofScaled, List.mem_singleton, exists_eq_left]
  exact Iff.rfl

/-- What a description contains lies between its least and its greatest value. These are contained themselves if no
item has its bounds the wrong way round, and are missing from the description without items only. The description of
a range contains what the range does. -/
theorem coverage_agrees :
    (∀ c : Coverage Rat, c.Ordered →
      (∀ x, c.contains x = true → ∃ lo hi, c.min? = some lo ∧ c.max? = some hi ∧ lo ≤ x ∧ x ≤ hi) ∧
      (c.items ≠ [] → ∃ lo hi, c.min? = some lo ∧ c.max? = some hi ∧ c.contains lo = true ∧ c.contains hi = true) ∧
      (c.items = [] → c.min? = none ∧ c.max? = none ∧ ∀ x, c.contains x = false)) ∧
    ∀ r : ScaledRange Rat, 0 < r.scale → ∀ v : Int64, (ofScaled r).contains v.toInt = r.contains v := by
  refine ⟨fun c ordered => ⟨?_, ?_, ?_⟩, fun r positive v => contains_ofScaled positive v⟩
  · intro x inside
    have filled : c.items ≠ [] := by
      obtain ⟨item, listed, _⟩ := contains_eq_true_iff.mp inside
      exact List.ne_nil_of_mem listed
    obtain ⟨lo, hi, least, greatest⟩ := exists_bounds filled
    exact ⟨lo, hi, least, greatest, between_of_contains inside least greatest⟩
  · intro filled
    obtain ⟨lo, hi, least, greatest⟩ := exists_bounds filled
    exact ⟨lo, hi, least, greatest, contains_min ordered least, contains_max ordered greatest⟩
  · intro empty
    rw [min?_eq, max?_eq, empty]
    refine ⟨rfl, rfl, fun x => ?_⟩
    rw [contains, empty]
    rfl

/-- A single value between an interval and a step, whose scale turns its bounds round. -/
theorem coverage_agrees_mixed :
    let c : Coverage Rat := ⟨[.interval 2 3, .value 1, .step 4 (-2) 1 (-1/2)]⟩
    let bare : Coverage Rat := ⟨[]⟩
    let r : ScaledRange Rat := ⟨-89750, 0, 250, 1/1000⟩
    c.Ordered ∧ c.contains (5/2) = true ∧
      (∃ lo hi, c.min? = some lo ∧ c.max? = some hi ∧ lo ≤ 5/2 ∧ 5/2 ≤ hi) ∧ c.items ≠ [] ∧
      (∃ lo hi, c.min? = some lo ∧ c.max? = some hi ∧ c.contains lo = true ∧ c.contains hi = true) ∧
      c.min? = some (-2) ∧ c.max? = some 3 ∧
      bare.Ordered ∧ bare.items = [] ∧ (bare.min? = none ∧ bare.max? = none ∧ ∀ x, bare.contains x = false) ∧
      0 < r.scale ∧ (ofScaled r).contains (-90 : Int64).toInt = r.contains (-90) := by
  intro c bare r
  have ordered : ∀ item ∈ c.items, item.lower ≤ item.upper := by decide +kernel
  have inside : c.contains (5/2) = true := by decide +kernel
  have filled : c.items ≠ [] := by simp [c]
  have nothing : bare.Ordered := fun item listed => absurd listed List.not_mem_nil
  have positive : 0 < r.scale := by decide +kernel
  obtain ⟨between, bounds, _⟩ := coverage_agrees.1 c ordered
  exact ⟨ordered, inside, between _ inside, filled, bounds filled, by decide +kernel, by decide +kernel,
    nothing, rfl, (coverage_agrees.1 bare nothing).2.2 rfl, positive, coverage_agrees.2 r positive (-90)⟩

end Coverage
end RadioBoard
