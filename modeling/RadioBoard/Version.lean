/-!
Firmware and FPGA versions: three 16-bit components, ordered from the most significant one on.
-/

namespace RadioBoard

structure Version where
  major : UInt16
  minor : UInt16
  patch : UInt16
  deriving DecidableEq, Inhabited

namespace Version

/-- The components as the digits of one number in base 65536. -/
def rank (v : Version) : Nat :=
  4294967296 * v.major.toNat + 65536 * v.minor.toNat + v.patch.toNat

instance : LE Version := ⟨fun v w => v.rank ≤ w.rank⟩
instance : LT Version := ⟨fun v w => v.rank < w.rank⟩
instance : DecidableLE Version := fun v w => inferInstanceAs (Decidable (v.rank ≤ w.rank))
instance : DecidableLT Version := fun v w => inferInstanceAs (Decidable (v.rank < w.rank))
instance : Ord Version := ⟨fun v w => compare v.rank w.rank⟩

/-- The version packed into the word that an FPGA image reports, patch in the upper half. -/
def ofWord (word : UInt32) : Version where
  major := (word &&& 0xff).toUInt16
  minor := ((word >>> 8) &&& 0xff).toUInt16
  patch := (word >>> 16).toUInt16

def text (v : Version) : String := s!"{v.major}.{v.minor}.{v.patch}"

theorem lt_iff (v w : Version) :
    v < w ↔ v.major < w.major ∨ v.major = w.major ∧
      (v.minor < w.minor ∨ v.minor = w.minor ∧ v.patch < w.patch) := by
  change v.rank < w.rank ↔ _
  have hv := v.minor.toNat_lt; have hw := w.minor.toNat_lt
  have kv := v.patch.toNat_lt; have kw := w.patch.toNat_lt
  simp only [rank, UInt16.lt_iff_toNat_lt, ← UInt16.toNat_inj]
  omega

protected theorem le_refl (v : Version) : v ≤ v := Nat.le_refl v.rank

protected theorem le_trans {u v w : Version} (first : u ≤ v) (second : v ≤ w) : u ≤ w :=
  Nat.le_trans first second

protected theorem not_lt {v w : Version} : ¬v < w ↔ w ≤ v := Nat.not_lt

protected theorem not_le {v w : Version} : ¬v ≤ w ↔ w < v := Nat.not_le

theorem rank_injective {v w : Version} (h : v.rank = w.rank) : v = w := by
  have hv := v.minor.toNat_lt; have hw := w.minor.toNat_lt
  have kv := v.patch.toNat_lt; have kw := w.patch.toNat_lt
  simp only [rank] at h
  cases v; cases w
  simp only [Version.mk.injEq, ← UInt16.toNat_inj]
  simp only at h hv hw kv kw
  omega

end Version
end RadioBoard
