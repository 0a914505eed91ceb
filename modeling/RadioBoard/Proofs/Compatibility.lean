import Mathlib.Data.Nat.Bitwise
import RadioBoard.Version.Table

/-!
What a table of versions advises.

Every grant counts from its version on, and the entry that decides on an FPGA image is the last one whose firmware
is not above the one in question. Main statement: newer versions lose no capability, an update that is advised is
needed and is enough, and what is compatible stays so with newer images, and with older firmware in a table whose
FPGA versions do not fall.
-/

namespace RadioBoard

namespace VersionTable

/-! Capabilities. -/

theorem testBit_foldl (grants : List Grant) (bits : UInt64) (i : Nat) :
    (grants.foldl (fun bits grant => bits ||| grant.bits) bits).toNat.testBit i = true ↔
      bits.toNat.testBit i = true ∨ ∃ grant ∈ grants, grant.bits.toNat.testBit i = true := by
  induction grants generalizing bits with
  | nil => simp
  | cons grant grants ih =>
    rw [List.foldl_cons, ih, UInt64.toNat_or, Nat.testBit_or, Bool.or_eq_true, or_assoc]
    simp only [List.mem_cons, exists_eq_or_imp]

/-- A version has the bits of the grants since then. -/
theorem testBit_granted (grants : List Grant) (v : Version) (i : Nat) :
    (granted grants v).toNat.testBit i = true ↔
      ∃ grant ∈ grants, grant.since ≤ v ∧ grant.bits.toNat.testBit i = true := by
  rw [granted, testBit_foldl]
  simp [and_assoc]

theorem granted_mono (grants : List Grant) {v w : Version} (newer : v ≤ w) :
    granted grants v &&& granted grants w = granted grants v := by
  apply UInt64.toNat_inj.mp
  apply Nat.eq_of_testBit_eq
  intro i
  rw [UInt64.toNat_and, Nat.testBit_and, Bool.and_eq_left_iff_imp, testBit_granted, testBit_granted]
  rintro ⟨grant, listed, since, bit⟩
  exact ⟨grant, listed, Version.le_trans since newer, bit⟩

/-! Advice. -/

variable {t : VersionTable} {firmware fpga required : Version}

theorem checkFirmware_eq_compatible_iff : t.checkFirmware firmware = .compatible ↔ t.minFirmware ≤ firmware := by
  rw [checkFirmware, ← Version.not_lt]
  split_ifs with below <;> simp [below]

theorem check_of_lt (below : firmware < t.minFirmware) :
    t.check firmware fpga = .updateFirmware t.minFirmware := by
  rw [check, checkFirmware, if_pos below]

theorem check_of_none (enough : t.minFirmware ≤ firmware) (free : t.requiredFpga firmware = none) :
    t.check firmware fpga = .compatible := by
  rw [check, checkFirmware_eq_compatible_iff.mpr enough, free]

theorem check_of_some (enough : t.minFirmware ≤ firmware) (asked : t.requiredFpga firmware = some required) :
    t.check firmware fpga = if fpga < required then .updateFpga required else .compatible := by
  rw [check, checkFirmware_eq_compatible_iff.mpr enough, asked]

/-- All that can be advised, and when. -/
theorem check_cases (t : VersionTable) (firmware fpga : Version) :
    (firmware < t.minFirmware ∧ t.check firmware fpga = .updateFirmware t.minFirmware) ∨
    (t.minFirmware ≤ firmware ∧ ∃ required, t.requiredFpga firmware = some required ∧ fpga < required ∧
      t.check firmware fpga = .updateFpga required) ∨
    (t.minFirmware ≤ firmware ∧ (∀ required, t.requiredFpga firmware = some required → required ≤ fpga) ∧
      t.check firmware fpga = .compatible) := by
  by_cases below : firmware < t.minFirmware
  · exact .inl ⟨below, check_of_lt below⟩
  have enough := Version.not_lt.mp below
  cases asked : t.requiredFpga firmware with
  | none =>
    exact .inr (.inr ⟨enough, fun _ same => absurd same (Option.some_ne_none _).symm, check_of_none enough asked⟩)
  | some required =>
    have told : t.check firmware fpga = if fpga < required then .updateFpga required else .compatible :=
      check_of_some enough asked
    by_cases old : fpga < required
    · exact .inr (.inl ⟨enough, required, rfl, old, told.trans (if_pos old)⟩)
    · refine .inr (.inr ⟨enough, fun other same => ?_, told.trans (if_neg old)⟩)
      rw [← Option.some.inj same]
      exact Version.not_lt.mp old

theorem of_check_eq_updateFirmware (advised : t.check firmware fpga = .updateFirmware required) :
    firmware < required ∧ required = t.minFirmware := by
  rcases check_cases t firmware fpga with ⟨below, told⟩ | ⟨_, _, _, _, told⟩ | ⟨_, _, told⟩
  · obtain rfl := Compatibility.updateFirmware.inj (told.symm.trans advised)
    exact ⟨below, rfl⟩
  · cases told.symm.trans advised
  · cases told.symm.trans advised

theorem of_check_eq_updateFpga (advised : t.check firmware fpga = .updateFpga required) :
    t.minFirmware ≤ firmware ∧ t.requiredFpga firmware = some required ∧ fpga < required := by
  rcases check_cases t firmware fpga with ⟨_, told⟩ | ⟨enough, _, asked, old, told⟩ | ⟨_, _, told⟩
  · cases told.symm.trans advised
  · obtain rfl := Compatibility.updateFpga.inj (told.symm.trans advised)
    exact ⟨enough, asked, old⟩
  · cases told.symm.trans advised

theorem check_eq_compatible_iff : t.check firmware fpga = .compatible ↔
    t.minFirmware ≤ firmware ∧ ∀ required, t.requiredFpga firmware = some required → required ≤ fpga := by
  rcases check_cases t firmware fpga with ⟨below, told⟩ | ⟨enough, required, asked, old, told⟩ | ⟨enough, new, told⟩
  · simp [told, Version.not_le.mpr below]
  · simp [told, asked, Version.not_le.mpr old]
  · exact ⟨fun _ => ⟨enough, new⟩, fun _ => told⟩

/-! The entry that decides. -/

/-- The last entry whose firmware is not above the one in question. -/
def IsLast (t : VersionTable) (firmware : Version) (entry : Version × Version) : Prop :=
  ∃ before after, t.fpgaForFirmware = before ++ entry :: after ∧ entry.1 ≤ firmware ∧
    ∀ later ∈ after, firmware < later.1

/-- Entries by rising firmware. -/
def Sorted (t : VersionTable) : Prop := t.fpgaForFirmware.Pairwise (·.1 ≤ ·.1)

/-- Later entries ask for no older image. -/
def Rising (t : VersionTable) : Prop := t.fpgaForFirmware.Pairwise (·.2 ≤ ·.2)

theorem requiredFpga_eq_some_iff :
    t.requiredFpga firmware = some required ↔ ∃ entry, t.IsLast firmware entry ∧ entry.2 = required := by
  rw [requiredFpga, Option.map_eq_some_iff]
  refine exists_congr fun entry => and_congr_left' ?_
  rw [List.find?_eq_some_iff_append]
  constructor
  · rintro ⟨applies, after, before, split, beyond⟩
    refine ⟨before.reverse, after.reverse, ?_, of_decide_eq_true applies, fun later listed => ?_⟩
    · simpa using congrArg List.reverse split
    · simpa [Version.not_le] using beyond later (List.mem_reverse.mp listed)
  · rintro ⟨before, after, split, applies, beyond⟩
    refine ⟨decide_eq_true applies, after.reverse, before.reverse, ?_, fun later listed => ?_⟩
    · simp [split]
    · simpa [Version.not_le] using beyond later (List.mem_reverse.mp listed)

theorem requiredFpga_eq_none_iff :
    t.requiredFpga firmware = none ↔ ∀ entry ∈ t.fpgaForFirmware, firmware < entry.1 := by
  simp [requiredFpga, Version.not_le]

theorem IsLast.applies {entry : Version × Version} (last : t.IsLast firmware entry) : entry.1 ≤ firmware := by
  obtain ⟨_, _, _, applies, _⟩ := last
  exact applies

theorem IsLast.mem {entry : Version × Version} (last : t.IsLast firmware entry) : entry ∈ t.fpgaForFirmware := by
  obtain ⟨before, after, split, _⟩ := last
  rw [split]
  exact List.mem_append_right before List.mem_cons_self

/-- Whatever else applies stands in front of the last entry that does. -/
theorem IsLast.of_pairwise {entry other : Version × Version} (last : t.IsLast firmware entry)
    (listed : other ∈ t.fpgaForFirmware) (applies : other.1 ≤ firmware)
    {R : Version × Version → Version × Version → Prop} (order : t.fpgaForFirmware.Pairwise R)
    (same : R entry entry) : R other entry := by
  obtain ⟨before, after, split, _, beyond⟩ := last
  rw [split] at listed order
  rcases List.mem_append.mp listed with front | back
  · exact (List.pairwise_append.mp order).2.2 other front entry List.mem_cons_self
  rcases List.mem_cons.mp back with rfl | later
  · exact same
  · exact absurd applies (Version.not_le.mpr (beyond other later))

/-- In a sorted table it has the highest firmware of all that applies. -/
theorem IsLast.highest {entry other : Version × Version} (last : t.IsLast firmware entry) (sorted : t.Sorted)
    (listed : other ∈ t.fpgaForFirmware) (applies : other.1 ≤ firmware) : other.1 ≤ entry.1 :=
  last.of_pairwise listed applies sorted (Version.le_refl _)

theorem exists_isLast {entry : Version × Version} (listed : entry ∈ t.fpgaForFirmware)
    (applies : entry.1 ≤ firmware) : ∃ last, t.IsLast firmware last := by
  cases known : t.requiredFpga firmware with
  | none => exact absurd applies (Version.not_le.mpr (requiredFpga_eq_none_iff.mp known entry listed))
  | some required =>
    obtain ⟨last, deciding, _⟩ := requiredFpga_eq_some_iff.mp known
    exact ⟨last, deciding⟩

/-- Older firmware asks for no newer image. -/
theorem requiredFpga_mono (rising : t.Rising) {older : Version} (less : older ≤ firmware)
    (asked : t.requiredFpga older = some fpga) :
    ∃ required, t.requiredFpga firmware = some required ∧ fpga ≤ required := by
  obtain ⟨entry, last, rfl⟩ := requiredFpga_eq_some_iff.mp asked
  have applies : entry.1 ≤ firmware := Version.le_trans last.applies less
  obtain ⟨deciding, last'⟩ := exists_isLast last.mem applies
  exact ⟨deciding.2, requiredFpga_eq_some_iff.mpr ⟨deciding, last', rfl⟩,
    last'.of_pairwise last.mem applies rising (Version.le_refl _)⟩

/-- Newer versions lose no capability. An update that is advised is needed, and it is enough; what is compatible
stays so with newer images. In a sorted table the entry of the highest firmware that is not above the one in
question tells which image is needed, the last one of them if there are several. If no entry asks for an older image
than one before it, then what is compatible stays so with older firmware that the table lets through. -/
theorem advice_sound (t : VersionTable) :
    let c := t.classifier
    (∀ v w, v ≤ w → c.firmwareCapabilities v &&& c.firmwareCapabilities w = c.firmwareCapabilities v ∧
      c.fpgaCapabilities v &&& c.fpgaCapabilities w = c.fpgaCapabilities v) ∧
    (∀ firmware fpga required, c.check firmware fpga = .updateFirmware required →
      firmware < required ∧ ∀ newer, required ≤ newer → c.checkFirmware newer = .compatible) ∧
    (∀ firmware fpga required, c.check firmware fpga = .updateFpga required →
      fpga < required ∧ ∀ newer, required ≤ newer → c.check firmware newer = .compatible) ∧
    (∀ firmware fpga newer, c.check firmware fpga = .compatible → fpga ≤ newer →
      c.check firmware newer = .compatible) ∧
    (t.Sorted → ∀ firmware,
      (∀ entry, t.IsLast firmware entry → t.requiredFpga firmware = some entry.2 ∧
        (∀ other ∈ t.fpgaForFirmware, other.1 ≤ firmware → other.1 ≤ entry.1) ∧
        (c.checkFirmware firmware = .compatible → ∀ fpga, c.check firmware fpga =
          if fpga < entry.2 then .updateFpga entry.2 else .compatible)) ∧
      ((∃ entry ∈ t.fpgaForFirmware, entry.1 ≤ firmware) → ∃ entry, t.IsLast firmware entry) ∧
      ((∀ entry ∈ t.fpgaForFirmware, firmware < entry.1) → t.requiredFpga firmware = none)) ∧
    (t.Rising → ∀ firmware fpga older, c.check firmware fpga = .compatible → older ≤ firmware →
      c.checkFirmware older = .compatible → c.check older fpga = .compatible) := by
  intro c
  refine ⟨?_, ?_, ?_, ?_, ?_, ?_⟩
  · intro v w newer
    exact ⟨granted_mono t.firmwareGrants newer, granted_mono t.fpgaGrants newer⟩
  · intro firmware fpga required advised
    obtain ⟨below, rfl⟩ := of_check_eq_updateFirmware advised
    exact ⟨below, fun newer enough => checkFirmware_eq_compatible_iff.mpr enough⟩
  · intro firmware fpga required advised
    obtain ⟨enough, asked, old⟩ := of_check_eq_updateFpga advised
    refine ⟨old, fun newer new => check_eq_compatible_iff.mpr ⟨enough, fun other known => ?_⟩⟩
    rwa [← Option.some.inj (asked.symm.trans known)]
  · intro firmware fpga newer fine new
    obtain ⟨enough, least⟩ := check_eq_compatible_iff.mp fine
    exact check_eq_compatible_iff.mpr ⟨enough, fun required asked => Version.le_trans (least required asked) new⟩
  · intro sorted firmware
    refine ⟨fun entry last => ?_, fun ⟨entry, listed, applies⟩ => exists_isLast listed applies,
      requiredFpga_eq_none_iff.mpr⟩
    have asked : t.requiredFpga firmware = some entry.2 := requiredFpga_eq_some_iff.mpr ⟨entry, last, rfl⟩
    refine ⟨asked, fun other listed applies => last.highest sorted listed applies, fun fine fpga => ?_⟩
    exact check_of_some (checkFirmware_eq_compatible_iff.mp fine) asked
  · intro rising firmware fpga older fine less passes
    refine check_eq_compatible_iff.mpr ⟨checkFirmware_eq_compatible_iff.mp passes, fun asked known => ?_⟩
    obtain ⟨required, known', more⟩ := requiredFpga_mono rising less known
    exact Version.le_trans more ((check_eq_compatible_iff.mp fine).2 required known')

/-- Firmware between the two entries of the released table, and on either side of them. -/
theorem advice_sound_released :
    let t := released
    let c := t.classifier
    ((⟨1, 9, 0⟩ : Version) ≤ ⟨2, 4, 0⟩ ∧
      c.firmwareCapabilities ⟨1, 9, 0⟩ &&& c.firmwareCapabilities ⟨2, 4, 0⟩ = c.firmwareCapabilities ⟨1, 9, 0⟩) ∧
    (c.check ⟨1, 9, 0⟩ ⟨0, 15, 0⟩ = .updateFirmware ⟨2, 0, 0⟩ ∧ (⟨1, 9, 0⟩ : Version) < ⟨2, 0, 0⟩ ∧
      ∀ newer, (⟨2, 0, 0⟩ : Version) ≤ newer → c.checkFirmware newer = .compatible) ∧
    (c.check ⟨2, 4, 0⟩ ⟨0, 9, 65535⟩ = .updateFpga ⟨0, 10, 0⟩ ∧ (⟨0, 9, 65535⟩ : Version) < ⟨0, 10, 0⟩ ∧
      ∀ newer, (⟨0, 10, 0⟩ : Version) ≤ newer → c.check ⟨2, 4, 0⟩ newer = .compatible) ∧
    (c.check ⟨2, 4, 0⟩ ⟨0, 15, 0⟩ = .compatible ∧ (⟨0, 15, 0⟩ : Version) ≤ ⟨1, 0, 0⟩ ∧
      c.check ⟨2, 4, 0⟩ ⟨1, 0, 0⟩ = .compatible) ∧
    (t.Sorted ∧ t.IsLast ⟨2, 2, 9⟩ (⟨2, 0, 0⟩, ⟨0, 6, 0⟩) ∧ t.requiredFpga ⟨2, 2, 9⟩ = some ⟨0, 6, 0⟩ ∧
      (∀ entry ∈ t.fpgaForFirmware, (⟨1, 9, 0⟩ : Version) < entry.1) ∧ t.requiredFpga ⟨1, 9, 0⟩ = none) ∧
    (t.Rising ∧ (⟨2, 2, 9⟩ : Version) ≤ ⟨2, 4, 0⟩ ∧ c.checkFirmware ⟨2, 2, 9⟩ = .compatible ∧
      c.check ⟨2, 2, 9⟩ ⟨0, 15, 0⟩ = .compatible) := by
  intro t c
  obtain ⟨grows, firmware, fpga, stays, table, falls⟩ := advice_sound t
  have newer : (⟨1, 9, 0⟩ : Version) ≤ ⟨2, 4, 0⟩ := by decide
  have tooOld : c.check ⟨1, 9, 0⟩ ⟨0, 15, 0⟩ = .updateFirmware ⟨2, 0, 0⟩ := by decide
  have tooOld' : c.check ⟨2, 4, 0⟩ ⟨0, 9, 65535⟩ = .updateFpga ⟨0, 10, 0⟩ := by decide
  have fine : c.check ⟨2, 4, 0⟩ ⟨0, 15, 0⟩ = .compatible := by decide
  have more : (⟨0, 15, 0⟩ : Version) ≤ ⟨1, 0, 0⟩ := by decide
  have sorted : released.fpgaForFirmware.Pairwise (·.1 ≤ ·.1) := by decide
  have last : t.IsLast ⟨2, 2, 9⟩ (⟨2, 0, 0⟩, ⟨0, 6, 0⟩) := ⟨[], _, rfl, by decide, by decide⟩
  have above : ∀ entry ∈ released.fpgaForFirmware, (⟨1, 9, 0⟩ : Version) < entry.1 := by decide
  have rising : released.fpgaForFirmware.Pairwise (·.2 ≤ ·.2) := by decide
  have less : (⟨2, 2, 9⟩ : Version) ≤ ⟨2, 4, 0⟩ := by decide
  have passes : c.checkFirmware ⟨2, 2, 9⟩ = .compatible := by decide
  exact ⟨⟨newer, (grows _ _ newer).1⟩, ⟨tooOld, firmware _ _ _ tooOld⟩, ⟨tooOld', fpga _ _ _ tooOld'⟩,
    ⟨fine, more, stays _ _ _ fine more⟩,
    ⟨sorted, last, ((table sorted _).1 _ last).1, above, (table sorted _).2.2 above⟩,
    ⟨rising, less, passes, falls rising _ _ _ fine less passes⟩⟩

end VersionTable
end RadioBoard
