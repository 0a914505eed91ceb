import Mathlib.Data.Nat.Bitwise
import Mathlib.Logic.Function.Basic
import RadioBoard.Correction

/-!
Fields of bits in byte registers.

A slice is described by the bits that it gets and puts. From that: what is put is got, what was got may be
put back, and slices that share no bit do not disturb each other. A field is read and written as its
slices are.
-/

namespace RadioBoard.Correction

open Function (update)

namespace Slice

/-- The slice lies within a byte. -/
def Fits (s : Slice) : Prop := s.low + s.width ≤ 8

instance (s : Slice) : Decidable s.Fits := inferInstanceAs (Decidable (s.low + s.width ≤ 8))

/-- Slices of different registers, or one above the other in the same. -/
def Apart (s t : Slice) : Prop :=
  s.register ≠ t.register ∨ s.low + s.width ≤ t.low ∨ t.low + t.width ≤ s.low

instance (s t : Slice) : Decidable (s.Apart t) :=
  inferInstanceAs (Decidable (s.register ≠ t.register ∨ s.low + s.width ≤ t.low ∨ t.low + t.width ≤ s.low))

theorem get_lt (s : Slice) (c : UInt8) : s.get c < 2 ^ s.width := by
  rw [get, Nat.one_shiftLeft]
  exact Nat.mod_lt _ (Nat.two_pow_pos _)

theorem testBit_get (s : Slice) (c : UInt8) (i : Nat) :
    (s.get c).testBit i = (decide (i < s.width) && c.toNat.testBit (s.low + i)) := by
  rw [get, Nat.one_shiftLeft, Nat.testBit_mod_two_pow, Nat.testBit_shiftRight]

/-- A byte in three parts: above the slice, the slice, and below it. -/
theorem parts (s : Slice) (c : UInt8) :
    c.toNat = 2 ^ s.low * (2 ^ s.width * (c.toNat >>> s.low >>> s.width) + s.get c) +
      c.toNat % 2 ^ s.low := by
  have inner := Nat.div_add_mod (c.toNat >>> s.low) (2 ^ s.width)
  have outer := Nat.div_add_mod c.toNat (2 ^ s.low)
  rw [get, Nat.one_shiftLeft, Nat.shiftRight_eq_div_pow _ s.width, inner, Nat.shiftRight_eq_div_pow,
    outer]

theorem toNat_put (s : Slice) (bits : Nat) (c : UInt8) :
    (s.put bits c).toNat =
      (2 ^ s.low * (2 ^ s.width * (c.toNat >>> s.low >>> s.width) + bits % 2 ^ s.width) +
        c.toNat % 2 ^ s.low) % 2 ^ 8 := by
  have whole := s.parts c
  rw [put, UInt8.toNat_ofNat', Nat.one_shiftLeft, Nat.shiftLeft_eq, Nat.shiftLeft_eq]
  rw [Nat.mul_add] at whole ⊢
  rw [Nat.mul_comm (s.get c), Nat.mul_comm (bits % 2 ^ s.width)]
  congr 1
  omega

theorem testBit_put (s : Slice) (bits : Nat) (c : UInt8) {i : Nat} (hi : i < 8) :
    (s.put bits c).toNat.testBit i =
      if s.low ≤ i ∧ i < s.low + s.width then bits.testBit (i - s.low) else c.toNat.testBit i := by
  have below : c.toNat % 2 ^ s.low < 2 ^ s.low := Nat.mod_lt _ (Nat.two_pow_pos _)
  have inside : bits % 2 ^ s.width < 2 ^ s.width := Nat.mod_lt _ (Nat.two_pow_pos _)
  rw [toNat_put, Nat.testBit_mod_two_pow, Nat.testBit_two_pow_mul_add _ below,
    Nat.testBit_two_pow_mul_add _ inside, Nat.testBit_mod_two_pow, Nat.testBit_mod_two_pow,
    Nat.testBit_shiftRight, Nat.testBit_shiftRight]
  by_cases low : i < s.low
  · have out : ¬(s.low ≤ i ∧ i < s.low + s.width) := by omega
    simp [hi, low, out]
  · by_cases high : i - s.low < s.width
    · have within : s.low ≤ i ∧ i < s.low + s.width := by omega
      simp [hi, low, high, within]
    · have out : ¬(s.low ≤ i ∧ i < s.low + s.width) := by omega
      have place : s.low + (s.width + (i - s.low - s.width)) = i := by omega
      simp [hi, low, high, out, place]

private theorem byte_ext {c d : UInt8} (h : ∀ i < 8, c.toNat.testBit i = d.toNat.testBit i) : c = d := by
  apply UInt8.toNat_inj.mp
  apply Nat.eq_of_testBit_eq
  intro i
  by_cases hi : i < 8
  · exact h i hi
  · have power : 2 ^ 8 ≤ 2 ^ i := Nat.pow_le_pow_right (by decide) (by omega)
    rw [Nat.testBit_lt_two_pow (Nat.lt_of_lt_of_le c.toNat_lt power),
      Nat.testBit_lt_two_pow (Nat.lt_of_lt_of_le d.toNat_lt power)]

theorem get_put_self {s : Slice} (h : s.Fits) (bits : Nat) (c : UInt8) :
    s.get (s.put bits c) = bits % 2 ^ s.width := by
  have fits : s.low + s.width ≤ 8 := h
  apply Nat.eq_of_testBit_eq
  intro i
  rw [testBit_get, Nat.testBit_mod_two_pow]
  by_cases hi : i < s.width
  · have within : s.low ≤ s.low + i ∧ s.low + i < s.low + s.width := by omega
    have place : s.low + i - s.low = i := by omega
    rw [s.testBit_put bits c (by omega), if_pos within, place]
  · simp [hi]

theorem put_get (s : Slice) (c : UInt8) : s.put (s.get c) c = c := by
  apply byte_ext
  intro i hi
  rw [s.testBit_put _ c hi]
  by_cases within : s.low ≤ i ∧ i < s.low + s.width
  · have place : s.low + (i - s.low) = i := by omega
    have inside : i - s.low < s.width := by omega
    rw [if_pos within, testBit_get, place]
    simp [inside]
  · rw [if_neg within]

/-- A slice does not see what is put beside it. -/
theorem get_put_of_beside {s t : Slice} (h : s.Fits)
    (beside : s.low + s.width ≤ t.low ∨ t.low + t.width ≤ s.low) (bits : Nat) (c : UInt8) :
    s.get (t.put bits c) = s.get c := by
  have fits : s.low + s.width ≤ 8 := h
  apply Nat.eq_of_testBit_eq
  intro i
  rw [testBit_get, testBit_get]
  by_cases hi : i < s.width
  · have out : ¬(t.low ≤ s.low + i ∧ s.low + i < t.low + t.width) := by omega
    rw [t.testBit_put bits c (by omega), if_neg out]
  · simp [hi]

/-- What lies within a replaced slice is replaced with it. -/
theorem get_put_of_within {s t : Slice} (fits : t.Fits) (start : t.low ≤ s.low)
    (stop : s.low + s.width ≤ t.low + t.width) (bits : Nat) (c : UInt8) :
    s.get (t.put bits c) = bits >>> (s.low - t.low) % 2 ^ s.width := by
  have fits : t.low + t.width ≤ 8 := fits
  apply Nat.eq_of_testBit_eq
  intro i
  rw [testBit_get, Nat.testBit_mod_two_pow, Nat.testBit_shiftRight]
  by_cases hi : i < s.width
  · have within : t.low ≤ s.low + i ∧ s.low + i < t.low + t.width := by omega
    have place : s.low + i - t.low = s.low - t.low + i := by omega
    rw [t.testBit_put bits c (by omega), if_pos within, place]
  · simp [hi]

/-- A slice sees whether a part of it is replaced by something else. -/
theorem get_put_eq_iff {s t : Slice} (fits : t.Fits) (start : s.low ≤ t.low)
    (stop : t.low + t.width ≤ s.low + s.width) (bits : Nat) (c : UInt8) :
    s.get (t.put bits c) = s.get c ↔ bits % 2 ^ t.width = t.get c := by
  have inner (c : UInt8) : t.get c = s.get c >>> (t.low - s.low) % 2 ^ t.width := by
    apply Nat.eq_of_testBit_eq
    intro i
    rw [testBit_get, Nat.testBit_mod_two_pow, Nat.testBit_shiftRight, testBit_get]
    by_cases hi : i < t.width
    · have inside : t.low - s.low + i < s.width := by omega
      have place : s.low + (t.low - s.low + i) = t.low + i := by omega
      simp [hi, inside, place]
    · simp [hi]
  constructor
  · intro same
    rw [← get_put_self fits bits c, inner, same, ← inner]
  · intro same
    have kept : t.put bits c = c := by
      have again := t.put_get c
      rw [← same] at again
      simpa [put, Nat.one_shiftLeft] using again
    rw [kept]

/-! Slices of a register file. -/

def read (s : Slice) (registers : UInt16 → UInt8) : Nat := s.get (registers s.register)

def write (s : Slice) (bits : Nat) (registers : UInt16 → UInt8) : UInt16 → UInt8 :=
  update registers s.register (s.put bits (registers s.register))

variable (registers : UInt16 → UInt8) (bits : Nat)

theorem read_write_self {s : Slice} (h : s.Fits) :
    s.read (s.write bits registers) = bits % 2 ^ s.width := by
  rw [read, write, Function.update_self, get_put_self h]

theorem read_write_of_apart {s t : Slice} (h : s.Fits) (apart : s.Apart t) :
    s.read (t.write bits registers) = s.read registers := by
  rw [read, write]
  by_cases same : s.register = t.register
  · have beside := apart.resolve_left (not_not_intro same)
    rw [same, Function.update_self, get_put_of_beside h beside, read, same]
  · rw [Function.update_of_ne same, read]

theorem write_read (s : Slice) : s.write (s.read registers) registers = registers := by
  rw [write, read, put_get, Function.update_eq_self]

theorem write_mod (s : Slice) : s.write (bits % 2 ^ s.width) registers = s.write bits registers := by
  rw [write, write, put, put, Nat.one_shiftLeft, Nat.mod_mod]

end Slice

/-! Fields. -/

namespace Field

def slices : Field → List Slice
  | whole register => [⟨register, 0, 8⟩]
  | split top bottom => [top, bottom]

def width : Field → Nat
  | whole _ => 8
  | split top bottom => top.width + bottom.width

/-- The registers of a field, each written once. -/
def registers : Field → List UInt16
  | whole register => [register]
  | split top bottom => [top.register, bottom.register]

def Fits (f : Field) : Prop := (∀ s ∈ f.slices, s.Fits) ∧ f.registers.Nodup

instance (f : Field) : Decidable f.Fits :=
  inferInstanceAs (Decidable ((∀ s ∈ f.slices, s.Fits) ∧ f.registers.Nodup))

def Apart (f g : Field) : Prop := ∀ s ∈ f.slices, ∀ t ∈ g.slices, s.Apart t

instance (f g : Field) : Decidable (f.Apart g) :=
  inferInstanceAs (Decidable (∀ s ∈ f.slices, ∀ t ∈ g.slices, s.Apart t))

def read (registers : UInt16 → UInt8) : Field → Nat
  | whole register => (registers register).toNat
  | split top bottom => top.read registers <<< bottom.width + bottom.read registers

def write (bits : Nat) (registers : UInt16 → UInt8) : Field → UInt16 → UInt8
  | whole register => update registers register (UInt8.ofNat bits)
  | split top bottom =>
    update (update registers top.register (top.put (bits >>> bottom.width) (registers top.register)))
      bottom.register (bottom.put bits (registers bottom.register))

variable (registers : UInt16 → UInt8) (bits : Nat)

theorem read_whole (register : UInt16) :
    (whole register).read registers = Slice.read ⟨register, 0, 8⟩ registers := by
  have byte := (registers register).toNat_lt
  simp only [read, Slice.read, Slice.get, Nat.shiftRight_zero, Nat.one_shiftLeft]
  omega

theorem write_whole (register : UInt16) :
    (whole register).write bits registers = Slice.write ⟨register, 0, 8⟩ bits registers := by
  have byte : UInt8.ofNat bits = Slice.put ⟨register, 0, 8⟩ bits (registers register) := by
    apply UInt8.toNat_inj.mp
    rw [Slice.toNat_put, UInt8.toNat_ofNat']
    dsimp only
    omega
  rw [write, Slice.write, byte]

theorem write_split {top bottom : Slice} (h : top.register ≠ bottom.register) :
    (split top bottom).write bits registers =
      bottom.write bits (top.write (bits >>> bottom.width) registers) := by
  rw [write, Slice.write, Slice.write, Function.update_of_ne (Ne.symm h)]

private theorem registers_ne {top bottom : Slice} (h : (split top bottom).Fits) :
    top.register ≠ bottom.register := by
  have distinct := h.2
  simpa [Field.registers] using distinct

theorem read_write_self {f : Field} (h : f.Fits) :
    f.read (f.write bits registers) = bits % 2 ^ f.width := by
  cases f with
  | whole register =>
    rw [read_whole, write_whole, Slice.read_write_self _ _ (h.1 _ (List.mem_singleton_self _))]
    rfl
  | split top bottom =>
    have fits : top.Fits ∧ bottom.Fits := ⟨h.1 _ (by simp [slices]), h.1 _ (by simp [slices])⟩
    have distinct := registers_ne h
    rw [write_split _ _ distinct, read, Slice.read_write_of_apart _ _ fits.1 (.inl distinct),
      Slice.read_write_self _ _ fits.1, Slice.read_write_self _ _ fits.2, width,
      Nat.shiftRight_eq_div_pow, Nat.shiftLeft_eq, Nat.add_comm top.width, Nat.pow_add, Nat.mod_mul,
      Nat.mul_comm _ (2 ^ bottom.width), Nat.add_comm]

/-- What was read may be written back. -/
theorem write_read {f : Field} (h : f.Fits) : f.write (f.read registers) registers = registers := by
  cases f with
  | whole register => rw [read_whole, write_whole, Slice.write_read]
  | split top bottom =>
    have below := bottom.get_lt (registers bottom.register)
    have upper : (top.read registers * 2 ^ bottom.width + bottom.read registers) / 2 ^ bottom.width =
        top.read registers := by
      rw [Nat.mul_comm, Nat.mul_add_div (Nat.two_pow_pos _), Slice.read, Slice.read,
        Nat.div_eq_of_lt below, Nat.add_zero]
    have lower : (top.read registers * 2 ^ bottom.width + bottom.read registers) % 2 ^ bottom.width =
        bottom.read registers := by
      rw [Nat.mul_comm, Nat.mul_add_mod, Slice.read, Nat.mod_eq_of_lt below]
    rw [write_split _ _ (registers_ne h), read, Nat.shiftLeft_eq, Nat.shiftRight_eq_div_pow, upper,
      top.write_read, ← bottom.write_mod, lower, bottom.write_read]

private theorem slice_read_write {s : Slice} (hs : s.Fits) {g : Field} (hg : g.Fits)
    (apart : ∀ t ∈ g.slices, s.Apart t) : s.read (g.write bits registers) = s.read registers := by
  cases g with
  | whole register =>
    rw [write_whole, Slice.read_write_of_apart _ _ hs (apart _ (List.mem_singleton_self _))]
  | split top bottom =>
    rw [write_split _ _ (registers_ne hg), Slice.read_write_of_apart _ _ hs (apart _ (by simp [slices])),
      Slice.read_write_of_apart _ _ hs (apart _ (by simp [slices]))]

theorem read_write_of_apart {f g : Field} (hf : f.Fits) (hg : g.Fits) (apart : f.Apart g) :
    f.read (g.write bits registers) = f.read registers := by
  cases f with
  | whole register =>
    rw [read_whole, read_whole, slice_read_write _ _ (hf.1 _ _) hg (apart _ _)]
    all_goals exact List.mem_singleton_self _
  | split top bottom =>
    rw [read, read, slice_read_write _ _ (hf.1 top _) hg (apart top _),
      slice_read_write _ _ (hf.1 bottom _) hg (apart bottom _)]
    all_goals simp [slices]

theorem read_lt (f : Field) : f.read registers < 2 ^ f.width := by
  cases f with
  | whole register => exact (registers register).toNat_lt
  | split top bottom =>
    have upper := top.get_lt (registers top.register)
    have lower := bottom.get_lt (registers bottom.register)
    have room := Nat.mul_le_mul_right (2 ^ bottom.width) (Nat.succ_le_of_lt upper)
    rw [read, width, Nat.shiftLeft_eq, Nat.pow_add, Slice.read, Slice.read]
    rw [Nat.succ_mul] at room
    omega

/-- Two register files hold the same in a field if they do in both of its slices. -/
theorem read_split_eq_iff {top bottom : Slice} (registers' : UInt16 → UInt8) :
    (split top bottom).read registers = (split top bottom).read registers' ↔
      top.read registers = top.read registers' ∧ bottom.read registers = bottom.read registers' := by
  have lower := bottom.get_lt (registers bottom.register)
  have lower' := bottom.get_lt (registers' bottom.register)
  rw [read, read, Nat.shiftLeft_eq, Nat.shiftLeft_eq]
  constructor
  · intro same
    have high := congrArg (· / 2 ^ bottom.width) same
    have low := congrArg (· % 2 ^ bottom.width) same
    simp only [Slice.read] at high low ⊢
    rw [Nat.mul_comm, Nat.mul_comm (top.get _), Nat.mul_add_div (Nat.two_pow_pos _),
      Nat.mul_add_div (Nat.two_pow_pos _), Nat.div_eq_of_lt lower, Nat.div_eq_of_lt lower'] at high
    rw [Nat.mul_comm, Nat.mul_comm (top.get _), Nat.mul_add_mod, Nat.mul_add_mod,
      Nat.mod_eq_of_lt lower, Nat.mod_eq_of_lt lower'] at low
    exact ⟨high, low⟩
  · intro same
    rw [same.1, same.2]

/-- The lower slice of the field that is written lies in the upper slice of the one that is read. -/
theorem read_write_of_bottom_within {top bottom top' bottom' : Slice} (h : (split top bottom).Fits)
    (h' : (split top' bottom').Fits) (clear : top'.Apart top ∧ bottom'.Apart top ∧ bottom'.Apart bottom)
    (same : top'.register = bottom.register) (start : top'.low ≤ bottom.low)
    (stop : bottom.low + bottom.width ≤ top'.low + top'.width) :
    (split top' bottom').read ((split top bottom).write bits registers) =
        (split top' bottom').read registers ↔ bits % 2 ^ bottom.width = bottom.read registers := by
  have fits : bottom.Fits := h.1 _ (by simp [slices])
  have fits' : top'.Fits ∧ bottom'.Fits := ⟨h'.1 _ (by simp [slices]), h'.1 _ (by simp [slices])⟩
  have distinct := registers_ne h
  have lower : bottom'.read ((split top bottom).write bits registers) = bottom'.read registers := by
    rw [write_split _ _ distinct, Slice.read_write_of_apart _ _ fits'.2 clear.2.2,
      Slice.read_write_of_apart _ _ fits'.2 clear.2.1]
  have upper : top'.read ((split top bottom).write bits registers) =
      top'.get (bottom.put bits (registers bottom.register)) := by
    rw [write, Slice.read, same, Function.update_self]
  rw [read_split_eq_iff, lower, upper, Slice.read, same, Slice.get_put_eq_iff fits start stop,
    and_iff_left rfl, Slice.read]

/-- The upper slice of the field that is written covers the lower slice of the one that is read. -/
theorem read_write_of_top_covers {top bottom top' bottom' : Slice} (h : (split top bottom).Fits)
    (h' : (split top' bottom').Fits) (clear : top'.Apart top ∧ top'.Apart bottom ∧ bottom'.Apart bottom)
    (same : bottom'.register = top.register) (start : top.low ≤ bottom'.low)
    (stop : bottom'.low + bottom'.width ≤ top.low + top.width) :
    (split top' bottom').read ((split top bottom).write bits registers) =
        (split top' bottom').read registers ↔
      bits >>> bottom.width >>> (bottom'.low - top.low) % 2 ^ bottom'.width = bottom'.read registers := by
  have fits : top.Fits := h.1 _ (by simp [slices])
  have fits' : top'.Fits ∧ bottom'.Fits := ⟨h'.1 _ (by simp [slices]), h'.1 _ (by simp [slices])⟩
  have distinct := registers_ne h
  have upper : top'.read ((split top bottom).write bits registers) = top'.read registers := by
    rw [write_split _ _ distinct, Slice.read_write_of_apart _ _ fits'.1 clear.2.1,
      Slice.read_write_of_apart _ _ fits'.1 clear.1]
  have lower : bottom'.read ((split top bottom).write bits registers) =
      bits >>> bottom.width >>> (bottom'.low - top.low) % 2 ^ bottom'.width := by
    rw [write_split _ _ distinct, Slice.read_write_of_apart _ _ fits'.2 clear.2.2, Slice.write,
      Slice.read, same, Function.update_self, Slice.get_put_of_within fits start stop]
  rw [read_split_eq_iff, upper, lower, and_iff_right rfl]

/-- Reading a field looks at its registers only. -/
theorem read_congr {f : Field} {registers registers' : UInt16 → UInt8}
    (h : ∀ r ∈ f.registers, registers r = registers' r) : f.read registers = f.read registers' := by
  cases f with
  | whole register =>
    rw [read, read, h register (by simp [Field.registers])]
  | split top bottom =>
    rw [read, read, Slice.read, Slice.read, Slice.read, Slice.read,
      h top.register (by simp [Field.registers]), h bottom.register (by simp [Field.registers])]

/-- The bit of what is written that a bit of a register keeps. -/
def bitAt? (f : Field) (r : UInt16) (i : Nat) : Option Nat :=
  match f with
  | whole register => if r = register then some i else none
  | split top bottom =>
    if r = bottom.register ∧ bottom.low ≤ i ∧ i < bottom.low + bottom.width then some (i - bottom.low)
    else if r = top.register ∧ top.low ≤ i ∧ i < top.low + top.width then
      some (bottom.width + (i - top.low))
    else none

theorem testBit_write {f : Field} (h : f.Fits) (r : UInt16) {i : Nat} (hi : i < 8) :
    (f.write bits registers r).toNat.testBit i =
      (f.bitAt? r i).elim ((registers r).toNat.testBit i) bits.testBit := by
  cases f with
  | whole register =>
    by_cases own : r = register
    · subst own
      rw [write, Function.update_self, UInt8.toNat_ofNat', Nat.testBit_mod_two_pow]
      simp [bitAt?, hi]
    · rw [write, Function.update_of_ne own]
      simp [bitAt?, own]
  | split top bottom =>
    have distinct := registers_ne h
    rw [write]
    by_cases lower : r = bottom.register
    · subst lower
      have other : bottom.register ≠ top.register := distinct.symm
      rw [Function.update_self, bottom.testBit_put _ _ hi]
      by_cases inside : bottom.low ≤ i ∧ i < bottom.low + bottom.width
      · simp [bitAt?, inside]
      · simp [bitAt?, inside, other]
    · rw [Function.update_of_ne lower]
      by_cases upper : r = top.register
      · subst upper
        rw [Function.update_self, top.testBit_put _ _ hi]
        by_cases inside : top.low ≤ i ∧ i < top.low + top.width
        · simp [bitAt?, inside, lower, Nat.testBit_shiftRight]
        · simp [bitAt?, inside, lower]
      · rw [Function.update_of_ne upper]
        simp [bitAt?, lower, upper]

theorem write_of_notMem {f : Field} {r : UInt16} (other : r ∉ f.registers) :
    f.write bits registers r = registers r := by
  cases f with
  | whole register =>
    have apart : r ≠ register := by simpa [Field.registers] using other
    rw [write, Function.update_of_ne apart]
  | split top bottom =>
    have apart : r ≠ top.register ∧ r ≠ bottom.register := by simpa [Field.registers] using other
    rw [write, Function.update_of_ne apart.2, Function.update_of_ne apart.1]

end Field

end RadioBoard.Correction
