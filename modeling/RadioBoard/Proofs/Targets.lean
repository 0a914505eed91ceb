import Mathlib.Tactic.Linarith
import RadioBoard.Proofs.Fields
import RadioBoard.Proofs.Hardware

/-!
Corrections in the transceiver's registers.

A value is rounded down to its unit and wraps around in its bits. Every correction has bits of its own,
in a register or in two, with one exception: the two offsets of the second receiver overlap in two bits.
Main statements: what a register file holds for a correction after one was written, for the same
correction, for one that is apart, and for one that overlaps.
-/

namespace RadioBoard

open Function (update)

namespace Correction

/-! Values and the bits that stand for them. -/

namespace Precision

variable {p : Precision}

theorem encode_lt (positive : 0 < p.steps) (value : Int16) : p.encode value < p.steps := by
  have steps : (0 : Int) < p.steps := by omega
  have upper := Int.emod_lt_of_pos (value.toInt / p.unit) steps
  rw [encode]
  omega

theorem natCast_encode (positive : 0 < p.steps) (value : Int16) :
    (p.encode value : Int) = value.toInt / p.unit % p.steps := by
  have steps : (p.steps : Int) ≠ 0 := by omega
  rw [encode]
  exact Int.toNat_of_nonneg (Int.emod_nonneg _ steps)

theorem toInt_decode (fits : p.unit * p.steps ≤ 2 ^ 16) (positive : 0 < p.unit * p.steps) (bits : Nat) :
    (p.decode bits).toInt = Int.bmod (bits * p.unit) (p.unit * p.steps) := by
  have lower := Int.le_bmod (x := bits * p.unit) positive
  have upper := Int.bmod_lt (x := bits * p.unit) positive
  exact Int16.toInt_ofInt_of_le (by omega) (by omega)

/-- A value comes back in whole units, as far as there are bits for it. -/
theorem toInt_decode_encode (fits : p.unit * p.steps ≤ 2 ^ 16) (positive : 0 < p.unit * p.steps)
    (value : Int16) :
    (p.decode (p.encode value)).toInt =
      Int.bmod (p.unit * (value.toInt / p.unit)) (p.unit * p.steps) := by
  have units := Nat.pos_of_mul_pos_right positive
  have unit : (0 : Int) < p.unit := by omega
  have steps : 0 < p.steps := Nat.pos_of_mul_pos_left positive
  rw [toInt_decode fits positive, natCast_encode steps, mul_comm, ← Int.mul_emod_mul_of_pos _ _ unit,
    ← Nat.cast_mul, Int.emod_bmod]

/-- The bits come back from the value that they stand for. -/
theorem encode_decode (fits : p.unit * p.steps ≤ 2 ^ 16) (positive : 0 < p.unit * p.steps) {bits : Nat}
    (small : bits < p.steps) : p.encode (p.decode bits) = bits := by
  have units := Nat.pos_of_mul_pos_right positive
  have unit : (p.unit : Int) ≠ 0 := by omega
  have turns := Int.bmod_add_bdiv (bits * p.unit) (p.unit * p.steps)
  have whole : (p.decode bits).toInt =
      p.unit * (bits - p.steps * Int.bdiv (bits * p.unit) (p.unit * p.steps)) := by
    rw [toInt_decode fits positive]
    push_cast at turns ⊢
    linarith
  rw [encode, whole, Int.mul_ediv_cancel_left _ unit, Int.sub_mul_emod_self_left,
    Int.emod_eq_of_lt (by omega) (by omega)]
  rfl

end Precision

/-- The unit of a correction, and the number of bits that its values have room in. -/
def resolution : Direction → Correction → Nat × Nat
  | .rx, offsetI | .rx, offsetQ => (8, 13)
  | .tx, offsetI | .tx, offsetQ => (32, 13)
  | _, phase | _, gain => (64, 14)

theorem resolution_cases (d : Direction) (c : Correction) :
    resolution d c = (8, 13) ∨ resolution d c = (32, 13) ∨ resolution d c = (64, 14) := by
  cases d <;> cases c <;> decide

/-- Values in range do not wrap around. -/
theorem bmod_resolution (d : Direction) (c : Correction) {v : Int}
    (lower : -2 ^ ((resolution d c).2 - 1) ≤ v) (upper : v < 2 ^ ((resolution d c).2 - 1)) :
    Int.bmod ((resolution d c).1 * (v / (resolution d c).1)) (2 ^ (resolution d c).2) =
      (resolution d c).1 * (v / (resolution d c).1) := by
  rcases resolution_cases d c with kind | kind | kind
  all_goals
    rw [kind] at lower upper ⊢
    norm_num at lower upper
    apply Int.bmod_eq_of_le_mul_two
    · norm_num
      omega
    · norm_num
      omega

/-! Targets. -/

/-- A correction of one chain, in one bank. -/
structure Target where
  direction : Direction
  correction : Correction
  chain : Chain
  bank : Bank
  deriving DecidableEq

namespace Target

def field (t : Target) : Field := Correction.field t.direction t.correction t.chain t.bank

def precision (t : Target) : Precision := Correction.precision t.direction t.correction

/-- The value that a register file holds for a target. -/
def value (t : Target) (registers : UInt16 → UInt8) : Int16 :=
  t.precision.decode (t.field.read registers)

/-- The correction of a channel in a bank. -/
def ofChannel (channel : UInt8) (c : Correction) (bank : Bank) : Target :=
  ⟨Direction.ofChannel channel, c, Chain.ofChannel channel, bank⟩

/-- A channel on the board is known by its direction and its chain. -/
theorem channel_eq {channel channel' : UInt8} (known : Channel.onBoard channel = true)
    (known' : Channel.onBoard channel' = true)
    (direction : Direction.ofChannel channel = Direction.ofChannel channel')
    (chain : Chain.ofChannel channel = Chain.ofChannel channel') : channel = channel' := by
  have listed (n : UInt8) (h : Channel.onBoard n = true) : n ∈ [0, 1, 2, 3] := by
    have small : n.toNat < 4 := by simpa [Channel.onBoard, UInt8.lt_iff_toNat_lt] using h
    have split : n.toNat = 0 ∨ n.toNat = 1 ∨ n.toNat = 2 ∨ n.toNat = 3 := by omega
    simpa [← UInt8.toNat_inj] using split
  have checked : ∀ m ∈ [0, 1, 2, 3], ∀ n ∈ [0, 1, 2, 3],
      Direction.ofChannel m = Direction.ofChannel n → Chain.ofChannel m = Chain.ofChannel n → m = n := by
    decide +kernel
  exact checked _ (listed _ known) _ (listed _ known') direction chain

theorem ofChannel_ne {channel channel' : UInt8} {c c' : Correction} {bank bank' : Bank}
    (known : Channel.onBoard channel = true) (known' : Channel.onBoard channel' = true)
    (differ : (channel, c, bank) ≠ (channel', c', bank')) :
    ofChannel channel c bank ≠ ofChannel channel' c' bank' := by
  intro same
  obtain ⟨direction, rfl, chain, rfl⟩ := (Target.mk.injEq ..).mp same
  rw [channel_eq known known' direction chain] at differ
  exact differ rfl

/-- The two offsets of the second receiver, in the same bank. -/
def Overlaps (t u : Target) : Prop :=
  t.direction = .rx ∧ t.chain = .second ∧ t.correction.isOffset = true ∧
    u.correction.isOffset = true ∧ t ≠ u ∧ u = { t with correction := u.correction }

instance (t u : Target) : Decidable (t.Overlaps u) :=
  inferInstanceAs (Decidable (t.direction = .rx ∧ t.chain = .second ∧ t.correction.isOffset = true ∧
    u.correction.isOffset = true ∧ t ≠ u ∧ u = { t with correction := u.correction }))

theorem overlaps_ofChannel_iff {channel channel' : UInt8} {c c' : Correction} {bank bank' : Bank}
    (known : Channel.onBoard channel = true) (known' : Channel.onBoard channel' = true)
    (differ : (channel, c, bank) ≠ (channel', c', bank')) :
    (ofChannel channel c bank).Overlaps (ofChannel channel' c' bank') ↔
      channel = Channel.rx1 ∧ channel' = Channel.rx1 ∧ bank = bank' ∧ c.isOffset = true ∧
        c'.isOffset = true := by
  constructor
  · intro overlap
    obtain ⟨rx, second, offset, offset', _, rest⟩ := overlap
    obtain ⟨direction, _, chain, rfl⟩ := (Target.mk.injEq ..).mp rest
    have same := channel_eq known' known direction chain
    have which : channel = Channel.rx1 := channel_eq known rfl rx second
    exact ⟨which, same.trans which, rfl, offset, offset'⟩
  · intro both
    obtain ⟨rfl, rfl, rfl, offset, offset'⟩ := both
    exact ⟨rfl, rfl, offset, offset', ofChannel_ne rfl rfl differ, rfl⟩

/-- All targets. -/
def all : List Target :=
  [Direction.rx, .tx].flatMap fun d => [offsetI, offsetQ, phase, gain].flatMap fun c =>
    [Chain.first, .second].flatMap fun chain => [Bank.low, .high].map fun bank => ⟨d, c, chain, bank⟩

theorem mem_all (t : Target) : t ∈ all := by
  obtain ⟨d, c, chain, bank⟩ := t
  have ways : d ∈ [Direction.rx, .tx] ∧ c ∈ [offsetI, offsetQ, phase, gain] ∧
      chain ∈ [Chain.first, .second] ∧ bank ∈ [Bank.low, .high] := by
    refine ⟨?_, ?_, ?_, ?_⟩
    · cases d <;> decide
    · cases c <;> decide
    · cases chain <;> decide
    · cases bank <;> decide
  simp only [all, List.mem_flatMap, List.mem_map]
  exact ⟨d, ways.1, c, ways.2.1, chain, ways.2.2.1, bank, ways.2.2.2, rfl⟩

instance (p : Target → Prop) [DecidablePred p] : Decidable (∀ t, p t) :=
  decidable_of_iff (∀ t ∈ all, p t) ⟨fun h t => h t t.mem_all, fun h t _ => h t⟩

/-! The table of fields. -/

theorem field_fits : ∀ t : Target, t.field.Fits := by decide

theorem steps_eq : ∀ t : Target, t.precision.steps = 2 ^ t.field.width := by decide

theorem resolution_eq : ∀ t : Target,
    t.precision.unit = (resolution t.direction t.correction).1 ∧
    t.precision.unit * t.precision.steps = 2 ^ (resolution t.direction t.correction).2 := by
  decide

theorem precision_fits : ∀ t : Target, t.precision.unit * t.precision.steps ≤ 2 ^ 16 := by
  decide

theorem precision_positive : ∀ t : Target, 0 < t.precision.unit * t.precision.steps := by
  decide

/-- Two targets share no bit, unless they overlap. -/
theorem field_apart : ∀ t u : Target, t ≠ u → ¬t.Overlaps u → u.field.Apart t.field := by
  decide +kernel

theorem forceRegister_notMem : ∀ t u : Target, forceRegister t.direction ∉ u.field.registers := by
  decide +kernel

/-! Registers after a correction was set. -/

section Write

variable (t u : Target) (v : Int16) (registers : UInt16 → UInt8)

/-- The registers with a value and its force bit written. -/
def write : UInt16 → UInt8 :=
  let written := t.field.write (t.precision.encode v) registers
  update written (forceRegister t.direction)
    (written (forceRegister t.direction) ||| forceBit t.correction t.chain t.bank)

/-- Force bits are no part of a value. -/
theorem read_write :
    u.field.read (t.write v registers) =
      u.field.read (t.field.write (t.precision.encode v) registers) := by
  apply Field.read_congr
  intro r used
  have other : r ≠ forceRegister t.direction := by
    intro same
    rw [same] at used
    exact forceRegister_notMem t u used
  rw [write, Function.update_of_ne other]

theorem write_of_ne {r : UInt16} (other : r ≠ forceRegister t.direction) :
    t.write v registers r = t.field.write (t.precision.encode v) registers r := by
  rw [write, Function.update_of_ne other]

theorem value_eq_iff (registers' : UInt16 → UInt8) :
    t.value registers = t.value registers' ↔ t.field.read registers = t.field.read registers' := by
  constructor
  · intro same
    have small := t.field.read_lt registers
    have small' := t.field.read_lt registers'
    rw [← t.steps_eq] at small small'
    have bits := Precision.encode_decode t.precision_fits t.precision_positive small
    have bits' := Precision.encode_decode t.precision_fits t.precision_positive small'
    rw [value, value] at same
    rw [← bits, same, bits']
  · intro same
    rw [value, value, same]

/-- A value that was set reads back in whole units, as far as it has room. -/
theorem toInt_value_write :
    (t.value (t.write v registers)).toInt =
      Int.bmod ((resolution t.direction t.correction).1 *
        (v.toInt / (resolution t.direction t.correction).1))
        (2 ^ (resolution t.direction t.correction).2) := by
  have some : 0 < t.precision.steps := Nat.pos_of_mul_pos_left t.precision_positive
  have kept : t.field.read (t.write v registers) = t.precision.encode v := by
    rw [read_write, Field.read_write_self _ _ t.field_fits, ← t.steps_eq,
      Nat.mod_eq_of_lt (Precision.encode_lt some v)]
  rw [value, kept, Precision.toInt_decode_encode t.precision_fits t.precision_positive,
    t.resolution_eq.2, t.resolution_eq.1]

/-- A value that is there may be set again. -/
theorem write_value {r : UInt16} (other : r ≠ forceRegister t.direction) :
    t.write (t.value registers) registers r = registers r := by
  have small := t.field.read_lt registers
  rw [← t.steps_eq] at small
  have bits := Precision.encode_decode t.precision_fits t.precision_positive small
  rw [write_of_ne _ _ _ other, value, bits, Field.write_read _ t.field_fits]

variable {t u}

theorem value_write_of_apart (differ : t ≠ u) (clear : ¬t.Overlaps u) :
    u.value (t.write v registers) = u.value registers := by
  rw [value_eq_iff, read_write,
    Field.read_write_of_apart _ _ u.field_fits t.field_fits (field_apart t u differ clear)]

end Write

end Target

/-- The register whose two lowest bits belong to both offsets of the second receiver. -/
def overlapRegister : Bank → UInt16
  | .low => 0x177
  | .high => 0x180

/-- What an offset of the second receiver puts into these bits. -/
def overlapBits (c : Correction) (v : Int16) : Int :=
  if c = offsetI then v.toInt / 8 % 4 else v.toInt / 128 % 4

private theorem read_offsetQ_write_offsetI (bank : Bank) (bits : Nat) (registers : UInt16 → UInt8) :
    (field .rx offsetQ .second bank).read ((field .rx offsetI .second bank).write bits registers) =
        (field .rx offsetQ .second bank).read registers ↔
      bits % 4 = (registers (overlapRegister bank)).toNat % 4 := by
  cases bank
  all_goals
    exact Field.read_write_of_bottom_within registers bits (by decide) (by decide) (by decide) rfl
      (by decide) (by decide)

private theorem read_offsetI_write_offsetQ (bank : Bank) (bits : Nat) (registers : UInt16 → UInt8) :
    (field .rx offsetI .second bank).read ((field .rx offsetQ .second bank).write bits registers) =
        (field .rx offsetI .second bank).read registers ↔
      bits >>> 4 % 4 = (registers (overlapRegister bank)).toNat % 4 := by
  cases bank
  all_goals
    exact Field.read_write_of_top_covers registers bits (by decide) (by decide) (by decide) rfl
      (by decide) (by decide)

/-- An offset of the second receiver changes the other one, unless it happens to put there what is there. -/
theorem Target.value_write_of_overlaps {t u : Target} (h : t.Overlaps u) (v : Int16)
    (registers : UInt16 → UInt8) :
    u.value (t.write v registers) = u.value registers ↔
      overlapBits t.correction v = (registers (overlapRegister t.bank)).toNat % 4 := by
  obtain ⟨d, c, chain, bank⟩ := t
  obtain ⟨d', c', chain', bank'⟩ := u
  obtain ⟨rx, second, offset, offset', differ, rest⟩ := h
  obtain ⟨rfl, rfl, rfl⟩ : d' = d ∧ chain' = chain ∧ bank' = bank := by
    simpa using rest
  dsimp only at rx second
  subst rx second
  have bits : (Precision.encode ⟨8, 1024⟩ v : Int) = v.toInt / 8 % 1024 :=
    Precision.natCast_encode (by decide) v
  rw [value_eq_iff, read_write]
  dsimp only
  cases c
  case phase | gain => exact absurd offset Bool.false_ne_true
  case offsetI =>
    cases c'
    case offsetI => exact absurd rfl differ
    case phase | gain => exact absurd offset' Bool.false_ne_true
    case offsetQ =>
      refine (read_offsetQ_write_offsetI bank' _ registers).trans ?_
      change Precision.encode ⟨8, 1024⟩ v % 4 = _ ↔ v.toInt / 8 % 4 = _
      omega
  case offsetQ =>
    cases c'
    case offsetQ => exact absurd rfl differ
    case phase | gain => exact absurd offset' Bool.false_ne_true
    case offsetI =>
      refine (read_offsetI_write_offsetQ bank' _ registers).trans ?_
      change Precision.encode ⟨8, 1024⟩ v >>> 4 % 4 = _ ↔ v.toInt / 128 % 4 = _
      rw [Nat.shiftRight_eq_div_pow]
      omega

end Correction

end RadioBoard
