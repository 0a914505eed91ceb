import RadioBoard.Proofs.Targets

/-!
The layout of corrections, and what is left after corrections were set in turn.

The receive offsets are drawn as they lie in their registers, and the drawing is where the code puts them.
Setting a correction writes its own bits and one force bit. After any number of corrections the force bits
of all of them are set, and what belongs to none is as before.
-/

namespace RadioBoard.Correction

open Function (update)

/-- The receive offsets as they are drawn, in the top and in the bottom register: from the highest bit of a
register on, the bit of the offset that is kept there. -/
def drawing : Chain → Correction → List (Option Nat) × List (Option Nat)
  | .first, offsetI =>
    ([none, none, none, none, some 9, some 8, some 7, some 6],
      [some 5, some 4, some 3, some 2, some 1, some 0, none, none])
  | .first, offsetQ =>
    ([none, none, none, none, none, none, some 9, some 8],
      [some 7, some 6, some 5, some 4, some 3, some 2, some 1, some 0])
  | .second, offsetI =>
    ([some 9, some 8, some 7, some 6, some 5, some 4, some 3, some 2],
      [none, none, none, none, none, none, some 1, some 0])
  | .second, offsetQ =>
    ([none, none, some 9, some 8, some 7, some 6, some 5, some 4],
      [some 3, some 2, some 1, some 0, none, none, none, none])
  | _, phase | _, gain => ([], [])

namespace Target

/-- The bit of a value that a bit of a register keeps: for the receive offsets as drawn, and for every other
correction the same bit of a register of its own. -/
def bitAt? (t : Target) (r : UInt16) (i : Nat) : Option Nat :=
  match t.field with
  | .whole register => if r = register then some i else none
  | .split top bottom =>
    if r = top.register then (drawing t.chain t.correction).1[7 - i]?.join
    else if r = bottom.register then (drawing t.chain t.correction).2[7 - i]?.join
    else none

/-- The drawing is where the bits are. -/
theorem bitAt?_eq (t : Target) (r : UInt16) {i : Nat} (hi : i < 8) : t.bitAt? r i = t.field.bitAt? r i := by
  have drawn : (all.all fun t => t.field.registers.all fun r =>
      (List.range 8).all fun i => t.bitAt? r i == t.field.bitAt? r i) = true := by
    decide +kernel
  simp only [List.all_eq_true, List.mem_range, beq_iff_eq] at drawn
  by_cases own : r ∈ t.field.registers
  · exact drawn t t.mem_all r own i hi
  · unfold bitAt? Field.bitAt?
    cases place : t.field with
    | whole register =>
      simp only [place, Field.registers, List.mem_singleton] at own
      simp [own]
    | split top bottom =>
      simp only [place, Field.registers, List.mem_cons, List.not_mem_nil, or_false, not_or] at own
      simp [own]

def forceBit (t : Target) : UInt8 := Correction.forceBit t.correction t.chain t.bank

theorem forceBit_single : ∀ t : Target, ∃ i < 8, t.forceBit.toNat = 2 ^ i := by decide

/-- What a correction that is set makes of the registers: its own bits are those of its value, its force bit
is set, and all else is as before. -/
structure Sets (t : Target) (v : Int16) (before after : UInt16 → UInt8) : Prop where
  bits : ∀ r ≠ forceRegister t.direction, ∀ i < 8, (after r).toNat.testBit i =
    (t.bitAt? r i).elim ((before r).toNat.testBit i) (t.precision.encode v).testBit
  force : after (forceRegister t.direction) = before (forceRegister t.direction) ||| t.forceBit

section Write

variable (t : Target) (v : Int16) (registers : UInt16 → UInt8)

theorem write_forceRegister (d : Direction) :
    t.write v registers (forceRegister d) =
      if d = t.direction then registers (forceRegister d) ||| t.forceBit else registers (forceRegister d) := by
  have kept (e : Direction) : t.field.write (t.precision.encode v) registers (forceRegister e) =
      registers (forceRegister e) :=
    Field.write_of_notMem _ _ (forceRegister_notMem ⟨e, .phase, .first, .low⟩ t)
  by_cases own : d = t.direction
  · rw [if_pos own, own, write, Function.update_self, kept, forceBit]
  · have other : forceRegister d ≠ forceRegister t.direction := by
      revert own
      cases d <;> cases t.direction <;> decide
    rw [if_neg own, write_of_ne _ _ _ other, kept]

theorem sets_write : t.Sets v registers (t.write v registers) where
  bits r other i hi := by
    rw [write_of_ne _ _ _ other, Field.testBit_write _ _ t.field_fits r hi, bitAt?_eq t r hi]
  force := by rw [write_forceRegister, if_pos rfl]

end Write

/-! Writes in turn. -/

/-- The registers after corrections are set, the first one first. -/
def writeAll : List (Target × Int16) → (UInt16 → UInt8) → UInt16 → UInt8
  | [], registers => registers
  | (t, v) :: ws, registers => writeAll ws (t.write v registers)

/-- The force bits of the targets of a direction. -/
def forced (d : Direction) : List (Target × Int16) → UInt8
  | [] => 0
  | (t, _) :: ws => if d = t.direction then t.forceBit ||| forced d ws else forced d ws

theorem writeAll_append (ws us : List (Target × Int16)) (registers : UInt16 → UInt8) :
    writeAll (ws ++ us) registers = writeAll us (writeAll ws registers) := by
  induction ws generalizing registers with
  | nil => rfl
  | cons w ws ih => exact ih _

/-- Force bits gather. -/
theorem writeAll_forceRegister (d : Direction) (ws : List (Target × Int16)) (registers : UInt16 → UInt8) :
    writeAll ws registers (forceRegister d) = registers (forceRegister d) ||| forced d ws := by
  induction ws generalizing registers with
  | nil => exact (UInt8.or_zero).symm
  | cons w ws ih =>
    rw [writeAll, ih, write_forceRegister, forced]
    split_ifs
    · rw [UInt8.or_assoc]
    · rfl

/-- What all bits are after corrections were set: force bits have gathered, and a register or a bit with no part
in what was set is as before. -/
structure Gathers (ws : List (Target × Int16)) (before after : UInt16 → UInt8) : Prop where
  force : ∀ d, after (forceRegister d) = before (forceRegister d) ||| forced d ws
  registers : ∀ r, (∀ d, r ≠ forceRegister d) → (∀ w ∈ ws, r ∉ w.1.field.registers) → after r = before r
  bits : ∀ r, (∀ d, r ≠ forceRegister d) → ∀ i < 8, (∀ w ∈ ws, w.1.bitAt? r i = none) →
    (after r).toNat.testBit i = (before r).toNat.testBit i

/-- A bit that keeps no part of what was set is as before. -/
theorem testBit_writeAll {r : UInt16} (data : ∀ d, r ≠ forceRegister d) {i : Nat} (hi : i < 8)
    {ws : List (Target × Int16)} (foreign : ∀ w ∈ ws, w.1.bitAt? r i = none) (registers : UInt16 → UInt8) :
    (writeAll ws registers r).toNat.testBit i = (registers r).toNat.testBit i := by
  induction ws generalizing registers with
  | nil => rfl
  | cons w ws ih =>
    have first := (w.1.sets_write w.2 registers).bits r (data _) i hi
    rw [foreign w List.mem_cons_self] at first
    rw [writeAll, ih fun u later => foreign u (List.mem_cons_of_mem w later), first]
    rfl

/-- A register with no part in what was set is as before. -/
theorem writeAll_of_notMem {r : UInt16} (data : ∀ d, r ≠ forceRegister d) {ws : List (Target × Int16)}
    (foreign : ∀ w ∈ ws, r ∉ w.1.field.registers) (registers : UInt16 → UInt8) :
    writeAll ws registers r = registers r := by
  induction ws generalizing registers with
  | nil => rfl
  | cons w ws ih =>
    rw [writeAll, ih fun u later => foreign u (List.mem_cons_of_mem w later), write_of_ne _ _ _ (data _),
      Field.write_of_notMem _ _ (foreign w List.mem_cons_self)]

theorem gathers_writeAll (ws : List (Target × Int16)) (registers : UInt16 → UInt8) :
    Gathers ws registers (writeAll ws registers) where
  force d := writeAll_forceRegister d ws registers
  registers _ data foreign := writeAll_of_notMem data foreign registers
  bits _ data _ small foreign := testBit_writeAll data small foreign registers

end Target
end RadioBoard.Correction
