import Mathlib.Tactic.IntervalCases
import RadioBoard.FrontEnd

/-!
The control register of the front end, bit by bit.

Enabling, disabling and switching are described by what they do to each bit. From that: each of them
changes what it is named for in its own direction, and neither the other direction nor a bit outside of
the enable bits and the switch positions.
-/

namespace RadioBoard
namespace FrontEnd

def bit (r : UInt32) (i : Nat) : Bool := r.toBitVec.getLsbD i

def enableAt : Direction → Nat
  | .rx => 1
  | .tx => 2

def switchAt : Direction → Nat
  | .rx => 6
  | .tx => 11

/-- The bits that have a meaning. -/
def used : UInt32 := bothEnabled ||| switchMask <<< switchShift .rx ||| switchMask <<< switchShift .tx

theorem eq_of_bits {r s : UInt32} (h : ∀ i < 32, bit r i = bit s i) : r = s := by
  apply UInt32.toBitVec_inj.mp
  exact BitVec.eq_of_getLsbD_eq h

theorem bit_enable (r : UInt32) (d : Direction) {i : Nat} (h : i < 32) :
    bit (enable r d) i = (bit r i || i == enableAt d) := by
  cases d
  all_goals
    simp only [bit, enable, enableBit, enableAt]
    interval_cases i <;> simp

theorem bit_disable (r : UInt32) (d : Direction) {i : Nat} (h : i < 32) :
    bit (disable r d) i = (bit r i && i != enableAt d) := by
  cases d
  all_goals
    simp only [bit, disable, enableBit, enableAt]
    interval_cases i <;> simp

private theorem bit_of_lt {p : UInt32} (hp : p < 16) {i : Nat} (h : i < 32) (hi : 4 ≤ i) :
    p.toBitVec[i] = false := by
  have small : p.toBitVec.toNat < 2 ^ 4 := hp
  have power : 2 ^ 4 ≤ 2 ^ i := Nat.pow_le_pow_right (by decide) hi
  exact Nat.testBit_lt_two_pow (Nat.lt_of_lt_of_le small power)

theorem bit_withSwitch (r : UInt32) (d : Direction) {p : UInt32} (hp : p < 16) {i : Nat} (h : i < 32) :
    bit (withSwitch r d p) i =
      if switchAt d ≤ i ∧ i < switchAt d + 4 then bit p (i - switchAt d) else bit r i := by
  have above := @bit_of_lt p hp
  cases d
  all_goals
    simp only [bit, withSwitch, switchMask, switchShift, switchAt]
    interval_cases i <;> simp [above]

theorem bit_switch (r : UInt32) (d : Direction) {i : Nat} (h : i < 32) :
    bit (switch r d) i = (decide (i < 4) && bit r (switchAt d + i)) := by
  cases d
  all_goals
    simp only [bit, switch, switchMask, switchShift, switchAt]
    interval_cases i <;> simp

theorem isEnabled_eq_bit (r : UInt32) (d : Direction) : isEnabled r d = bit r (enableAt d) := by
  have low (x : UInt32) : (x &&& 1 == 1) = bit x 0 := by
    have cut : x &&& 1 = if bit x 0 then 1 else 0 := by
      apply eq_of_bits
      intro i h
      cases hx : bit x 0
      all_goals
        simp only [bit] at hx ⊢
        interval_cases i <;> simp_all
    rw [cut]
    cases bit x 0 <;> rfl
  rw [isEnabled, low]
  cases d <;> simp [bit, enableBit, enableAt]

/-! Enabling and disabling. -/

theorem enableAt_lt (d : Direction) : enableAt d < 32 := by cases d <;> decide

theorem isEnabled_enable (r : UInt32) (d e : Direction) :
    isEnabled (enable r d) e = (isEnabled r e || e == d) := by
  rw [isEnabled_eq_bit, isEnabled_eq_bit, bit_enable r d (enableAt_lt e)]
  cases d <;> cases e <;> rfl

theorem isEnabled_disable (r : UInt32) (d e : Direction) :
    isEnabled (disable r d) e = (isEnabled r e && e != d) := by
  rw [isEnabled_eq_bit, isEnabled_eq_bit, bit_disable r d (enableAt_lt e)]
  cases d <;> cases e <;> rfl

theorem isEnabled_withSwitch (r : UInt32) (d e : Direction) {p : UInt32} (hp : p < 16) :
    isEnabled (withSwitch r d p) e = isEnabled r e := by
  rw [isEnabled_eq_bit, isEnabled_eq_bit, bit_withSwitch r d hp (enableAt_lt e)]
  cases d <;> cases e <;> rfl

/-! The antenna switches. -/

theorem switchAt_add_lt (d : Direction) {i : Nat} (h : i < 4) : switchAt d + i < 32 := by
  cases d <;> simp only [switchAt] <;> omega

theorem enableAt_lt_switchAt (d e : Direction) : enableAt d < switchAt e := by
  cases d <;> cases e <;> decide

/-- A switch position is as its four bits are. -/
theorem switch_congr {r s : UInt32} {d : Direction}
    (h : ∀ i < 4, bit r (switchAt d + i) = bit s (switchAt d + i)) : switch r d = switch s d := by
  apply eq_of_bits
  intro i hi
  rw [bit_switch r d hi, bit_switch s d hi]
  by_cases low : i < 4
  · rw [h i low]
  · simp [low]

theorem switch_enable (r : UInt32) (d e : Direction) : switch (enable r d) e = switch r e := by
  apply switch_congr
  intro i hi
  have apart : switchAt e + i ≠ enableAt d := by
    have := enableAt_lt_switchAt d e
    omega
  rw [bit_enable r d (switchAt_add_lt e hi)]
  simp [apart]

theorem switch_disable (r : UInt32) (d e : Direction) : switch (disable r d) e = switch r e := by
  apply switch_congr
  intro i hi
  have apart : switchAt e + i ≠ enableAt d := by
    have := enableAt_lt_switchAt d e
    omega
  rw [bit_disable r d (switchAt_add_lt e hi)]
  simp [apart]

theorem switch_withSwitch_self (r : UInt32) (d : Direction) {p : UInt32} (hp : p < 16) :
    switch (withSwitch r d p) d = p := by
  apply eq_of_bits
  intro i hi
  rw [bit_switch _ d hi]
  by_cases low : i < 4
  · rw [bit_withSwitch r d hp (switchAt_add_lt d low)]
    simp [low]
  · have above : bit p i = false := bit_of_lt hp hi (by omega)
    simp [low, above]

theorem switch_withSwitch_of_ne (r : UInt32) {d e : Direction} (h : e ≠ d) {p : UInt32} (hp : p < 16) :
    switch (withSwitch r d p) e = switch r e := by
  apply switch_congr
  intro i hi
  have outside : ¬(switchAt d ≤ switchAt e + i ∧ switchAt e + i < switchAt d + 4) := by
    cases d <;> cases e <;> simp only [switchAt, ne_eq, not_true_eq_false] at h ⊢ <;> omega
  rw [bit_withSwitch r d hp (switchAt_add_lt e hi), if_neg outside]

/-! The bits without a meaning. -/

theorem bit_unused (r : UInt32) {i : Nat} (h : i < 32) : bit (r &&& ~~~used) i = (bit r i && !bit used i) := by
  simp [bit, h]

theorem used_enableAt (d : Direction) : bit used (enableAt d) = true := by cases d <;> rfl

theorem used_switchAt (d : Direction) : ∀ j < 4, bit used (switchAt d + j) = true := by cases d <;> decide

theorem unused_enable (r : UInt32) (d : Direction) : enable r d &&& ~~~used = r &&& ~~~used := by
  apply eq_of_bits
  intro i hi
  rw [bit_unused _ hi, bit_unused _ hi, bit_enable r d hi]
  by_cases there : i = enableAt d
  · subst there
    simp [used_enableAt]
  · have apart : (i == enableAt d) = false := beq_false_of_ne there
    simp [apart]

theorem unused_disable (r : UInt32) (d : Direction) : disable r d &&& ~~~used = r &&& ~~~used := by
  apply eq_of_bits
  intro i hi
  rw [bit_unused _ hi, bit_unused _ hi, bit_disable r d hi]
  by_cases there : i = enableAt d
  · subst there
    simp [used_enableAt]
  · have apart : (i == enableAt d) = false := beq_false_of_ne there
    simp [bne, apart]

theorem unused_withSwitch (r : UInt32) (d : Direction) {p : UInt32} (hp : p < 16) :
    withSwitch r d p &&& ~~~used = r &&& ~~~used := by
  apply eq_of_bits
  intro i hi
  rw [bit_unused _ hi, bit_unused _ hi, bit_withSwitch r d hp hi]
  by_cases inside : switchAt d ≤ i ∧ i < switchAt d + 4
  · have place : switchAt d + (i - switchAt d) = i := by omega
    have meant := used_switchAt d (i - switchAt d) (by omega)
    rw [place] at meant
    simp [meant]
  · rw [if_neg inside]

/-- Every bit that has a meaning enables a direction or belongs to a switch. -/
theorem used_cases : ∀ i < 32, bit used i = true →
    (i = enableAt .rx ∨ i = enableAt .tx) ∨
      (switchAt .rx ≤ i ∧ i < switchAt .rx + 4) ∨ (switchAt .tx ≤ i ∧ i < switchAt .tx + 4) := by
  decide

/-- The register is no more than what its parts are. -/
theorem eq_of_parts {r s : UInt32} (enabled : ∀ d, isEnabled r d = isEnabled s d)
    (switches : ∀ d, switch r d = switch s d) (unused : r &&& ~~~used = s &&& ~~~used) : r = s := by
  have enables (d : Direction) : bit r (enableAt d) = bit s (enableAt d) := by
    rw [← isEnabled_eq_bit, ← isEnabled_eq_bit, enabled]
  have positions (d : Direction) {i : Nat} (h : switchAt d ≤ i ∧ i < switchAt d + 4) : bit r i = bit s i := by
    have place : switchAt d + (i - switchAt d) = i := by omega
    have low : i - switchAt d < 4 := by omega
    have same : bit (switch r d) (i - switchAt d) = bit (switch s d) (i - switchAt d) := by rw [switches]
    rw [bit_switch r d (by omega), bit_switch s d (by omega), place] at same
    simpa [low] using same
  apply eq_of_bits
  intro i hi
  cases meant : bit used i with
  | true =>
    obtain (rfl | rfl) | inside | inside := used_cases i hi meant
    · exact enables .rx
    · exact enables .tx
    · exact positions .rx inside
    · exact positions .tx inside
  | false =>
    have same : bit (r &&& ~~~used) i = bit (s &&& ~~~used) i := by rw [unused]
    rw [bit_unused r hi, bit_unused s hi, meant] at same
    simpa using same

/-! Turning a direction on or off. -/

def turn (r : UInt32) (d : Direction) (on : Bool) : UInt32 := if on then enable r d else disable r d

theorem isEnabled_turn (r : UInt32) (d e : Direction) (on : Bool) :
    isEnabled (turn r d on) e = if e = d then on else isEnabled r e := by
  cases on
  · rw [turn, if_neg Bool.false_ne_true, isEnabled_disable]
    by_cases same : e = d <;> simp [same]
  · rw [turn, if_pos rfl, isEnabled_enable]
    by_cases same : e = d <;> simp [same]

theorem switch_turn (r : UInt32) (d e : Direction) (on : Bool) : switch (turn r d on) e = switch r e := by
  cases on
  · exact switch_disable r d e
  · exact switch_enable r d e

theorem unused_turn (r : UInt32) (d : Direction) (on : Bool) :
    turn r d on &&& ~~~used = r &&& ~~~used := by
  cases on
  · exact unused_disable r d
  · exact unused_enable r d

/-- What a direction is already, it need not be turned. -/
theorem turn_isEnabled (r : UInt32) (d : Direction) : turn r d (isEnabled r d) = r := by
  apply eq_of_bits
  intro i hi
  have present := isEnabled_eq_bit r d
  cases on : isEnabled r d with
  | true =>
    rw [turn, if_pos rfl, bit_enable r d hi]
    by_cases there : i = enableAt d
    · simp [there, ← present, on]
    · simp [there]
  | false =>
    rw [turn, if_neg Bool.false_ne_true, bit_disable r d hi]
    by_cases there : i = enableAt d
    · simp [there, ← present, on]
    · simp [there]

theorem isEnabled_zero (d : Direction) : isEnabled 0 d = false := by cases d <;> decide

end FrontEnd

theorem SignalPath.inUse_false (d : Direction) (hz : UInt64) :
    SignalPath.inUse d false hz = SignalPath.ofBand d .shutdown := by
  simp [SignalPath.inUse, Band.inUse]

/-- A path's switch position fits the four bits of its switch. -/
theorem SignalPath.switch_lt (d : Direction) (enabled : Bool) (hz : UInt64) :
    (SignalPath.inUse d enabled hz).switch < 16 := by
  rw [SignalPath.inUse]
  cases d <;> cases Band.inUse _ enabled hz <;> decide

/-- Where nothing is enabled, choosing a band disconnects what is disconnected. -/
theorem FrontEnd.withSwitch_zero (d : Direction) (hz : UInt64) :
    withSwitch 0 d (SignalPath.inUse d (isEnabled 0 d) hz).switch = 0 := by
  rw [isEnabled_zero, SignalPath.inUse_false]
  cases d <;> decide

end RadioBoard
