import Mathlib.Algebra.Order.Ring.Nat
import RadioBoard.LittleEndian

/-!
How large the numbers in so many bytes are. Main statement: `n` bytes keep a number up to multiples of
`256 ^ n`.
-/

namespace RadioBoard.LittleEndian

theorem decode_encode (n value : Nat) : decode (encode n value) = value % 256 ^ n := by
  induction n generalizing value with
  | zero => simp [encode, decode, Nat.mod_one]
  | succ n ih =>
    rw [encode, decode, ih, Nat.pow_succ', Nat.mod_mul]
    simp

theorem decode_lt (bytes : List UInt8) : decode bytes < 256 ^ bytes.length := by
  induction bytes with
  | nil => simp [decode]
  | cons b bytes ih =>
    have hb := b.toNat_lt
    rw [decode, List.length_cons, Nat.pow_succ']
    omega

end RadioBoard.LittleEndian
