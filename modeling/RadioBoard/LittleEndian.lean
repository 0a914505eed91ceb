/-!
Numbers as bytes, the least significant byte first.
-/

namespace RadioBoard.LittleEndian

/-- The lowest `n` bytes of a number. -/
def encode : Nat → Nat → List UInt8
  | 0, _ => []
  | n + 1, value => UInt8.ofNat value :: encode n (value / 256)

def decode : List UInt8 → Nat
  | [] => 0
  | b :: bytes => b.toNat + 256 * decode bytes

@[simp] theorem encode_length (n value : Nat) : (encode n value).length = n := by
  induction n generalizing value with
  | zero => rfl
  | succ n ih => simp [encode, ih]

theorem encode_decode (bytes : List UInt8) : encode bytes.length (decode bytes) = bytes := by
  induction bytes with
  | nil => rfl
  | cons b bytes ih =>
    have hb := b.toNat_lt
    rw [List.length_cons, decode, encode]
    have low : UInt8.ofNat (b.toNat + 256 * decode bytes) = b := by
      apply UInt8.toNat_inj.1
      simp only [UInt8.toNat_ofNat']
      omega
    have high : (b.toNat + 256 * decode bytes) / 256 = decode bytes := by omega
    rw [low, high, ih]

theorem decode_replicate_zero (n : Nat) : decode (List.replicate n 0) = 0 := by
  induction n with
  | zero => rfl
  | succ n ih =>
    rw [List.replicate_succ, decode, ih]
    rfl

/-- Zeros at the far end add nothing to a number. -/
theorem decode_append_zeros (bytes : List UInt8) (n : Nat) :
    decode (bytes ++ List.replicate n 0) = decode bytes := by
  induction bytes with
  | nil => exact decode_replicate_zero n
  | cons b bytes ih => rw [List.cons_append, decode, ih, decode]

end RadioBoard.LittleEndian
