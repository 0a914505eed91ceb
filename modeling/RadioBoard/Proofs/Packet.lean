import Mathlib.Data.List.GetD
import RadioBoard.LittleEndian.Bound
import RadioBoard.Packet

/-!
Packets and their bytes.

The head of a packet, its address, its data and the reserved bytes lie one after the other, so a buffer is
put together from its parts as it was taken apart into them. Main statement: what is made of four fields
gives them back, and every buffer laid out in a format is made of its own fields.
-/

namespace RadioBoard.Packet

variable {f : Format}

/-- Sixteen bytes with the magic of the format and zeros in all reserved places. -/
structure LaidOut (f : Format) (bytes : List UInt8) : Prop where
  length : bytes.length = size
  magic : bytes.getD 0 0 = f.magic
  reserved : bytes.getD 3 0 = 0
  rest : ∀ i, f.dataOffset + f.dataBytes ≤ i → bytes.getD i 0 = 0

/-! A word as the bytes of its field. -/

section Words

variable {n : Nat}

theorem ofNat_decode_encode (word : BitVec (8 * n)) :
    BitVec.ofNat (8 * n) (LittleEndian.decode (LittleEndian.encode n word.toNat)) = word := by
  have bound : word.toNat < 256 ^ n := by
    have := word.isLt
    rwa [Nat.pow_mul] at this
  rw [LittleEndian.decode_encode, Nat.mod_eq_of_lt bound, BitVec.ofNat_toNat, BitVec.setWidth_eq]

theorem encode_ofNat_decode {bytes : List UInt8} (h : bytes.length = n) :
    LittleEndian.encode n (BitVec.ofNat (8 * n) (LittleEndian.decode bytes)).toNat = bytes := by
  subst h
  have bound := LittleEndian.decode_lt bytes
  rw [BitVec.toNat_ofNat, Nat.pow_mul, Nat.mod_eq_of_lt bound]
  exact LittleEndian.encode_decode bytes

end Words

/-! Head, address, data and reserved bytes in a row. -/

/-- The bytes of a packet from its parts. -/
def row (f : Format) (target flags : UInt8) (address data : List UInt8) : List UInt8 :=
  [f.magic, target, flags, 0] ++ address ++ data ++
    List.replicate (size - f.dataOffset - f.dataBytes) 0

theorem make_bytes (target flags : UInt8) (address : Address f) (data : Data f) :
    (make f target flags address data).bytes =
      row f target flags (LittleEndian.encode f.addressBytes address.toNat)
        (LittleEndian.encode f.dataBytes data.toNat) := by
  simp [make, fields, row]

section Row

variable {target flags : UInt8} {address data : List UInt8} (inAddress : address.length = f.addressBytes)
  (inData : data.length = f.dataBytes)

include inAddress

theorem address_row (p : Packet f) (h : p.bytes = row f target flags address data) :
    p.address = BitVec.ofNat _ (LittleEndian.decode address) := by
  have cut : (row f target flags address data).drop 4 =
      address ++ (data ++ List.replicate (size - f.dataOffset - f.dataBytes) 0) := by
    simp [row]
  rw [Packet.address, h, cut, List.take_left' inAddress]

theorem length_through_address : ([f.magic, target, flags, 0] ++ address).length = f.dataOffset := by
  rw [List.length_append, inAddress, Format.dataOffset]
  rfl

include inData

theorem data_row (p : Packet f) (h : p.bytes = row f target flags address data) :
    p.data = BitVec.ofNat _ (LittleEndian.decode data) := by
  have cut : (row f target flags address data).drop f.dataOffset =
      data ++ List.replicate (size - f.dataOffset - f.dataBytes) 0 := by
    rw [row, List.append_assoc _ data, List.drop_left' (length_through_address inAddress)]
  rw [Packet.data, h, cut, List.take_left' inData]

theorem row_laidOut : LaidOut f (row f target flags address data) := by
  have through : ([f.magic, target, flags, 0] ++ address ++ data).length =
      f.dataOffset + f.dataBytes := by
    rw [List.length_append, length_through_address inAddress, inData]
  refine ⟨?_, rfl, rfl, ?_⟩
  · have fits := f.fits
    rw [row, List.length_append, through, List.length_replicate, size]
    omega
  · intro i behind
    rw [row, List.getD_append_right _ _ _ _ (through.symm ▸ behind), List.getD_eq_getElem?_getD]
    exact List.getElem?_getD_replicate_default_eq _ _ _

end Row

/-- The parts of a buffer in its format, taken out and put in a row again. -/
theorem row_of_laidOut {bytes : List UInt8} (h : LaidOut f bytes) :
    row f (bytes.getD 1 0) (bytes.getD 2 0) ((bytes.drop 4).take f.addressBytes)
      ((bytes.drop f.dataOffset).take f.dataBytes) = bytes := by
  have long : bytes.length = 16 := h.length
  have head : [f.magic, bytes.getD 1 0, bytes.getD 2 0, 0] = bytes.take 4 := by
    rw [← h.magic, ← h.reserved]
    match bytes, long with
    | _ :: _ :: _ :: _ :: _, _ => rfl
  have zeros : List.replicate (size - f.dataOffset - f.dataBytes) 0 =
      bytes.drop (f.dataOffset + f.dataBytes) := by
    symm
    rw [List.eq_replicate_iff]
    refine ⟨?_, ?_⟩
    · rw [List.length_drop, long, size, Nat.sub_add_eq]
    · intro b behind
      obtain ⟨i, inside, rfl⟩ := List.getElem_of_mem behind
      rw [List.getElem_drop, ← List.getD_eq_getElem _ 0]
      exact h.rest (f.dataOffset + f.dataBytes + i) (Nat.le_add_right _ _)
  calc row f (bytes.getD 1 0) (bytes.getD 2 0) ((bytes.drop 4).take f.addressBytes)
        ((bytes.drop f.dataOffset).take f.dataBytes)
      = bytes.take 4 ++ (bytes.drop 4).take f.addressBytes ++
          (bytes.drop f.dataOffset).take f.dataBytes ++ bytes.drop (f.dataOffset + f.dataBytes) := by
        rw [row, head, zeros]
    _ = bytes.take (f.dataOffset + f.dataBytes) ++ bytes.drop (f.dataOffset + f.dataBytes) := by
        rw [← List.take_add, List.take_add (i := f.dataOffset)]
        rfl
    _ = bytes := List.take_append_drop _ _

/-! What was made gives its fields back. -/

section Made

variable (target flags : UInt8) (address : Address f) (data : Data f)

theorem make_laidOut : LaidOut f (make f target flags address data).bytes := by
  rw [make_bytes]
  exact row_laidOut (LittleEndian.encode_length _ _) (LittleEndian.encode_length _ _)

theorem address_make : (make f target flags address data).address = address := by
  rw [address_row (LittleEndian.encode_length _ _) _ (make_bytes target flags address data),
    ofNat_decode_encode]

theorem data_make : (make f target flags address data).data = data := by
  rw [data_row (LittleEndian.encode_length _ _) (LittleEndian.encode_length _ _) _
    (make_bytes target flags address data), ofNat_decode_encode]

end Made

/-! Reading bytes. -/

theorem ofBytes_of_size_le {bytes : List UInt8} (h : size ≤ bytes.length) :
    (ofBytes f bytes).bytes = bytes := by
  simp [ofBytes, Nat.sub_eq_zero_of_le h]

theorem ofBytes_bytes (p : Packet f) : ofBytes f p.bytes = p := ext (ofBytes_of_size_le p.size_le)

/-- A byte of a packet is that of the buffer, and a byte that was missing is zero. -/
theorem byte_ofBytes (f : Format) (bytes : List UInt8) (i : Nat) :
    (ofBytes f bytes).byte i = bytes.getD i 0 := by
  rw [byte, ofBytes]
  by_cases inside : i < bytes.length
  · exact List.getD_append _ _ _ _ inside
  · have beyond : bytes.length ≤ i := Nat.le_of_not_lt inside
    rw [List.getD_append_right _ _ _ _ beyond, List.getD_eq_default _ _ beyond,
      List.getD_eq_getElem?_getD]
    exact List.getElem?_getD_replicate_default_eq _ _ _

theorem data_ofBytes (f : Format) (bytes : List UInt8) :
    (ofBytes f bytes).data =
      BitVec.ofNat _ (LittleEndian.decode ((bytes.drop f.dataOffset).take f.dataBytes)) := by
  rw [data, ofBytes, List.drop_append, List.take_append, List.drop_replicate, List.take_replicate,
    LittleEndian.decode_append_zeros]

/-- A buffer in one format is in no other. -/
theorem isValid_iff {bytes : List UInt8} (h : LaidOut f bytes) (g : Format) :
    (ofBytes g bytes).isValid = true ↔ g = f := by
  have same : (ofBytes g bytes).bytes = bytes := ofBytes_of_size_le h.length.ge
  have long : bytes.length = size := h.length
  have first : (ofBytes g bytes).magic = f.magic := by
    rw [Packet.magic, byte, same, h.magic]
  simp only [isValid, same, long, first, beq_self_eq_true, Bool.true_and, beq_iff_eq]
  constructor
  · intro equal
    exact Format.magic_injective equal.symm
  · rintro rfl
    rfl

theorem make_of_laidOut {bytes : List UInt8} (h : LaidOut f bytes) :
    let p := ofBytes f bytes
    (make f p.target p.flags p.address p.data).bytes = bytes := by
  intro p
  have same : p.bytes = bytes := ofBytes_of_size_le h.length.ge
  have long : bytes.length = 16 := h.length
  have fits := f.fits
  have inAddress : ((bytes.drop 4).take f.addressBytes).length = f.addressBytes := by
    rw [List.length_take, List.length_drop, long]
    have : f.dataOffset = 4 + f.addressBytes := rfl
    omega
  have inData : ((bytes.drop f.dataOffset).take f.dataBytes).length = f.dataBytes := by
    rw [List.length_take, List.length_drop, long]
    omega
  rw [make_bytes, Packet.address, Packet.data, same, encode_ofNat_decode inAddress,
    encode_ofNat_decode inData, Packet.target, Packet.flags, byte, byte, same]
  exact row_of_laidOut h

/-! Setting the fields in place. -/

/-- A part written where only zeros follow takes the place of the first of them. -/
theorem overwrite_zeros (before part : List UInt8) (n : Nat) :
    overwrite (before ++ List.replicate n 0) before.length part =
      before ++ part ++ List.replicate (n - part.length) 0 := by
  rw [overwrite, List.take_left, List.drop_append, List.drop_eq_nil_of_le (Nat.le_add_right _ _),
    List.nil_append, Nat.add_sub_cancel_left, List.drop_replicate]

theorem cleared_eq (p : Packet f) : p.cleared = List.replicate size 0 := by
  rw [List.eq_replicate_iff]
  refine ⟨p.cleared_length, ?_⟩
  intro b inside
  rw [cleared, List.mem_map] at inside
  obtain ⟨_, _, rfl⟩ := inside
  rfl

theorem fieldsInPlace_zeros (target flags : UInt8) (address : Address f) (data : Data f) :
    fieldsInPlace f (List.replicate size 0) target flags address data =
      row f target flags (LittleEndian.encode f.addressBytes address.toNat)
        (LittleEndian.encode f.dataBytes data.toNat) := by
  have inAddress := LittleEndian.encode_length f.addressBytes address.toNat
  have inData := LittleEndian.encode_length f.dataBytes data.toNat
  have headed := overwrite_zeros [] [f.magic, target, flags, 0] size
  have addressed := overwrite_zeros [f.magic, target, flags, 0]
    (LittleEndian.encode f.addressBytes address.toNat) (size - 4)
  have filled := overwrite_zeros
    ([f.magic, target, flags, 0] ++ LittleEndian.encode f.addressBytes address.toNat)
    (LittleEndian.encode f.dataBytes data.toNat) (size - f.dataOffset)
  rw [inAddress, Nat.sub_sub] at addressed
  rw [length_through_address inAddress, inData] at filled
  simp only [List.nil_append, List.length_nil, List.length_cons, Nat.zero_add, Nat.reduceAdd] at headed addressed
  simp only [fieldsInPlace]
  rw [headed, addressed]
  exact filled

theorem set_eq_make (p : Packet f) (target flags : UInt8) (address : Address f) (data : Data f) :
    p.set target flags address data = make f target flags address data := by
  apply ext
  rw [make_bytes, ← fieldsInPlace_zeros, ← cleared_eq p]
  rfl

/-- Four fields come back from the packet that is made of them, and from its bytes in this format and in
no other. Whatever a packet held before, setting the fields makes the same packet. A buffer is made of its
own fields exactly if it is laid out in the format. -/
theorem round_trip (f : Format) (target flags : UInt8) (address : Address f) (data : Data f) :
    let made := make f target flags address data
    LaidOut f made.bytes ∧
    (made.target, made.flags, made.address, made.data) = (target, flags, address, data) ∧
    ofBytes f made.bytes = made ∧
    (∀ g, (ofBytes g made.bytes).isValid = true ↔ g = f) ∧
    (∀ stale, ((ofBytes f stale).set target flags address data).bytes = made.bytes) ∧
    ∀ bytes, LaidOut f bytes ↔
      (make f (ofBytes f bytes).target (ofBytes f bytes).flags (ofBytes f bytes).address
        (ofBytes f bytes).data).bytes = bytes := by
  have laidOut := make_laidOut target flags address data
  refine ⟨laidOut, ?_, ofBytes_bytes _, isValid_iff laidOut, ?_, ?_⟩
  · rw [address_make, data_make]
    rfl
  · intro stale
    rw [set_eq_make]
  · intro bytes
    constructor
    · exact make_of_laidOut
    · intro rebuilt
      rw [← rebuilt]
      exact make_laidOut _ _ _ _

end RadioBoard.Packet
