import FixedLayout.Bytes.Lemmas
import FixedLayout.Scalar

/-!
The bytes of a scalar carry exactly its bit pattern: `decode_encode` and `encode_decode`.
-/
namespace FixedLayout.ScalarType

variable (type : ScalarType)

theorem decode_encode_append (value : type.Value) (rest : Bytes) :
    type.decode (type.encode value ++ rest) = value := by
  have bound : value.toNat < 256 ^ type.size := by
    have := value.isLt
    rwa [Nat.pow_mul] at this
  rw [decode, List.take_left' (length_encode ..), encode, Bytes.value_littleEndian,
    Nat.mod_eq_of_lt bound, BitVec.ofNat_toNat, BitVec.setWidth_eq]

theorem decode_encode (value : type.Value) : type.decode (type.encode value) = value := by
  simpa using type.decode_encode_append value []

theorem decode_take (bytes : Bytes) : type.decode (bytes.take type.size) = type.decode bytes := by
  rw [decode, decode, List.take_take, Nat.min_self]

/-- The bytes of a value are the digits of its bit pattern. -/
theorem getElem?_encode (value : type.Value) {k : Nat} (small : k < type.size) :
    (type.encode value)[k]? = some (UInt8.ofNat (value.toNat / 256 ^ k)) :=
  Bytes.getElem?_littleEndian value.toNat small

theorem encode_decode {bytes : Bytes} (long : type.size ≤ bytes.length) :
    type.encode (type.decode bytes) = bytes.take type.size := by
  have length : (bytes.take type.size).length = type.size := by simp [long]
  have bound := Bytes.value_lt (bytes.take type.size)
  rw [length] at bound
  have power : 2 ^ (8 * type.size) = 256 ^ type.size := Nat.pow_mul ..
  rw [encode, decode, BitVec.toNat_ofNat, power, Nat.mod_eq_of_lt bound]
  simpa only [length] using Bytes.littleEndian_value (bytes.take type.size)

end FixedLayout.ScalarType
