import FixedLayout.Bytes

/-!
The ten scalar types and their encoding. A value is a bit pattern, so that NaN payloads and the
sign of zero are kept.
-/
namespace FixedLayout

/-- A fixed-width number type. -/
inductive ScalarType where
  | uint8 | int8 | uint16 | int16 | uint32 | int32 | uint64 | int64 | float32 | float64
  deriving DecidableEq, Repr

namespace ScalarType

def size : ScalarType → Nat
  | uint8 | int8 => 1
  | uint16 | int16 => 2
  | uint32 | int32 | float32 => 4
  | uint64 | int64 | float64 => 8

/-- The bit patterns of a type: two's complement for signed integers, IEEE 754 for floats. -/
abbrev Value (type : ScalarType) := BitVec (8 * type.size)

variable (type : ScalarType)

def encode (value : type.Value) : Bytes :=
  Bytes.littleEndian type.size value.toNat

/-- The value in the first bytes of a string. -/
def decode (bytes : Bytes) : type.Value :=
  BitVec.ofNat _ (Bytes.value (bytes.take type.size))

@[simp] theorem length_encode (value : type.Value) : (type.encode value).length = type.size :=
  Bytes.length_littleEndian ..

end ScalarType
end FixedLayout
