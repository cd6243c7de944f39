import FixedLayout.Fault
import FixedLayout.Scalar
import FixedLayout.Word

/-!
Scalars at byte positions. The checked accessors look at the range first and answer with an error;
the unchecked ones fault.
-/
namespace FixedLayout

/-- Whether `size` bytes at `position` lie in a buffer of `length` bytes. -/
def checkRange (length position size : Nat) : Except BufferError Unit :=
  match Word.add? position size with
  | some stop => if stop ≤ length then .ok () else .error (.outOfBounds position size length)
  | none => .error (.outOfBounds position size length)

namespace ScalarType
variable (type : ScalarType)

def readAt (buffer : Bytes) (position : Nat) : Except Fault type.Value := do
  let _ ← Fault.overflow.orElse (Word.add? position type.size)
  let bytes ← Fault.outOfRange.orElse (buffer.slice? position type.size)
  return type.decode bytes

/-- The buffer with a scalar written at `position`. -/
def writeAt (buffer : Bytes) (position : Nat) (value : type.Value) : Except Fault Bytes := do
  let _ ← Fault.overflow.orElse (Word.add? position type.size)
  let _ ← Fault.outOfRange.orElse (buffer.slice? position type.size)
  return buffer.overwrite position (type.encode value)

def tryReadAt (buffer : Bytes) (position : Nat) : Except BufferError type.Value := do
  checkRange buffer.length position type.size
  return type.decode (buffer.drop position)

/-- The buffer with a scalar written at `position`, if there is room for it. -/
def tryWriteAt (buffer : Bytes) (position : Nat) (value : type.Value) :
    Except BufferError Bytes := do
  checkRange buffer.length position type.size
  return buffer.overwrite position (type.encode value)

end ScalarType
end FixedLayout
