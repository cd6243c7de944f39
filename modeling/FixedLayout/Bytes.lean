/-!
Byte strings, and natural numbers written in them with the least significant byte first.
-/
namespace FixedLayout

/-- A byte string, lowest address first. -/
abbrev Bytes := List UInt8

namespace Bytes

/-- The `width` lowest base-256 digits of `n`, least significant first. -/
def littleEndian : (width n : Nat) → Bytes
  | 0, _ => []
  | width + 1, n => UInt8.ofNat n :: littleEndian width (n / 256)

/-- The number that a byte string spells, least significant byte first. -/
def value : Bytes → Nat
  | [] => 0
  | byte :: rest => byte.toNat + 256 * value rest

/-- The `size` bytes from `start` on, when the string has them. -/
def slice? (bytes : Bytes) (start size : Nat) : Option Bytes :=
  if start + size ≤ bytes.length then some ((bytes.drop start).take size) else none

/-- The string with `patch` written over the bytes from `start` on. -/
def overwrite (bytes : Bytes) (start : Nat) (patch : Bytes) : Bytes :=
  bytes.take start ++ patch ++ bytes.drop (start + patch.length)

def zeros (count : Nat) : Bytes := List.replicate count 0

@[simp] theorem length_littleEndian (width n : Nat) : (littleEndian width n).length = width := by
  induction width generalizing n with
  | zero => rfl
  | succ width ih => simp [littleEndian, ih]

@[simp] theorem length_zeros (count : Nat) : (zeros count).length = count := by
  simp [zeros]

end Bytes
end FixedLayout
