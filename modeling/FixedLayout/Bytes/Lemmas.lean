import FixedLayout.Bytes
import Mathlib.Algebra.Group.Nat.Defs

/-!
Writing a number into bytes and reading it back undo each other, as far as the number fits:
`value_littleEndian` and `littleEndian_value`. Writing over a range changes its bytes and no others.
-/
namespace FixedLayout.Bytes

theorem value_lt (bytes : Bytes) : value bytes < 256 ^ bytes.length := by
  induction bytes with
  | nil => simp [value]
  | cons byte rest ih =>
    have := byte.toNat_lt
    simp only [value, List.length_cons, Nat.pow_succ]
    omega

theorem value_littleEndian (width n : Nat) : value (littleEndian width n) = n % 256 ^ width := by
  induction width generalizing n with
  | zero => simp [littleEndian, value, Nat.mod_one]
  | succ width ih =>
    have digits : n % 256 ^ (width + 1) = n % 256 + 256 * (n / 256 % 256 ^ width) := by
      rw [Nat.pow_succ', Nat.mod_mul]
    rw [littleEndian, value, ih, UInt8.toNat_ofNat', digits]

theorem littleEndian_value (bytes : Bytes) : littleEndian bytes.length (value bytes) = bytes := by
  induction bytes with
  | nil => rfl
  | cons byte rest ih =>
    have bound := byte.toNat_lt
    have low : UInt8.ofNat (byte.toNat + 256 * value rest) = byte := by
      apply UInt8.toNat_inj.mp
      rw [UInt8.toNat_ofNat']
      omega
    have high : (byte.toNat + 256 * value rest) / 256 = value rest := by omega
    simp only [List.length_cons, value, littleEndian, low, high, ih]

theorem getElem?_littleEndian {width k : Nat} (n : Nat) (small : k < width) :
    (littleEndian width n)[k]? = some (UInt8.ofNat (n / 256 ^ k)) := by
  induction width generalizing n k with
  | zero => exact absurd small (Nat.not_lt_zero k)
  | succ width ih =>
    cases k with
    | zero => rw [Nat.pow_zero, Nat.div_one, littleEndian, List.getElem?_cons_zero]
    | succ k =>
      rw [littleEndian, List.getElem?_cons_succ, ih (n / 256) (Nat.lt_of_succ_lt_succ small),
        Nat.div_div_eq_div_mul, Nat.pow_succ']

variable {bytes patch : Bytes} {start size : Nat}

theorem slice?_of_le (inside : start + size ≤ bytes.length) :
    bytes.slice? start size = some ((bytes.drop start).take size) := if_pos inside

theorem slice?_append (front middle back : Bytes) :
    (front ++ middle ++ back).slice? front.length middle.length = some middle := by
  have inside : front.length + middle.length ≤ (front ++ middle ++ back).length := by
    simp only [List.length_append]
    omega
  rw [slice?, if_pos inside, List.append_assoc, List.drop_left, List.take_left]

theorem length_take_drop (inside : start + size ≤ bytes.length) :
    ((bytes.drop start).take size).length = size := by
  rw [List.length_take, List.length_drop]
  omega

theorem overwrite_zeros (start : Nat) (patch : Bytes) :
    (zeros (start + patch.length)).overwrite start patch = zeros start ++ patch := by
  rw [overwrite, zeros, zeros, List.take_replicate, List.drop_replicate, Nat.sub_self,
    Nat.min_eq_left (Nat.le_add_right ..), List.replicate_zero, List.append_nil]

theorem length_overwrite (inside : start + patch.length ≤ bytes.length) :
    (bytes.overwrite start patch).length = bytes.length := by
  simp only [overwrite, List.length_append, List.length_take, List.length_drop]
  omega

/-- Within the patch the new bytes are found, and the old ones everywhere else. -/
theorem getElem?_overwrite (inside : start + patch.length ≤ bytes.length) (index : Nat) :
    (bytes.overwrite start patch)[index]? =
      if start ≤ index ∧ index < start + patch.length then patch[index - start]?
      else bytes[index]? := by
  have front : (bytes.take start).length = start := by
    rw [List.length_take]
    omega
  by_cases below : index < start
  · rw [if_neg (by omega), overwrite, List.append_assoc,
      List.getElem?_append_left (front.symm ▸ below), List.getElem?_take_of_lt below]
  · rw [overwrite, List.append_assoc, List.getElem?_append_right (by omega), front]
    by_cases patched : index < start + patch.length
    · rw [if_pos (by omega), List.getElem?_append_left (by omega)]
    · rw [if_neg (by omega), List.getElem?_append_right (by omega), List.getElem?_drop]
      congr 1
      omega

theorem overwrite_nil (bytes : Bytes) (start : Nat) : bytes.overwrite start [] = bytes := by
  simp [overwrite]

/-- Writing a string is writing its first byte and then the others behind it. -/
theorem overwrite_cons {byte : UInt8} (inside : start + (patch.length + 1) ≤ bytes.length) :
    bytes.overwrite start (byte :: patch) = overwrite (bytes.set start byte) (start + 1) patch := by
  have below : (bytes.set start byte).take (start + 1) = bytes.take start ++ [byte] := by
    rw [List.set_eq_take_append_cons_drop, if_pos (by omega), List.append_cons]
    apply List.take_left'
    simp only [List.length_append, List.length_take_of_le (by omega : start ≤ bytes.length),
      List.length_singleton]
  have above : (bytes.set start byte).drop (start + 1 + patch.length) =
      bytes.drop (start + (patch.length + 1)) := by
    rw [List.drop_set, if_pos (by omega), Nat.add_right_comm, Nat.add_assoc]
  simp only [overwrite, below, above, List.length_cons, List.append_assoc, List.singleton_append]

/-- Writing back what is there changes nothing. -/
theorem overwrite_slice (inside : start + size ≤ bytes.length) :
    bytes.overwrite start ((bytes.drop start).take size) = bytes := by
  rw [overwrite, length_take_drop inside, ← List.drop_drop, List.append_assoc,
    List.take_append_drop, List.take_append_drop]

/-- Two ranges without a byte in common. -/
def Apart (start size other width : Nat) : Prop := start + size ≤ other ∨ other + width ≤ start

variable {other width : Nat} {another : Bytes}

theorem slice_overwrite (inside : start + patch.length ≤ bytes.length) :
    ((bytes.overwrite start patch).drop start).take patch.length = patch := by
  have front : (bytes.take start).length = start := List.length_take_of_le (by omega)
  rw [overwrite, List.append_assoc, List.drop_left' front, List.take_left]

theorem slice_overwrite_of_apart (inside : start + patch.length ≤ bytes.length)
    (apart : Apart start patch.length other width) :
    ((bytes.overwrite start patch).drop other).take width = (bytes.drop other).take width := by
  apply List.ext_getElem?
  intro k
  by_cases within : k < width
  · have outside : ¬ (start ≤ other + k ∧ other + k < start + patch.length) := by
      simp only [Apart] at apart
      omega
    simp only [List.getElem?_take_of_lt within, List.getElem?_drop, getElem?_overwrite inside,
      if_neg outside]
  · simp only [List.getElem?_take, if_neg within]

/-- Of two writes to ranges apart either one may come first. -/
theorem overwrite_comm (inside : start + patch.length ≤ bytes.length)
    (fits : other + another.length ≤ bytes.length)
    (apart : Apart start patch.length other another.length) :
    (bytes.overwrite start patch).overwrite other another =
      (bytes.overwrite other another).overwrite start patch := by
  have room : other + another.length ≤ (bytes.overwrite start patch).length := by
    rwa [length_overwrite inside]
  have left : start + patch.length ≤ (bytes.overwrite other another).length := by
    rwa [length_overwrite fits]
  apply List.ext_getElem?
  intro index
  simp only [getElem?_overwrite, inside, fits, room, left]
  by_cases patched : start ≤ index ∧ index < start + patch.length
  · have outside : ¬ (other ≤ index ∧ index < other + another.length) := by
      simp only [Apart] at apart
      omega
    simp only [if_pos patched, if_neg outside]
  · simp only [if_neg patched]

end FixedLayout.Bytes
