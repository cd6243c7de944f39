import FixedLayout.Access.Lemmas
import Mathlib.Algebra.Order.Ring.Int

/-!
Scalars stored in a buffer. A write puts the base-256 digits of a bit pattern into its range and
keeps every other byte; `ScalarType.Stored` says so without the encoding, and leaves one buffer
only. Reading undoes writing and writing undoes reading, for any bit pattern and any bytes.
-/
namespace FixedLayout

namespace ScalarType

/-- Whether the numbers of a type have a sign. A float counts as the number of its bits. -/
def signed : ScalarType → Bool
  | int8 | int16 | int32 | int64 => true
  | uint8 | uint16 | uint32 | uint64 | float32 | float64 => false

variable (type : ScalarType) (buffer : Bytes) (position : Nat)

/-- The integer that a bit pattern stands for, in two's complement where the type has a sign. -/
def integer (value : type.Value) : Int :=
  if type.signed then value.toInt else value.toNat

/-- What becomes of a buffer when a value is stored in it: digit by digit, least significant first,
and nothing else. -/
structure Stored (value : type.Value) (after : Bytes) : Prop where
  length : after.length = buffer.length
  digits : ∀ i < type.size, ∃ byte, after[position + i]? = some byte ∧
    byte.toNat = value.toNat / 256 ^ i % 256
  frame : ∀ index, ¬ (position ≤ index ∧ index < position + type.size) →
    after[index]? = buffer[index]?

theorem toNat_eq_integer_emod (value : type.Value) :
    (value.toNat : Int) = type.integer value % 2 ^ (8 * type.size) := by
  have bound : (value.toNat : Int) < 2 ^ (8 * type.size) := by exact_mod_cast value.isLt
  have reduced : (value.toNat : Int) % 2 ^ (8 * type.size) = value.toNat :=
    Int.emod_eq_of_lt (Int.natCast_nonneg _) bound
  rw [integer]
  by_cases sign : type.signed
  · rw [if_pos sign, BitVec.toInt_eq_toNat_bmod]
    have whole := Int.bmod_emod (x := value.toNat) (m := 2 ^ (8 * type.size))
    push_cast at whole
    rw [whole, reduced]
  · rw [if_neg sign, reduced]

variable {type buffer position} {after : Bytes} {value : type.Value}

theorem stored_overwrite (inside : position + type.size ≤ buffer.length) (value : type.Value) :
    type.Stored buffer position value (buffer.overwrite position (type.encode value)) := by
  rw [← type.length_encode value] at inside
  constructor
  · exact Bytes.length_overwrite inside
  · intro i small
    refine ⟨_, ?_, UInt8.toNat_ofNat'⟩
    rw [Bytes.getElem?_overwrite inside, type.length_encode, if_pos (by omega),
      Nat.add_sub_cancel_left, type.getElem?_encode value small]
  · intro index outside
    rw [Bytes.getElem?_overwrite inside, type.length_encode, if_neg outside]

theorem Stored.unique {first second : Bytes} (stored : type.Stored buffer position value first)
    (same : type.Stored buffer position value second) : first = second := by
  apply List.ext_getElem?
  intro index
  by_cases covered : position ≤ index ∧ index < position + type.size
  · obtain ⟨i, rfl⟩ := Nat.exists_eq_add_of_le covered.1
    have small : i < type.size := Nat.lt_of_add_lt_add_left covered.2
    obtain ⟨byte, found, digit⟩ := stored.digits i small
    obtain ⟨other, present, equal⟩ := same.digits i small
    rw [found, present, UInt8.toNat_inj.mp (digit.trans equal.symm)]
  · rw [stored.frame index covered, same.frame index covered]

section
variable (small : buffer.length < Word.limit) (inside : position + type.size ≤ buffer.length)
include small inside

theorem writeAt_eq_ok_iff :
    type.writeAt buffer position value = .ok after ↔ type.Stored buffer position value after := by
  rw [writeAt_of_le small inside]
  constructor
  · rintro ⟨⟩
    exact stored_overwrite inside value
  · intro stored
    exact congrArg Except.ok ((stored_overwrite inside value).unique stored)

theorem readAt_overwrite (value : type.Value) :
    type.readAt (buffer.overwrite position (type.encode value)) position = .ok value := by
  have length := (stored_overwrite inside value).length
  rw [← length] at small
  have fits : position + (type.encode value).length ≤ buffer.length := by
    rw [type.length_encode]
    exact inside
  have found := Bytes.slice_overwrite fits
  rw [type.length_encode] at found
  rw [readAt_of_le small (length ▸ inside), found, type.decode_encode]

/-- What was read at a place can be written there without a change. -/
theorem writeAt_read : ∃ value, type.readAt buffer position = .ok value ∧
    type.writeAt buffer position value = .ok buffer := by
  refine ⟨_, readAt_of_le small inside, ?_⟩
  have length := Bytes.length_take_drop inside
  rw [writeAt_of_le small inside, type.encode_decode (Nat.le_of_eq length.symm),
    List.take_of_length_le (Nat.le_of_eq length), Bytes.overwrite_slice inside]

end

section
variable {other : ScalarType} {start : Nat}
  (apart : Bytes.Apart position type.size start other.size)
include apart

theorem readAt_overwrite_of_apart (inside : position + type.size ≤ buffer.length)
    (value : type.Value) :
    other.readAt (buffer.overwrite position (type.encode value)) start =
      other.readAt buffer start := by
  rw [← type.length_encode value] at inside apart
  rw [readAt_eq, readAt_eq, Bytes.length_overwrite inside,
    Bytes.slice_overwrite_of_apart inside apart]

/-- A write keeps the length, and with it the fault of any write that has one. -/
theorem writeAt_comm (small : buffer.length < Word.limit)
    (inside : position + type.size ≤ buffer.length) (value : type.Value) (another : other.Value) :
    (type.writeAt buffer position value >>= fun after => other.writeAt after start another) =
      other.writeAt buffer start another >>= fun after => type.writeAt after position value := by
  have length := (stored_overwrite inside value).length
  rw [writeAt_of_le small inside]
  change other.writeAt (buffer.overwrite position (type.encode value)) start another = _
  by_cases fits : start + other.size ≤ buffer.length
  · have length' := (stored_overwrite fits another).length
    rw [writeAt_of_le small fits, writeAt_of_le (length ▸ small) (length ▸ fits)]
    change _ = type.writeAt (buffer.overwrite start (other.encode another)) position value
    rw [writeAt_of_le (length' ▸ small) (length' ▸ inside), Bytes.overwrite_comm]
    · rwa [type.length_encode]
    · rwa [other.length_encode]
    · rwa [type.length_encode, other.length_encode]
  · rw [writeAt_eq other, writeAt_eq other, length]
    by_cases overflows : Word.limit ≤ start + other.size
    · simp only [if_pos overflows]
      rfl
    · simp only [if_neg overflows, if_pos (Nat.not_le.mp fits)]
      rfl

end

end ScalarType

/-- Inside a buffer a value is written in full and nothing else is; it is read back, reads and
writes of any type at a range apart do not notice, and writing what was read changes nothing. -/
theorem scalar_stored_exactly (type : ScalarType) {buffer : Bytes} {position : Nat}
    (small : buffer.length < Word.limit) (inside : position + type.size ≤ buffer.length) :
    (∀ value, (value.toNat : Int) = type.integer value % 2 ^ (8 * type.size) ∧
      ∃ after, type.writeAt buffer position value = .ok after ∧
        type.Stored buffer position value after ∧
        type.readAt after position = .ok value ∧
        ∀ (other : ScalarType) (start : Nat), Bytes.Apart position type.size start other.size →
          other.readAt after start = other.readAt buffer start) ∧
    (∃ value, type.readAt buffer position = .ok value ∧
      type.writeAt buffer position value = .ok buffer) ∧
    ∀ (other : ScalarType) (start : Nat), Bytes.Apart position type.size start other.size →
      ∀ value another,
        (type.writeAt buffer position value >>= fun after => other.writeAt after start another) =
          other.writeAt buffer start another >>= fun after => type.writeAt after position value := by
  refine ⟨fun value => ⟨type.toNat_eq_integer_emod value, ?_⟩, ScalarType.writeAt_read small inside,
    fun _ _ apart => ScalarType.writeAt_comm apart small inside⟩
  have written := ScalarType.writeAt_of_le small inside value
  exact ⟨_, written, (ScalarType.writeAt_eq_ok_iff small inside).mp written,
    ScalarType.readAt_overwrite small inside value,
    fun _ _ apart => ScalarType.readAt_overwrite_of_apart apart inside value⟩

/-- The bits of a number that is none, at an odd position between two other scalars. -/
theorem scalar_stored_exactly_unaligned :
    let buffer : Bytes := [1, 2, 3, 4, 5, 6, 7, 8, 9]
    let after : Bytes := [1, 2, 3, 0x34, 0x12, 0xa0, 0xff, 8, 9]
    buffer.length < Word.limit ∧ 3 + ScalarType.float32.size ≤ buffer.length ∧
    ScalarType.float32.writeAt buffer 3 0xffa01234 = .ok after ∧
    ScalarType.float32.readAt after 3 = .ok 0xffa01234 ∧
    ScalarType.int16.readAt after 7 = ScalarType.int16.readAt buffer 7 ∧
    ScalarType.uint8.readAt after 9 = ScalarType.uint8.readAt buffer 9 ∧
    ∀ another, ScalarType.int16.writeAt after 1 another =
      ScalarType.int16.writeAt buffer 1 another >>= fun other =>
        ScalarType.float32.writeAt other 3 0xffa01234 := by
  intro buffer after
  have small : buffer.length < Word.limit := by decide
  have inside : 3 + ScalarType.float32.size ≤ buffer.length := by decide
  obtain ⟨writes, -, commute⟩ := scalar_stored_exactly .float32 small inside
  obtain ⟨-, stored, written, -, read, frame⟩ := writes 0xffa01234
  have same : ScalarType.float32.writeAt buffer 3 0xffa01234 = .ok after := rfl
  cases same.symm.trans written
  exact ⟨small, inside, same, read, frame .int16 7 (.inl (by decide)),
    frame .uint8 9 (.inl (by decide)), commute .int16 1 (.inr (by decide)) 0xffa01234⟩

end FixedLayout
