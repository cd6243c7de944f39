import FixedLayout.Access.Lemmas

/-!
Records as bytes. The fields lie one after the other in eight bytes, whatever the kind of the record
calls them, so that every kind reads the same values off the same bytes.
-/
namespace FixedLayout

namespace RecordKind

@[simp] theorem size_eq (kind : RecordKind) : kind.size = 8 := by
  cases kind with
  | polarPoint => rfl
  | transformation => rfl

@[simp] theorem position_first (kind : RecordKind) : kind.position .first = 0 := by
  cases kind with
  | polarPoint => rfl
  | transformation => rfl

@[simp] theorem position_second (kind : RecordKind) : kind.position .second = 4 := by
  cases kind with
  | polarPoint => rfl
  | transformation => rfl

end RecordKind

namespace Record

/-- The bytes of the fields, in the order of their declaration. -/
def bytes (fields : Record) : Bytes :=
  ScalarType.float32.encode fields.first ++ ScalarType.float32.encode fields.second

/-- The record in the first eight bytes of a string. -/
def ofBytes (bytes : Bytes) : Record where
  first := ScalarType.float32.decode bytes
  second := ScalarType.float32.decode (bytes.drop 4)

theorem bytes_ofBytes {bytes : Bytes} (length : bytes.length = 8) :
    (ofBytes bytes).bytes = bytes := by
  have upper : ScalarType.float32.encode (ofBytes bytes).first = bytes.take 4 :=
    ScalarType.float32.encode_decode (by simp only [length]; decide)
  have lower : ScalarType.float32.encode (ofBytes bytes).second = (bytes.drop 4).take 4 :=
    ScalarType.float32.encode_decode (by simp only [List.length_drop, length]; decide)
  have rest : (bytes.drop 4).take 4 = bytes.drop 4 :=
    List.take_of_length_le (by simp only [List.length_drop, length]; decide)
  rw [Record.bytes, upper, lower, rest, List.take_append_drop]

end Record

namespace View

variable {kind : RecordKind} {buffer : Bytes} {position : Nat} {fields : Record}

theorem unpack_of_split (front back : Bytes) (split : buffer = front ++ fields.bytes ++ back)
    (small : buffer.length < Word.limit) :
    unpack ⟨kind, buffer, front.length⟩ = .ok fields :=
  unpack_ok_iff.mpr (get_append split small)

theorem unpack_of_le (small : buffer.length < Word.limit)
    (inside : position + 8 ≤ buffer.length) :
    unpack ⟨kind, buffer, position⟩ = .ok (Record.ofBytes ((buffer.drop position).take 8)) := by
  have front : (buffer.take position).length = position := List.length_take_of_le (by omega)
  have split : buffer = buffer.take position ++
      (Record.ofBytes ((buffer.drop position).take 8)).bytes ++ buffer.drop (position + 8) := by
    rw [Record.bytes_ofBytes (Bytes.length_take_drop inside), ← List.drop_drop, List.append_assoc,
      List.take_append_drop, List.take_append_drop]
  have unpacked : unpack ⟨kind, buffer, (buffer.take position).length⟩ = .ok _ :=
    unpack_of_split _ _ split small
  rwa [front] at unpacked

/-- A record can be unpacked exactly if all of it lies inside the buffer. -/
theorem exists_unpack_iff (small : buffer.length < Word.limit) :
    (∃ fields, unpack ⟨kind, buffer, position⟩ = .ok fields) ↔ position + 8 ≤ buffer.length := by
  constructor
  · rintro ⟨fields, unpacked⟩
    have second := unpack_ok_iff.mp unpacked .second
    simpa using (get_ok_iff.mp second).1.1
  · intro inside
    exact ⟨_, unpack_of_le small inside⟩

end View
end FixedLayout
