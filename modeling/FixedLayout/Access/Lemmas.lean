import FixedLayout.Record.View
import FixedLayout.Scalar.Lemmas

/-!
What accesses come to: whether they succeed, and the faults where they do not, depends on the end of
the range alone. Reading where a value is known to lie gives the value.
-/
namespace FixedLayout

/-- The checks before an unchecked access. -/
theorem Bytes.access_eq (buffer : Bytes) (position size : Nat) (use : Bytes → α) :
    (do
      let _ ← Fault.overflow.orElse (Word.add? position size)
      let bytes ← Fault.outOfRange.orElse (buffer.slice? position size)
      return use bytes : Except Fault α) =
    if Word.limit ≤ position + size then .error .overflow
    else if buffer.length < position + size then .error .outOfRange
    else .ok (use ((buffer.drop position).take size)) := by
  rw [Word.add?, slice?]
  by_cases word : position + size < Word.limit
  · rw [if_pos word, if_neg (Nat.not_le.mpr word)]
    by_cases inside : position + size ≤ buffer.length
    · rw [if_pos inside, if_neg (Nat.not_lt.mpr inside)]
      rfl
    · rw [if_neg inside, if_pos (Nat.not_le.mp inside)]
      rfl
  · rw [if_neg word, if_pos (Nat.not_lt.mp word)]
    rfl

/-- An access succeeds exactly where its range lies inside the buffer and ends at a word. -/
theorem access_ok_iff {stop length : Nat} {value result : α} :
    (if Word.limit ≤ stop then .error .overflow
      else if length < stop then .error .outOfRange
      else .ok value : Except Fault α) = .ok result ↔
    (stop ≤ length ∧ stop < Word.limit) ∧ value = result := by
  by_cases overflows : Word.limit ≤ stop
  · rw [if_pos overflows]
    exact ⟨nofun, fun ok => absurd ok.1.2 (Nat.not_lt.mpr overflows)⟩
  · by_cases outside : length < stop
    · rw [if_neg overflows, if_pos outside]
      exact ⟨nofun, fun ok => absurd ok.1.1 (Nat.not_le.mpr outside)⟩
    · rw [if_neg overflows, if_neg outside, Except.ok.injEq]
      exact ⟨fun same => ⟨⟨Nat.not_lt.mp outside, Nat.not_le.mp overflows⟩, same⟩, And.right⟩

theorem exists_ok_iff {condition : Prop} [Decidable condition] {value : α} {error : ε} :
    (∃ result, (if condition then .ok value else .error error : Except ε α) = .ok result) ↔
      condition := by
  by_cases holds : condition
  · rw [if_pos holds]
    exact ⟨fun _ => holds, fun _ => ⟨_, rfl⟩⟩
  · rw [if_neg holds]
    exact ⟨nofun, fun holding => absurd holding holds⟩

theorem ScalarType.readAt_eq (type : ScalarType) (buffer : Bytes) (position : Nat) :
    type.readAt buffer position =
      if Word.limit ≤ position + type.size then .error .overflow
      else if buffer.length < position + type.size then .error .outOfRange
      else .ok (type.decode ((buffer.drop position).take type.size)) :=
  Bytes.access_eq ..

theorem ScalarType.writeAt_eq (type : ScalarType) (buffer : Bytes) (position : Nat)
    (value : type.Value) : type.writeAt buffer position value =
      if Word.limit ≤ position + type.size then .error .overflow
      else if buffer.length < position + type.size then .error .outOfRange
      else .ok (buffer.overwrite position (type.encode value)) :=
  Bytes.access_eq buffer position type.size fun _ => buffer.overwrite position (type.encode value)

/-- The checked accesses look at the end of the range as well, and tell no causes apart. -/
theorem checkRange_eq (length position size : Nat) : checkRange length position size =
    if position + size ≤ length ∧ position + size < Word.limit then .ok ()
    else .error (.outOfBounds position size length) := by
  rw [checkRange, Word.add?]
  by_cases word : position + size < Word.limit
  · rw [if_pos word]
    simp only [word, and_true]
  · rw [if_neg word]
    simp only [word, and_false, if_false]

theorem checkRange_bind (length position size : Nat) (value : α) :
    (checkRange length position size >>= fun _ => pure value) =
      if position + size ≤ length ∧ position + size < Word.limit then .ok value
      else .error (.outOfBounds position size length) := by
  rw [checkRange_eq]
  by_cases inside : position + size ≤ length ∧ position + size < Word.limit
  · rw [if_pos inside, if_pos inside]
    rfl
  · rw [if_neg inside, if_neg inside]
    rfl

theorem ScalarType.tryReadAt_eq (type : ScalarType) (buffer : Bytes) (position : Nat) :
    type.tryReadAt buffer position =
      if position + type.size ≤ buffer.length ∧ position + type.size < Word.limit then
        .ok (type.decode ((buffer.drop position).take type.size))
      else .error (.outOfBounds position type.size buffer.length) := by
  rw [decode_take]
  exact checkRange_bind ..

theorem ScalarType.tryWriteAt_eq (type : ScalarType) (buffer : Bytes) (position : Nat)
    (value : type.Value) : type.tryWriteAt buffer position value =
      if position + type.size ≤ buffer.length ∧ position + type.size < Word.limit then
        .ok (buffer.overwrite position (type.encode value))
      else .error (.outOfBounds position type.size buffer.length) :=
  checkRange_bind ..

theorem View.tryInit_eq (kind : RecordKind) (buffer : Bytes) (position : Nat) :
    View.tryInit kind buffer position =
      if position + kind.size ≤ buffer.length ∧ position + kind.size < Word.limit then
        .ok ⟨kind, buffer, position⟩
      else .error (.outOfBounds position kind.size buffer.length) :=
  checkRange_bind ..

section
variable {type : ScalarType} {buffer : Bytes} {position : Nat}

/-- The length of a buffer is a word, so that inside it no sum of sizes overflows. -/
theorem ScalarType.readAt_of_le (small : buffer.length < Word.limit)
    (inside : position + type.size ≤ buffer.length) :
    type.readAt buffer position = .ok (type.decode ((buffer.drop position).take type.size)) :=
  (readAt_eq ..).trans (access_ok_iff.mpr ⟨⟨inside, Nat.lt_of_le_of_lt inside small⟩, rfl⟩)

theorem ScalarType.writeAt_of_le (small : buffer.length < Word.limit)
    (inside : position + type.size ≤ buffer.length) (value : type.Value) :
    type.writeAt buffer position value = .ok (buffer.overwrite position (type.encode value)) :=
  (writeAt_eq ..).trans (access_ok_iff.mpr ⟨⟨inside, Nat.lt_of_le_of_lt inside small⟩, rfl⟩)

end

/-- Adding the position of a field fails only where the access would. -/
theorem Word.add?_bind_eq {base position size length : Nat} {access : Nat → Except Fault α}
    {value : α} (checked : access (base + position) =
      if Word.limit ≤ base + position + size then .error .overflow
      else if length < base + position + size then .error .outOfRange
      else .ok value) :
    (Fault.overflow.orElse (Word.add? base position) >>= access) = access (base + position) := by
  by_cases word : base + position < Word.limit
  · rw [Word.add?_eq_some_iff.mpr ⟨word, rfl⟩]
    rfl
  · rw [Word.add?_eq_none_iff.mpr (Nat.not_lt.mp word), checked, if_pos (by omega)]
    rfl

theorem View.get_eq (view : View) (field : Field) : view.get field =
    ScalarType.float32.readAt view.buffer (view.position + view.kind.position field) :=
  Word.add?_bind_eq (ScalarType.readAt_eq ..)

theorem View.get_ok_iff {view : View} {field : Field} {bits : Binary32} :
    view.get field = .ok bits ↔
      (view.position + view.kind.position field + 4 ≤ view.buffer.length ∧
        view.position + view.kind.position field + 4 < Word.limit) ∧
      ScalarType.float32.decode
        ((view.buffer.drop (view.position + view.kind.position field)).take 4) = bits := by
  rw [get_eq, ScalarType.readAt_eq]
  exact access_ok_iff

/-- A record can be unpacked if each of its fields can be read. -/
theorem View.unpack_ok_iff {view : View} {fields : Record} :
    view.unpack = .ok fields ↔ ∀ field, view.get field = .ok (fields.get field) := by
  constructor
  · intro unpacked
    rw [unpack] at unpacked
    cases first : view.get .first with
    | error cause =>
      rw [first] at unpacked
      cases unpacked
    | ok upper =>
      cases second : view.get .second with
      | error cause =>
        rw [first, second] at unpacked
        cases unpacked
      | ok lower =>
        rw [first, second] at unpacked
        cases unpacked
        intro field
        cases field with
        | first => exact first
        | second => exact second
  · intro read
    rw [unpack, read .first, read .second]
    rfl

variable {front back : Bytes}

theorem ScalarType.readAt_append (type : ScalarType) (value : type.Value)
    (small : (front ++ type.encode value ++ back).length < Word.limit) :
    type.readAt (front ++ type.encode value ++ back) front.length = .ok value := by
  have length := type.length_encode value
  have stop : Word.add? front.length type.size = some (front.length + type.size) := by
    apply Word.add?_eq_some_iff.mpr
    simp only [List.length_append] at small
    exact ⟨by omega, rfl⟩
  have bytes := Bytes.slice?_append front (type.encode value) back
  rw [length] at bytes
  rw [readAt, stop, bytes]
  exact congrArg Except.ok (type.decode_encode value)

theorem View.get_of_split {view : View} {field : Field} {bits : Binary32} (front back : Bytes)
    (split : view.buffer = front ++ ScalarType.float32.encode bits ++ back)
    (start : view.position + view.kind.position field = front.length)
    (small : view.buffer.length < Word.limit) : view.get field = .ok bits := by
  rw [get_eq, start, split]
  exact ScalarType.float32.readAt_append bits (split ▸ small)

/-- The fields of a record lie one after the other. -/
theorem View.get_append {kind : RecordKind} {fields : Record} {buffer : Bytes}
    (split : buffer = front ++ (ScalarType.float32.encode fields.first ++
      ScalarType.float32.encode fields.second) ++ back)
    (small : buffer.length < Word.limit) (field : Field) :
    View.get ⟨kind, buffer, front.length⟩ field = .ok (fields.get field) := by
  have width : (ScalarType.float32.encode fields.first).length = 4 := ScalarType.length_encode ..
  cases field with
  | first =>
    refine get_of_split front (ScalarType.float32.encode fields.second ++ back) ?_ ?_ small
    · simp only [split, Record.get, List.append_assoc]
    · cases kind <;> rfl
  | second =>
    refine get_of_split (front ++ ScalarType.float32.encode fields.first) back ?_ ?_ small
    · simp only [split, Record.get, List.append_assoc]
    · rw [List.length_append, width]
      cases kind <;> rfl

end FixedLayout
