import FixedLayout.Builder.Lemmas
import FixedLayout.Step
import FixedLayout.Word.Lemmas

/-!
Reservations: what a step asks of the buffer, and what it finds there. Growth shows in the capacity
alone, and the bytes written before stay where they are, counted from the end.
-/
namespace FixedLayout

/-- A request for `length` bytes at a multiple of `alignment`, of which the payload is written at
once. -/
structure Reservation where
  alignment : Nat
  length : Nat
  payload : Bytes
  fits : payload.length ≤ length

namespace Reservation

variable (reservation : Reservation) (builder : Builder)

def padding : Nat := Word.padding reservation.alignment (builder.used + reservation.length)

def needed : Nat := reservation.padding builder + reservation.length

/-- The size that the buffer has to have. -/
def requested : Nat := builder.used + reservation.needed builder

def bytes : Bytes := reservation.payload ++ Bytes.zeros (reservation.padding builder)

/-- The builder with room for a reservation that fits, padded but without the payload. -/
def prepared : Builder :=
  ((builder.raiseAlign reservation.alignment).growUntil (reservation.needed builder)).extend
    (Bytes.zeros (reservation.padding builder))

/-- The builder after a reservation that fits. -/
def grant : Builder :=
  ((builder.raiseAlign reservation.alignment).growUntil (reservation.needed builder)).extend
    (reservation.bytes builder)

/-- How a reservation ends, given what follows where it fits. -/
def outcome (success : Outcome α) : Outcome α :=
  if Word.IsAlignment reservation.alignment then
    if Word.limit ≤ reservation.requested builder then
      .fault .overflow
    else if builder.maxSize < reservation.requested builder then
      .refused (.tooLarge (reservation.requested builder) builder.maxSize)
        (builder.raiseAlign reservation.alignment)
    else
      success
  else
    .fault .badAlignment

end Reservation

/-- What a step stores at a place of its own. -/
inductive Content where
  | scalar (type : ScalarType) (value : type.Value)
  | record (kind : RecordKind) (record : Record)

namespace Content

def size : Content → Nat
  | scalar type _ => type.size
  | record kind _ => kind.size

def alignment : Content → Nat
  | scalar type _ => type.size
  | record kind _ => kind.alignment

/-- The bytes of a scalar, or those of a record's fields in the order of their declaration. -/
def bytes : Content → Bytes
  | scalar type value => type.encode value
  | record _ fields =>
    ScalarType.float32.encode fields.first ++ ScalarType.float32.encode fields.second

theorem length_bytes (content : Content) : content.bytes.length = content.size := by
  cases content with
  | scalar type value => exact type.length_encode value
  | record kind fields =>
    have first : (ScalarType.float32.encode fields.first).length = 4 :=
      ScalarType.length_encode ..
    have second : (ScalarType.float32.encode fields.second).length = 4 :=
      ScalarType.length_encode ..
    rw [bytes, List.length_append, first, second]
    cases kind <;> rfl

def reservation (content : Content) : Reservation where
  alignment := content.alignment
  length := content.size
  payload := content.bytes
  fits := Nat.le_of_eq content.length_bytes

end Content

def Step.content? : Step → Option Content
  | .push type value => some (.scalar type value)
  | .create kind first second => some (.record kind ⟨first, second⟩)
  | .pack kind record => some (.record kind record)
  | .prep .. | .put .. | .finish | .reset => none

def Builder.closing (builder : Builder) : Reservation where
  alignment := builder.minAlign
  length := 0
  payload := []
  fits := Nat.le_refl 0

/-- The reservation behind a step. A raw write and a reset have none. -/
def Step.reservation? (builder : Builder) : Step → Option Reservation
  | .prep alignment length => some ⟨alignment, length, [], Nat.zero_le _⟩
  | .push type value => some (Content.scalar type value).reservation
  | .create kind first second => some (Content.record kind ⟨first, second⟩).reservation
  | .pack kind record => some (Content.record kind record).reservation
  | .finish => some builder.closing
  | .put .. | .reset => none

theorem Step.reservation?_of_content {builder : Builder} {step : Step} {content : Content}
    (stores : step.content? = some content) :
    step.reservation? builder = some content.reservation := by
  cases step with
  | push | create | pack =>
    cases stores
    rfl
  | prep | put | finish | reset => cases stores

/-- What a step answers when it succeeds, read off the builder after it. -/
def Step.reply (after : Builder) : Step → Reply
  | .push .. | .create .. | .pack .. => .placed after.offset
  | .finish => .finished after.finishedData
  | .prep .. | .put .. | .reset => .done

/-- The request for finishing alone depends on the builder, by its alignment. -/
theorem Step.reservation?_eq {a b : Builder} {step : Step}
    (align : step = .finish → a.minAlign = b.minAlign) :
    step.reservation? a = step.reservation? b := by
  cases step with
  | finish => simp only [reservation?, Builder.closing, align rfl]
  | prep | put | push | create | pack | reset => rfl

theorem Step.reply_eq {a b : Builder} {step : Step} (used : a.used = b.used)
    (data : a.finishedData = b.finishedData) : step.reply a = step.reply b := by
  cases step with
  | push | create | pack => simp only [reply, Builder.offset, used]
  | finish => simp only [reply, data]
  | prep | put | reset => rfl

theorem Step.reply_of_content {after : Builder} {step : Step} {content : Content}
    (stores : step.content? = some content) : step.reply after = .placed after.offset := by
  cases step with
  | push | create | pack => rfl
  | prep | put | finish | reset => cases stores

namespace Builder

variable {builder : Builder}

theorem extend_extend (valid : builder.WellFormed) (first second : Bytes) :
    (builder.extend first).extend second = builder.extend (second ++ first) := by
  have total : (builder.extend first).used + second.length =
      builder.used + (second ++ first).length := by
    simp only [extend, List.length_append]
    omega
  have below : (builder.extend first).cells.drop (builder.used + (second ++ first).length) =
      builder.cells.drop (builder.used + (second ++ first).length) := by
    rw [← total, ← List.drop_drop, drop_cells_extend valid, List.drop_drop]
  rw [extend, take_cells_extend valid, total, below]
  simp only [extend, List.reverse_append, List.append_assoc]

end Builder

namespace Reservation

variable {reservation : Reservation} {builder a b : Builder}

theorem padding_eq (used : a.used = b.used) : reservation.padding a = reservation.padding b := by
  rw [padding, padding, used]

theorem needed_eq (used : a.used = b.used) : reservation.needed a = reservation.needed b := by
  rw [needed, needed, padding_eq used]

theorem requested_eq (used : a.used = b.used) :
    reservation.requested a = reservation.requested b := by
  rw [requested, requested, needed_eq used, used]

theorem bytes_eq (used : a.used = b.used) : reservation.bytes a = reservation.bytes b := by
  rw [bytes, bytes, padding_eq used]

/-- A reservation faults, is refused, or is granted. -/
theorem outcome_cases (reservation : Reservation) (builder : Builder) (success : Outcome α) :
    (∃ cause, reservation.outcome builder success = .fault cause) ∨
    (Word.IsAlignment reservation.alignment ∧
      builder.maxSize < reservation.requested builder ∧
      reservation.outcome builder success =
        .refused (.tooLarge (reservation.requested builder) builder.maxSize)
          (builder.raiseAlign reservation.alignment)) ∨
    (Word.IsAlignment reservation.alignment ∧
      reservation.requested builder ≤ builder.maxSize ∧
      reservation.outcome builder success = success) := by
  rw [outcome]
  by_cases power : Word.IsAlignment reservation.alignment
  · rw [if_pos power]
    by_cases overflows : Word.limit ≤ reservation.requested builder
    · rw [if_pos overflows]
      exact .inl ⟨.overflow, rfl⟩
    · rw [if_neg overflows]
      by_cases large : builder.maxSize < reservation.requested builder
      · rw [if_pos large]
        exact .inr (.inl ⟨power, large, rfl⟩)
      · rw [if_neg large]
        exact .inr (.inr ⟨power, Nat.not_lt.mp large, rfl⟩)
  · rw [if_neg power]
    exact .inl ⟨.badAlignment, rfl⟩

theorem length_bytes : (reservation.bytes builder).length =
    reservation.payload.length + reservation.padding builder := by
  rw [bytes, List.length_append, Bytes.length_zeros]

theorem length_bytes_le : (reservation.bytes builder).length ≤ reservation.needed builder := by
  have := reservation.fits
  rw [length_bytes, needed]
  omega

@[simp] theorem used_grant : (reservation.grant builder).used =
    builder.used + (reservation.payload.length + reservation.padding builder) := by
  rw [grant, Builder.extend, length_bytes, Builder.used_growUntil, Builder.raiseAlign]

@[simp] theorem minAlign_grant : (reservation.grant builder).minAlign =
    max builder.minAlign reservation.alignment := by
  simp [grant, Builder.extend, Builder.raiseAlign]

@[simp] theorem maxSize_grant : (reservation.grant builder).maxSize = builder.maxSize := by
  simp [grant, Builder.extend, Builder.raiseAlign]

theorem finishedData_grant (valid : builder.WellFormed)
    (power : Word.IsAlignment reservation.alignment) :
    (reservation.grant builder).finishedData =
      reservation.bytes builder ++ builder.finishedData := by
  rw [grant, Builder.finishedData_extend (valid.raiseAlign power).growUntil,
    Builder.finishedData_growUntil, Builder.finishedData_raiseAlign]

theorem le_free_grown (room : reservation.requested builder ≤ builder.maxSize) :
    reservation.needed builder ≤
      ((builder.raiseAlign reservation.alignment).growUntil (reservation.needed builder)).free :=
  Builder.le_free_growUntil room

theorem wellFormed_grant (valid : builder.WellFormed)
    (power : Word.IsAlignment reservation.alignment)
    (room : reservation.requested builder ≤ builder.maxSize) :
    (reservation.grant builder).WellFormed :=
  (valid.raiseAlign power).growUntil.extend (length_bytes_le.trans (le_free_grown room))

theorem extend_prepared (valid : builder.WellFormed)
    (power : Word.IsAlignment reservation.alignment) :
    (reservation.prepared builder).extend reservation.payload = reservation.grant builder :=
  Builder.extend_extend (valid.raiseAlign power).growUntil ..

theorem wellFormed_prepared (valid : builder.WellFormed)
    (power : Word.IsAlignment reservation.alignment)
    (room : reservation.requested builder ≤ builder.maxSize) :
    (reservation.prepared builder).WellFormed := by
  have padded : (Bytes.zeros (reservation.padding builder)).length ≤
      reservation.needed builder := by
    rw [Bytes.length_zeros]
    exact Nat.le_add_right ..
  exact (valid.raiseAlign power).growUntil.extend (padded.trans (le_free_grown room))

theorem length_le_free_prepared (room : reservation.requested builder ≤ builder.maxSize) :
    reservation.length ≤ (reservation.prepared builder).free := by
  have grown := le_free_grown room
  change reservation.padding builder + reservation.length ≤ _ at grown
  simp only [Builder.free] at grown
  simp only [prepared, Builder.free, Builder.extend, Bytes.length_zeros]
  omega

end Reservation

end FixedLayout
