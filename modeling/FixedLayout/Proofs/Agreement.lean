import FixedLayout.Proofs.Bindings
import FixedLayout.Proofs.InPlace
import Mathlib.Tactic.TFAE

/-!
Checked and unchecked accesses. The checked ones add the size once and compare once; the unchecked
ones check every sum and every range on their way, those of a record's fields in turn. Both stop at
the same ends of ranges, near the largest words too and where a record lies half outside.
-/
namespace FixedLayout

/-- The checked answer beside the unchecked one: the error stands for every fault, and a value for
itself. -/
inductive Agree (error : BufferError) : Except BufferError α → Except Fault α → Prop where
  | refused (cause : Fault) : Agree error (.error error) (.error cause)
  | granted (value : α) : Agree error (.ok value) (.ok value)

theorem agree_of_stop (error : BufferError) (value : α) (stop length : Nat) :
    Agree error (if stop ≤ length ∧ stop < Word.limit then .ok value else .error error)
      (if Word.limit ≤ stop then .error .overflow
        else if length < stop then .error .outOfRange
        else .ok value) := by
  by_cases overflows : Word.limit ≤ stop
  · rw [if_neg fun inside => Nat.not_lt.mpr overflows inside.2, if_pos overflows]
    exact .refused .overflow
  · by_cases outside : length < stop
    · rw [if_neg fun inside => Nat.not_le.mpr outside inside.1, if_neg overflows, if_pos outside]
      exact .refused .outOfRange
    · rw [if_pos ⟨Nat.not_lt.mp outside, Nat.not_le.mp overflows⟩, if_neg overflows,
        if_neg outside]
      exact .granted value

namespace ScalarType

variable (type : ScalarType) (buffer : Bytes) (position : Nat)

theorem readAt_agrees : Agree (.outOfBounds position type.size buffer.length)
    (type.tryReadAt buffer position) (type.readAt buffer position) := by
  rw [tryReadAt_eq, readAt_eq]
  exact agree_of_stop ..

theorem writeAt_agrees (value : type.Value) :
    Agree (.outOfBounds position type.size buffer.length)
      (type.tryWriteAt buffer position value) (type.writeAt buffer position value) := by
  rw [tryWriteAt_eq, writeAt_eq]
  exact agree_of_stop ..

end ScalarType

variable {kind : RecordKind} {buffer : Bytes} {position : Nat} {editor : Editor}

/-- In a buffer a range that ends inside ends at a word. -/
theorem inside_iff {stop : Nat} (small : buffer.length < Word.limit) :
    stop ≤ buffer.length ∧ stop < Word.limit ↔ stop ≤ buffer.length :=
  and_iff_left_of_imp fun inside => Nat.lt_of_le_of_lt inside small

theorem View.exists_tryInit_iff (small : buffer.length < Word.limit) :
    (∃ view, View.tryInit kind buffer position = .ok view) ↔ position + 8 ≤ buffer.length := by
  rw [tryInit_eq, kind.size_eq]
  exact exists_ok_iff.trans (inside_iff small)

namespace Editor

variable {binding : Binding}

theorem fits_iff_le {start size : Nat} (small : (editor.bufferOf binding).length < Word.limit) :
    Fits editor.lengths binding.buffer start size ↔
      start + size ≤ (editor.bufferOf binding).length :=
  fits_iff.trans (inside_iff small)

theorem exists_tryBind_iff (small : (editor.bufferOf binding).length < Word.limit) :
    (∃ after, editor.apply kind (.tryBind binding) = .ok after) ↔
      binding.position + 8 ≤ (editor.bufferOf binding).length :=
  exists_apply_iff.trans (fits_iff_le small)

/-- No field of a bound record faults when it is set exactly if none lies outside. -/
theorem exists_set_iff (editor : Editor) (bound : editor.bound = some binding)
    (small : (editor.bufferOf binding).length < Word.limit) :
    (∀ field value, ∃ after, editor.apply kind (.set field value) = .ok after) ↔
      binding.position + 8 ≤ (editor.bufferOf binding).length := by
  simp only [exists_apply_set_iff bound, fits_iff_le small, forall_const]
  constructor
  · exact fun fits => fits .second
  · intro inside field
    cases field with
    | first => exact Nat.le_trans (Nat.add_le_add_left (by decide) _) inside
    | second => exact inside

end Editor

/-- Checked accesses are refused exactly where the unchecked ones fault, and do the same elsewhere;
in place too, where a refusal or a fault leaves the buffer as it is. A record is bound with a check,
can be unpacked and can be set in all its fields under one condition. -/
theorem checked_agrees {buffer : Bytes} (small : buffer.length < Word.limit) (position : Nat) :
    (∀ type : ScalarType,
      Agree (.outOfBounds position type.size buffer.length)
        (type.tryReadAt buffer position) (type.readAt buffer position) ∧
      InPlace.tryRead type position buffer = (.ok (type.tryReadAt buffer position), buffer) ∧
      InPlace.read type position buffer = (type.readAt buffer position, buffer) ∧
      ∀ value,
        Agree (.outOfBounds position type.size buffer.length)
          (type.tryWriteAt buffer position value) (type.writeAt buffer position value) ∧
        InPlace.tryWrite type position value buffer =
          (InPlace.settle buffer (type.tryWriteAt buffer position value)).map .ok id ∧
        InPlace.write type position value buffer =
          InPlace.settle buffer (type.writeAt buffer position value)) ∧
    ∀ (kind : RecordKind) (editor : Editor) (number : Nat),
      editor.buffers[number]? = some buffer →
      let bound := editor.step kind (.bind ⟨number, position⟩)
      List.TFAE [
        position + 8 ≤ buffer.length,
        ∃ view, View.tryInit kind buffer position = .ok view,
        ∃ after, editor.apply kind (.tryBind ⟨number, position⟩) = .ok after,
        ∃ fields, View.unpack ⟨kind, buffer, position⟩ = .ok fields,
        ∃ view fields, bound.view? kind = some view ∧ view.unpack = .ok fields,
        ∀ field value, ∃ after, bound.apply kind (.set field value) = .ok after] := by
  refine ⟨fun type => ⟨type.readAt_agrees buffer position, InPlace.tryRead_eq type position buffer,
    InPlace.read_eq type position buffer, fun value => ⟨type.writeAt_agrees buffer position value,
      InPlace.tryWrite_eq type position value buffer,
      InPlace.write_eq type position value buffer⟩⟩, ?_⟩
  intro kind editor number present bound
  have same : editor.bufferOf ⟨number, position⟩ = buffer := by
    rw [Editor.bufferOf, List.getD_eq_getElem?_getD, present]
    rfl
  have shown : bound.view? kind = some ⟨kind, buffer, position⟩ :=
    congrArg (fun bytes => some (View.mk kind bytes position)) same
  have room : (editor.bufferOf ⟨number, position⟩).length < Word.limit := same.symm ▸ small
  tfae_have 2 ↔ 1 := View.exists_tryInit_iff small
  tfae_have 3 ↔ 1 := by
    rw [Editor.exists_tryBind_iff room, same]
  tfae_have 4 ↔ 1 := View.exists_unpack_iff small
  tfae_have 5 ↔ 4 := by
    simp only [shown, Option.some.injEq, exists_and_left, exists_eq_left']
  tfae_have 6 ↔ 1 := by
    have bytes : bound.bufferOf ⟨number, position⟩ = buffer := same
    rw [bound.exists_set_iff rfl room, bytes]
  tfae_finish

/-- A record of which one field lies inside its buffer, and a number whose range ends beyond the
largest word. -/
theorem checked_agrees_half_outside :
    let buffer : Bytes := [1, 2, 3, 4, 5, 6, 7, 8, 9, 10, 11]
    let editor : Editor := ⟨[[], buffer], none⟩
    let bound := editor.step .polarPoint (.bind ⟨1, 4⟩)
    buffer.length < Word.limit ∧ editor.buffers[1]? = some buffer ∧
    View.get ⟨.polarPoint, buffer, 4⟩ .first = .ok 0x08070605 ∧
    (¬ ∃ view, View.tryInit .polarPoint buffer 4 = .ok view) ∧
    (¬ ∃ fields, View.unpack ⟨.polarPoint, buffer, 4⟩ = .ok fields) ∧
    (¬ ∀ field value, ∃ after, bound.apply .polarPoint (.set field value) = .ok after) ∧
    Agree (.outOfBounds 0xfffffffffffffffe 4 11)
      (ScalarType.uint32.tryReadAt buffer 0xfffffffffffffffe)
      (ScalarType.uint32.readAt buffer 0xfffffffffffffffe) := by
  intro buffer editor bound
  have small : buffer.length < Word.limit := by decide
  have present : editor.buffers[1]? = some buffer := rfl
  have records := (checked_agrees small 4).2 .polarPoint editor 1 present
  have outside : ¬ 4 + 8 ≤ buffer.length := by decide
  refine ⟨small, present, rfl, ?_, ?_, ?_, ((checked_agrees small _).1 .uint32).1⟩
  · exact fun checked => outside ((records.out 1 0).mp checked)
  · exact fun unpacked => outside ((records.out 3 0).mp unpacked)
  · exact fun settable => outside ((records.out 5 0).mp settable)

end FixedLayout
