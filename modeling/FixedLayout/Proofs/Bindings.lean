import FixedLayout.Record.Edit
import FixedLayout.Record.Lemmas

/-!
Which steps on an editor succeed and what is bound after them, told from the steps, from the lengths
of the buffers and from what was bound before. The bytes in the buffers have no part in it.
-/
namespace FixedLayout

/-- Where a field of the bound record begins: the second one behind the four bytes of the first. -/
def Binding.start (binding : Binding) : Field → Nat
  | .first => binding.position
  | .second => binding.position + 4

theorem Binding.start_eq (kind : RecordKind) (binding : Binding) (field : Field) :
    binding.start field = binding.position + kind.position field := by
  cases field with
  | first => rw [start, kind.position_first, Nat.add_zero]
  | second => rw [start, kind.position_second]

/-- Whether `size` bytes from `start` on lie in the buffer of a number and end at a word. -/
def Fits (lengths : List Nat) (buffer start size : Nat) : Prop :=
  start + size ≤ lengths.getD buffer 0 ∧ start + size < Word.limit

instance (lengths : List Nat) (buffer start size : Nat) :
    Decidable (Fits lengths buffer start size) :=
  inferInstanceAs (Decidable (_ ∧ _))

namespace Edit

variable (lengths : List Nat) (bound : Option Binding)

/-- Whether a step succeeds. -/
def Succeeds : Edit → Prop
  | .bind _ => True
  | .tryBind binding => Fits lengths binding.buffer binding.position 8
  | .rebind _ => bound.isSome
  | .set field _ => ∃ binding, bound = some binding ∧
      Fits lengths binding.buffer (binding.start field) 4

/-- What is bound after a step. -/
def rebound : Edit → Option Binding
  | .bind binding => some binding
  | .tryBind binding =>
    if Fits lengths binding.buffer binding.position 8 then some binding else bound
  | .rebind binding => bound.map fun _ => binding
  | .set .. => bound

/-- What is bound after some steps. -/
def boundAfter (edits : List Edit) : Option Binding := edits.foldl (rebound lengths) bound

end Edit

namespace Editor

variable {kind : RecordKind} {editor : Editor} {binding : Binding} {field : Field}
  {value : Binary32} {edit : Edit}

def lengths (editor : Editor) : List Nat := editor.buffers.map List.length

theorem length_bufferOf (editor : Editor) (binding : Binding) :
    (editor.bufferOf binding).length = editor.lengths.getD binding.buffer 0 := by
  rw [bufferOf, lengths, List.getD_eq_getElem?_getD, List.getD_eq_getElem?_getD,
    List.getElem?_map]
  cases editor.buffers[binding.buffer]? with
  | none => rfl
  | some bytes => rfl

theorem fits_iff {start size : Nat} : Fits editor.lengths binding.buffer start size ↔
    start + size ≤ (editor.bufferOf binding).length ∧ start + size < Word.limit := by
  rw [Fits, length_bufferOf]

theorem setField_eq (kind : RecordKind) (editor : Editor) (binding : Binding) (field : Field)
    (value : Binary32) : editor.setField kind binding field value =
      ScalarType.float32.writeAt (editor.bufferOf binding) (binding.start field) value := by
  rw [binding.start_eq kind]
  exact Word.add?_bind_eq (ScalarType.writeAt_eq ..)

theorem setField_ok_iff {bytes : Bytes} :
    editor.setField kind binding field value = .ok bytes ↔
      Fits editor.lengths binding.buffer (binding.start field) 4 ∧
      (editor.bufferOf binding).overwrite (binding.start field)
        (ScalarType.float32.encode value) = bytes := by
  have checked := ScalarType.writeAt_eq .float32 (editor.bufferOf binding) (binding.start field)
    value
  rw [(setField_eq ..).trans checked, fits_iff]
  exact access_ok_iff

theorem apply_tryBind_eq (kind : RecordKind) (editor : Editor) (binding : Binding) :
    editor.apply kind (.tryBind binding) =
      if Fits editor.lengths binding.buffer binding.position 8 then
        .ok { editor with bound := binding }
      else
        .error (.refused (.outOfBounds binding.position 8 (editor.bufferOf binding).length)) := by
  rw [apply, checkRange_eq, kind.size_eq]
  by_cases inside : Fits editor.lengths binding.buffer binding.position 8
  · rw [if_pos inside, if_pos (fits_iff.mp inside)]
  · rw [if_neg inside, if_neg fun fits => inside (fits_iff.mpr fits)]

theorem apply_set_of_fits (bound : editor.bound = some binding)
    (fits : Fits editor.lengths binding.buffer (binding.start field) 4) :
    editor.apply kind (.set field value) = .ok { editor with
      buffers := editor.buffers.set binding.buffer
        ((editor.bufferOf binding).overwrite (binding.start field)
          (ScalarType.float32.encode value)) } := by
  simp only [apply, bound, setField_ok_iff.mpr ⟨fits, rfl⟩]

theorem exists_apply_set_iff (bound : editor.bound = some binding) :
    (∃ after, editor.apply kind (.set field value) = .ok after) ↔
      Fits editor.lengths binding.buffer (binding.start field) 4 := by
  constructor
  · rintro ⟨after, applied⟩
    simp only [apply, bound] at applied
    cases written : editor.setField kind binding field value with
    | ok bytes => exact (setField_ok_iff.mp written).1
    | error cause =>
      rw [written] at applied
      cases applied
  · intro fits
    exact ⟨_, apply_set_of_fits bound fits⟩

theorem exists_apply_iff : (∃ after, editor.apply kind edit = .ok after) ↔
    edit.Succeeds editor.lengths editor.bound := by
  cases edit with
  | bind binding => exact ⟨fun _ => trivial, fun _ => ⟨_, rfl⟩⟩
  | tryBind binding =>
    rw [apply_tryBind_eq]
    exact exists_ok_iff
  | rebind binding =>
    simp only [apply, Edit.Succeeds]
    cases editor.bound with
    | none => simp
    | some _ => simp
  | set field value =>
    cases bound : editor.bound with
    | none => simp [apply, bound, Edit.Succeeds]
    | some binding =>
      rw [exists_apply_set_iff bound]
      simp [Edit.Succeeds]

/-- A step that does not succeed changes neither a buffer nor what is bound. -/
theorem step_of_not_succeeds (fails : ¬ edit.Succeeds editor.lengths editor.bound) :
    editor.step kind edit = editor := by
  rw [step]
  cases applied : editor.apply kind edit with
  | ok after => exact absurd (exists_apply_iff.mp ⟨after, applied⟩) fails
  | error _ => rfl

theorem bound_step_bind : (editor.step kind (.bind binding)).bound = some binding := rfl

theorem bound_step_tryBind : (editor.step kind (.tryBind binding)).bound =
    if Fits editor.lengths binding.buffer binding.position 8 then some binding
    else editor.bound := by
  rw [step, apply_tryBind_eq]
  by_cases fits : Fits editor.lengths binding.buffer binding.position 8
  · rw [if_pos fits, if_pos fits]
  · rw [if_neg fits, if_neg fits]

theorem bound_step_rebind : (editor.step kind (.rebind binding)).bound =
    editor.bound.map fun _ => binding := by
  cases bound : editor.bound with
  | none => simp only [step, apply, bound, Option.map_none]
  | some _ => simp only [step, apply, bound, Option.map_some]

theorem bound_step_set : (editor.step kind (.set field value)).bound = editor.bound := by
  cases bound : editor.bound with
  | none => simp only [step, apply, bound]
  | some binding =>
    cases written : editor.setField kind binding field value with
    | ok bytes => simp only [step, apply, bound, written]
    | error cause => simp only [step, apply, bound, written]

theorem bound_step (kind : RecordKind) (editor : Editor) (edit : Edit) :
    (editor.step kind edit).bound = edit.rebound editor.lengths editor.bound := by
  cases edit with
  | bind binding => exact bound_step_bind
  | tryBind binding => exact bound_step_tryBind
  | rebind binding => exact bound_step_rebind
  | set field value => exact bound_step_set

end Editor
end FixedLayout
