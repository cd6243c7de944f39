import FixedLayout.Proofs.Bindings
import FixedLayout.Proofs.InPlace

/-!
Changes of records in place. Each byte of each buffer comes from the last field that was written
over it, through whatever binding, and from the buffer as it was where there is none. What is bound
and which fields are written at all is told from the steps and the lengths of the buffers.
-/
namespace FixedLayout

/-- A byte of a number, counted from the least significant one. -/
def Binary32.byte (bits : Binary32) (k : Nat) : UInt8 := UInt8.ofNat (bits.toNat / 256 ^ k)

/-- A value written into the four bytes from `start` on. -/
structure Mutation where
  buffer : Nat
  start : Nat
  value : Binary32

/-- The byte that a mutation writes at an index of a buffer, if any. -/
def Mutation.byte? (mutation : Mutation) (buffer index : Nat) : Option UInt8 :=
  if mutation.buffer = buffer ∧ mutation.start ≤ index ∧ index < mutation.start + 4 then
    some (mutation.value.byte (index - mutation.start))
  else
    none

namespace Edit

/-- What a step writes: a field, if something is bound and the field lies in its buffer. -/
def mutation? (lengths : List Nat) (bound : Option Binding) : Edit → Option Mutation
  | .set field value =>
    match bound with
    | some binding =>
      if Fits lengths binding.buffer (binding.start field) 4 then
        some ⟨binding.buffer, binding.start field, value⟩
      else
        none
    | none => none
  | .bind _ | .tryBind _ | .rebind _ => none

/-- What some steps write, the newest first. -/
def mutations (lengths : List Nat) : Option Binding → List Edit → List Mutation
  | _, [] => []
  | bound, edit :: rest =>
    mutations lengths (edit.rebound lengths bound) rest ++ (edit.mutation? lengths bound).toList

end Edit

namespace Editor

variable (kind : RecordKind) (editor : Editor)

def byte? (buffer index : Nat) : Option UInt8 := editor.buffers[buffer]?.bind (·[index]?)

def run (edits : List Edit) : Editor := edits.foldl (step kind) editor

end Editor

namespace Binary32

/-- The encoding of a number. -/
def bytes (bits : Binary32) : Bytes := ScalarType.float32.encode bits

def ofBytes (bytes : Bytes) : Binary32 := ScalarType.float32.decode bytes

variable (bits : Binary32)

theorem length_bytes : bits.bytes.length = 4 := ScalarType.length_encode ..

theorem getElem?_bytes {k : Nat} (small : k < 4) : bits.bytes[k]? = some (bits.byte k) :=
  Bytes.getElem?_littleEndian bits.toNat small

theorem bytes_ofBytes {bytes : Bytes} (length : bytes.length = 4) :
    (ofBytes bytes).bytes = bytes :=
  (ScalarType.float32.encode_decode (Nat.le_of_eq length.symm)).trans
    (List.take_of_length_le (Nat.le_of_eq length))

end Binary32

namespace Editor

variable {kind : RecordKind} {editor : Editor} {binding : Binding} {field : Field}
  {value : Binary32}

theorem getElem?_bufferOf (editor : Editor) (binding : Binding) (index : Nat) :
    (editor.bufferOf binding)[index]? = editor.byte? binding.buffer index := by
  rw [bufferOf, byte?, List.getD_eq_getElem?_getD]
  cases editor.buffers[binding.buffer]? with
  | none => rfl
  | some bytes => rfl

theorem get_ok_iff {bits : Binary32} :
    View.get ⟨kind, editor.bufferOf binding, binding.position⟩ field = .ok bits ↔
      Fits editor.lengths binding.buffer (binding.start field) 4 ∧ Binary32.ofBytes
        (((editor.bufferOf binding).drop (binding.start field)).take 4) = bits := by
  rw [fits_iff, binding.start_eq kind]
  exact View.get_ok_iff

theorem getElem?_buffers_of_fits
    (fits : Fits editor.lengths binding.buffer (binding.start field) 4) :
    editor.buffers[binding.buffer]? = some (editor.bufferOf binding) := by
  have inside := (fits_iff.mp fits).1
  rw [bufferOf, List.getD_eq_getElem?_getD] at inside ⊢
  cases present : editor.buffers[binding.buffer]? with
  | some bytes => rfl
  | none =>
    rw [present] at inside
    exact absurd inside (Nat.not_succ_le_zero _)

/-- A step overwrites four bytes of one buffer, or it changes none. -/
theorem step_cases (kind : RecordKind) (editor : Editor) (edit : Edit) :
    (edit.mutation? editor.lengths editor.bound = none ∧
      (editor.step kind edit).buffers = editor.buffers) ∨
    ∃ mutation bytes, edit.mutation? editor.lengths editor.bound = some mutation ∧
      editor.buffers[mutation.buffer]? = some bytes ∧ mutation.start + 4 ≤ bytes.length ∧
      (editor.step kind edit).buffers = editor.buffers.set mutation.buffer
        (bytes.overwrite mutation.start mutation.value.bytes) := by
  cases edit with
  | bind binding => exact .inl ⟨rfl, rfl⟩
  | tryBind binding =>
    refine .inl ⟨rfl, ?_⟩
    rw [step, apply_tryBind_eq]
    by_cases fits : Fits editor.lengths binding.buffer binding.position 8
    · rw [if_pos fits]
    · rw [if_neg fits]
  | rebind binding =>
    refine .inl ⟨rfl, ?_⟩
    simp only [step, apply]
    cases editor.bound with
    | none => rfl
    | some => rfl
  | set field value =>
    cases bound : editor.bound with
    | none =>
      refine .inl ⟨rfl, ?_⟩
      simp only [step, apply, bound]
    | some binding =>
      by_cases fits : Fits editor.lengths binding.buffer (binding.start field) 4
      · refine .inr ⟨⟨binding.buffer, binding.start field, value⟩, editor.bufferOf binding,
          if_pos fits, getElem?_buffers_of_fits fits, (fits_iff.mp fits).1, ?_⟩
        rw [step, apply_set_of_fits bound fits]
        rfl
      · have fails : ¬ (Edit.set field value).Succeeds editor.lengths editor.bound := by
          rw [bound]
          rintro ⟨_, ⟨⟩, inside⟩
          exact fits inside
        exact .inl ⟨if_neg fits, congrArg buffers (step_of_not_succeeds fails)⟩

/-- Writing bytes over a buffer does not change its length. -/
theorem lengths_step (kind : RecordKind) (editor : Editor) (edit : Edit) :
    (editor.step kind edit).lengths = editor.lengths := by
  obtain ⟨-, kept⟩ | ⟨mutation, bytes, -, present, inside, written⟩ := step_cases kind editor edit
  · rw [lengths, kept, lengths]
  · have length : (bytes.overwrite mutation.start mutation.value.bytes).length = bytes.length := by
      apply Bytes.length_overwrite
      rwa [mutation.value.length_bytes]
    obtain ⟨small, rfl⟩ := List.getElem?_eq_some_iff.mp present
    rw [lengths, lengths, written, List.map_set, length, ← List.getElem_map List.length]
    · exact List.set_getElem_self _
    · rwa [List.length_map]

theorem byte?_step (kind : RecordKind) (editor : Editor) (edit : Edit) (buffer index : Nat) :
    (editor.step kind edit).byte? buffer index =
      ((edit.mutation? editor.lengths editor.bound).bind (·.byte? buffer index)).or
        (editor.byte? buffer index) := by
  obtain ⟨nothing, kept⟩ | ⟨mutation, bytes, wrote, present, inside, written⟩ :=
    step_cases kind editor edit
  · rw [nothing, byte?, kept]
    rfl
  · rw [wrote, Option.bind_some, byte?, byte?, written, List.getElem?_set, Mutation.byte?]
    by_cases same : mutation.buffer = buffer
    · subst same
      have bound := (List.getElem?_eq_some_iff.mp present).1
      rw [← mutation.value.length_bytes] at inside
      rw [if_pos rfl, if_pos bound, Option.bind_some, Bytes.getElem?_overwrite inside, present,
        Option.bind_some, mutation.value.length_bytes]
      by_cases covered : mutation.start ≤ index ∧ index < mutation.start + 4
      · have small : index - mutation.start < 4 := by omega
        rw [if_pos covered, if_pos ⟨rfl, covered⟩, mutation.value.getElem?_bytes small]
        rfl
      · rw [if_neg covered, if_neg fun covers => covered covers.2]
        rfl
    · rw [if_neg same, if_neg fun covers => same covers.1]
      rfl

theorem lengths_run (kind : RecordKind) (editor : Editor) (edits : List Edit) :
    (editor.run kind edits).lengths = editor.lengths := by
  induction edits generalizing editor with
  | nil => rfl
  | cons edit rest ih => exact (ih (editor.step kind edit)).trans (lengths_step kind editor edit)

theorem bound_run (kind : RecordKind) (editor : Editor) (edits : List Edit) :
    (editor.run kind edits).bound = Edit.boundAfter editor.lengths editor.bound edits := by
  induction edits generalizing editor with
  | nil => rfl
  | cons edit rest ih =>
    have later := ih (editor.step kind edit)
    rwa [lengths_step, bound_step] at later

theorem byte?_run (kind : RecordKind) (editor : Editor) (edits : List Edit) (buffer index : Nat) :
    (editor.run kind edits).byte? buffer index =
      ((Edit.mutations editor.lengths editor.bound edits).findSome? (·.byte? buffer index)).or
        (editor.byte? buffer index) := by
  induction edits generalizing editor with
  | nil => rfl
  | cons edit rest ih =>
    let first := edit.mutation? editor.lengths editor.bound
    have newest : first.toList.findSome? (·.byte? buffer index) =
        first.bind (·.byte? buffer index) := by
      cases first with
      | none => rfl
      | some mutation => exact List.findSome?_singleton
    have later := ih (editor.step kind edit)
    rw [lengths_step, bound_step] at later
    -- The first step wrote before all others, so its write is looked up last.
    calc ((editor.step kind edit).run kind rest).byte? buffer index
      _ = ((Edit.mutations editor.lengths (edit.rebound editor.lengths editor.bound) rest).findSome?
            (·.byte? buffer index)).or ((editor.step kind edit).byte? buffer index) := later
      _ = _ := by rw [byte?_step, Edit.mutations, List.findSome?_append, newest, Option.or_assoc]

/-- A field that can be read has the bits of its four bytes. -/
theorem byte?_of_get {bits : Binary32}
    (read : View.get ⟨kind, editor.bufferOf binding, binding.position⟩ field = .ok bits)
    {k : Nat} (small : k < 4) :
    editor.byte? binding.buffer (binding.start field + k) = some (bits.byte k) := by
  obtain ⟨fits, rfl⟩ := get_ok_iff.mp read
  have length := Bytes.length_take_drop (fits_iff.mp fits).1
  rw [← Binary32.getElem?_bytes _ small, Binary32.bytes_ofBytes length,
    List.getElem?_take_of_lt small, List.getElem?_drop, getElem?_bufferOf]

end Editor

namespace InPlace

/-- Sets a field of the record at a position. -/
def setField (kind : RecordKind) (position : Nat) (field : Field) (value : Binary32) :
    InPlace Unit := do
  let start ← ofExcept (Fault.overflow.orElse (Word.add? position (kind.position field)))
  write .float32 start value

theorem setField_eq (kind : RecordKind) (editor : Editor) (binding : Binding) (field : Field)
    (value : Binary32) :
    setField kind binding.position field value (editor.bufferOf binding) =
      settle (editor.bufferOf binding) (editor.setField kind binding field value) := by
  rw [setField, bind_apply, Editor.setField]
  cases Word.add? binding.position (kind.position field) with
  | none => rfl
  | some start => exact write_eq ..

end InPlace

namespace Editor

/-- A step that writes its bytes in place, with its answer. A fault leaves whatever the buffer holds
at that moment. -/
def performInPlace (kind : RecordKind) (editor : Editor) (edit : Edit) :
    Except EditError Unit × Editor :=
  match edit, editor.bound with
  | .set field value, some binding =>
    let (answer, bytes) :=
      InPlace.setField kind binding.position field value (editor.bufferOf binding)
    (answer.mapError .fault, { editor with buffers := editor.buffers.set binding.buffer bytes })
  | edit, _ => ((editor.apply kind edit).map fun _ => (), editor.step kind edit)

theorem set_bufferOf (editor : Editor) (binding : Binding) :
    editor.buffers.set binding.buffer (editor.bufferOf binding) = editor.buffers := by
  rw [bufferOf, List.getD_eq_getElem?_getD]
  by_cases present : binding.buffer < editor.buffers.length
  · rw [List.getElem?_eq_getElem present]
    exact List.set_getElem_self present
  · exact List.set_eq_of_length_le (Nat.not_lt.mp present)

/-- Written in place, a field that faults leaves its buffer as it was. -/
theorem performInPlace_eq (kind : RecordKind) (editor : Editor) (edit : Edit) :
    editor.performInPlace kind edit =
      ((editor.apply kind edit).map fun _ => (), editor.step kind edit) := by
  cases edit with
  | bind | tryBind | rebind => rfl
  | set field value =>
    cases bound : editor.bound with
    | none => simp only [performInPlace, bound]
    | some binding =>
      simp only [performInPlace, bound, InPlace.setField_eq, step, apply]
      cases editor.setField kind binding field value with
      | ok bytes => rfl
      | error cause =>
        simp only [InPlace.settle, set_bufferOf, ← bound]
        rfl

end Editor

/-- After any steps that is bound which the steps say, and each byte is that of the last value
written over it, or the byte that was there at first if there is none. A step succeeds exactly if
its range lies in its buffer; written in place, it changes nothing if it does not. A field can be
read exactly where its four bytes are, and has their value. -/
theorem last_mutation_wins (kind : RecordKind) (editor : Editor) (edits : List Edit) :
    let after := editor.run kind edits
    let bound := Edit.boundAfter editor.lengths editor.bound edits
    after.lengths = editor.lengths ∧
    after.bound = bound ∧
    (∀ buffer index, after.byte? buffer index =
      ((Edit.mutations editor.lengths editor.bound edits).findSome? (·.byte? buffer index)).or
        (editor.byte? buffer index)) ∧
    (∀ edit : Edit,
      ((∃ changed, after.apply kind edit = .ok changed) ↔ edit.Succeeds editor.lengths bound) ∧
      after.performInPlace kind edit =
        ((after.apply kind edit).map fun _ => (), after.step kind edit) ∧
      (¬ edit.Succeeds editor.lengths bound → (after.performInPlace kind edit).2 = after)) ∧
    ∀ binding, bound = some binding →
      let view : View := ⟨kind, after.bufferOf binding, binding.position⟩
      after.view? kind = some view ∧ ∀ field,
        ((∃ bits, view.get field = .ok bits) ↔
          Fits editor.lengths binding.buffer (binding.start field) 4) ∧
        ∀ bits, view.get field = .ok bits → ∀ k < 4,
          after.byte? binding.buffer (binding.start field + k) = some (bits.byte k) := by
  intro after bound
  have lengths : after.lengths = editor.lengths := editor.lengths_run kind edits
  have shown : after.bound = bound := editor.bound_run kind edits
  refine ⟨lengths, shown, editor.byte?_run kind edits, ?_, ?_⟩
  · intro edit
    refine ⟨?_, after.performInPlace_eq kind edit, ?_⟩
    · rw [← lengths, ← shown]
      exact Editor.exists_apply_iff
    · intro fails
      rw [← lengths, ← shown] at fails
      rw [after.performInPlace_eq kind edit, Editor.step_of_not_succeeds fails]
  · intro binding held view
    refine ⟨?_, fun field => ⟨?_, ?_⟩⟩
    · rw [Editor.view?, shown, held]
      rfl
    · rw [← lengths]
      constructor
      · rintro ⟨bits, read⟩
        exact (Editor.get_ok_iff.mp read).1
      · intro fits
        exact ⟨_, Editor.get_ok_iff.mpr ⟨fits, rfl⟩⟩
    · intro bits read k small
      exact Editor.byte?_of_get read small

/-- Two records that overlap in one buffer, the second one bound with a check, and a third one whose
second field lies outside its own buffer: it can neither be set nor read, and binding a record that
reaches as far is refused. -/
theorem last_mutation_wins_overlapping :
    let editor : Editor := ⟨[[1, 2, 3, 4, 5, 6, 7, 8, 9, 10], [7, 7, 7, 7, 7, 7]], none⟩
    let edits : List Edit := [.bind ⟨0, 0⟩, .set .first 0x44332211, .tryBind ⟨0, 2⟩,
      .set .first 0x88776655, .rebind ⟨1, 2⟩, .set .first 0xddccbbaa, .set .second 0x3f800000,
      .tryBind ⟨1, 1⟩]
    let after := editor.run .polarPoint edits
    let view : View := ⟨.polarPoint, [7, 7, 0xaa, 0xbb, 0xcc, 0xdd], 2⟩
    after.bound = some ⟨1, 2⟩ ∧ after.byte? 0 1 = some 0x22 ∧ after.byte? 0 2 = some 0x55 ∧
    after.byte? 0 6 = some 7 ∧ after.byte? 1 1 = some 7 ∧
    after.view? .polarPoint = some view ∧
    view.get .first = .ok 0xddccbbaa ∧
    (∀ k < 4, after.byte? 1 (2 + k) = some (Binary32.byte 0xddccbbaa k)) ∧
    (¬ ∃ bits, view.get .second = .ok bits) ∧
    (¬ ∃ changed, after.apply .polarPoint (.set .second 0x3f800000) = .ok changed) ∧
    (after.performInPlace .polarPoint (.set .second 0x3f800000)).2 = after := by
  intro editor edits after view
  obtain ⟨-, bound, bytes, steps, views⟩ := last_mutation_wins .polarPoint editor edits
  have held : Edit.boundAfter editor.lengths editor.bound edits = some ⟨1, 2⟩ := by decide +kernel
  have same : after.bufferOf ⟨1, 2⟩ = view.buffer := by decide +kernel
  have read : view.get .first = .ok 0xddccbbaa := rfl
  have outside : ¬ Fits editor.lengths 1 6 4 := by decide
  have fails : ¬ (Edit.set .second 0x3f800000).Succeeds editor.lengths
      (Edit.boundAfter editor.lengths editor.bound edits) := by
    rw [held]
    rintro ⟨_, ⟨⟩, inside⟩
    exact outside inside
  obtain ⟨succeeds, -, kept⟩ := steps (.set .second 0x3f800000)
  obtain ⟨shown, fields⟩ := views ⟨1, 2⟩ held
  rw [same] at shown fields
  refine ⟨bound.trans held, (bytes 0 1).trans ?_, (bytes 0 2).trans ?_, (bytes 0 6).trans ?_,
    (bytes 1 1).trans ?_, shown, read, (fields .first).2 _ read,
    fun found => outside ((fields .second).1.mp found),
    fun changed => fails (succeeds.mp changed), kept fails⟩
  all_goals decide +kernel

end FixedLayout
