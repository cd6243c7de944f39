import FixedLayout.Record.View

/-!
Changing records in place. An editor holds some buffers and at most one binding of a record;
fields are set through the binding. A step that does not succeed changes nothing.
-/
namespace FixedLayout

/-- Where a record is bound: one of the buffers, by number, and a position in it. -/
structure Binding where
  buffer : Nat
  position : Nat
  deriving DecidableEq, Repr

/-- Buffers with at most one record bound for changes. -/
structure Editor where
  buffers : List Bytes
  bound : Option Binding := none
  deriving DecidableEq, Repr

/-- A step on an editor. -/
inductive Edit where
  | bind (binding : Binding)
  /-- Binds if the whole record lies inside the buffer. -/
  | tryBind (binding : Binding)
  /-- Moves an existing binding. -/
  | rebind (binding : Binding)
  | set (field : Field) (value : Binary32)
  deriving DecidableEq, Repr

/-- Why a step on an editor does not succeed. -/
inductive EditError where
  | refused (error : BufferError)
  | fault (cause : Fault)
  | unbound
  deriving DecidableEq, Repr

namespace Editor
variable (kind : RecordKind) (editor : Editor)

def bufferOf (binding : Binding) : Bytes := editor.buffers.getD binding.buffer []

/-- The bound record, for reading. -/
def view? : Option View :=
  editor.bound.map fun binding =>
    { kind, buffer := editor.bufferOf binding, position := binding.position }

/-- The bytes of a binding's buffer after a field is written. -/
def setField (binding : Binding) (field : Field) (value : Binary32) : Except Fault Bytes := do
  let position ← Fault.overflow.orElse (Word.add? binding.position (kind.position field))
  ScalarType.float32.writeAt (editor.bufferOf binding) position value

def apply : Edit → Except EditError Editor
  | .bind binding => .ok { editor with bound := binding }
  | .tryBind binding =>
    match checkRange (editor.bufferOf binding).length binding.position kind.size with
    | .ok () => .ok { editor with bound := binding }
    | .error error => .error (.refused error)
  | .rebind binding =>
    match editor.bound with
    | some _ => .ok { editor with bound := binding }
    | none => .error .unbound
  | .set field value =>
    match editor.bound with
    | some binding =>
      match editor.setField kind binding field value with
      | .ok bytes => .ok { editor with buffers := editor.buffers.set binding.buffer bytes }
      | .error cause => .error (.fault cause)
    | none => .error .unbound

/-- The editor after any step; one that does not succeed leaves it alone. -/
def step (edit : Edit) : Editor :=
  match editor.apply kind edit with
  | .ok after => after
  | .error _ => editor

end Editor
end FixedLayout
