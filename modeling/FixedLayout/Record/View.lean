import FixedLayout.Access
import FixedLayout.Offset
import FixedLayout.Record.Basic

/-!
Read-only views: a buffer together with the position at which a record is taken to begin. Binding
a view reads nothing, so that reading a field may fault.
-/
namespace FixedLayout

structure View where
  kind : RecordKind
  buffer : Bytes
  position : Nat
  deriving DecidableEq, Repr

namespace View

/-- Binds a view if the whole record lies inside the buffer. -/
def tryInit (kind : RecordKind) (buffer : Bytes) (position : Nat) : Except BufferError View := do
  checkRange buffer.length position kind.size
  return { kind, buffer, position }

/-- Binds a view to the record at a place in a finished buffer. -/
def follow (kind : RecordKind) (buffer : Bytes) (offset : Offset) : Except Fault View := do
  return { kind, buffer, position := ← offset.positionIn buffer.length }

def get (view : View) (field : Field) : Except Fault Binary32 := do
  let position ← Fault.overflow.orElse (Word.add? view.position (view.kind.position field))
  ScalarType.float32.readAt view.buffer position

def unpack (view : View) : Except Fault Record := do
  return { first := ← view.get .first, second := ← view.get .second }

end View
end FixedLayout
