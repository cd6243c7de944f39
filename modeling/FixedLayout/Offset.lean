import FixedLayout.Bytes
import FixedLayout.Fault
import FixedLayout.Word

/-!
Places in a buffer that grows at its front. An offset counts from the end, so growth leaves it
valid.
-/
namespace FixedLayout

/-- A place in a buffer, as its distance from the end. -/
structure Offset where
  fromEnd : Nat
  deriving DecidableEq, Repr

namespace Offset

/-- The position from the start of a buffer of `length` bytes. -/
def positionIn (offset : Offset) (length : Nat) : Except Fault Nat :=
  Fault.underflow.orElse (Word.sub? length offset.fromEnd)

def text (offset : Offset) : String := s!"Offset({offset.fromEnd})"

end Offset
end FixedLayout
