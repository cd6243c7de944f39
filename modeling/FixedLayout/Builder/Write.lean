import FixedLayout.Builder.Build
import FixedLayout.Scalar

/-!
Writing to a builder. `prep` is the only operation that makes room; it pads first, so that the
reserved bytes start at a multiple of their alignment once they are all written. `put` uses
reserved bytes, and `push` does both.
-/
namespace FixedLayout.Build

/-- Writes bytes into free space. -/
def write (bytes : Bytes) : Build Unit := do
  let free ← observe Builder.free
  require (bytes.length ≤ free) .unreserved
  update (·.extend bytes)

/-- Makes sure that `needed` bytes are free. Where the limit does not allow them, the request is
turned down and the buffer stays as it is. -/
def reserve (needed : Nat) : Build Unit := do
  if (← observe Builder.free) < needed then
    let used ← observe Builder.used
    let requested ← ofExcept (Fault.overflow.orElse (Word.add? used needed))
    let maximum ← observe Builder.maxSize
    if maximum < requested then
      refuse (.tooLarge requested maximum)
    else
      update (Builder.growUntil needed)

/-- Reserves `length` bytes that end up at a multiple of `alignment`, counted from the end. The
alignment is noted even if the request is turned down. -/
def prep (alignment length : Nat) : Build Unit := do
  require (Word.IsAlignment alignment) .badAlignment
  update (·.raiseAlign alignment)
  let used ← observe Builder.used
  let padding := Word.padding alignment (used + length)
  let needed ← ofExcept (Fault.overflow.orElse (Word.add? padding length))
  reserve needed
  write (Bytes.zeros padding)

def put (type : ScalarType) (value : type.Value) : Build Unit :=
  write (type.encode value)

/-- Aligns, reserves and writes a scalar, and answers its place. -/
def push (type : ScalarType) (value : type.Value) : Build Offset := do
  prep type.size type.size
  put type value
  observe Builder.offset

/-- Pads the written bytes to a multiple of the largest alignment, and answers them. -/
def finish : Build Bytes := do
  let alignment ← observe Builder.minAlign
  prep alignment 0
  observe Builder.finishedData

def reset : Build Unit := update Builder.reset

end FixedLayout.Build
