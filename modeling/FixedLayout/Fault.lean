/-!
What can go wrong. A `BufferError` is an answer: the caller asked for more than a buffer holds or
may hold, and can go on. A `Fault` breaks the rules of an unchecked operation, which then has no
answer at all.
-/
namespace FixedLayout

/-- A request that a buffer turns down. -/
inductive BufferError where
  /-- An access of `size` bytes at `position` in a buffer of `length` bytes. -/
  | outOfBounds (position size length : Nat)
  /-- A reservation that needs `requested` bytes where `maximum` are allowed. -/
  | tooLarge (requested maximum : Nat)
  deriving DecidableEq, Repr

def BufferError.message : BufferError → String
  | .outOfBounds position size length =>
    s!"access of {size} bytes at {position} is out of bounds for buffer of length {length}"
  | .tooLarge requested maximum =>
    s!"cannot grow buffer to {requested} bytes, maximum is {maximum}"

/-- A broken precondition of an unchecked operation. -/
inductive Fault where
  /-- A sum of sizes is no 64-bit number. -/
  | overflow
  /-- An offset reaches back beyond the first byte. -/
  | underflow
  /-- An access reaches beyond the last byte. -/
  | outOfRange
  /-- An alignment is no power of two. -/
  | badAlignment
  /-- A write needs more free bytes than there are. -/
  | unreserved
  deriving DecidableEq, Repr

/-- The value of a checked computation, or the fault of its absence. -/
def Fault.orElse (fault : Fault) : Option α → Except Fault α
  | some value => .ok value
  | none => .error fault

end FixedLayout
