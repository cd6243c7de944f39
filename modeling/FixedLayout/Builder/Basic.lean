import FixedLayout.Json.Basic
import FixedLayout.Offset

/-!
A buffer that is filled from its end towards its start. What is written last lies first, and a
place is named by its distance from the end, which growth leaves alone. How large the buffer starts
and how large it may become is given by options, which JSON can hold.
-/
namespace FixedLayout

/-- The largest buffer that a signed 32-bit offset can address. -/
def maxBufferSize : UInt64 := 0x7fffffff

/-- Size limits of a builder, in bytes. -/
structure BuilderOptions where
  /-- The size of the first buffer, as far as `maxSize` allows it. -/
  initialCapacity : UInt64 := 1024
  /-- The size that no buffer exceeds. -/
  maxSize : UInt64 := maxBufferSize
  deriving DecidableEq, Repr, Inhabited

namespace BuilderOptions

/-- The size in a field, or the default of one left out. -/
def size? (default : UInt64) : Option Json → Option UInt64
  | none => some default
  | some (.number numeral) => numeral.toUInt64?
  | some _ => none

/-- The options that a value describes. A field that is left out keeps its default. -/
def ofJson? (json : Json) : Option BuilderOptions := do
  let base : BuilderOptions := {}
  match ← json.fields? ["initial_capacity", "max_size"] with
  | [initialCapacity, maxSize] =>
    return { initialCapacity := ← size? base.initialCapacity initialCapacity,
             maxSize := ← size? base.maxSize maxSize }
  | _ => none

end BuilderOptions

structure Builder where
  /-- Bytes of the buffer from its last byte downwards. The first `used` of them are written; the
  others are left over from before a reset. All bytes further down are zero. -/
  cells : Bytes
  used : Nat
  capacity : Nat
  /-- The largest alignment asked for since the last reset. -/
  minAlign : Nat
  /-- The size that the buffer may not exceed. -/
  maxSize : Nat
  deriving DecidableEq, Repr

namespace Builder

/-- An empty builder within the given limits. -/
def ofOptions (options : BuilderOptions) : Builder where
  cells := []
  used := 0
  capacity := min options.initialCapacity.toNat options.maxSize.toNat
  minAlign := 1
  maxSize := options.maxSize.toNat

def new : Builder := ofOptions {}

def withCapacity (capacity : UInt64) : Builder := ofOptions { initialCapacity := capacity }

variable (builder : Builder)

def free : Nat := builder.capacity - builder.used

/-- The place of the value written last. -/
def offset : Offset := ⟨builder.used⟩

/-- The bytes written so far, lowest address first. They are also what remains of a builder that
is given up. -/
def finishedData : Bytes := (builder.cells.take builder.used).reverse

/-- The position of a place inside the bytes written so far. -/
def positionOf (offset : Offset) : Except Fault Nat := offset.positionIn builder.used

/-- Forgets what was written. The buffer and its bytes stay. -/
def reset : Builder := { builder with used := 0, minAlign := 1 }

/-- Notes an alignment that the finished bytes have to satisfy. -/
def raiseAlign (alignment : Nat) : Builder :=
  { builder with minAlign := max builder.minAlign alignment }

/-- Puts bytes in front of those written, over whatever the buffer holds there. -/
def extend (bytes : Bytes) : Builder :=
  { builder with
    cells := builder.cells.take builder.used ++ bytes.reverse ++
      builder.cells.drop (builder.used + bytes.length)
    used := builder.used + bytes.length }

/-- Moves the written bytes to the end of a buffer of twice the size, within the limit; the rest
of the new buffer is zero. -/
def grow : Builder :=
  { builder with
    cells := builder.cells.take builder.used
    capacity := min (if builder.capacity = 0 then 1 else 2 * builder.capacity) builder.maxSize }

theorem capacity_lt_grow (room : builder.capacity < builder.maxSize) :
    builder.capacity < builder.grow.capacity := by
  simp only [grow]
  split <;> omega

/-- Grows until `needed` bytes are free or the limit is reached. -/
def growUntil (needed : Nat) (builder : Builder) : Builder :=
  if builder.free < needed ∧ builder.capacity < builder.maxSize then
    growUntil needed builder.grow
  else
    builder
termination_by builder.maxSize - builder.capacity
decreasing_by
  rename_i room
  have := builder.capacity_lt_grow room.2
  have : builder.grow.maxSize = builder.maxSize := rfl
  omega

end Builder
end FixedLayout
