import FixedLayout.Access.Lemmas

/-!
Accesses in place. Here a buffer is read and changed one byte at a time, each byte, each range and
each sum is checked, and a fault leaves whatever the buffer holds at that moment. As a range is
checked before its first byte is touched, no access stops half way: it ends as the access to whole
values does, and leaves the old buffer behind a fault or a refusal.
-/
namespace FixedLayout

/-- A computation on a buffer, which is left however the computation ends. -/
def InPlace (α : Type) : Type := Bytes → Except Fault α × Bytes

namespace InPlace

instance : Monad InPlace where
  pure value := fun buffer => (.ok value, buffer)
  bind first next := fun buffer =>
    match first buffer with
    | (.ok value, after) => next value after
    | (.error cause, after) => (.error cause, after)

def length : InPlace Nat := fun buffer => (.ok buffer.length, buffer)

def ofExcept (result : Except Fault α) : InPlace α := fun buffer => (result, buffer)

def load (index : Nat) : InPlace UInt8 := fun buffer =>
  (Fault.outOfRange.orElse buffer[index]?, buffer)

def store (index : Nat) (byte : UInt8) : InPlace Unit := fun buffer =>
  if index < buffer.length then (.ok (), buffer.set index byte) else (.error .outOfRange, buffer)

/-- The bytes of a range, lowest address first. -/
def loadRange (start : Nat) : (size : Nat) → InPlace Bytes
  | 0 => pure []
  | size + 1 => do
    let byte ← load start
    return byte :: (← loadRange (start + 1) size)

def storeRange (start : Nat) : Bytes → InPlace Unit
  | [] => pure ()
  | byte :: rest => do
    store start byte
    storeRange (start + 1) rest

/-- Faults unless all of the range lies in the buffer. -/
def checkSlice (start size : Nat) : InPlace Unit := do
  let stop ← ofExcept (Fault.overflow.orElse (Word.add? start size))
  if (← length) < stop then
    ofExcept (.error .outOfRange)

variable (type : ScalarType) (position : Nat)

def read : InPlace type.Value := do
  checkSlice position type.size
  return type.decode (← loadRange position type.size)

def write (value : type.Value) : InPlace Unit := do
  checkSlice position type.size
  storeRange position (type.encode value)

/-- Reads as `read` does where the check lets it. -/
def tryRead : InPlace (Except BufferError type.Value) := do
  match checkRange (← length) position type.size with
  | .ok () => return .ok (← read type position)
  | .error error => return .error error

/-- Writes as `write` does where the check lets it. -/
def tryWrite (value : type.Value) : InPlace (Except BufferError Unit) := do
  match checkRange (← length) position type.size with
  | .ok () => return .ok (← write type position value)
  | .error error => return .error error

/-- How a change ends, and the buffer it leaves: the changed one, or else the one before. -/
def settle (buffer : Bytes) : Except ε Bytes → Except ε Unit × Bytes
  | .ok after => (.ok (), after)
  | .error error => (.error error, buffer)

theorem bind_apply (first : InPlace α) (next : α → InPlace β) (buffer : Bytes) :
    (first >>= next) buffer = match first buffer with
      | (.ok value, after) => next value after
      | (.error cause, after) => (.error cause, after) := rfl

variable {buffer : Bytes}

theorem loadRange_apply {start size : Nat} (inside : start + size ≤ buffer.length) :
    loadRange start size buffer = (.ok ((buffer.drop start).take size), buffer) := by
  induction size generalizing start with
  | zero => rfl
  | succ size ih =>
    have present : start < buffer.length := by omega
    have loaded : load start buffer = (.ok buffer[start], buffer) := by
      rw [load, List.getElem?_eq_getElem present]
      rfl
    have after : start + 1 + size ≤ buffer.length := by omega
    have rest := ih after
    simp only [loadRange, bind_apply, loaded, rest]
    rw [List.drop_eq_getElem_cons present]
    rfl

/-- Byte by byte the range fills up from its start, and is the new one in the end. -/
theorem storeRange_apply {start : Nat} {bytes : Bytes}
    (inside : start + bytes.length ≤ buffer.length) :
    storeRange start bytes buffer = (.ok (), buffer.overwrite start bytes) := by
  -- Each store leaves another buffer, in which the rest of the range still lies.
  induction bytes generalizing start buffer with
  | nil =>
    rw [Bytes.overwrite_nil]
    rfl
  | cons byte rest ih =>
    have present : start < buffer.length := by
      simp only [List.length_cons] at inside
      omega
    have stored : store start byte buffer = (.ok (), buffer.set start byte) := if_pos present
    simp only [storeRange, bind_apply, stored]
    rw [ih, Bytes.overwrite_cons inside]
    simp only [List.length_cons] at inside
    simp only [List.length_set]
    omega

theorem checkSlice_apply (start size : Nat) (buffer : Bytes) : checkSlice start size buffer =
    (if Word.limit ≤ start + size then .error .overflow
      else if buffer.length < start + size then .error .outOfRange
      else .ok (), buffer) := by
  rw [checkSlice, Word.add?]
  by_cases word : start + size < Word.limit
  · rw [if_pos word, if_neg (Nat.not_le.mpr word)]
    by_cases outside : buffer.length < start + size
    · simp only [bind_apply, ofExcept, Fault.orElse, length, if_pos outside]
    · simp only [bind_apply, ofExcept, Fault.orElse, length, if_neg outside]
      rfl
  · rw [if_neg word, if_pos (Nat.not_lt.mp word)]
    rfl

theorem read_eq (type : ScalarType) (position : Nat) (buffer : Bytes) :
    read type position buffer = (type.readAt buffer position, buffer) := by
  rw [read, bind_apply, checkSlice_apply, ScalarType.readAt_eq]
  by_cases overflows : Word.limit ≤ position + type.size
  · simp only [if_pos overflows]
  · by_cases outside : buffer.length < position + type.size
    · simp only [if_neg overflows, if_pos outside]
    · simp only [if_neg overflows, if_neg outside, bind_apply,
        loadRange_apply (Nat.not_lt.mp outside)]
      rfl

theorem write_eq (type : ScalarType) (position : Nat) (value : type.Value) (buffer : Bytes) :
    write type position value buffer = settle buffer (type.writeAt buffer position value) := by
  rw [write, bind_apply, checkSlice_apply, ScalarType.writeAt_eq]
  by_cases overflows : Word.limit ≤ position + type.size
  · simp only [if_pos overflows, settle]
  · by_cases outside : buffer.length < position + type.size
    · simp only [if_neg overflows, if_pos outside, settle]
    · have inside : position + (type.encode value).length ≤ buffer.length := by
        rw [type.length_encode]
        exact Nat.not_lt.mp outside
      simp only [if_neg overflows, if_neg outside, settle, storeRange_apply inside]

/-- What the check lets through does not fault. -/
theorem tryRead_eq (type : ScalarType) (position : Nat) (buffer : Bytes) :
    tryRead type position buffer = (.ok (type.tryReadAt buffer position), buffer) := by
  simp only [tryRead, bind_apply, length, checkRange_eq, ScalarType.tryReadAt_eq]
  by_cases inside : position + type.size ≤ buffer.length ∧ position + type.size < Word.limit
  · have unchecked := (type.readAt_eq buffer position).trans (access_ok_iff.mpr ⟨inside, rfl⟩)
    simp only [if_pos inside, bind_apply, read_eq, unchecked]
    rfl
  · simp only [if_neg inside]
    rfl

theorem tryWrite_eq (type : ScalarType) (position : Nat) (value : type.Value) (buffer : Bytes) :
    tryWrite type position value buffer =
      (settle buffer (type.tryWriteAt buffer position value)).map .ok id := by
  simp only [tryWrite, bind_apply, length, checkRange_eq, ScalarType.tryWriteAt_eq]
  by_cases inside : position + type.size ≤ buffer.length ∧ position + type.size < Word.limit
  · have unchecked := (type.writeAt_eq buffer position value).trans
      (access_ok_iff.mpr ⟨inside, rfl⟩)
    simp only [if_pos inside, bind_apply, write_eq, unchecked]
    rfl
  · simp only [if_neg inside]
    rfl

end InPlace
end FixedLayout
