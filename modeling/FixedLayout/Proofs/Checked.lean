import FixedLayout.Builder.Memory
import FixedLayout.Bytes.Lemmas
import FixedLayout.Proofs.Run

/-!
The builder in memory: its buffer from the first byte to the last, and the position where the
written bytes begin. Every sum, every difference and every access to the buffer is checked here, and
growing has no limit to stop it. Where a builder answers, memory gives the same answer and holds
the same bytes, so that no check fails: `Checked.perform_follows`.
-/
namespace FixedLayout

structure Memory where
  /-- The buffer, lowest address first. -/
  bytes : Bytes
  /-- Where the written bytes begin. -/
  head : Nat
  minAlign : Nat
  maxSize : Nat
  deriving DecidableEq

namespace Memory

def ofOptions (options : BuilderOptions) : Memory where
  bytes := Bytes.zeros (min options.initialCapacity.toNat options.maxSize.toNat)
  head := min options.initialCapacity.toNat options.maxSize.toNat
  minAlign := 1
  maxSize := options.maxSize.toNat

variable (memory : Memory)

def used? : Option Nat := Word.sub? memory.bytes.length memory.head

def written? : Option Bytes :=
  memory.bytes.slice? memory.head (memory.bytes.length - memory.head)

def raiseAlign (alignment : Nat) : Memory :=
  { memory with minAlign := max memory.minAlign alignment }

def reset : Memory := { memory with head := memory.bytes.length, minAlign := 1 }

/-- Writes bytes just before those written. -/
def extend? (bytes : Bytes) : Option Memory := do
  let head ← Word.sub? memory.head bytes.length
  let _ ← memory.bytes.slice? head bytes.length
  return { memory with bytes := memory.bytes.overwrite head bytes, head }

/-- Twice the size, as far as words and the limit allow it. -/
def largerSize : Nat :=
  min (if memory.bytes.length = 0 then 1 else min (2 * memory.bytes.length) (Word.limit - 1))
    memory.maxSize

/-- Copies the written bytes to the end of a larger buffer, which has to have as many there. -/
def grow? : Option Memory := do
  let larger := Bytes.zeros memory.largerSize
  let head ← Word.sub? memory.largerSize (← memory.used?)
  let target ← larger.slice? head (larger.length - head)
  let written ← memory.written?
  if target.length = written.length then
    some { memory with bytes := larger.overwrite head written, head }
  else
    none

/-- Grows while fewer than `needed` bytes are free. A round that frees none would go on for ever. -/
def growUntil? (needed : Nat) (memory : Memory) : Option Memory :=
  if memory.head < needed then
    match memory.grow? with
    | some larger => if memory.head < larger.head then growUntil? needed larger else none
    | none => none
  else
    some memory
termination_by needed - memory.head

end Memory

/-- A computation on memory. It has no end where a check fails. -/
def Checked (α : Type) : Type := Memory → Option (Except BufferError α × Memory)

namespace Checked

instance : Monad Checked where
  pure value := fun memory => some (.ok value, memory)
  bind first next := fun memory =>
    match first memory with
    | some (.ok value, after) => next value after
    | some (.error error, after) => some (.error error, after)
    | none => none

def observe (view : Memory → Option α) : Checked α := fun memory =>
  (view memory).map fun value => (.ok value, memory)

def change (step : Memory → Option Memory) : Checked Unit := fun memory =>
  (step memory).map fun after => (.ok (), after)

def refuse (error : BufferError) : Checked α := fun memory => some (.error error, memory)

def reserve (needed : Nat) : Checked Unit := do
  if (← observe fun memory => some memory.head) < needed then
    let used ← observe Memory.used?
    let requested ← observe fun _ => Word.add? used needed
    let maximum ← observe fun memory => some memory.maxSize
    if maximum < requested then
      refuse (.tooLarge requested maximum)
    else
      change (Memory.growUntil? needed)

def prep (alignment length : Nat) : Checked Unit := do
  observe fun _ => if Word.IsAlignment alignment then some () else none
  change fun memory => some (memory.raiseAlign alignment)
  let used ← observe Memory.used?
  let mask ← observe fun _ => Word.sub? alignment 1
  let padding := (Word.limit - (used + length) % Word.limit) % Word.limit &&& mask
  let needed ← observe fun _ => Word.add? padding length
  reserve needed
  change (·.extend? (Bytes.zeros padding))

def put (type : ScalarType) (value : type.Value) : Checked Unit :=
  change (·.extend? (type.encode value))

def offset : Checked Offset := observe fun memory => memory.used?.map Offset.mk

def push (type : ScalarType) (value : type.Value) : Checked Offset := do
  prep type.size type.size
  put type value
  offset

def create (kind : RecordKind) (first second : Binary32) : Checked Offset := do
  prep kind.alignment kind.size
  put .float32 second
  put .float32 first
  offset

def finish : Checked Bytes := do
  prep (← observe fun memory => some memory.minAlign) 0
  observe Memory.written?

def perform : Step → Checked Reply
  | .prep alignment length => do prep alignment length; return .done
  | .put type value => do put type value; return .done
  | .push type value => return .placed (← push type value)
  | .create kind first second => return .placed (← create kind first second)
  | .pack kind record => return .placed (← create kind record.first record.second)
  | .finish => return .finished (← finish)
  | .reset => do change fun memory => some memory.reset; return .done

end Checked

/-- A builder's buffer and the start of its written bytes. -/
def Builder.inMemory (builder : Builder) : Memory where
  bytes := builder.memory
  head := builder.free
  minAlign := builder.minAlign
  maxSize := builder.maxSize

theorem Builder.inMemory_ofOptions (options : BuilderOptions) :
    (Builder.ofOptions options).inMemory = Memory.ofOptions options := by
  rw [inMemory, memory, ofOptions, List.reverse_nil, List.append_nil]
  rfl

namespace Builder.WellFormed

variable {builder : Builder} {bytes : Bytes} {needed : Nat}

theorem used?_inMemory (valid : builder.WellFormed) :
    builder.inMemory.used? = some builder.used := by
  have within := valid.used_le_capacity
  change Word.sub? builder.memory.length builder.free = _
  rw [valid.length_memory, free]
  exact Word.sub?_eq_some_iff.mpr ⟨Nat.sub_le .., Nat.sub_sub_self within⟩

theorem written?_inMemory (valid : builder.WellFormed) :
    builder.inMemory.written? = some builder.finishedData := by
  have inside : builder.free + (builder.memory.length - builder.free) ≤ builder.memory.length := by
    rw [valid.length_memory, free]
    omega
  have written : builder.memory.drop builder.free = builder.finishedData := valid.release_eq
  have whole : builder.finishedData.length ≤ builder.memory.length - builder.free := by
    rw [← written, List.length_drop]
  change builder.memory.slice? builder.free (builder.memory.length - builder.free) = _
  rw [Bytes.slice?_of_le inside, written, List.take_of_length_le whole]

theorem extend?_inMemory (valid : builder.WellFormed) (room : bytes.length ≤ builder.free) :
    builder.inMemory.extend? bytes = some (builder.extend bytes).inMemory := by
  have head : Word.sub? builder.free bytes.length = some (builder.free - bytes.length) :=
    Word.sub?_eq_some_iff.mpr ⟨room, rfl⟩
  have inside : builder.free - bytes.length + bytes.length ≤ builder.memory.length := by
    rw [Nat.sub_add_cancel room, valid.length_memory]
    exact Nat.sub_le ..
  have left : (builder.extend bytes).free = builder.free - bytes.length := (Nat.sub_sub ..).symm
  change (Word.sub? builder.free bytes.length).bind (fun head =>
    (builder.memory.slice? head bytes.length).bind fun _ => some
      (⟨builder.memory.overwrite head bytes, head, builder.minAlign, builder.maxSize⟩ : Memory)) = _
  rw [head, Option.bind_some, Bytes.slice?_of_le inside, Option.bind_some,
    ← valid.memory_extend room, ← left]
  rfl

theorem reset_inMemory (valid : builder.WellFormed) :
    builder.inMemory.reset = builder.reset.inMemory := by
  have head : builder.memory.length = builder.reset.free := valid.length_memory
  change (⟨builder.memory, builder.memory.length, 1, builder.maxSize⟩ : Memory) = _
  rw [head]
  rfl

/-- Within the limit doubling does not saturate. -/
theorem largerSize_inMemory (valid : builder.WellFormed) :
    builder.inMemory.largerSize = builder.grow.capacity := by
  have := valid.maxSize_lt_limit
  change min (if builder.memory.length = 0 then 1 else min (2 * builder.memory.length) _) _ =
    min (if builder.capacity = 0 then 1 else 2 * builder.capacity) builder.maxSize
  rw [valid.length_memory]
  change min _ builder.maxSize = _
  by_cases empty : builder.capacity = 0
  · rw [if_pos empty, if_pos empty]
  · rw [if_neg empty, if_neg empty]
    omega

theorem grow?_inMemory (valid : builder.WellFormed) :
    builder.inMemory.grow? = some builder.grow.inMemory := by
  have within : builder.used ≤ builder.grow.capacity := valid.grow.used_le_capacity
  have head : Word.sub? builder.grow.capacity builder.used = some builder.grow.free :=
    Word.sub?_eq_some_iff.mpr ⟨within, rfl⟩
  have length : builder.finishedData.length = builder.used := Builder.length_finishedData valid
  have room : builder.grow.free + builder.finishedData.length = builder.grow.capacity := by
    rw [length]
    exact Nat.sub_add_cancel within
  have size : builder.grow.capacity - builder.grow.free = builder.finishedData.length := by omega
  have copied : (Bytes.zeros builder.grow.capacity).overwrite builder.grow.free
      builder.finishedData = builder.grow.memory := by
    rw [valid.memory_grow, ← room, Bytes.overwrite_zeros]
    congr 2
    omega
  have inside : builder.grow.free + builder.finishedData.length ≤
      (Bytes.zeros builder.grow.capacity).length := by
    rw [Bytes.length_zeros, room]
  simp only [Memory.grow?, valid.largerSize_inMemory, valid.used?_inMemory,
    valid.written?_inMemory, head, Option.bind_eq_bind, Option.bind_some, Bytes.length_zeros, size,
    Bytes.slice?_of_le inside, Bytes.length_take_drop inside, if_pos, copied]
  rfl

theorem growUntil?_inMemory (valid : builder.WellFormed)
    (room : builder.used + needed ≤ builder.maxSize) :
    builder.inMemory.growUntil? needed = some (builder.growUntil needed).inMemory := by
  fun_induction Builder.growUntil needed builder with
  | case1 builder scarce ih =>
    have larger : builder.free < builder.grow.free := by
      have := valid.used_le_capacity
      have := builder.capacity_lt_grow scarce.2
      change builder.capacity - builder.used < builder.grow.capacity - builder.used
      omega
    have round : builder.inMemory.growUntil? needed = builder.grow.inMemory.growUntil? needed := by
      rw [Memory.growUntil?, if_pos (show builder.inMemory.head < needed from scarce.1),
        valid.grow?_inMemory]
      exact if_pos larger
    rw [round, ih valid.grow room]
  | case2 builder stopped =>
    have enough : ¬ builder.inMemory.head < needed := by
      change ¬ builder.free < needed
      simp only [free] at stopped ⊢
      omega
    rw [Memory.growUntil?, if_neg enough]

end Builder.WellFormed

/-- What memory comes to where a builder comes to an outcome. A fault says nothing. -/
def Outcome.Shows (result : Option (Except BufferError α × Memory)) : Outcome α → Prop
  | .ok value after => after.WellFormed ∧ result = some (.ok value, after.inMemory)
  | .refused error after => after.WellFormed ∧ result = some (.error error, after.inMemory)
  | .fault _ => True

namespace Checked

variable {low : Checked α} {high : Build α}

/-- Where a builder answers, memory answers the same and holds the same bytes. -/
def Follows (low : Checked α) (high : Build α) : Prop :=
  ∀ builder : Builder, builder.WellFormed → (high builder).Shows (low builder.inMemory)

theorem Follows.answered (follows : Follows low high) {builder after : Builder}
    {answer : Except BufferError α} (valid : builder.WellFormed)
    (performed : high builder = .answered answer after) :
    low builder.inMemory = some (answer, after.inMemory) := by
  have shows := follows builder valid
  rw [performed] at shows
  cases answer with
  | ok value => exact shows.2
  | error error => exact shows.2

theorem bind_apply (first : Checked α) (next : α → Checked β) (memory : Memory) :
    (first >>= next) memory = match first memory with
      | some (.ok value, after) => next value after
      | some (.error error, after) => some (.error error, after)
      | none => none := rfl

theorem observe_some_bind (value : α) (next : α → Checked β) :
    ((observe fun _ => some value) >>= next) = next value := rfl

theorem follows_pure (value : α) : Follows (pure value) (pure value) :=
  fun _ valid => ⟨valid, rfl⟩

theorem Follows.bind {next : α → Checked β} {high_next : α → Build β} (first : Follows low high)
    (onward : ∀ value, Follows (next value) (high_next value)) :
    Follows (low >>= next) (high >>= high_next) := by
  intro builder valid
  have shows := first builder valid
  rw [bind_apply, Build.bind_apply]
  cases taken : high builder with
  | ok value middle =>
    rw [taken] at shows
    rw [shows.2]
    exact onward value middle shows.1
  | refused error middle =>
    rw [taken] at shows
    rw [shows.2]
    exact ⟨shows.1, rfl⟩
  | fault cause => trivial

theorem follows_observe {view : Memory → Option α} {high_view : Builder → α}
    (agree : ∀ builder, builder.WellFormed → view builder.inMemory = some (high_view builder)) :
    Follows (observe view) (Build.observe high_view) := by
  intro builder valid
  refine ⟨valid, ?_⟩
  rw [observe, agree builder valid]
  rfl

theorem follows_update {step : Memory → Option Memory} {high_step : Builder → Builder}
    (agree : ∀ builder, builder.WellFormed →
      (high_step builder).WellFormed ∧ step builder.inMemory = some (high_step builder).inMemory) :
    Follows (change step) (Build.update high_step) := by
  intro builder valid
  obtain ⟨valid_after, same⟩ := agree builder valid
  refine ⟨valid_after, ?_⟩
  rw [change, same]
  rfl

theorem follows_require {condition : Prop} [Decidable condition] {cause : Fault}
    (guarded : condition → Follows low high) :
    Follows ((observe fun _ => if condition then some () else none) >>= fun _ => low)
      (Build.require condition cause >>= fun _ => high) := by
  intro builder valid
  rw [bind_apply, Build.bind_apply, Build.require_apply, observe]
  by_cases holds : condition
  · rw [if_pos holds, if_pos holds]
    exact guarded holds builder valid
  · rw [if_neg holds, if_neg holds]
    trivial

theorem follows_sum (a b : Nat) : Follows (observe fun _ => Word.add? a b)
    (Build.ofExcept (Fault.overflow.orElse (Word.add? a b))) := by
  intro builder valid
  cases sum : Word.add? a b with
  | none => trivial
  | some total => exact ⟨valid, by rw [observe]; rfl⟩

theorem follows_write (bytes : Bytes) :
    Follows (change (·.extend? bytes)) (Build.write bytes) := by
  intro builder valid
  rw [Build.write_apply]
  by_cases room : bytes.length ≤ builder.free
  · rw [if_pos room, change, valid.extend?_inMemory room]
    exact ⟨valid.extend room, rfl⟩
  · rw [if_neg room]
    trivial

/-- The limit is tested before the loop, which therefore ends. -/
theorem follows_reserve (needed : Nat) : Follows (reserve needed) (Build.reserve needed) := by
  intro builder valid
  rw [Build.reserve_apply valid]
  by_cases overflows : Word.limit ≤ builder.used + needed
  · rw [if_pos overflows]
    trivial
  · have sum : Word.add? builder.used needed = some (builder.used + needed) :=
      Word.add?_eq_some_iff.mpr ⟨Nat.not_le.mp overflows, rfl⟩
    rw [if_neg overflows]
    by_cases scarce : builder.free < needed
    · have head : builder.inMemory.head < needed := scarce
      have opened : reserve needed builder.inMemory =
          (if builder.maxSize < builder.used + needed then
            refuse (.tooLarge (builder.used + needed) builder.maxSize)
          else change (Memory.growUntil? needed)) builder.inMemory := by
        simp only [reserve, bind_apply, observe, Option.map_some, if_pos head,
          valid.used?_inMemory, sum]
        rfl
      rw [opened]
      by_cases large : builder.maxSize < builder.used + needed
      · rw [if_pos large, if_pos large]
        exact ⟨valid, rfl⟩
      · rw [if_neg large, if_neg large, change, valid.growUntil?_inMemory (Nat.not_lt.mp large)]
        exact ⟨valid.growUntil, rfl⟩
    · -- Enough bytes are free: the limit is not tested, and could not be exceeded.
      have head : ¬ builder.inMemory.head < needed := scarce
      have opened : reserve needed builder.inMemory = some (.ok (), builder.inMemory) := by
        simp only [reserve, bind_apply, observe, Option.map_some, if_neg head]
        rfl
      have fits : ¬ builder.maxSize < builder.used + needed := by
        have := valid.used_le_capacity
        have := valid.capacity_le_maxSize
        rw [Builder.free] at scarce
        omega
      rw [opened, if_neg fits, Builder.growUntil_eq_self (Nat.not_lt.mp scarce)]
      exact ⟨valid, rfl⟩

theorem follows_prep (alignment length : Nat) :
    Follows (prep alignment length) (Build.prep alignment length) := by
  apply follows_require
  intro power
  refine Follows.bind (follows_update ?_) fun _ => ?_
  · exact fun builder valid => ⟨valid.raiseAlign power, rfl⟩
  refine Follows.bind (follows_observe fun _ valid => valid.used?_inMemory) fun used => ?_
  have mask : Word.sub? alignment 1 = some (alignment - 1) :=
    Word.sub?_eq_some_iff.mpr ⟨power.pos, rfl⟩
  rw [mask, observe_some_bind]
  refine Follows.bind (follows_sum (Word.padding alignment (used + length)) length) fun needed => ?_
  exact (follows_reserve needed).bind fun _ => follows_write _

theorem follows_offset : Follows offset (Build.observe Builder.offset) :=
  follows_observe fun _ valid => by
    rw [valid.used?_inMemory]
    rfl

theorem follows_create (kind : RecordKind) (first second : Binary32) :
    Follows (create kind first second) (kind.create first second) :=
  (follows_prep _ _).bind fun _ => (follows_write _).bind fun _ => (follows_write _).bind fun _ =>
    follows_offset

theorem perform_follows (step : Step) : Follows (perform step) step.perform := by
  cases step with
  | prep alignment length =>
    exact (follows_prep alignment length).bind fun _ => follows_pure _
  | put type value => exact (follows_write _).bind fun _ => follows_pure _
  | push type value =>
    have pushed : Follows (push type value) (Build.push type value) :=
      (follows_prep _ _).bind fun _ => (follows_write _).bind fun _ => follows_offset
    exact pushed.bind fun _ => follows_pure _
  | create kind first second => exact (follows_create kind first second).bind fun _ => follows_pure _
  | pack kind record =>
    exact (follows_create kind record.first record.second).bind fun _ => follows_pure _
  | finish =>
    have finished : Follows finish Build.finish := by
      refine Follows.bind (follows_observe fun _ _ => rfl) fun alignment => ?_
      refine (follows_prep alignment 0).bind fun _ => ?_
      exact follows_observe fun _ valid => valid.written?_inMemory
    exact finished.bind fun _ => follows_pure _
  | reset =>
    have cleared : Follows (change fun memory => some memory.reset) Build.reset :=
      follows_update fun _ valid => ⟨valid.reset, congrArg some valid.reset_inMemory⟩
    exact cleared.bind fun _ => follows_pure _

end Checked
end FixedLayout
