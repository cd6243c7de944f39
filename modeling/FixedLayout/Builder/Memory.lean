import FixedLayout.Builder.Lemmas

/-!
The buffer of a builder as it lies in memory, free bytes first.
-/
namespace FixedLayout.Builder

/-- The whole buffer, lowest address first. -/
def memory (builder : Builder) : Bytes :=
  Bytes.zeros (builder.capacity - builder.cells.length) ++ builder.cells.reverse

/-- What is left of a builder that is given up: its buffer without the free bytes. -/
def release (builder : Builder) : Bytes := builder.memory.drop builder.free

variable {builder : Builder}

theorem WellFormed.release_eq (valid : builder.WellFormed) :
    builder.release = builder.finishedData := by
  have within := valid.used_le_cells
  have inside := valid.cells_le_capacity
  have free : builder.free =
      (Bytes.zeros (builder.capacity - builder.cells.length)).length +
        (builder.cells.length - builder.used) := by
    rw [Builder.free, Bytes.length_zeros]
    omega
  rw [release, memory, free, ← List.drop_drop, List.drop_left, finishedData, List.reverse_take]

theorem WellFormed.length_memory (valid : builder.WellFormed) :
    builder.memory.length = builder.capacity := by
  rw [memory, List.length_append, Bytes.length_zeros, List.length_reverse,
    Nat.sub_add_cancel valid.cells_le_capacity]

/-- Growing leaves nothing but the written bytes, at the end of the new buffer. -/
theorem WellFormed.memory_grow (valid : builder.WellFormed) : builder.grow.memory =
    Bytes.zeros (builder.grow.capacity - builder.used) ++ builder.finishedData := by
  have length : builder.grow.cells.length = builder.used := by
    rw [Builder.grow, List.length_take, Nat.min_eq_left valid.used_le_cells]
  rw [memory, length, finishedData]
  rfl

/-- Extending overwrites the free bytes next to the written ones. -/
theorem WellFormed.memory_extend (valid : builder.WellFormed) {bytes : Bytes}
    (room : bytes.length ≤ builder.free) : (builder.extend bytes).memory =
      builder.memory.overwrite (builder.free - bytes.length) bytes := by
  have within := valid.used_le_cells
  have inside := valid.cells_le_capacity
  have length : (builder.extend bytes).cells.length = builder.used + bytes.length +
      (builder.cells.length - (builder.used + bytes.length)) := by
    simp only [Builder.extend, List.length_append, List.length_take, List.length_reverse,
      List.length_drop, Nat.min_eq_left within]
  have below : builder.memory.take (builder.free - bytes.length) =
      Bytes.zeros (builder.capacity - (builder.extend bytes).cells.length) ++
        (builder.cells.drop (builder.used + bytes.length)).reverse := by
    rw [memory, List.take_append, Bytes.zeros, Bytes.zeros, List.take_replicate,
      List.length_replicate, List.reverse_drop, length]
    simp only [Builder.free] at room ⊢
    congr 2
    · omega
    · omega
  have above : builder.memory.drop (builder.free - bytes.length + bytes.length) =
      (builder.cells.take builder.used).reverse := by
    rw [Nat.sub_add_cancel room]
    exact valid.release_eq
  rw [Bytes.overwrite, below, above, memory]
  simp only [Builder.extend, List.reverse_append, List.reverse_reverse, List.append_assoc]

end FixedLayout.Builder
