import FixedLayout.Builder.Basic

/-!
What each change of a builder does to the bytes written so far. Extending puts bytes in front of
them; growing leaves them alone.
-/
namespace FixedLayout.Builder

variable {builder : Builder} {bytes : Bytes} {needed alignment : Nat}

/-- Every written byte is at hand, and the buffer holds them all within its limit. -/
structure WellFormed (builder : Builder) : Prop where
  used_le_cells : builder.used ≤ builder.cells.length
  cells_le_capacity : builder.cells.length ≤ builder.capacity
  capacity_le_maxSize : builder.capacity ≤ builder.maxSize
  maxSize_lt_limit : builder.maxSize < Word.limit
  minAlign_valid : Word.IsAlignment builder.minAlign

theorem WellFormed.used_le_capacity (valid : builder.WellFormed) :
    builder.used ≤ builder.capacity :=
  Nat.le_trans valid.used_le_cells valid.cells_le_capacity

theorem WellFormed.used_le_maxSize (valid : builder.WellFormed) :
    builder.used ≤ builder.maxSize :=
  Nat.le_trans valid.used_le_capacity valid.capacity_le_maxSize

theorem WellFormed.used_lt_limit (valid : builder.WellFormed) : builder.used < Word.limit :=
  Nat.lt_of_le_of_lt valid.used_le_maxSize valid.maxSize_lt_limit

theorem length_finishedData (valid : builder.WellFormed) :
    builder.finishedData.length = builder.used := by
  rw [finishedData, List.length_reverse, List.length_take, Nat.min_eq_left valid.used_le_cells]

theorem length_take_cells_append (valid : builder.WellFormed) (bytes : Bytes) :
    (builder.cells.take builder.used ++ bytes.reverse).length =
      (builder.extend bytes).used := by
  rw [List.length_append, List.length_take, List.length_reverse,
    Nat.min_eq_left valid.used_le_cells]
  rfl

theorem take_cells_extend (valid : builder.WellFormed) (bytes : Bytes) :
    (builder.extend bytes).cells.take (builder.extend bytes).used =
      builder.cells.take builder.used ++ bytes.reverse :=
  List.take_left' (length_take_cells_append valid bytes)

/-- What is left over below the written bytes gets shorter, but stays. -/
theorem drop_cells_extend (valid : builder.WellFormed) (bytes : Bytes) :
    (builder.extend bytes).cells.drop (builder.extend bytes).used =
      builder.cells.drop (builder.extend bytes).used :=
  List.drop_left' (length_take_cells_append valid bytes)

theorem finishedData_extend (valid : builder.WellFormed) :
    (builder.extend bytes).finishedData = bytes ++ builder.finishedData := by
  rw [finishedData, take_cells_extend valid, List.reverse_append, List.reverse_reverse,
    finishedData]

@[simp] theorem extend_nil (builder : Builder) : builder.extend [] = builder := by
  simp [extend]

@[simp] theorem finishedData_reset : builder.reset.finishedData = [] := by
  simp [finishedData, reset]

@[simp] theorem finishedData_raiseAlign :
    (builder.raiseAlign alignment).finishedData = builder.finishedData := rfl

@[simp] theorem finishedData_grow : builder.grow.finishedData = builder.finishedData := by
  simp [finishedData, grow, List.take_take]

theorem finishedData_growUntil :
    (growUntil needed builder).finishedData = builder.finishedData := by
  fun_induction growUntil needed builder with
  | case1 builder room ih => rw [ih, finishedData_grow]
  | case2 => rfl

@[simp] theorem used_growUntil : (growUntil needed builder).used = builder.used := by
  fun_induction growUntil needed builder with
  | case1 builder room ih => rw [ih, grow]
  | case2 => rfl

@[simp] theorem minAlign_growUntil : (growUntil needed builder).minAlign = builder.minAlign := by
  fun_induction growUntil needed builder with
  | case1 builder room ih => rw [ih, grow]
  | case2 => rfl

@[simp] theorem maxSize_growUntil : (growUntil needed builder).maxSize = builder.maxSize := by
  fun_induction growUntil needed builder with
  | case1 builder room ih => rw [ih, grow]
  | case2 => rfl

theorem capacity_le_growUntil : builder.capacity ≤ (growUntil needed builder).capacity := by
  fun_induction growUntil needed builder with
  | case1 builder room ih => exact Nat.le_trans (Nat.le_of_lt (capacity_lt_grow _ room.2)) ih
  | case2 => exact Nat.le_refl _

theorem growUntil_eq_self (enough : needed ≤ builder.free) :
    growUntil needed builder = builder := by
  rw [growUntil, if_neg]
  omega

/-- Below the limit growing stops for the right reason, never because it is stuck. -/
theorem le_free_growUntil (room : builder.used + needed ≤ builder.maxSize) :
    needed ≤ (growUntil needed builder).free := by
  fun_induction growUntil needed builder with
  | case1 builder _ ih => exact ih (by simpa only [grow] using room)
  | case2 builder stopped =>
    simp only [free] at stopped ⊢
    omega

theorem WellFormed.ofOptions (options : BuilderOptions) :
    (Builder.ofOptions options).WellFormed where
  used_le_cells := Nat.le_refl 0
  cells_le_capacity := Nat.zero_le _
  capacity_le_maxSize := Nat.min_le_right _ _
  maxSize_lt_limit := options.maxSize.toNat_lt
  minAlign_valid := ⟨0, by decide, rfl⟩

theorem WellFormed.reset (valid : builder.WellFormed) : builder.reset.WellFormed where
  used_le_cells := Nat.zero_le _
  cells_le_capacity := valid.cells_le_capacity
  capacity_le_maxSize := valid.capacity_le_maxSize
  maxSize_lt_limit := valid.maxSize_lt_limit
  minAlign_valid := ⟨0, by decide, rfl⟩

theorem WellFormed.raiseAlign (valid : builder.WellFormed) (power : Word.IsAlignment alignment) :
    (builder.raiseAlign alignment).WellFormed where
  used_le_cells := valid.used_le_cells
  cells_le_capacity := valid.cells_le_capacity
  capacity_le_maxSize := valid.capacity_le_maxSize
  maxSize_lt_limit := valid.maxSize_lt_limit
  minAlign_valid := by
    rcases Nat.le_total builder.minAlign alignment with le | le
    · simpa only [Builder.raiseAlign, Nat.max_eq_right le] using power
    · simpa only [Builder.raiseAlign, Nat.max_eq_left le] using valid.minAlign_valid

theorem WellFormed.grow (valid : builder.WellFormed) : builder.grow.WellFormed where
  used_le_cells := by
    simp only [Builder.grow, List.length_take]
    exact Nat.le_min.mpr ⟨Nat.le_refl _, valid.used_le_cells⟩
  cells_le_capacity := by
    have := valid.used_le_cells
    have := valid.cells_le_capacity
    have := valid.capacity_le_maxSize
    simp only [Builder.grow, List.length_take]
    split <;> omega
  capacity_le_maxSize := Nat.min_le_right _ _
  maxSize_lt_limit := valid.maxSize_lt_limit
  minAlign_valid := valid.minAlign_valid

theorem WellFormed.growUntil (valid : builder.WellFormed) :
    (Builder.growUntil needed builder).WellFormed := by
  fun_induction Builder.growUntil needed builder with
  | case1 builder room ih => exact ih valid.grow
  | case2 => exact valid

theorem WellFormed.extend (valid : builder.WellFormed) (room : bytes.length ≤ builder.free) :
    (builder.extend bytes).WellFormed where
  used_le_cells := by
    have := valid.used_le_cells
    simp only [Builder.extend, List.length_append, List.length_take, List.length_reverse]
    omega
  cells_le_capacity := by
    have := valid.used_le_cells
    have := valid.cells_le_capacity
    simp only [Builder.free] at room
    simp only [Builder.extend, List.length_append, List.length_take, List.length_reverse,
      List.length_drop]
    omega
  capacity_le_maxSize := valid.capacity_le_maxSize
  maxSize_lt_limit := valid.maxSize_lt_limit
  minAlign_valid := valid.minAlign_valid

end FixedLayout.Builder
