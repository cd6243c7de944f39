import FixedLayout.Proofs.Padding

/-!
Growth. The capacity is doubled until the request fits and is capped by the limit. A request within
the limit brings the rounds to an end, at the first doubling that suffices.
-/
namespace FixedLayout

namespace Builder

/-- Rounds of growing while fewer than `needed` bytes are free; nothing else ends them. -/
inductive Grows (needed : Nat) : Builder → Builder → Prop where
  | enough {builder : Builder} : needed ≤ builder.free → Grows needed builder builder
  | round {builder after : Builder} : builder.free < needed → Grows needed builder.grow after →
      Grows needed builder after

variable {builder after : Builder} {needed : Nat}

theorem grows_growUntil (room : builder.used + needed ≤ builder.maxSize) :
    Grows needed builder (builder.growUntil needed) := by
  fun_induction growUntil needed builder with
  | case1 builder scarce ih => exact .round scarce.1 (ih room)
  | case2 builder stopped =>
    apply Grows.enough
    simp only [free] at stopped ⊢
    omega

theorem mul_two_pow_succ (base k : Nat) : base * 2 ^ (k + 1) = 2 * base * 2 ^ k := by
  rw [Nat.pow_succ', ← Nat.mul_assoc, Nat.mul_comm base 2]

/-- One doubling more is needed from half the size. -/
theorem isLeast_two_mul {base size k : Nat} (small : base < size)
    (least : IsLeast {k | size ≤ 2 * base * 2 ^ k} k) :
    IsLeast {k | size ≤ base * 2 ^ k} (k + 1) := by
  constructor
  · rw [Set.mem_ofPred_eq, mul_two_pow_succ]
    exact least.1
  · intro other holds
    rw [Set.mem_ofPred_eq] at holds
    cases other with
    | zero =>
      rw [Nat.pow_zero, Nat.mul_one] at holds
      exact absurd holds (Nat.not_le.mpr small)
    | succ other =>
      rw [mul_two_pow_succ] at holds
      exact Nat.succ_le_succ (least.2 holds)

theorem isLeast_zero {base size : Nat} (enough : size ≤ base) :
    IsLeast {k | size ≤ base * 2 ^ k} 0 :=
  ⟨by simpa using enough, fun _ _ => Nat.zero_le _⟩

theorem two_pow_lt_two_mul {base size k : Nat} (small : base < size)
    (least : IsLeast {k | size ≤ max base 1 * 2 ^ k} k) : max base 1 * 2 ^ k < 2 * size := by
  cases k with
  | zero =>
    rw [Nat.pow_zero, Nat.mul_one]
    omega
  | succ k =>
    have short : max base 1 * 2 ^ k < size := by
      by_contra enough
      have := least.2 (Nat.not_lt.mp enough)
      omega
    rw [mul_two_pow_succ, Nat.mul_assoc]
    omega

namespace Grows

theorem capacity_of_pos (grows : Grows needed builder after) (valid : builder.WellFormed)
    (room : builder.used + needed ≤ builder.maxSize) (positive : 0 < builder.capacity) :
    ∃ k, IsLeast {k | builder.used + needed ≤ builder.capacity * 2 ^ k} k ∧
      after.capacity = min builder.maxSize (builder.capacity * 2 ^ k) := by
  induction grows with
  | @enough builder enough =>
    have fits : builder.used + needed ≤ builder.capacity := by
      have := valid.used_le_capacity
      simp only [free] at enough
      omega
    refine ⟨0, isLeast_zero fits, ?_⟩
    rw [Nat.pow_zero, Nat.mul_one, Nat.min_eq_right valid.capacity_le_maxSize]
  | @round builder after scarce _ ih =>
    have small : builder.capacity < builder.used + needed := by
      simp only [free] at scarce
      omega
    have doubled : builder.grow.capacity = min (2 * builder.capacity) builder.maxSize := by
      rw [grow, if_neg (Nat.ne_of_gt positive)]
    obtain ⟨k, least, capacity⟩ := ih valid.grow room (by omega)
    rw [doubled] at least capacity
    change IsLeast {k | builder.used + needed ≤ _} k at least
    change after.capacity = min builder.maxSize _ at capacity
    by_cases capped : builder.maxSize ≤ 2 * builder.capacity
    · -- The buffer is as large as it may be and holds the request: this was the last round.
      rw [Nat.min_eq_right capped] at least capacity
      have last : k ≤ 0 := least.2 (by simpa using room)
      obtain rfl : k = 0 := by omega
      refine ⟨1, isLeast_two_mul small (isLeast_zero (room.trans capped)), ?_⟩
      rw [Nat.pow_zero, Nat.mul_one, Nat.min_self] at capacity
      rw [capacity, Nat.pow_one, Nat.mul_comm, Nat.min_eq_left capped]
    · rw [Nat.min_eq_left (Nat.le_of_not_le capped)] at least capacity
      refine ⟨k + 1, isLeast_two_mul small least, ?_⟩
      rw [capacity, mul_two_pow_succ]

/-- An empty buffer starts from a single byte. -/
theorem capacity_eq (grows : Grows needed builder after) (valid : builder.WellFormed)
    (room : builder.used + needed ≤ builder.maxSize)
    (small : builder.capacity < builder.used + needed) :
    ∃ k, IsLeast {k | builder.used + needed ≤ max builder.capacity 1 * 2 ^ k} k ∧
      after.capacity = min builder.maxSize (max builder.capacity 1 * 2 ^ k) := by
  by_cases positive : 0 < builder.capacity
  · rw [Nat.max_eq_left positive]
    exact grows.capacity_of_pos valid room positive
  · have empty : builder.capacity = 0 := by omega
    cases grows with
    | enough enough =>
      have := valid.used_le_capacity
      simp only [free] at enough
      omega
    | round scarce grows =>
      have first : builder.grow.capacity = 1 := by
        rw [grow, if_pos empty]
        exact Nat.min_eq_left (by omega)
      have grown := grows.capacity_of_pos valid.grow room (by omega)
      rw [first] at grown
      rw [empty]
      exact grown

end Grows
end Builder

/-- The bytes are reserved by rounds of growing that come to an end. A capacity that suffices stays;
any other becomes its least sufficient doubling, from one byte on, as far as the limit allows. -/
theorem growth_least {builder after : Builder} (reached : Reachable builder)
    {alignment length : Nat} (prepared : Build.prep alignment length builder = .ok () after) :
    ∃ padding, IsLeast {count | alignment ∣ builder.used + count + length} padding ∧
      let requested := builder.used + padding + length
      (∃ grown, Builder.Grows (padding + length) (builder.raiseAlign alignment) grown ∧
        after = grown.extend (Bytes.zeros padding)) ∧
      (requested ≤ builder.capacity → after.capacity = builder.capacity) ∧
      (builder.capacity < requested → ∃ k,
        IsLeast {k | requested ≤ max builder.capacity 1 * 2 ^ k} k ∧
        after.capacity = min builder.maxSize (max builder.capacity 1 * 2 ^ k) ∧
        requested ≤ after.capacity ∧ after.capacity ≤ builder.maxSize ∧
        after.capacity < 2 * requested) := by
  have valid := reached.wellFormed
  let reservation : Reservation := ⟨alignment, length, [], Nat.zero_le _⟩
  have outcome : Build.prep alignment length builder =
      reservation.outcome builder (.ok () (reservation.prepared builder)) :=
    Build.prep_apply valid reservation
  obtain ⟨power, room, rfl⟩ := Reservation.of_outcome_eq_ok (outcome.symm.trans prepared)
  have ready := valid.raiseAlign power
  have grows : Builder.Grows (reservation.needed builder) (builder.raiseAlign alignment)
      ((builder.raiseAlign alignment).growUntil (reservation.needed builder)) :=
    Builder.grows_growUntil room
  refine ⟨reservation.padding builder, reservation.isLeast_padding power builder, ?_⟩
  dsimp only
  rw [← reservation.requested_eq_add builder]
  refine ⟨⟨_, grows, rfl⟩, fun fits => ?_, fun small => ?_⟩
  · have enough : reservation.needed builder ≤ (builder.raiseAlign alignment).free := by
      rw [Reservation.requested] at fits
      change _ ≤ builder.capacity - builder.used
      omega
    change ((builder.raiseAlign alignment).growUntil (reservation.needed builder)).capacity = _
    rw [Builder.growUntil_eq_self enough]
    rfl
  · obtain ⟨k, least, capacity⟩ := grows.capacity_eq ready room small
    have fits : reservation.requested builder ≤ max builder.capacity 1 * 2 ^ k := least.1
    have narrow := Builder.two_pow_lt_two_mul small least
    refine ⟨k, least, capacity, ?_, ?_, ?_⟩
    · exact (Nat.le_min.mpr ⟨room, fits⟩).trans_eq capacity.symm
    · exact capacity.trans_le (Nat.min_le_left ..)
    · exact capacity.trans_lt (Nat.lt_of_le_of_lt (Nat.min_le_right ..) narrow)

/-- From three bytes three doublings are needed, and the limit of fourteen cuts the last one short. -/
theorem growth_least_capped :
    let builder : Builder := ⟨[7], 1, 3, 1, 14⟩
    let after : Builder := ⟨[7, 0], 2, 14, 2, 14⟩
    Reachable builder ∧ Build.prep 2 12 builder = .ok () after ∧
    ∃ k, IsLeast {k | 14 ≤ 3 * 2 ^ k} k ∧ after.capacity = min 14 (3 * 2 ^ k) ∧
      after.capacity < 28 := by
  intro builder after
  have reached : Reachable builder :=
    ⟨⟨3, 14⟩, [⟨.push .uint8 7, .ok (.placed ⟨1⟩)⟩], .next .start (by decide +kernel)⟩
  have prepared : Build.prep 2 12 builder = .ok () after := by decide +kernel
  refine ⟨reached, prepared, ?_⟩
  obtain ⟨padding, least, -, -, grown⟩ := growth_least reached prepared
  have reaches : 2 ∣ 1 + padding + 12 := least.1
  have enough : padding ≤ 1 := least.2 (show 2 ∣ 1 + 1 + 12 by decide)
  obtain rfl : padding = 1 := by omega
  obtain ⟨k, first, capacity, -, -, narrow⟩ := grown (by decide)
  exact ⟨k, first, capacity, narrow⟩

end FixedLayout
