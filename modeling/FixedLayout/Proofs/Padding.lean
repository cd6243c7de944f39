import FixedLayout.Proofs.Run
import Mathlib.Order.Bounds.Defs

/-!
How a reservation ends. The masked negative word is the least padding that reaches the alignment,
so the size asked for is known in unbounded arithmetic, and with the limit it alone decides between
success, refusal and fault.
-/
namespace FixedLayout

/-- No fewer bytes reach a multiple of the alignment. -/
theorem Word.isLeast_padding {alignment : Nat} (power : IsAlignment alignment) (size : Nat) :
    IsLeast {count | alignment ∣ size + count} (padding alignment size) := by
  have whole : alignment ∣ size + padding alignment size := dvd_size_add_padding power
  refine ⟨whole, ?_⟩
  intro count reaches
  by_contra fewer
  have bound : padding alignment size < alignment := padding_lt power
  have gap : size + padding alignment size - (size + count) = padding alignment size - count :=
    Nat.add_sub_add_left ..
  have divides := Nat.dvd_sub whole reaches
  rw [gap] at divides
  have := Nat.le_of_dvd (Nat.sub_pos_of_lt (Nat.not_le.mp fewer)) divides
  omega

/-- What is at a multiple of the alignment needs no padding. -/
theorem Word.padding_eq_zero {alignment size : Nat} (power : IsAlignment alignment)
    (whole : alignment ∣ size) : padding alignment size = 0 :=
  Nat.le_zero.mp ((isLeast_padding power size).2 whole)

theorem Word.padding_add_self {alignment : Nat} (power : IsAlignment alignment) (size : Nat) :
    padding alignment (size + alignment) = padding alignment size := by
  have here := isLeast_padding power size
  have further := isLeast_padding power (size + alignment)
  have same : {count | alignment ∣ size + alignment + count} =
      {count | alignment ∣ size + count} := by
    ext count
    rw [Set.mem_ofPred_eq, Set.mem_ofPred_eq, Nat.add_right_comm, Nat.dvd_add_self_right]
  rw [same] at further
  exact Nat.le_antisymm (further.2 here.1) (here.2 further.1)

namespace Reservation

variable {reservation : Reservation} {builder : Builder}

theorem isLeast_padding (power : Word.IsAlignment reservation.alignment) (builder : Builder) :
    IsLeast {count | reservation.alignment ∣ builder.used + count + reservation.length}
      (reservation.padding builder) := by
  rw [padding]
  simpa only [Nat.add_right_comm builder.used reservation.length] using
    Word.isLeast_padding power (builder.used + reservation.length)

theorem requested_eq_add (reservation : Reservation) (builder : Builder) :
    reservation.requested builder =
      builder.used + reservation.padding builder + reservation.length :=
  (Nat.add_assoc ..).symm

/-- The padding is written at once, the reserved bytes are not. -/
theorem finishedData_prepared (valid : builder.WellFormed)
    (power : Word.IsAlignment reservation.alignment) :
    (reservation.prepared builder).finishedData =
      Bytes.zeros (reservation.padding builder) ++ builder.finishedData := by
  rw [prepared, Builder.finishedData_extend (valid.raiseAlign power).growUntil,
    Builder.finishedData_growUntil, Builder.finishedData_raiseAlign]

@[simp] theorem used_prepared : (reservation.prepared builder).used =
    builder.used + reservation.padding builder := by
  simp [prepared, Builder.extend, Builder.raiseAlign]

@[simp] theorem minAlign_prepared : (reservation.prepared builder).minAlign =
    max builder.minAlign reservation.alignment := by
  simp [prepared, Builder.extend, Builder.raiseAlign]

/-- A reservation succeeds only with a valid alignment and within the limit. -/
theorem of_outcome_eq_ok {success after : Builder} {value result : α}
    (succeeds : reservation.outcome builder (.ok value success) = .ok result after) :
    Word.IsAlignment reservation.alignment ∧
      reservation.requested builder ≤ builder.maxSize ∧ after = success := by
  rcases reservation.outcome_cases builder (.ok value success) with
    ⟨cause, faults⟩ | ⟨-, -, refused⟩ | ⟨power, room, granted⟩
  · cases faults.symm.trans succeeds
  · cases refused.symm.trans succeeds
  · cases granted.symm.trans succeeds
    exact ⟨power, room, rfl⟩

theorem outcome_of_le (valid : builder.WellFormed)
    (power : Word.IsAlignment reservation.alignment)
    (room : reservation.requested builder ≤ builder.maxSize) (success : Outcome α) :
    reservation.outcome builder success = success := by
  have word : reservation.requested builder < Word.limit :=
    room.trans_lt valid.maxSize_lt_limit
  rw [outcome, if_pos power, if_neg (Nat.not_le.mpr word), if_neg (Nat.not_lt.mpr room)]

theorem outcome_of_lt (power : Word.IsAlignment reservation.alignment)
    (word : reservation.requested builder < Word.limit)
    (large : builder.maxSize < reservation.requested builder) (success : Outcome α) :
    reservation.outcome builder success =
      .refused (.tooLarge (reservation.requested builder) builder.maxSize)
        (builder.raiseAlign reservation.alignment) := by
  rw [outcome, if_pos power, if_neg (Nat.not_le.mpr word), if_pos large]

/-- Success shows the builder after the reservation and the value for it. -/
theorem outcome_eq_ok_iff (valid : builder.WellFormed) {success after : Builder}
    {value result : α} :
    reservation.outcome builder (.ok value success) = .ok result after ↔
      (Word.IsAlignment reservation.alignment ∧
        reservation.requested builder ≤ builder.maxSize) ∧ value = result ∧ success = after := by
  constructor
  · intro succeeds
    obtain ⟨power, room, rfl⟩ := of_outcome_eq_ok succeeds
    rw [outcome_of_le valid power room] at succeeds
    cases succeeds
    exact ⟨⟨power, room⟩, rfl, rfl⟩
  · rintro ⟨⟨power, room⟩, rfl, rfl⟩
    exact outcome_of_le valid power room _

end Reservation

/-- Where the size asked for is no word, preparing faults; where it exceeds the limit, the request is
refused and its alignment noted; in every other case the bytes are free afterwards. -/
theorem prep_outcome {builder : Builder} (reached : Reachable builder) {alignment : Nat}
    (power : Word.IsAlignment alignment) (length : Nat) :
    ∃ padding, IsLeast {count | alignment ∣ builder.used + count + length} padding ∧
      let requested := builder.used + padding + length
      (requested ≤ builder.maxSize → ∃ after,
        Build.prep alignment length builder = .ok () after ∧
        after.finishedData = Bytes.zeros padding ++ builder.finishedData ∧
        after.used + length ≤ after.capacity ∧
        after.minAlign = max builder.minAlign alignment) ∧
      (builder.maxSize < requested → requested < Word.limit →
        Build.prep alignment length builder =
          .refused (.tooLarge requested builder.maxSize)
            { builder with minAlign := max builder.minAlign alignment }) ∧
      (Word.limit ≤ requested → Build.prep alignment length builder = .fault .overflow) := by
  have valid := reached.wellFormed
  let reservation : Reservation := ⟨alignment, length, [], Nat.zero_le _⟩
  have outcome : Build.prep alignment length builder =
      reservation.outcome builder (.ok () (reservation.prepared builder)) :=
    Build.prep_apply valid reservation
  have maximum := valid.maxSize_lt_limit
  refine ⟨reservation.padding builder, reservation.isLeast_padding power builder, ?_⟩
  dsimp only
  rw [← reservation.requested_eq_add builder, outcome, Reservation.outcome, if_pos power]
  refine ⟨fun room => ?_, fun large small => ?_, fun overflows => ?_⟩
  · rw [if_neg (by omega), if_neg (by omega)]
    have free := Reservation.length_le_free_prepared room
    have within := (Reservation.wellFormed_prepared valid power room).used_le_capacity
    refine ⟨_, rfl, Reservation.finishedData_prepared valid power, ?_,
      Reservation.minAlign_prepared⟩
    rw [Builder.free] at free
    change length ≤ _ at free
    omega
  · rw [if_neg (Nat.not_le.mpr small), if_pos large]
    rfl
  · rw [if_pos overflows]

/-- Behind five bytes, under a limit of twenty: the padding alone takes the first request beyond the
limit, and the second one to the first size that is no word. -/
theorem prep_outcome_padded :
    let builder : Builder := ⟨[0, 0, 0, 1, 7], 5, 8, 4, 20⟩
    Reachable builder ∧ Word.IsAlignment 8 ∧
    Build.prep 8 12 builder = .refused (.tooLarge 24 20) { builder with minAlign := 8 } ∧
    Build.prep 8 0xfffffffffffffff8 builder = .fault .overflow := by
  intro builder
  have pushed : Run (.ofOptions ⟨4, 20⟩) [⟨.push .uint32 1, .ok (.placed ⟨4⟩)⟩]
      ⟨[0, 0, 0, 1], 4, 4, 4, 20⟩ := .next .start (by decide +kernel)
  have reached : Reachable builder :=
    ⟨⟨4, 20⟩, ⟨.push .uint8 7, .ok (.placed ⟨5⟩)⟩ :: _, .next pushed (by decide +kernel)⟩
  have power : Word.IsAlignment 8 := by decide
  refine ⟨reached, power, ?_, ?_⟩
  · obtain ⟨padding, least, -, refused, -⟩ := prep_outcome reached power 12
    have reaches : 8 ∣ 5 + padding + 12 := least.1
    have enough : padding ≤ 7 := least.2 (show 8 ∣ 5 + 7 + 12 by decide)
    obtain rfl : padding = 7 := by omega
    exact refused (by decide) (by decide)
  · obtain ⟨padding, least, -, -, faults⟩ := prep_outcome reached power 0xfffffffffffffff8
    have reaches : 8 ∣ 5 + padding + 0xfffffffffffffff8 := least.1
    apply faults
    change 0x10000000000000000 ≤ 5 + padding + 0xfffffffffffffff8
    omega

end FixedLayout
