import FixedLayout.Proofs.Orderly
import FixedLayout.Proofs.Refusal

/-!
Finishing a buffer. The written bytes are padded to the next multiple of the largest alignment, so
they have to end below the last one that the limit allows. What is finished is at a multiple of its
alignment already, and finishing it again changes nothing.
-/
namespace FixedLayout

namespace Word

variable {alignment : Nat}

theorem isLeast_multiple (power : IsAlignment alignment) (size : Nat) :
    IsLeast {whole | size ≤ whole ∧ alignment ∣ whole} (size + padding alignment size) := by
  obtain ⟨reaches, fewest⟩ := isLeast_padding power size
  refine ⟨⟨Nat.le_add_right .., reaches⟩, ?_⟩
  rintro whole ⟨above, divides⟩
  have enough : padding alignment size ≤ whole - size := by
    apply fewest
    rwa [Set.mem_ofPred_eq, Nat.add_sub_cancel' above]
  omega

theorem isGreatest_multiple (alignment size : Nat) :
    IsGreatest {whole | whole ≤ size ∧ alignment ∣ whole} (size - size % alignment) := by
  refine ⟨⟨Nat.sub_le .., Nat.dvd_sub_mod size⟩, ?_⟩
  rintro _ ⟨below, quotient, rfl⟩
  have remainder : size % alignment ≤ size - alignment * quotient := by
    rw [← Nat.sub_mul_mod below]
    exact Nat.mod_le ..
  omega

/-- Rounding up stays within a bound exactly below the last multiple that does. -/
theorem add_padding_le_iff (power : IsAlignment alignment) (size maximum : Nat) :
    size + padding alignment size ≤ maximum ↔ size ≤ maximum - maximum % alignment := by
  obtain ⟨⟨above, divides⟩, least⟩ := isLeast_multiple power size
  obtain ⟨⟨below, whole⟩, greatest⟩ := isGreatest_multiple alignment maximum
  constructor
  · intro within
    exact above.trans (greatest ⟨within, divides⟩)
  · intro low
    exact (least ⟨low, whole⟩).trans below

end Word

variable {builder : Builder}

/-- The largest size that a buffer can be finished with. -/
def Builder.highest (builder : Builder) : Nat :=
  builder.maxSize - builder.maxSize % builder.minAlign

namespace Builder

theorem bytes_closing (builder : Builder) :
    builder.closing.bytes builder = Bytes.zeros (Word.padding builder.minAlign builder.used) :=
  rfl

theorem requested_closing (builder : Builder) : builder.closing.requested builder =
    builder.used + Word.padding builder.minAlign builder.used :=
  rfl

theorem minAlign_closed (builder : Builder) :
    (builder.closing.grant builder).minAlign = builder.minAlign := by
  rw [Reservation.minAlign_grant]
  exact Nat.max_self _

theorem dvd_used_closed (valid : builder.WellFormed) :
    builder.minAlign ∣ (builder.closing.grant builder).used := by
  have used : (builder.closing.grant builder).used =
      builder.used + Word.padding builder.minAlign builder.used := by
    rw [Reservation.used_grant]
    exact congrArg _ (Nat.zero_add _)
  rw [used]
  exact Word.dvd_size_add_padding valid.minAlign_valid

theorem requested_closing_le_iff (valid : builder.WellFormed) :
    builder.closing.requested builder ≤ builder.maxSize ↔ builder.used ≤ builder.highest :=
  Word.add_padding_le_iff valid.minAlign_valid builder.used builder.maxSize

/-- Neither padding nor more room is needed to finish at a multiple of the alignment. -/
theorem grant_closing_eq_self (valid : builder.WellFormed)
    (whole : builder.minAlign ∣ builder.used) : builder.closing.grant builder = builder := by
  have padding : builder.closing.padding builder = 0 :=
    Word.padding_eq_zero valid.minAlign_valid whole
  have needed : builder.closing.needed builder = 0 := padding
  have bytes : builder.closing.bytes builder = [] := by
    rw [Reservation.bytes, padding]
    rfl
  have raised : builder.raiseAlign builder.closing.alignment = builder :=
    raiseAlign_eq_self (Nat.le_refl _)
  rw [Reservation.grant, raised, needed, bytes, growUntil_eq_self (Nat.zero_le _), extend_nil]

end Builder

namespace Build

theorem finish_of_le (valid : builder.WellFormed) (low : builder.used ≤ builder.highest) :
    finish builder =
      .ok (Bytes.zeros (Word.padding builder.minAlign builder.used) ++ builder.finishedData)
        (builder.closing.grant builder) := by
  have power : Word.IsAlignment builder.closing.alignment := valid.minAlign_valid
  have room := (Builder.requested_closing_le_iff valid).mpr low
  rw [finish_apply valid, Reservation.outcome_of_le valid power room,
    Reservation.finishedData_grant valid power, Builder.bytes_closing]

/-- Finishing notes no new alignment, so a builder that cannot be finished stays as it is. -/
theorem finish_of_lt (valid : builder.WellFormed) (small : builder.maxSize ≤ 2 ^ 63)
    (high : builder.highest < builder.used) :
    finish builder =
      .refused (.tooLarge (builder.used + Word.padding builder.minAlign builder.used)
        builder.maxSize) builder := by
  have power : Word.IsAlignment builder.closing.alignment := valid.minAlign_valid
  have size : builder.used + builder.closing.length ≤ 2 ^ 63 :=
    valid.used_le_maxSize.trans small
  have word := Reservation.requested_lt power size
  have large : builder.maxSize < builder.closing.requested builder := by
    rw [← Nat.not_le, Builder.requested_closing_le_iff valid]
    exact Nat.not_le.mpr high
  rw [finish_apply valid, Reservation.outcome_of_lt power word large, Builder.requested_closing]
  congr 1
  exact Builder.raiseAlign_eq_self (Nat.le_refl _)

/-- At a multiple of the alignment there is nothing to do. -/
theorem finish_of_dvd (valid : builder.WellFormed) (whole : builder.minAlign ∣ builder.used) :
    finish builder = .ok builder.finishedData builder := by
  have power : Word.IsAlignment builder.closing.alignment := valid.minAlign_valid
  have room : builder.closing.requested builder ≤ builder.maxSize := by
    rw [Builder.requested_closing, Word.padding_eq_zero valid.minAlign_valid whole, Nat.add_zero]
    exact valid.used_le_maxSize
  rw [finish_apply valid, Reservation.outcome_of_le valid power room,
    Builder.grant_closing_eq_self valid whole]

theorem finish_closed (valid : builder.WellFormed) (low : builder.used ≤ builder.highest) :
    finish (builder.closing.grant builder) =
      .ok (builder.closing.grant builder).finishedData (builder.closing.grant builder) := by
  have power : Word.IsAlignment builder.closing.alignment := valid.minAlign_valid
  have room := (Builder.requested_closing_le_iff valid).mpr low
  apply finish_of_dvd (Reservation.wellFormed_grant valid power room)
  rw [Builder.minAlign_closed]
  exact Builder.dvd_used_closed valid

end Build

/-- Finishing is refused exactly above the last multiple of the alignment that the limit allows, and
then shows the next one and changes nothing. In every other case it answers the written bytes behind
the least padding, and finishing once more answers the same and changes nothing. So it always
succeeds where the limit is a multiple of the alignment. -/
theorem finish_outcome {builder : Builder} (reached : Reachable builder)
    (small : builder.maxSize ≤ 2 ^ 63) :
    ((∃ error after, Build.finish builder = .refused error after) ↔
      builder.highest < builder.offset.fromEnd) ∧
    (builder.highest < builder.offset.fromEnd → ∃ requested,
      IsLeast {size | builder.offset.fromEnd ≤ size ∧ builder.minAlign ∣ size} requested ∧
      Build.finish builder = .refused (.tooLarge requested builder.maxSize) builder) ∧
    (builder.offset.fromEnd ≤ builder.highest → ∃ padding after,
      padding < builder.minAlign ∧
      IsLeast {count | builder.minAlign ∣ (Bytes.zeros count ++ builder.finishedData).length}
        padding ∧
      Build.finish builder = .ok (Bytes.zeros padding ++ builder.finishedData) after ∧
      Build.finish after = .ok (Bytes.zeros padding ++ builder.finishedData) after) ∧
    (builder.minAlign ∣ builder.maxSize → ∃ data after, Build.finish builder = .ok data after) := by
  have valid := reached.wellFormed
  have power := valid.minAlign_valid
  have refused (high : builder.highest < builder.used) := Build.finish_of_lt valid small high
  have finished (low : builder.used ≤ builder.highest) := Build.finish_of_le valid low
  refine ⟨⟨?_, ?_⟩, ?_, ?_, ?_⟩
  · rintro ⟨error, after, failed⟩
    by_contra low
    cases (finished (Nat.not_lt.mp low)).symm.trans failed
  · intro high
    exact ⟨_, _, refused high⟩
  · intro high
    exact ⟨_, Word.isLeast_multiple power builder.used, refused high⟩
  · intro low
    have closing : Word.IsAlignment builder.closing.alignment := power
    have again := Build.finish_closed valid low
    rw [Reservation.finishedData_grant valid closing, Builder.bytes_closing] at again
    refine ⟨_, _, Word.padding_lt power, ?_, finished low, again⟩
    have length (count : Nat) :
        (Bytes.zeros count ++ builder.finishedData).length = builder.used + count := by
      rw [List.length_append, Bytes.length_zeros, Builder.length_finishedData valid, Nat.add_comm]
    simpa only [length] using Word.isLeast_padding power builder.used
  · intro whole
    have all : builder.highest = builder.maxSize := by
      rw [Builder.highest, Nat.mod_eq_zero_of_dvd whole, Nat.sub_zero]
    exact ⟨_, _, finished (all ▸ valid.used_le_maxSize)⟩

/-- A number and a byte behind it, under a limit that leaves no room to pad them and under one that
does. -/
theorem finish_outcome_odd :
    let tight : Builder := ⟨[63, 128, 0, 0, 7], 5, 7, 4, 7⟩
    let wide : Builder := ⟨[63, 128, 0, 0, 7], 5, 8, 4, 15⟩
    (Reachable tight ∧ tight.maxSize ≤ 2 ^ 63 ∧
      Build.finish tight = .refused (.tooLarge 8 7) tight) ∧
    Reachable wide ∧ wide.maxSize ≤ 2 ^ 63 ∧
      ∃ after, Build.finish wide = .ok [0, 0, 0, 7, 0, 0, 128, 63] after ∧
        Build.finish after = .ok [0, 0, 0, 7, 0, 0, 128, 63] after := by
  intro tight wide
  let number : Event := ⟨.push .float32 0x3f800000, .ok (.placed ⟨4⟩)⟩
  have tight_number : Run (.ofOptions ⟨4, 7⟩) [number] ⟨[63, 128, 0, 0], 4, 4, 4, 7⟩ :=
    .next .start (by decide +kernel)
  have wide_number : Run (.ofOptions ⟨4, 15⟩) [number] ⟨[63, 128, 0, 0], 4, 4, 4, 15⟩ :=
    .next .start (by decide +kernel)
  have tight_reached : Reachable tight :=
    ⟨⟨4, 7⟩, ⟨.push .uint8 7, .ok (.placed ⟨5⟩)⟩ :: _, .next tight_number (by decide +kernel)⟩
  have wide_reached : Reachable wide :=
    ⟨⟨4, 15⟩, ⟨.push .uint8 7, .ok (.placed ⟨5⟩)⟩ :: _, .next wide_number (by decide +kernel)⟩
  have tight_small : tight.maxSize ≤ 2 ^ 63 := by decide
  have wide_small : wide.maxSize ≤ 2 ^ 63 := by decide
  refine ⟨⟨tight_reached, tight_small, ?_⟩, wide_reached, wide_small, ?_⟩
  · obtain ⟨-, refused, -, -⟩ := finish_outcome tight_reached tight_small
    obtain ⟨requested, ⟨⟨above, divides⟩, least⟩, finished⟩ := refused (by decide)
    have below : requested ≤ 8 := least (show 5 ≤ 8 ∧ 4 ∣ 8 by decide)
    have : 5 ≤ requested := above
    have : 4 ∣ requested := divides
    obtain rfl : requested = 8 := by omega
    exact finished
  · obtain ⟨-, -, finished, -⟩ := finish_outcome wide_reached wide_small
    obtain ⟨padding, after, below, ⟨reaches, -⟩, first, second⟩ := finished (by decide)
    have short : padding < 4 := below
    rw [Set.mem_ofPred_eq, List.length_append, Bytes.length_zeros] at reaches
    have whole : 4 ∣ padding + 5 := reaches
    obtain rfl : padding = 3 := by omega
    exact ⟨after, first, second⟩

end FixedLayout
