import FixedLayout.Word
import Mathlib.Algebra.Order.Ring.Nat

/-!
Alignments and padding. Alignments divide the word limit and, by size, each other; so the masked
negative word of `padding` is the distance to the next multiple, without regard to overflow.
-/
namespace FixedLayout.Word

variable {alignment other size : Nat}

theorem IsAlignment.exists_pow (power : IsAlignment alignment) : ∃ k < 64, alignment = 2 ^ k := by
  obtain ⟨k, small, rfl⟩ := power
  exact ⟨k, small, Nat.one_shiftLeft k⟩

theorem IsAlignment.pos (power : IsAlignment alignment) : 0 < alignment := by
  obtain ⟨k, _, rfl⟩ := power.exists_pow
  exact Nat.two_pow_pos k

theorem IsAlignment.dvd_limit (power : IsAlignment alignment) : alignment ∣ limit := by
  obtain ⟨k, small, rfl⟩ := power.exists_pow
  exact Nat.pow_dvd_pow (n := 64) 2 (Nat.le_of_lt small)

/-- Of two alignments the smaller divides the larger. -/
theorem IsAlignment.dvd_of_le (power : IsAlignment alignment) (other_power : IsAlignment other)
    (le : alignment ≤ other) : alignment ∣ other := by
  obtain ⟨k, _, rfl⟩ := power.exists_pow
  obtain ⟨l, _, rfl⟩ := other_power.exists_pow
  exact Nat.pow_dvd_pow 2 ((Nat.pow_le_pow_iff_right (by decide)).mp le)

theorem IsAlignment.max (power : IsAlignment alignment) (other_power : IsAlignment other) :
    IsAlignment (max alignment other) := by
  rcases Nat.le_total alignment other with le | le
  · rwa [Nat.max_eq_right le]
  · rwa [Nat.max_eq_left le]

theorem IsAlignment.dvd_max_left (power : IsAlignment alignment) (other_power : IsAlignment other) :
    alignment ∣ Max.max alignment other :=
  power.dvd_of_le (power.max other_power) (Nat.le_max_left ..)

theorem IsAlignment.dvd_max_right (power : IsAlignment alignment)
    (other_power : IsAlignment other) :
    other ∣ Max.max alignment other :=
  other_power.dvd_of_le (power.max other_power) (Nat.le_max_right ..)

theorem padding_eq_mod (power : IsAlignment alignment) :
    padding alignment size = (limit - size % limit) % alignment := by
  have divides := power.dvd_limit
  obtain ⟨k, _, rfl⟩ := power.exists_pow
  rw [padding, Nat.and_two_pow_sub_one_eq_mod, Nat.mod_mod_of_dvd _ divides]

theorem padding_lt (power : IsAlignment alignment) : padding alignment size < alignment := by
  rw [padding_eq_mod power]
  exact Nat.mod_lt _ power.pos

theorem dvd_size_add_padding (power : IsAlignment alignment) :
    alignment ∣ size + padding alignment size := by
  have divides := power.dvd_limit
  have whole : size + (limit - size % limit) = limit * (size / limit + 1) := by
    have split := Nat.div_add_mod size limit
    have bound : size % limit < limit := Nat.mod_lt _ (by decide)
    rw [Nat.mul_add, Nat.mul_one]
    omega
  apply Nat.dvd_of_mod_eq_zero
  rw [padding_eq_mod power, Nat.add_mod_mod, whole]
  exact Nat.mod_eq_zero_of_dvd (divides.mul_right _)

end FixedLayout.Word
