/-!
Sizes as machine words. A length, a position, a capacity or an alignment is a natural number
below `Word.limit`; a sum or a difference that leaves this range has no value.
-/
namespace FixedLayout.Word

/-- Words have 64 bits, so every size lies below this number. -/
def limit : Nat := 0x10000000000000000

/-- The sum of two sizes, when it is a size. -/
def add? (a b : Nat) : Option Nat :=
  if a + b < limit then some (a + b) else none

/-- The difference of two sizes, when it is a size. -/
def sub? (a b : Nat) : Option Nat :=
  if b ≤ a then some (a - b) else none

theorem add?_eq_some_iff {a b c : Nat} : add? a b = some c ↔ a + b < limit ∧ a + b = c := by
  simp [add?]

theorem add?_eq_none_iff {a b : Nat} : add? a b = none ↔ limit ≤ a + b := by
  simp [add?]

theorem sub?_eq_some_iff {a b c : Nat} : sub? a b = some c ↔ b ≤ a ∧ a - b = c := by
  simp [sub?]

/-- A power of two that fits into a word. -/
def IsAlignment (n : Nat) : Prop := ∃ k, k < 64 ∧ n = 1 <<< k

instance (n : Nat) : Decidable (IsAlignment n) :=
  inferInstanceAs (Decidable (∃ k, k < 64 ∧ n = 1 <<< k))

/-- The bytes that bring `size` up to a multiple of `alignment`, a power of two: the lowest bits of
the word that is the negative of `size`. -/
def padding (alignment size : Nat) : Nat := (limit - size % limit) % limit &&& (alignment - 1)

end FixedLayout.Word
