import FixedLayout.Binary32
import FixedLayout.Decimal.Basic

/-!
The shortest decimal number that reads back as a binary32 number. A decimal reads back if it lies
no further off than halfway to the neighbours; the halfway points belong to the number when its
significand is even. On each grid of multiples of a power of ten it is enough to look at the two
neighbours of the number: if a grid has a point that reads back, one of these does.
-/
namespace FixedLayout.Binary32

/-- Quarters of a unit in the last place, in which a number and its bounds are integers. -/
structure Quarters where
  /-- The halfway point below. -/
  lower : Nat
  center : Nat
  /-- The halfway point above. -/
  upper : Nat
  /-- The power of two that one quarter stands for. -/
  exponent : Int
  /-- Whether the halfway points read back. -/
  closed : Bool
  deriving DecidableEq, Repr

/-- A positive finite number and the points halfway to its neighbours. Below the least significand
of a normal number the next number is only half as far away. -/
def quarters (bits : Binary32) : Quarters :=
  let significand := bits.significand
  let narrow := bits.fraction = 0 ∧ 1 < bits.biasedExponent
  { lower := 4 * significand - if narrow then 1 else 2
    center := 4 * significand
    upper := 4 * significand + 2
    exponent := bits.exponent - 2
    closed := significand % 2 = 0 }

/-- Whether `a` lies before `b`, or meets it where bounds read back. -/
def Quarters.reaches (q : Quarters) (a b : Nat) : Bool := a < b || q.closed && a == b

/-- The multiple of `10 ^ power` that reads back as the number and lies next to it, the greater one
of two equally near. -/
def Quarters.onGrid? (q : Quarters) (power : Int) : Option Nat :=
  let unit := Nat.pow 2 q.exponent.toNat * Nat.pow 10 (-power).toNat
  let step := Nat.pow 10 power.toNat * Nat.pow 2 (-q.exponent).toNat
  let below := q.center * unit / step
  let above := below + 1
  let readsBelow := q.reaches (q.lower * unit) (below * step)
  let readsAbove := q.reaches (above * step) (q.upper * unit)
  let belowIsNearer := q.center * unit - below * step < above * step - q.center * unit
  if readsBelow && (belowIsNearer || !readsAbove) then some below
  else if readsAbove then some above
  else none

/-- The first hit on the grids `10 ^ power`, `10 ^ (power - 1)` and so on. -/
def Quarters.search (q : Quarters) (power : Int) : Nat → Option Decimal
  | 0 => none
  | grids + 1 =>
    match q.onGrid? power with
    | some digits => some { digits, exponent := power }
    | none => q.search (power - 1) grids

/-- The power of ten of the coarsest grid. No binary32 number reaches ten times as far. -/
def greatestPower : Int := 38

/-- The number of grids in a search. The last one has steps of `10 ^ -53`: nine digits always read
back, and the least number is above `10 ^ -45`. -/
def gridCount : Nat := 92

/-- The decimal of the fewest digits that reads back as a positive finite number, and of those the
nearest. -/
def shortest (bits : Binary32) : Decimal :=
  (bits.quarters.search greatestPower gridCount).getD { digits := 0, exponent := 0 }

end FixedLayout.Binary32
