/-!
IEEE 754 binary32 numbers as bit patterns. A finite number is `significand · 2 ^ exponent`, with a
sign of its own.
-/
namespace FixedLayout

abbrev Binary32 := BitVec 32

abbrev Binary64 := BitVec 64

namespace Binary32
variable (bits : Binary32)

def negative : Bool := bits.msb

def biasedExponent : Nat := (bits.extractLsb' 23 8).toNat

def fraction : Nat := (bits.extractLsb' 0 23).toNat

def isFinite : Bool := bits.biasedExponent != 255

/-- One of the patterns that stand for no number. -/
def isNaN : Bool := bits.biasedExponent == 255 && bits.fraction != 0

def isZero : Bool := bits.biasedExponent == 0 && bits.fraction == 0

/-- The integer of at most 24 bits in a finite number; the leading bit of a normal number is not
stored. -/
def significand : Nat :=
  if bits.biasedExponent = 0 then bits.fraction else 0x800000 + bits.fraction

/-- The power of two that scales the significand of a finite number. -/
def exponent : Int :=
  if bits.biasedExponent = 0 then -149 else bits.biasedExponent - 150

/-- Equality of numbers: a NaN equals nothing, and the zeros are equal. -/
def equal (a b : Binary32) : Bool :=
  !a.isNaN && !b.isNaN && (a == b || a.isZero && b.isZero)

/-- The same finite number in binary64, which holds every binary32 number exactly. A subnormal
number becomes a normal one, so its leading bit moves up to bit 52 and is not stored. -/
def widen? : Option Binary64 :=
  if !bits.isFinite then
    none
  else
    let sign := if bits.negative then 1 <<< 63 else 0
    if bits.isZero then
      some (BitVec.ofNat 64 sign)
    else
      let top := Nat.log2 bits.significand
      let biased := (bits.exponent + top + 1023).toNat
      let stored := (bits.significand <<< (52 - top)) - 1 <<< 52
      some (BitVec.ofNat 64 (sign + biased <<< 52 + stored))

end Binary32
end FixedLayout
