/-!
Decimal numbers and how they are written: with all places around the point where the number is of
moderate size, and with one digit before the point and a power of ten elsewhere.
-/
namespace FixedLayout

/-- The number `digits · 10 ^ exponent`. -/
structure Decimal where
  digits : Nat
  exponent : Int
  deriving DecidableEq, Repr

/-- Which numbers are written without a power of ten. -/
structure DecimalFormat where
  /-- The least exponent of a first digit in a number written in full. -/
  leastExponent : Int
  /-- The greatest exponent of a first digit in a number written in full. -/
  greatestExponent : Int
  deriving DecidableEq, Repr

namespace Decimal

/-- The number in full. At least one digit stands on either side of the point; `places` is the
number of places before the point. -/
def full (digits : List Char) (places : Int) : List Char :=
  if places ≤ 0 then
    '0' :: '.' :: List.replicate (-places).toNat '0' ++ digits
  else if digits.length ≤ places then
    digits ++ List.replicate (places.toNat - digits.length) '0' ++ ['.', '0']
  else
    digits.take places.toNat ++ '.' :: digits.drop places.toNat

/-- The number with one digit before the point. There is no point without digits after it, and no
sign before a positive exponent. -/
def scaled (digits : List Char) (exponent : Int) : List Char :=
  let point := if digits.length ≤ 1 then [] else ['.']
  digits.take 1 ++ point ++ digits.drop 1 ++ 'e' :: (toString exponent).toList

def text (format : DecimalFormat) (number : Decimal) : String :=
  let digits := Nat.toDigits 10 number.digits
  let places := number.exponent + digits.length
  String.ofList <|
    if format.leastExponent < places ∧ places ≤ format.greatestExponent + 1 then
      full digits places
    else
      scaled digits (places - 1)

end Decimal
end FixedLayout
