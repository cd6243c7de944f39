import FixedLayout.Binary32
import FixedLayout.Word

/-!
Numbers as JSON spells them, and what they mean. A whole number of 64 bits is read as such. Any
other numeral is read in binary64: as many leading digits as fit into 64 bits are an integer, which
is then scaled by a power of ten.
-/
namespace FixedLayout.Json

/-- The parts of a spelled number. -/
structure Numeral where
  negative : Bool
  whole : List Nat
  fraction : List Nat := []
  exponent : Option Int := none
  deriving DecidableEq, Repr

def digit? (c : Char) : Option Nat :=
  if '0' ≤ c ∧ c ≤ '9' then some (c.toNat - '0'.toNat) else none

def readDigits : List Char → List Nat × List Char
  | [] => ([], [])
  | c :: rest =>
    match digit? c with
    | some digit =>
      let (digits, rest) := readDigits rest
      (digit :: digits, rest)
    | none => ([], c :: rest)

/-- The digits at the start of a text, if there is one. -/
def readSomeDigits? (text : List Char) : Option (List Nat × List Char) :=
  match readDigits text with
  | ([], _) => none
  | result => some result

/-- The whole part of a number. Nothing but the point or the exponent follows a leading zero. -/
def readWhole? : List Char → Option (List Nat × List Char)
  | '0' :: rest => some ([0], rest)
  | text => readSomeDigits? text

/-- The digits after a point, if there is a point. -/
def readFraction? : List Char → Option (List Nat × List Char)
  | '.' :: rest => readSomeDigits? rest
  | text => some ([], text)

def ofDigits (digits : List Nat) : Nat := digits.foldl (fun n digit => 10 * n + digit) 0

/-- The power of ten after an exponent mark, with its sign. -/
def readPower? : List Char → Option (Int × List Char)
  | '-' :: rest => (readSomeDigits? rest).map fun (digits, rest) => (-ofDigits digits, rest)
  | '+' :: rest => (readSomeDigits? rest).map fun (digits, rest) => (ofDigits digits, rest)
  | text => (readSomeDigits? text).map fun (digits, rest) => (ofDigits digits, rest)

/-- The exponent, if there is an exponent mark. -/
def readExponent? : List Char → Option (Option Int × List Char)
  | 'e' :: rest | 'E' :: rest => (readPower? rest).map fun (power, rest) => (some power, rest)
  | text => some (none, text)

def readSign : List Char → Bool × List Char
  | '-' :: rest => (true, rest)
  | text => (false, text)

def readNumeral? (text : List Char) : Option (Numeral × List Char) := do
  let (negative, text) := readSign text
  let (whole, text) ← readWhole? text
  let (fraction, text) ← readFraction? text
  let (exponent, text) ← readExponent? text
  return ({ negative, whole, fraction, exponent }, text)

theorem length_readDigits (text : List Char) : (readDigits text).2.length ≤ text.length := by
  induction text with
  | nil => simp [readDigits]
  | cons c rest ih =>
    simp only [readDigits]
    split
    · simp only [List.length_cons]
      omega
    · simp

theorem length_readSomeDigits? {text rest : List Char} {digits : List Nat}
    (h : readSomeDigits? text = some (digits, rest)) : rest.length < text.length := by
  unfold readSomeDigits? at h
  cases text with
  | nil => simp [readDigits] at h
  | cons c tail =>
    have := length_readDigits tail
    simp only [readDigits] at h
    cases found : digit? c with
    | none => simp [found] at h
    | some digit =>
      simp only [found, Option.some.injEq, Prod.mk.injEq] at h
      simp only [← h.2, List.length_cons]
      omega

theorem length_readWhole? {text rest : List Char} {digits : List Nat}
    (h : readWhole? text = some (digits, rest)) : rest.length < text.length := by
  unfold readWhole? at h
  split at h
  · simp only [Option.some.injEq, Prod.mk.injEq] at h
    simp [← h.2]
  · exact length_readSomeDigits? h

theorem length_readFraction? {text rest : List Char} {digits : List Nat}
    (h : readFraction? text = some (digits, rest)) : rest.length ≤ text.length := by
  unfold readFraction? at h
  split at h
  · have := length_readSomeDigits? h
    simp only [List.length_cons]
    omega
  · simp only [Option.some.injEq, Prod.mk.injEq] at h
    simp [← h.2]

theorem length_readPower? {text rest : List Char} {power : Int}
    (h : readPower? text = some (power, rest)) : rest.length < text.length := by
  unfold readPower? at h
  split at h <;>
  · obtain ⟨⟨digits, after⟩, found, same⟩ := Option.map_eq_some_iff.mp h
    have := length_readSomeDigits? found
    simp only [Prod.mk.injEq] at same
    simp only [← same.2, List.length_cons]
    omega

theorem length_readExponent? {text rest : List Char} {exponent : Option Int}
    (h : readExponent? text = some (exponent, rest)) : rest.length ≤ text.length := by
  unfold readExponent? at h
  split at h
  case h_3 =>
    simp only [Option.some.injEq, Prod.mk.injEq] at h
    simp [← h.2]
  all_goals
    obtain ⟨⟨power, after⟩, found, same⟩ := Option.map_eq_some_iff.mp h
    have := length_readPower? found
    simp only [Prod.mk.injEq] at same
    simp only [← same.2, List.length_cons]
    omega

theorem length_readSign (text : List Char) : (readSign text).2.length ≤ text.length := by
  unfold readSign
  split <;> simp

theorem length_readNumeral? {text rest : List Char} {numeral : Numeral}
    (h : readNumeral? text = some (numeral, rest)) : rest.length < text.length := by
  have sign := length_readSign text
  simp only [readNumeral?, Option.bind_eq_bind, Option.bind_eq_some_iff] at h
  obtain ⟨⟨whole, afterWhole⟩, whole?, ⟨fraction, afterFraction⟩, fraction?, ⟨exponent, _⟩,
    exponent?, same⟩ := h
  have := length_readWhole? whole?
  have := length_readFraction? fraction?
  have := length_readExponent? exponent?
  simp only [pure, Option.some.injEq, Prod.mk.injEq] at same
  rw [← same.2]
  simp only at *
  omega

namespace Numeral

/-- The binary64 number next to a power of ten. -/
def powerOfTen (exponent : Nat) : Float := Float.ofScientific 1 false exponent

def greatestExponent : Nat := 308

/-- Reads digits on from a number as long as it fits into 64 bits. Answers the number and how many
digits were read. -/
def accumulate (number : Nat) : List Nat → Nat × Nat
  | [] => (number, 0)
  | digit :: rest =>
    if 10 * number + digit < Word.limit then
      let (number, count) := accumulate (10 * number + digit) rest
      (number, count + 1)
    else
      (number, 0)

/-- Divides by a power of ten, in steps of finite powers. -/
def scaleDown (number : Float) (exponent : Nat) : Float :=
  if exponent ≤ greatestExponent then
    number / powerOfTen exponent
  else if number == 0 then
    number
  else
    scaleDown (number / powerOfTen greatestExponent) (exponent - greatestExponent)
termination_by exponent
decreasing_by simp only [greatestExponent] at *; omega

/-- Multiplies by a power of ten. There is no value beyond the finite numbers. -/
def scaleUp? (number : Float) (exponent : Nat) : Option Float :=
  if exponent ≤ greatestExponent then
    let product := number * powerOfTen exponent
    if product.isInf then none else some product
  else if number == 0 then
    some number
  else
    none

/-- Whether a numeral has neither a point nor an exponent. -/
def isWhole (numeral : Numeral) : Bool := numeral.fraction.isEmpty && numeral.exponent.isNone

/-- The size of a numeral in binary64. Digits before the point that do not fit into 64 bits count
as powers of ten; those after it are ignored. -/
def magnitude? (numeral : Numeral) : Option Float :=
  let (number, wholeCount) := accumulate 0 numeral.whole
  let (number, fractionCount) := accumulate number numeral.fraction
  let exponent : Int :=
    (numeral.whole.length - wholeCount : Nat) - (fractionCount : Int) + numeral.exponent.getD 0
  let number := (UInt64.ofNat number).toFloat
  if 0 ≤ exponent then scaleUp? number exponent.toNat
  else some (scaleDown number (-exponent).toNat)

def toUInt64? (numeral : Numeral) : Option UInt64 :=
  let number := ofDigits numeral.whole
  if numeral.isWhole ∧ ¬ numeral.negative ∧ number < Word.limit then some (UInt64.ofNat number)
  else none

/-- The value of a numeral in binary32. A 64-bit integer is rounded once, any other number first to
binary64. -/
def toBinary32? (numeral : Numeral) : Option Binary32 := do
  let number := ofDigits numeral.whole
  let limit := if numeral.negative then Word.limit / 2 + 1 else Word.limit
  let size ←
    if numeral.isWhole ∧ number < limit then some (UInt64.ofNat number).toFloat32
    else numeral.magnitude?.map Float.toFloat32
  let value := if numeral.negative then -size else size
  return value.toBits.toBitVec

end Numeral
end FixedLayout.Json
