/-
# Binary floating-point numbers

Numbers with 53 significant bits and an exponent of 11 bits, as exact products of a natural number
and a power of two.  Every operation computes the exact result as a fraction and rounds it once, to
the nearest number and to the even one of two that are equally near.
-/
import TemplateExpansion.Decimal.Integer

namespace TemplateExpansion

/-- A floating-point number.  A finite one is its sign, and `significand * 2 ^ exponent` with a
significand below `2 ^ 53`. -/
inductive Binary64 where
  | nan
  | infinite (negative : Bool)
  | finite (negative : Bool) (significand : Nat) (exponent : Int)
  deriving Repr, DecidableEq

namespace Binary64

/-! ## 1. Rounding -/

/-- The smallest exponent. -/
def minExponent : Int := -1074

/-- The largest exponent. -/
def maxExponent : Int := 971

/-- The smallest significand with 53 bits. -/
def minNormal : Nat := 0x10000000000000

/-- Zero with a sign. -/
def zero (negative : Bool) : Binary64 := .finite negative 0 minExponent

/-- The natural number nearest to a quotient, the even one of two that are equally near. -/
def roundDiv (numerator denominator : Nat) : Nat :=
  let quotient := numerator / denominator
  let remainder := numerator % denominator
  if 2 * remainder < denominator then quotient
  else if denominator < 2 * remainder then quotient + 1
  else if quotient % 2 = 0 then quotient else quotient + 1

/-- A fraction divided by a power of two, as a fraction. -/
def scaleDown (numerator denominator : Nat) (exponent : Int) : Nat × Nat :=
  if 0 ≤ exponent then (numerator, denominator * Nat.pow 2 exponent.toNat)
  else (numerator * Nat.pow 2 (-exponent).toNat, denominator)

/-- The exponent that leaves 53 bits before the point of a positive fraction, or the smallest one. -/
def exponentFor (numerator denominator : Nat) : Int :=
  let guess := (numerator.log2 : Int) - denominator.log2 - 52
  let scaled := scaleDown numerator denominator guess
  max minExponent (if scaled.1 < scaled.2 * minNormal then guess - 1 else guess)

/-- The number nearest to a fraction. -/
def ofFraction (negative : Bool) (numerator denominator : Nat) : Binary64 :=
  if numerator = 0 then zero negative
  else
    let exponent := exponentFor numerator denominator
    let scaled := scaleDown numerator denominator exponent
    let significand := roundDiv scaled.1 scaled.2
    let carried := significand = 2 * minNormal
    let exponent := if carried then exponent + 1 else exponent
    if maxExponent < exponent then .infinite negative
    else .finite negative (if carried then minNormal else significand) exponent

/-- The number nearest to a natural number of units `2 ^ exponent`. -/
def ofUnits (negative : Bool) (units : Nat) (exponent : Int) : Binary64 :=
  if 0 ≤ exponent then ofFraction negative (units * Nat.pow 2 exponent.toNat) 1
  else ofFraction negative units (Nat.pow 2 (-exponent).toNat)

/-- The number nearest to `digits * 10 ^ exponent`.  An exponent so far out that the digits cannot
make up for it gives infinity or zero at once. -/
def ofDecimal (negative : Bool) (digits : Nat) (exponent : Int) : Binary64 :=
  if digits = 0 then zero negative
  else if 400 < exponent then .infinite negative
  else if (digits.log2 : Int) + 3 * exponent < -1200 then zero negative
  else if 0 ≤ exponent then ofFraction negative (digits * Nat.pow 10 exponent.toNat) 1
  else ofFraction negative digits (Nat.pow 10 (-exponent).toNat)

/-! ## 2. Arithmetic -/

/-- A signed significand. -/
def signedUnits (negative : Bool) (units : Nat) : Int := if negative then -(units : Int) else units

/-- The sum of two numbers.  The sum of zeros is negative only when both are, and a sum that cancels
is a positive zero. -/
def add : Binary64 → Binary64 → Binary64
  | .nan, _ => .nan
  | _, .nan => .nan
  | .infinite a, .infinite b => if a = b then .infinite a else .nan
  | .infinite a, .finite .. => .infinite a
  | .finite .., .infinite b => .infinite b
  | .finite a m p, .finite b n q =>
    let exponent := min p q
    let total := signedUnits a (m * Nat.pow 2 (p - exponent).toNat) +
      signedUnits b (n * Nat.pow 2 (q - exponent).toNat)
    if total = 0 then zero (a && b) else ofUnits (decide (total < 0)) total.natAbs exponent

/-! ## 3. Reading -/

/-- Why a text is no number. -/
inductive ReadError where
  | empty
  | invalid
  deriving Repr, DecidableEq

/-- The wording of each cause. -/
def ReadError.message : ReadError → Text
  | .empty => "cannot parse float from empty string".toList
  | .invalid => "invalid float literal".toList

/-- The exponent part of a numeral: nothing, or the letter, an optional sign and digits. -/
def readExponent? : Text → Option Int
  | [] => some 0
  | c :: rest =>
    if c = 'e' ∨ c = 'E' then
      let negative := rest.head? == some '-'
      let digits := if negative || rest.head? == some '+' then rest.tail else rest
      if digits.isEmpty || !digits.all Char.isDigit then none
      else some (signedUnits negative (Decimal.value digits))
    else none

/-- A numeral without its sign: digits with an optional point, at least one digit in all, and an
optional exponent. -/
def readNumeral? (negative : Bool) (t : Text) : Option Binary64 :=
  let whole := t.takeWhile Char.isDigit
  let tail := t.dropWhile Char.isDigit
  let afterPoint := if tail.head? = some '.' then tail.tail else []
  let fraction := afterPoint.takeWhile Char.isDigit
  let rest := if tail.head? = some '.' then afterPoint.dropWhile Char.isDigit else tail
  if whole.isEmpty && fraction.isEmpty then none
  else (readExponent? rest).map fun exponent =>
    ofDecimal negative (Decimal.value (whole ++ fraction)) (exponent - fraction.length)

/-- A number without its sign: a numeral, or the name of infinity or of no number in any case. -/
def readMagnitude (negative : Bool) (t : Text) : Except ReadError Binary64 :=
  if t.toLower = "inf".toList ∨ t.toLower = "infinity".toList then .ok (.infinite negative)
  else if t.toLower = "nan".toList then .ok .nan
  else match readNumeral? negative t with
    | some x => .ok x
    | none => .error .invalid

/-- Reads a number: an optional sign and its magnitude. -/
def read : Text → Except ReadError Binary64
  | [] => .error .empty
  | '-' :: rest => readMagnitude true rest
  | '+' :: rest => readMagnitude false rest
  | t => readMagnitude false t

end Binary64

end TemplateExpansion
