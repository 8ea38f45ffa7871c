/-
# The shortest decimal of a floating-point number

Of all decimals that round to a floating-point number, the one with the fewest digits, and of those
the one nearest to the number.  For 1, 2, … 17 digits the two neighbours of the number on the grid of
that many digits are tried; the first grid with a neighbour that rounds to the number wins.  Two
neighbours may be equally near; which of them is written is for the writer to say.
-/
import TemplateExpansion.Decimal.Binary64

namespace TemplateExpansion

/-- A positive decimal `0.d₁d₂… * 10 ^ point`, whose first and last digits are not zero. -/
structure Decimal where
  digits : Text
  point : Int
  deriving Repr, DecidableEq

namespace Decimal

/-! ## 1. Finding the digits -/

/-- Which of two decimals that are equally near to a number is written. -/
inductive Tie where
  /-- The larger one. -/
  | up
  /-- The one whose last digit is even. -/
  | even
  deriving Repr, DecidableEq

/-- The reals that round to a number, as fractions over one denominator; the ends belong to them when
`closed` says so. -/
structure RoundingRange where
  low : Nat
  value : Nat
  high : Nat
  denominator : Nat
  closed : Bool
  deriving Repr, DecidableEq

namespace RoundingRange

/-- The reals that round to `significand * 2 ^ exponent`.  The next number below is only half as far
away when the significand is the smallest with 53 bits, and ties go to an even significand. -/
def ofFinite (significand : Nat) (exponent : Int) : RoundingRange :=
  let units := 4 * significand
  let below := if significand = Binary64.minNormal ∧ Binary64.minExponent < exponent then 1 else 2
  let up := Nat.pow 2 (exponent - 2).toNat
  ⟨(units - below) * up, units * up, (units + 2) * up, Nat.pow 2 (2 - exponent).toNat,
    significand % 2 == 0⟩

/-- The range counted in steps of `10 ^ grid`. -/
def scale (r : RoundingRange) (grid : Int) : RoundingRange :=
  let up := Nat.pow 10 (-grid).toNat
  ⟨r.low * up, r.value * up, r.high * up, r.denominator * Nat.pow 10 grid.toNat, r.closed⟩

/-- A whole number of steps lies in the range. -/
def contains (r : RoundingRange) (n : Nat) : Bool :=
  let x := n * r.denominator
  if r.closed then r.low ≤ x && x ≤ r.high else r.low < x && x < r.high

/-- The neighbour of the value among the whole numbers of steps that lies in the range; of two the
nearer. -/
def neighbour? (tie : Tie) (r : RoundingRange) : Option Nat :=
  let below := r.value / r.denominator
  let above := below + 1
  match r.contains below, r.contains above with
  | false, false => none
  | true, false => some below
  | false, true => some above
  | true, true =>
    let twice := 2 * r.value
    let middle := (below + above) * r.denominator
    if twice < middle then some below
    else if middle < twice then some above
    else some (if tie = .even ∧ below % 2 = 0 then below else above)

/-- The value is below `10 ^ grid`. -/
def isBelow (r : RoundingRange) (grid : Int) : Bool :=
  let scaled := r.scale grid
  scaled.value < scaled.denominator

/-- The least power of ten above the value: the number of digits before its point, or not positive
below one tenth.  The binary logarithm of the value gives it up to two. -/
def magnitude (r : RoundingRange) : Int :=
  let guess := Int.fdiv (((r.value.log2 : Int) - r.denominator.log2) * 30103) 100000
  if r.isBelow guess then guess else if r.isBelow (guess + 1) then guess + 1 else guess + 2

end RoundingRange

/-- A decimal of a natural number of steps `10 ^ grid`, without the zeros at its end. -/
def ofSteps (steps : Nat) (grid : Int) : Decimal :=
  let digits := ofNat steps
  ⟨(digits.reverse.dropWhile (· == '0')).reverse, grid + digits.length⟩

/-- The shortest decimal that rounds to `significand * 2 ^ exponent`, which is not zero. -/
def shortest (tie : Tie) (significand : Nat) (exponent : Int) : Decimal :=
  let range := RoundingRange.ofFinite significand exponent
  let magnitude := range.magnitude
  let found := (List.range 17).findSome? fun count =>
    let grid := magnitude - (count + 1 : Nat)
    ((range.scale grid).neighbour? tie).map (ofSteps · grid)
  let finest := range.scale (magnitude - 17)
  found.getD (ofSteps (finest.value / finest.denominator) (magnitude - 17))

/-! ## 2. Writing the digits -/

/-- A row of zeros. -/
def zeros (n : Nat) : Text := List.replicate n '0'

/-- The digits before the point, zero when there are none. -/
def wholePart (d : Decimal) : Text :=
  if d.point ≤ 0 then ['0']
  else d.digits.take d.point.toNat ++ zeros (d.point.toNat - d.digits.length)

/-- The digits after the point. -/
def fractionPart (d : Decimal) : Text :=
  if d.point ≤ 0 then zeros (-d.point).toNat ++ d.digits else d.digits.drop d.point.toNat

/-- The decimal without an exponent; the point is written only before a digit. -/
def plain (d : Decimal) : Text :=
  if d.fractionPart.isEmpty then d.wholePart else d.wholePart ++ '.' :: d.fractionPart

/-- The decimal without an exponent and always with a point. -/
def pointed (d : Decimal) : Text :=
  if d.fractionPart.isEmpty then d.wholePart ++ ['.', '0'] else d.plain

/-- An exponent, always with its sign. -/
def exponentPart (e : Int) : Text := 'e' :: (if e < 0 then '-' else '+') :: ofNat e.natAbs

/-- The decimal with one digit before the point and an exponent. -/
def scientific (d : Decimal) : Text :=
  let tail := d.digits.tail
  d.digits.take 1 ++ (if tail.isEmpty then [] else '.' :: tail) ++ exponentPart (d.point - 1)

end Decimal

namespace Binary64

/-- A minus sign in front of a text. -/
def withSign (negative : Bool) (t : Text) : Text := if negative then '-' :: t else t

/-- A number as the outcome of a sum is written: the shortest digits that read back, the larger of two
equally near, never with an exponent. -/
def plain : Binary64 → Text
  | .nan => "NaN".toList
  | .infinite negative => withSign negative "inf".toList
  | .finite negative significand exponent =>
    withSign negative
      (if significand = 0 then ['0'] else (Decimal.shortest .up significand exponent).plain)

/-- A number as a fraction is written in a diagnostic: the shortest digits that read back, the even one
of two equally near, always with a point or an exponent.  Values from `0.00001` up to `10 ^ 16` have
no exponent. -/
def pointed : Binary64 → Text
  | .nan => "NaN".toList
  | .infinite negative => withSign negative "inf".toList
  | .finite negative significand exponent =>
    if significand = 0 then withSign negative "0.0".toList
    else
      let d := Decimal.shortest .even significand exponent
      withSign negative (if -4 ≤ d.point ∧ d.point ≤ 16 then d.pointed else d.scientific)

end Binary64

end TemplateExpansion
