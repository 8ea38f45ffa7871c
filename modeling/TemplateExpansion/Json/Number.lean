/-
# Numbers in a JSON document

A number without a point and an exponent is a whole number as long as it is one of 64 bits: unsigned,
or signed and negative.  Every other number is a floating-point number.  Its digits are read into 64
bits, those that no longer fit count as zeros, and the outcome is multiplied or divided by the power
of ten of its exponent, with one rounding for the digits and one for the power.
-/
import TemplateExpansion.Json.Token
import TemplateExpansion.Decimal.Binary64

namespace TemplateExpansion

namespace Binary64

/-! ## 1. Powers of ten -/

/-- The number nearest to a power of ten. -/
def powerOfTen (n : Nat) : Binary64 := ofFraction false (Nat.pow 10 n) 1

/-- The product of two numbers, for finite ones. -/
def mul : Binary64 → Binary64 → Binary64
  | .finite a m p, .finite b n q => ofUnits (a != b) (m * n) (p + q)
  | _, _ => .nan

/-- The quotient of two numbers, for finite ones of which the second is not zero. -/
def div : Binary64 → Binary64 → Binary64
  | .finite a m p, .finite b n q =>
    let scaled := scaleDown m n (q - p)
    ofFraction (a != b) scaled.1 scaled.2
  | _, _ => .nan

/-- A finite number that is zero. -/
def isZero : Binary64 → Bool
  | .finite _ m _ => m == 0
  | _ => false

/-- Infinity of either sign. -/
def isInfinite : Binary64 → Bool
  | .infinite _ => true
  | _ => false

/-- A number with its sign turned round. -/
def neg : Binary64 → Binary64
  | .nan => .nan
  | .infinite a => .infinite !a
  | .finite a m p => .finite (!a) m p

/-- Multiplies by a power of ten; an exponent below −308 is taken in steps, and a product out of range
is none. -/
def scaleByTen? (x : Binary64) (exponent : Int) : Option Binary64 :=
  if 0 ≤ exponent then
    if x.isZero ∧ 308 < exponent then some x
    else if 308 < exponent then none
    else
      let y := x.mul (powerOfTen exponent.toNat)
      if y.isInfinite then none else some y
  else if -308 ≤ exponent then some (x.div (powerOfTen (-exponent).toNat))
  else if x.isZero then some x
  else scaleByTen? (x.div (powerOfTen 308)) (exponent + 308)
termination_by (-exponent).toNat

end Binary64

namespace Json

/-- A number in a document. -/
inductive Number where
  | natural (n : Nat)
  /-- The negative of a positive number. -/
  | negative (n : Nat)
  | fraction (x : Binary64)
  deriving Repr, DecidableEq

namespace Number

/-! ## 2. Digits -/

/-- Digits added to a number, and how many of them there were, until one would take it beyond 64
bits. -/
def takeDigits (value count : Nat) : Bytes → Nat × Nat × Bytes
  | [] => (value, count, [])
  | b :: rest =>
    if isDigit b && value * 10 + digitValue b ≤ Decimal.maxUnsigned then
      takeDigits (value * 10 + digitValue b) (count + 1) rest
    else (value, count, b :: rest)

/-- The number of digits at the start, and what follows them. -/
def dropDigits (rest : Bytes) : Nat × Bytes :=
  ((rest.takeWhile isDigit).length, rest.dropWhile isDigit)

/-! ## 3. Floating-point numbers -/

/-- `significand * 10 ^ exponent` with a sign, met before what is left. -/
def ofParts (positive : Bool) (significand : Nat) (exponent : Int) (rest : Bytes) :
    Except Fault (Number × Bytes) :=
  match (Binary64.ofFraction false significand 1).scaleByTen? exponent with
  | none => .error (.looking .numberOutOfRange rest)
  | some x => .ok (.fraction (if positive then x else x.neg), rest)

/-- The largest exponent that is read digit by digit. -/
def maxExponent : Nat := 0x7FFFFFFF

/-- The digits of an exponent up to the one that takes it beyond the largest; then nothing, with what
follows that digit. -/
def takeExponent (value : Nat) : Bytes → Option Nat × Bytes
  | [] => (some value, [])
  | b :: rest =>
    if isDigit b then
      if value * 10 + digitValue b ≤ maxExponent then takeExponent (value * 10 + digitValue b) rest
      else (none, rest)
    else (some value, b :: rest)

/-- Reads an exponent after its letter. -/
def readExponent (positive : Bool) (significand : Nat) (start : Int) (rest : Bytes) :
    Except Fault (Number × Bytes) :=
  let upward := rest.head? != some 0x2D
  match (if rest.head? = some 0x2D ∨ rest.head? = some 0x2B then rest.tail else rest) with
  | [] => .error (.before .endInValue [])
  | b :: rest =>
    if isDigit b then
      match takeExponent (digitValue b) rest with
      | (some e, rest) => ofParts positive significand (if upward then start + e else start - e) rest
      | (none, rest) =>
        if significand ≠ 0 ∧ upward then .error (.before .numberOutOfRange rest)
        else .ok (.fraction (.zero !positive), rest.dropWhile isDigit)
    else .error (.before .invalidNumber rest)

/-- The byte starts an exponent. -/
def startsExponent (b : UInt8) : Bool := b == 0x65 || b == 0x45

/-- Reads what may follow the digits of a floating-point number: an exponent. -/
def readEnd (positive : Bool) (significand : Nat) (exponent : Int) (rest : Bytes) :
    Except Fault (Number × Bytes) :=
  match rest with
  | [] => ofParts positive significand exponent []
  | b :: after =>
    if startsExponent b then readExponent positive significand exponent after
    else ofParts positive significand exponent (b :: after)

/-- Reads the digits after a point. -/
def readFraction (positive : Bool) (significand : Nat) (exponent : Int) (rest : Bytes) :
    Except Fault (Number × Bytes) :=
  match rest with
  | [] => .error (.before .endInValue [])
  | b :: _ =>
    if isDigit b then
      let (significand, count, left) := takeDigits significand 0 rest
      readEnd positive significand (exponent - count) (left.dropWhile isDigit)
    else .error (.looking .invalidNumber rest)

/-- A whole number of 64 bits, or the floating-point number in its place. -/
def ofSignificand (positive : Bool) (significand : Nat) : Number :=
  if positive then .natural significand
  else if 0 < significand ∧ significand ≤ Decimal.maxSigned + 1 then .negative significand
  else .fraction (Binary64.ofFraction true significand 1)

/-- Reads what follows the digits before a point; `dropped` digits did not fit any more. -/
def readAfterDigits (positive : Bool) (significand dropped : Nat) (rest : Bytes) :
    Except Fault (Number × Bytes) :=
  match rest with
  | [] =>
    if dropped = 0 then .ok (ofSignificand positive significand, [])
    else ofParts positive significand dropped []
  | b :: after =>
    if b = 0x2E then readFraction positive significand dropped after
    else if startsExponent b then readExponent positive significand dropped after
    else if dropped = 0 then .ok (ofSignificand positive significand, b :: after)
    else ofParts positive significand dropped (b :: after)

/-- Reads a number after its sign. -/
def read (positive : Bool) : Bytes → Except Fault (Number × Bytes)
  | [] => .error (.before .endInValue [])
  | b :: rest =>
    if b = 0x30 then
      if rest.head?.any isDigit then .error (.looking .invalidNumber rest)
      else readAfterDigits positive 0 0 rest
    else if isDigit b then
      let (significand, _, left) := takeDigits 0 0 (b :: rest)
      let (dropped, left) := dropDigits left
      readAfterDigits positive significand dropped left
    else .error (.before .invalidNumber rest)

/-! ## 4. Passing over numbers -/

/-- Passes over an exponent after its letter. -/
def skipExponent (rest : Bytes) : Except Fault Bytes :=
  match (if rest.head? = some 0x2D ∨ rest.head? = some 0x2B then rest.tail else rest) with
  | [] => .error (.before .invalidNumber [])
  | b :: rest => if isDigit b then .ok (rest.dropWhile isDigit) else .error (.before .invalidNumber rest)

/-- Passes over the digits after a point. -/
def skipFraction (rest : Bytes) : Except Fault Bytes :=
  if rest.head?.any isDigit then
    match rest.dropWhile isDigit with
    | [] => .ok []
    | b :: after => if startsExponent b then skipExponent after else .ok (b :: after)
  else .error (.looking .invalidNumber rest)

/-- Passes over a number after its sign. -/
def skip : Bytes → Except Fault Bytes
  | [] => .error (.before .invalidNumber [])
  | b :: rest =>
    if b = 0x30 ∧ rest.head?.any isDigit then .error (.looking .invalidNumber rest)
    else if isDigit b then
      match rest.dropWhile isDigit with
      | [] => .ok []
      | c :: after =>
        if c = 0x2E then skipFraction after
        else if startsExponent c then skipExponent after
        else .ok (c :: after)
    else .error (.before .invalidNumber rest)

end Number

end Json
end TemplateExpansion
