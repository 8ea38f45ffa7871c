/-
# Integers in decimal

Reading and writing integers.  A numeral is an optional sign and digits.  The digits are looked at
from left to right: a character that is no digit is reported when it is reached, and a value out of
range at the digit that takes it there, so whichever comes first is the cause that is given.

The main statement says that the digits of a natural number have that number as their value
(`value_ofNat`).
-/
import TemplateExpansion.Text

namespace TemplateExpansion
namespace Decimal

/-- Why a text is no integer of the range asked for. -/
inductive IntegerError where
  | empty
  | invalidDigit
  | tooLarge
  | tooSmall
  deriving Repr, DecidableEq

/-- The wording of each cause. -/
def IntegerError.message : IntegerError → Text
  | .empty => "cannot parse integer from empty string".toList
  | .invalidDigit => "invalid digit found in string".toList
  | .tooLarge => "number too large to fit in target type".toList
  | .tooSmall => "number too small to fit in target type".toList

/-! ## 1. Writing -/

/-- The digits of a natural number. -/
def ofNat (n : Nat) : Text := Nat.toDigits 10 n

/-- The numeral of an integer. -/
def ofInt (n : Int) : Text := if n < 0 then '-' :: ofNat n.natAbs else ofNat n.natAbs

/-! ## 2. Reading -/

/-- The value of a digit. -/
def digit? (c : Char) : Option Nat := if c.isDigit then some (c.toNat - '0'.toNat) else none

/-- The value of a text of digits. -/
def value (t : Text) : Nat := t.foldl (fun n c => n * 10 + (digit? c).getD 0) 0

/-- The value of digits that may not exceed a bound; `overflow` is the cause given when they do. -/
def boundedDigits (bound : Nat) (overflow : IntegerError) (value : Nat) :
    Text → Except IntegerError Nat
  | [] => .ok value
  | c :: rest =>
    match digit? c with
    | none => .error .invalidDigit
    | some d =>
      if value * 10 + d ≤ bound then boundedDigits bound overflow (value * 10 + d) rest
      else .error overflow

/-- Digits that may not be missing; after a sign their lack is an invalid digit. -/
def signedDigits (bound : Nat) (overflow : IntegerError) : Text → Except IntegerError Nat
  | [] => .error .invalidDigit
  | t => boundedDigits bound overflow 0 t

/-- The largest signed integer of 64 bits. -/
def maxSigned : Nat := 0x7FFFFFFFFFFFFFFF

/-- The largest unsigned integer of 64 bits. -/
def maxUnsigned : Nat := 0xFFFFFFFFFFFFFFFF

/-- Reads a signed integer of 64 bits. -/
def signed : Text → Except IntegerError Int
  | [] => .error .empty
  | '-' :: rest => (signedDigits (maxSigned + 1) .tooSmall rest).map fun n : Nat => -(n : Int)
  | '+' :: rest => (signedDigits maxSigned .tooLarge rest).map Int.ofNat
  | t => (boundedDigits maxSigned .tooLarge 0 t).map Int.ofNat

/-- Reads an unsigned integer of 64 bits, which has no minus sign. -/
def unsigned : Text → Except IntegerError Nat
  | [] => .error .empty
  | '+' :: rest => signedDigits maxUnsigned .tooLarge rest
  | t => boundedDigits maxUnsigned .tooLarge 0 t

/-! ## 3. Reading what was written -/

theorem value_append_singleton (t : Text) (c : Char) :
    value (t ++ [c]) = value t * 10 + (digit? c).getD 0 := by
  simp [value]

theorem digit?_digitChar {d : Nat} (h : d < 10) : digit? (Nat.digitChar d) = some d := by
  have hall : ∀ e ∈ List.range 10, digit? (Nat.digitChar e) = some e := by decide
  exact hall d (List.mem_range.2 h)

/-- **The digits of a natural number have that number as their value.** -/
theorem value_ofNat (n : Nat) : value (ofNat n) = n := by
  induction n using Nat.strongRecOn with
  | ind n ih =>
    by_cases h : n < 10
    · simp [ofNat, Nat.toDigits_of_lt_base h, value, digit?_digitChar h]
    · have := ih (n / 10) (by omega)
      rw [ofNat] at this
      rw [ofNat, Nat.toDigits_of_base_le (by omega) (by omega), value_append_singleton, this,
        digit?_digitChar (Nat.mod_lt n (by omega))]
      simp only [Option.getD_some]
      omega

end Decimal
end TemplateExpansion
