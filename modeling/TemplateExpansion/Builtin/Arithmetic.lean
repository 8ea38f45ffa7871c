/-
# Sums and constants

`add` takes integers of 64 bits, with blanks around them, and sums them as floating-point numbers from
the left.  So `{add:1.5|2}` is rejected although the sum itself would work.  `e` and `pi` yield fixed
floating-point numbers and look at no operand.
-/
import TemplateExpansion.Operation
import TemplateExpansion.Builtin
import TemplateExpansion.Text.Blank
import TemplateExpansion.Decimal.Shortest

namespace TemplateExpansion

/-- An operand that is an integer of 64 bits once the blanks around it are gone. -/
def Text.isInteger (t : Text) : Bool := (Decimal.signed t.trim).isOk

namespace Binary64

/-- The number nearest to Euler's number. -/
def euler : Binary64 := .finite false 0x15BF0A8B145769 (-51)

/-- The number nearest to the circle constant. -/
def circle : Binary64 := .finite false 0x1921FB54442D18 (-51)

end Binary64

namespace Operation

/-- The sum of operands, each read as a number, on top of a sum so far; the first operand that is no
number is the cause of a failure. -/
def sumFrom (total : Binary64) : List Text → Except Binary64.ReadError Binary64
  | [] => .ok total
  | operand :: rest =>
    match Binary64.read operand.trim with
    | .error cause => .error cause
    | .ok x => sumFrom (total.add x) rest

/-- The sum of all operands. -/
def sum (operands : List Text) : Except Binary64.ReadError Binary64 :=
  sumFrom (.zero false) operands

/-- `{add:1|2|3}` yields `6`. -/
def add : Operation where
  name := Builtin.opcode .add
  requirements :=
    [⟨"not all input operands are valid numbers".toList, fun e _ => e.operands.all Text.isInteger⟩]
  execute e _ :=
    match sum e.operands with
    | .ok total => (total.plain, [])
    | .error cause => ([], [.report (Builtin.opcode .add) cause.message])

/-- An operation that yields a fixed text. -/
def constant (name value : Text) : Operation where
  name
  requirements := []
  execute _ _ := (value, [])

/-- `{e}` yields Euler's number. -/
def eulerNumber : Operation := constant (Builtin.opcode .e) Binary64.euler.plain

/-- `{pi}` yields the circle constant. -/
def circleConstant : Operation := constant (Builtin.opcode .pi) Binary64.circle.plain

end Operation

end TemplateExpansion
