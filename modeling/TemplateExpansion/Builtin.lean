/-
# The built-in operations by name

| opcode   | outcome                                          |
|----------|--------------------------------------------------|
| `add`    | the sum of the integer operands                  |
| `e`      | Euler's number                                   |
| `pi`     | the circle constant                              |
| `get`    | the value stored under operand 0, or nothing     |
| `set`    | stores operand 1 under operand 0, yields nothing |
| `note`   | nothing: a comment of the author                 |
| `repeat` | operand 0 as often as operand 1 says             |
| `text`   | the body behind the URL in operand 0             |
-/
import TemplateExpansion.Text

namespace TemplateExpansion

/-- The operations that every standard registry holds. -/
inductive Builtin where
  | add
  | e
  | pi
  | get
  | set
  | note
  | replicate
  | text
  deriving Repr, DecidableEq

namespace Builtin

/-- All built-in operations, in the order of the table. -/
def all : List Builtin := [.add, .e, .pi, .get, .set, .note, .replicate, .text]

/-- The name under which the operation is registered. -/
def opcode : Builtin → Text
  | .add => "add".toList
  | .e => "e".toList
  | .pi => "pi".toList
  | .get => "get".toList
  | .set => "set".toList
  | .note => "note".toList
  | .replicate => "repeat".toList
  | .text => "text".toList

/-- The built-in operation of a name, which is compared exactly. -/
def ofOpcode? (name : Text) : Option Builtin := all.find? (·.opcode == name)

/-- The place of the operation in the table, counted from zero. -/
def index (b : Builtin) : Nat := all.idxOf b

theorem mem_all (b : Builtin) : b ∈ all := by cases b <;> decide

end Builtin

end TemplateExpansion
