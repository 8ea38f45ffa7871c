/-
# Stored values and comments

`set` stores a value under a name for the rest of the run, `get` reads it back, and `note` drops its
operands.
-/
import TemplateExpansion.Operation
import TemplateExpansion.Builtin

namespace TemplateExpansion
namespace Operation

/-- `{get:name}` yields the value stored under the name, or nothing. -/
def get : Operation where
  name := Builtin.opcode .get
  requirements := []
  execute e ctx := ((ctx.get? (e.operand 0)).getD [], [])

/-- `{set:name|value}` stores the value and yields nothing. -/
def set : Operation where
  name := Builtin.opcode .set
  requirements :=
    [⟨"both a key and a value are required".toList,
      fun e _ => !(e.operand 0).isEmpty && !(e.operand 1).isEmpty⟩]
  execute e _ := ([], [.set (e.operand 0) (e.operand 1)])

/-- `{note:anything}` yields nothing. -/
def note : Operation where
  name := Builtin.opcode .note
  requirements := []
  execute _ _ := ([], [])

end Operation
end TemplateExpansion
