/-
# Operations

An operation is called by its name in an expression.  It states requirements, which are checked in
order before it runs, and it yields the text that replaces the occurrence together with the changes it
makes to the context.  It does not fail: what goes wrong is one more diagnostic in the log.

There is one thing that no operation can log.  A text has at most as many bytes as memory can be asked
for at once, and an operation that asks for more is aborted, and the program with it.  That is told apart
from what operations yield (`Operation.aborts`, and `expand?` for a whole run).
-/
import TemplateExpansion.Expression
import TemplateExpansion.Context

namespace TemplateExpansion

/-- A check on an expression and the context, with the diagnostic for when it fails. -/
structure Requirement where
  message : Text
  holds : Expression → Context → Bool

/-- A named operation. -/
structure Operation where
  name : Text
  requirements : List Requirement
  /-- The text that replaces the occurrence, and the changes to the context.  It is a function of the
  expression and the context, and a change stores a value or logs an error.  So an operation that keeps
  a state of its own between its calls, or that puts another context in the place of the one it is
  given, is not an operation here. -/
  execute : Expression → Context → Text × List Change
  /-- The operation asks for more memory than there can be.  What `execute` says is then without
  meaning. -/
  aborts : Expression → Context → Bool := fun _ _ => false

namespace Operation

/-- The first requirement that fails, in the order they are stated. -/
def firstFailure (op : Operation) (e : Expression) (ctx : Context) : Option Requirement :=
  op.requirements.find? fun r => !r.holds e ctx

/-- All requirements hold exactly when there is no first failure. -/
theorem firstFailure_eq_none {op : Operation} {e : Expression} {ctx : Context} :
    op.firstFailure e ctx = none ↔ ∀ r ∈ op.requirements, r.holds e ctx = true := by
  simp [firstFailure]

/-- Runs an operation, whether or not its requirements hold: the text it yields, and the context with
its changes made. -/
def run (op : Operation) (e : Expression) (ctx : Context) : Text × Context :=
  let yielded := op.execute e ctx
  (yielded.1, ctx.applyAll yielded.2)

end Operation

end TemplateExpansion
