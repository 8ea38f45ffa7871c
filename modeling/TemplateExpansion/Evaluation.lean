/-
# Evaluating one occurrence

An occurrence of an unknown opcode comes back as it is written, and nothing is logged.  Otherwise the
requirements are checked in order; the first that fails is logged, once for the occurrence, and the
occurrence comes back as it is written.  Otherwise the operation runs.
-/
import TemplateExpansion.Registry

namespace TemplateExpansion

/-- How an evaluation went. -/
inductive Outcome where
  /-- No operation has this opcode. -/
  | unknown
  /-- A requirement failed, with this message. -/
  | rejected (message : Text)
  /-- The operation ran. -/
  | executed
  deriving Repr, DecidableEq

/-- What an evaluation yields: the text that replaces the occurrence, the context after it, and how
it went. -/
structure Evaluation where
  text : Text
  context : Context
  outcome : Outcome
  deriving Repr, DecidableEq

/-- Evaluates one occurrence. -/
def evaluate (registry : Registry) (e : Expression) (ctx : Context) : Evaluation :=
  match registry.get? e.opcode with
  | none => ⟨e.source, ctx, .unknown⟩
  | some op =>
    match op.firstFailure e ctx with
    | some r => ⟨e.source, ctx.reject e.source e.opcode r.message, .rejected r.message⟩
    | none =>
      let result := op.run e ctx
      ⟨result.1, result.2, .executed⟩

/-- What was not executed comes back as it is written. -/
theorem evaluate_text_of_ne_executed {registry : Registry} {e : Expression} {ctx : Context}
    (h : (evaluate registry e ctx).outcome ≠ .executed) :
    (evaluate registry e ctx).text = e.source := by
  unfold evaluate at h ⊢
  split
  · rfl
  · split
    · rfl
    · simp_all

end TemplateExpansion
