/-
# Runs that are aborted

An operation that asks for more memory than there can be is aborted, and with it the evaluation, the pass
and the run: nothing comes back, not even the log.  Here an evaluation, a pass and a run either yield what
`evaluate`, `sweep` and `expand` say or nothing.

Whether an evaluation of a pass is aborted is asked of the context that it was made in, which is the one that
the evaluation before it left.
-/
import TemplateExpansion.Expansion

namespace TemplateExpansion

/-! ## 1. One occurrence -/

/-- The operation of an occurrence is run, and it is aborted. -/
def Registry.aborts (registry : Registry) (e : Expression) (ctx : Context) : Bool :=
  match registry.get? e.opcode with
  | none => false
  | some op => (op.firstFailure e ctx).isNone && op.aborts e ctx

/-- Evaluates one occurrence, unless that is aborted. -/
def evaluate? (registry : Registry) (e : Expression) (ctx : Context) : Option Evaluation :=
  if registry.aborts e ctx then none else some (evaluate registry e ctx)

/-! ## 2. One pass -/

/-- Of evaluations made one after the other, the first of them in a given context, one is aborted. -/
def Registry.abortsAmong (registry : Registry) (ctx : Context) : List (Expression × Evaluation) → Bool
  | [] => false
  | (e, r) :: later => registry.aborts e ctx || registry.abortsAmong r.context later

/-- One pass over a text, unless it is aborted. -/
def sweep? (registry : Registry) (ctx : Context) (source : Text) : Option Swept :=
  let s := sweep registry ctx source
  let evaluations := s.visits.map fun v => (v.expression, v.evaluation)
  if registry.abortsAmong ctx.beginPass evaluations then none else some s

/-! ## 3. The whole run -/

namespace Progress

/-- One more pass, with what it yields. -/
def following (p : Progress) (s : Swept) : Progress :=
  ⟨s.text, s.context, p.passes + 1, s.text == p.working⟩

/-- Passes until one of them leaves the text as it is, but no more than the limit, unless one is aborted. -/
def run? (registry : Registry) : Nat → Progress → Option Progress
  | 0, p => some p
  | limit + 1, p =>
    match sweep? registry p.context p.working with
    | none => none
    | some s =>
      let q := p.following s
      if q.converged then some q else run? registry limit q

/-- What a run comes to that ends here. -/
def result (p : Progress) : Except ExpansionError Expanded :=
  if p.converged then .ok p.expanded else .error (.nonConvergent p.passes p.expanded)

end Progress

/-- Expands a text with positional arguments, in at most `limit` passes, unless one of them is aborted. -/
def expand? (registry : Registry) (limit : Nat) (args : List Text) (input : Text) :
    Option (Except ExpansionError Expanded) :=
  (Progress.run? registry limit (.start (.fresh args) input)).map Progress.result

end TemplateExpansion
