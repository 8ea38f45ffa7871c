/-
# Expanding a text

Passes over the text follow each other until one leaves it as it is, or until the limit on their
number is reached.  At the end the backslash before every opening brace is dropped.  The limit is
looked at before each pass, so a limit of `n` allows `n` passes, the one that finds nothing to change
included.  That no operation is aborted on the way is taken for granted here; `expand?` does not.
-/
import TemplateExpansion.Sweep

namespace TemplateExpansion

/-! ## 1. Passes in a row -/

/-- How far a run has come: the working text with its escapes, the context, the number of passes, and
whether the last pass left the text as it was. -/
structure Progress where
  working : Text
  context : Context
  passes : Nat
  converged : Bool
  deriving Repr, DecidableEq

namespace Progress

/-- A run before its first pass. -/
def start (ctx : Context) (input : Text) : Progress := ⟨input, ctx, 0, false⟩

/-- One more pass. -/
def next (registry : Registry) (p : Progress) : Progress :=
  let s := sweep registry p.context p.working
  ⟨s.text, s.context, p.passes + 1, s.text == p.working⟩

/-- Passes until one of them leaves the text as it is, but no more than the limit. -/
def run (registry : Registry) : Nat → Progress → Progress
  | 0, p => p
  | limit + 1, p =>
    let q := p.next registry
    if q.converged then q else run registry limit q

end Progress

/-! ## 2. The result -/

/-- An expanded text with the diagnostics logged on the way. -/
structure Expanded where
  text : Text
  errors : List Text
  deriving Repr, DecidableEq

/-- The text reached by a run, with its escapes dropped, and the log. -/
def Progress.expanded (p : Progress) : Expanded := ⟨p.working.unescape, p.context.errors⟩

/-- Why an expansion has no result. -/
inductive ExpansionError where
  /-- The text still changed when the limit was reached; `reached` is what the last pass left. -/
  | nonConvergent (iterations : Nat) (reached : Expanded)
  deriving Repr, DecidableEq

/-- The wording of each cause. -/
def ExpansionError.message : ExpansionError → Text
  | .nonConvergent iterations _ =>
    "input did not converge after ".toList ++ Nat.toDigits 10 iterations ++ " passes".toList

/-- Expands a text with positional arguments, in at most `limit` passes. -/
def expand (registry : Registry) (limit : Nat) (args : List Text) (input : Text) :
    Except ExpansionError Expanded :=
  let p := Progress.run registry limit (.start (.fresh args) input)
  if p.converged then .ok p.expanded else .error (.nonConvergent p.passes p.expanded)

end TemplateExpansion
