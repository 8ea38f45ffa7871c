/-
# One pass over a text

A pass walks the text from left to right.  It evaluates every span it meets and writes the outcome in
the span's place; what it has written is not scanned again before the next pass.  Two things are
judged against what the text has become, that is, what has been written followed by what has not
been scanned:

* an opening brace directly after what has been written is escaped when that ends in a backslash, and
  the scan goes on after the brace;
* a span is nested when an unescaped opening brace before it still waits for its closing brace.  When
  the outcome of a nested span differs from the span, the pass ends there, so that the enclosing
  expression runs before anything to the right of it.

A pass is a run of the steps `skip` and `visit` over a state that holds the text written so far and
the text still to be scanned; each step makes the latter shorter (`length_skip_lt`,
`length_visit_lt`).
-/
import TemplateExpansion.Span
import TemplateExpansion.Escape
import TemplateExpansion.Evaluation

namespace TemplateExpansion

/-! ## 1. Visits -/

/-- One span that a pass has evaluated.  `span` is its place in the text that the pass started with. -/
structure Visit where
  span : Span
  nested : Bool
  evaluation : Evaluation
  deriving Repr, DecidableEq

namespace Visit

/-- The expression between the braces of the span. -/
def expression (v : Visit) : Expression := .parse v.span.inner

/-- The outcome differs from the text of the span. -/
def changed (v : Visit) : Bool := v.evaluation.text != '{' :: (v.span.inner ++ ['}'])

/-- The operation ran. -/
def isExecuted (v : Visit) : Bool := v.evaluation.outcome == .executed

/-- A changed nested span ends its pass. -/
def endsPass (v : Visit) : Bool := v.nested && v.changed

end Visit

/-! ## 2. The state of a pass -/

/-- How far a pass has come: `written` is what it has written, last character first, and stands for
the first `cursor` bytes of the text; `held` has been scanned but not written; `rest` is still to be
scanned. -/
structure Sweep where
  cursor : Nat
  held : Text
  rest : Text
  written : Text
  pending : Bool
  context : Context
  visits : List Visit
  deriving Repr, DecidableEq

namespace Sweep

/-- The start of a pass over a text. -/
def start (ctx : Context) (source : Text) : Sweep := ⟨0, [], source, [], false, ctx, []⟩

/-- The byte offset at which the scan goes on. -/
def scanFrom (s : Sweep) : Nat := s.cursor + s.held.byteSize

/-- What has been written ends in a backslash. -/
def escapes (s : Sweep) : Bool := s.written.head? == some '\\'

/-- The opening brace of a cut of the rest is escaped by what has been written. -/
def skips (s : Sweep) (cut : Cut) : Bool := s.held.isEmpty && cut.before.isEmpty && s.escapes

/-- Goes on after an escaped opening brace. -/
def skip (s : Sweep) : Sweep := { s with held := ['{'], rest := s.rest.tail }

/-- Writes text, with the opening braces that wait in it. -/
def write (s : Sweep) (t : Text) : Sweep :=
  { s with written := t.reverseAux s.written, pending := Text.pendingAfter s.pending s.escapes t }

@[simp] theorem written_write (s : Sweep) (t : Text) :
    (s.write t).written = t.reverse ++ s.written := by
  simp [write, List.reverseAux_eq]

/-- Evaluates the span of a cut of the rest. -/
def visitOf (registry : Registry) (s : Sweep) (cut : Cut) : Visit :=
  ⟨Span.ofCut s.scanFrom cut, (s.write (s.held ++ cut.before)).pending,
    evaluate registry (.parse cut.inner) s.context⟩

/-- Writes what stands before the span of a visit and then its outcome, and goes on after the span. -/
def visit (s : Sweep) (cut : Cut) (v : Visit) : Sweep :=
  { (s.write (s.held ++ cut.before)).write v.evaluation.text with
    cursor := v.span.stop
    held := []
    rest := cut.after
    context := v.evaluation.context
    visits := v :: s.visits }

/-- The text that the pass has made so far. -/
def text (s : Sweep) : Text := s.written.reverseAux (s.held ++ s.rest)

theorem text_eq (s : Sweep) : s.text = s.written.reverse ++ (s.held ++ s.rest) := by
  simp [text, List.reverseAux_eq]

theorem length_skip_lt {s : Sweep} {cut : Cut} (h : Cut.first? false s.rest = some cut) :
    s.skip.rest.length < s.rest.length := by
  have := Cut.length_after_lt h
  simp only [skip, List.length_tail]
  omega

theorem length_visit_lt {s : Sweep} {cut : Cut} (h : Cut.first? false s.rest = some cut)
    (v : Visit) : (s.visit cut v).rest.length < s.rest.length :=
  Cut.length_after_lt h

/-- Runs a pass to its end. -/
def run (registry : Registry) (s : Sweep) : Sweep :=
  match h : Cut.first? false s.rest with
  | none => s
  | some cut =>
    if s.skips cut then
      have := length_skip_lt h
      run registry s.skip
    else
      let v := s.visitOf registry cut
      have := length_visit_lt h v
      if v.endsPass then s.visit cut v else run registry (s.visit cut v)
termination_by s.rest.length

end Sweep

/-! ## 3. The whole pass -/

/-- What a pass yields: the text, the context, and the visits in the order they were made. -/
structure Swept where
  text : Text
  context : Context
  visits : List Visit
  deriving Repr, DecidableEq

/-- One pass over a text. -/
def sweep (registry : Registry) (ctx : Context) (source : Text) : Swept :=
  let s := Sweep.run registry (.start ctx.beginPass source)
  ⟨s.text, s.context, s.visits.reverse⟩

end TemplateExpansion
