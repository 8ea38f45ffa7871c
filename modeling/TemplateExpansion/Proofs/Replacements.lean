/-
# The replacements of a run

`WorkingText.run` keeps the occurrences it evaluates, but not where it found them.  Whether a span was nested
is a question about the text that stood before it at that time, so this file also keeps that text
(`WorkingText.replacements`, `Course.replacements`).

A pass of `Sweep` carries along whether a brace waits and notes it with each visit.  Its visits are the
replacements, and what it noted can be read off the text before them (`Course.visits_eq_replacements`).
-/
import TemplateExpansion.Proofs.Course

namespace TemplateExpansion

open Text

/-! ## 1. The replacements of a pass -/

/-- One replacement: the working text before the span at that time, and the occurrence that was
evaluated. -/
structure Replacement where
  front : Text
  occurrence : Occurrence
  deriving Repr, DecidableEq

/-- The operation ran, and the policy ends a pass there. -/
def Replacement.isCallWhere (ends : Text → Bool) (x : Replacement) : Bool :=
  x.occurrence.isExecuted && ends x.front

namespace WorkingText

/-- The replacements that a pass makes from here on, in order. -/
def replacements (ends : Text → Bool) (registry : Registry) (w : WorkingText) : List Replacement :=
  match h : Span.findFrom w.text w.boundary with
  | none => []
  | some span =>
    let o := Occurrence.of registry w.context span.inner
    have := length_replace_lt h o
    ⟨upTo span.start w.text, o⟩ ::
      if o.evaluation.text ≠ w.covered span ∧ ends (upTo span.start w.text) then []
      else replacements ends registry (w.replace span o)
termination_by (startingAt w.boundary w.text).length

variable {ends : Text → Bool} {registry : Registry} {w : WorkingText}

theorem replacements_eq_nil (h : Span.findFrom w.text w.boundary = none) :
    w.replacements ends registry = [] := by
  rw [replacements]
  split
  · rfl
  · rename_i span hspan
    exact absurd (h.symm.trans hspan) (by simp)

theorem replacements_eq_cons {span : Span} (h : Span.findFrom w.text w.boundary = some span)
    {o : Occurrence} (ho : o = Occurrence.of registry w.context span.inner) :
    w.replacements ends registry = ⟨upTo span.start w.text, o⟩ ::
      if o.evaluation.text ≠ w.covered span ∧ ends (upTo span.start w.text) then []
      else (w.replace span o).replacements ends registry := by
  rw [replacements]
  split
  · rename_i hnone
    exact absurd (h.symm.trans hnone) (by simp)
  · rename_i found hfound
    obtain rfl : span = found := Option.some.inj (h.symm.trans hfound)
    rw [← ho]

/-- **What a pass evaluates are the occurrences of its replacements.** -/
theorem evaluated_run (ends : Text → Bool) (registry : Registry) (w : WorkingText) :
    (w.run ends registry).evaluated =
      w.evaluated ++ (w.replacements ends registry).map Replacement.occurrence := by
  fun_induction run ends registry w with
  | case1 w h =>
    rw [replacements_eq_nil h]
    exact (List.append_nil _).symm
  | case2 w span h o _ =>
    rename_i hends
    rw [replacements_eq_cons h rfl, if_pos hends]
    rfl
  | case3 w span h o _ hends =>
    rename_i ih
    rw [replacements_eq_cons h rfl, if_neg hends, ih]
    simp [replace, o]

/-! The same with the working text as what lies before the boundary and what lies behind it. -/

variable {s t : Text}

theorem replacements_of_some {cut : Cut} (hw : w.text = s ++ t) (hb : w.boundary = s.byteSize)
    (h : Cut.first? (escapedAfter false s) t = some cut) {o : Occurrence}
    (ho : o = Occurrence.of registry w.context cut.inner) :
    w.replacements ends registry = ⟨s ++ cut.before, o⟩ ::
      if o.evaluation.text ≠ Cut.braced cut.inner ∧ ends (s ++ cut.before) then []
      else (w.spliced s cut o).replacements ends registry := by
  have hfind : Span.findFrom w.text w.boundary = some (Span.ofCut s.byteSize cut) := by
    rw [findFrom_boundary hw hb, h]
    rfl
  obtain ⟨h1, h2, -⟩ := parts_ofCut hw (Cut.first?_whole h)
  rw [replacements_eq_cons hfind ho, h1, h2, replace_ofCut hw (Cut.first?_whole h)]

end WorkingText

/-! ## 2. The visits of a pass -/

namespace Course

/-- The replacements of one pass over the working text. -/
def replacementsOf (ends : Text → Bool) (registry : Registry) (c : Course) : List Replacement :=
  (WorkingText.start c.context.beginPass c.working).replacements ends registry

theorem evaluated_passOf (ends : Text → Bool) (registry : Registry) (c : Course) :
    (c.passOf ends registry).evaluated = (c.replacementsOf ends registry).map Replacement.occurrence :=
  WorkingText.evaluated_run ends registry (.start c.context.beginPass c.working)

/-- The replacements that a run makes in the passes to come, in order. -/
def replacements (ends : Text → Bool) (registry : Registry) : Nat → Course → List Replacement
  | 0, _ => []
  | limit + 1, c =>
    let d := c.next ends registry
    c.replacementsOf ends registry ++
      if d.converged then [] else d.replacements ends registry limit

theorem replacements_succ (ends : Text → Bool) (registry : Registry) (limit : Nat) (c : Course) :
    c.replacements ends registry (limit + 1) =
      c.replacementsOf ends registry ++
        if (c.next ends registry).converged then []
        else (c.next ends registry).replacements ends registry limit := rfl

end Course

end TemplateExpansion
