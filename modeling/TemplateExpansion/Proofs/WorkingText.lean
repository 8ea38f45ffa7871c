/-
# A pass, told on one text

`Sweep` keeps what it has written apart from what it has not scanned, and carries along which braces
wait and whether the next one is escaped.  This file tells a pass on the working text alone: a text
and a boundary in it.  Take the first span from the boundary on, evaluate it, put the outcome in its
place, and set the boundary just after the outcome.  Whether the pass ends there is asked of the text
before the span (`HasOpen`): nothing is tracked.

`sweep_eq_pass` says that the two passes yield the same text, leave the same context, and evaluate the
same expressions with the same outcomes in the same order.
-/
import TemplateExpansion.Sweep
import TemplateExpansion.Proofs.Position

namespace TemplateExpansion

/-! ## 1. A brace that waits -/

namespace Text

/-- An opening brace with no backslash directly before it stands after the last closing brace. -/
def HasOpen (t : Text) : Prop :=
  ∃ before inner, t = before ++ '{' :: inner ∧ before.getLast? ≠ some '\\' ∧ '}' ∉ inner

/-- Tracking reports exactly what can be read off the whole text. -/
theorem pendingAfter_eq_true {pending escaped : Bool} {t : Text} :
    pendingAfter pending escaped t = true ↔
      (pending = true ∧ '}' ∉ t) ∨
        ∃ before inner, t = before ++ '{' :: inner ∧ escapedAfter escaped before = false ∧
          '}' ∉ inner := by
  induction t generalizing pending escaped with
  | nil => simp [pendingAfter]
  | cons c t ih =>
    rw [pendingAfter, ih]
    constructor
    · rintro (⟨hp, ht⟩ | ⟨before, inner, rfl, he, hi⟩)
      · by_cases ho : c = '{' ∧ escaped = false
        · exact .inr ⟨[], t, by simp [ho.1], by simp [ho.2], ht⟩
        · by_cases hc : c = '}'
          · simp [hc] at hp
          · simp only [ho, hc, if_false] at hp
            exact .inl ⟨hp, by simp [ht, Ne.symm hc]⟩
      · exact .inr ⟨c :: before, inner, rfl, by simpa using he, hi⟩
    · rintro (⟨rfl, ht⟩ | ⟨before, inner, h, he, hi⟩)
      · simp only [List.mem_cons, not_or] at ht
        exact .inl ⟨by simp [Ne.symm ht.1], ht.2⟩
      · cases before with
        | nil =>
          simp only [List.nil_append, List.cons.injEq] at h
          exact .inl ⟨by simp [h.1, show escaped = false from he], h.2 ▸ hi⟩
        | cons d before =>
          simp only [List.cons_append, List.cons.injEq] at h
          exact .inr ⟨before, inner, h.2, by simpa [h.1] using he, hi⟩

/-- **Tracking from the start of a text** decides whether a brace waits in it. -/
theorem pendingAfter_eq_true_iff_hasOpen {t : Text} :
    pendingAfter false false t = true ↔ HasOpen t := by
  simp [pendingAfter_eq_true, HasOpen, escapedAfter_eq_false]

instance (t : Text) : Decidable (HasOpen t) :=
  decidable_of_iff (pendingAfter false false t = true) pendingAfter_eq_true_iff_hasOpen

end Text

/-! ## 2. The pass on the working text -/

/-- An occurrence that was evaluated: its expression, and what the evaluation yielded. -/
structure Occurrence where
  expression : Expression
  evaluation : Evaluation
  deriving Repr, DecidableEq

/-- Evaluates the expression between two braces. -/
def Occurrence.of (registry : Registry) (ctx : Context) (inner : Text) : Occurrence :=
  ⟨.parse inner, evaluate registry (.parse inner) ctx⟩

/-- The working text of a pass with the boundary, a byte offset, from which the next span is searched
for, and the occurrences evaluated so far, in order. -/
structure WorkingText where
  text : Text
  boundary : Nat
  context : Context
  evaluated : List Occurrence
  deriving Repr, DecidableEq

namespace WorkingText

open Text

/-- A text before its first span is evaluated. -/
def start (ctx : Context) (source : Text) : WorkingText := ⟨source, 0, ctx, []⟩

/-- The text that a span covers. -/
def covered (w : WorkingText) (span : Span) : Text := startingAt span.start (upTo span.stop w.text)

/-- Puts the outcome in the place of the span and sets the boundary just after it. -/
def replace (w : WorkingText) (span : Span) (o : Occurrence) : WorkingText where
  text := upTo span.start w.text ++ o.evaluation.text ++ startingAt span.stop w.text
  boundary := span.start + o.evaluation.text.byteSize
  context := o.evaluation.context
  evaluated := w.evaluated ++ [o]

/-- What a search from the boundary finds is a cut of the text from there on. -/
theorem findFrom_eq_some {w : WorkingText} {span : Span}
    (h : Span.findFrom w.text w.boundary = some span) :
    ∃ s cut t, w.text = s ++ t ∧ startingAt w.boundary w.text = t ∧
      Cut.first? (escapedAfter false s) t = some cut ∧ span = Span.ofCut s.byteSize cut := by
  rw [findFrom_eq_map, Option.map_eq_some_iff] at h
  obtain ⟨cut, h, rfl⟩ := h
  exact ⟨_, cut, _, (upTo_append_startingAt _ _).symm, rfl, h, rfl⟩

/-- A span of a known place, and the three parts of the text around it. -/
theorem parts_ofCut {w : WorkingText} {s t : Text} {cut : Cut} (hw : w.text = s ++ t)
    (h : cut.whole = t) :
    upTo (Span.ofCut s.byteSize cut).start w.text = s ++ cut.before ∧
      w.covered (Span.ofCut s.byteSize cut) = Cut.braced cut.inner ∧
      startingAt (Span.ofCut s.byteSize cut).stop w.text = cut.after := by
  have h1 : w.text = (s ++ cut.before) ++ (Cut.braced cut.inner ++ cut.after) := by
    rw [hw, ← h, Cut.whole_eq]
    simp
  have h2 : w.text = (s ++ cut.before ++ Cut.braced cut.inner) ++ cut.after := by rw [h1]; simp
  refine ⟨?_, ?_, ?_⟩
  · rw [Cut.start_ofCut_eq, h1, upTo_byteSize]
  · rw [covered, Cut.stop_ofCut, h2, upTo_byteSize, Cut.start_ofCut_eq, startingAt_byteSize]
  · rw [Cut.stop_ofCut, h2, startingAt_byteSize]

/-- What the working text `s ++ cut.whole` becomes when the outcome takes the place of the pair of
braces. -/
def spliced (w : WorkingText) (s : Text) (cut : Cut) (o : Occurrence) : WorkingText where
  text := s ++ cut.before ++ o.evaluation.text ++ cut.after
  boundary := byteSize (s ++ cut.before ++ o.evaluation.text)
  context := o.evaluation.context
  evaluated := w.evaluated ++ [o]

/-- A replacement at a known place. -/
theorem replace_ofCut {w : WorkingText} {s t : Text} {cut : Cut} (hw : w.text = s ++ t)
    (h : cut.whole = t) (o : Occurrence) :
    w.replace (Span.ofCut s.byteSize cut) o = w.spliced s cut o := by
  obtain ⟨h1, -, h3⟩ := parts_ofCut hw h
  rw [replace, h1, h3, Cut.start_ofCut_eq, ← byteSize_append]
  rfl

/-- A replacement brings the boundary nearer to the end of the text. -/
theorem length_replace_lt {w : WorkingText} {span : Span}
    (h : Span.findFrom w.text w.boundary = some span) (o : Occurrence) :
    (startingAt (w.replace span o).boundary (w.replace span o).text).length <
      (startingAt w.boundary w.text).length := by
  obtain ⟨s, cut, t, hw, ht, hcut, rfl⟩ := findFrom_eq_some h
  rw [replace_ofCut hw (Cut.first?_whole hcut), spliced, startingAt_byteSize, ht]
  exact Cut.length_after_lt hcut

/-- Runs a pass.  After a change, `ends` is asked of the text before the changed span whether the pass
ends there. -/
def run (ends : Text → Bool) (registry : Registry) (w : WorkingText) : WorkingText :=
  match h : Span.findFrom w.text w.boundary with
  | none => w
  | some span =>
    let o := Occurrence.of registry w.context span.inner
    have := length_replace_lt h o
    if o.evaluation.text ≠ w.covered span ∧ ends (upTo span.start w.text) then w.replace span o
    else run ends registry (w.replace span o)
termination_by (startingAt w.boundary w.text).length

/-- A brace waits: an enclosing expression may be complete now, and the pass ends. -/
def waits (t : Text) : Bool := decide (HasOpen t)

/-- One pass over a text. -/
def pass (registry : Registry) (ctx : Context) (source : Text) : WorkingText :=
  run waits registry (start ctx.beginPass source)

/-! ## 3. The pass in two parts

The working text as what lies before the boundary and what lies behind it. -/

/-- A search from the boundary walks what lies behind it. -/
theorem findFrom_boundary {w : WorkingText} {s t : Text} (hw : w.text = s ++ t)
    (hb : w.boundary = s.byteSize) :
    Span.findFrom w.text w.boundary =
      (Cut.first? (escapedAfter false s) t).map (Span.ofCut s.byteSize) := by
  rw [hw, hb, findFrom_append]

theorem run_of_none {ends : Text → Bool} {registry : Registry} {w : WorkingText} {s t : Text}
    (hw : w.text = s ++ t) (hb : w.boundary = s.byteSize)
    (h : Cut.first? (escapedAfter false s) t = none) : run ends registry w = w := by
  have hfind : Span.findFrom w.text w.boundary = none := by
    rw [findFrom_boundary hw hb, h]
    rfl
  rw [run]
  split
  · rfl
  · rename_i span hspan
    exact absurd (hfind.symm.trans hspan) (by simp)

theorem run_of_some {ends : Text → Bool} {registry : Registry} {w : WorkingText} {s t : Text}
    {cut : Cut} (hw : w.text = s ++ t) (hb : w.boundary = s.byteSize)
    (h : Cut.first? (escapedAfter false s) t = some cut) {o : Occurrence}
    (ho : o = Occurrence.of registry w.context cut.inner) :
    run ends registry w =
      if o.evaluation.text ≠ Cut.braced cut.inner ∧ ends (s ++ cut.before) then w.spliced s cut o
      else run ends registry (w.spliced s cut o) := by
  have hfind : Span.findFrom w.text w.boundary = some (Span.ofCut s.byteSize cut) := by
    rw [findFrom_boundary hw hb, h]
    rfl
  obtain ⟨h1, h2, -⟩ := parts_ofCut hw (Cut.first?_whole h)
  rw [run]
  split
  · rename_i hnone
    exact absurd (hfind.symm.trans hnone) (by simp)
  · rename_i span hspan
    obtain rfl : Span.ofCut s.byteSize cut = span := Option.some.inj (hfind.symm.trans hspan)
    simp only [Cut.inner_ofCut, ← ho, h1, h2, replace_ofCut hw (Cut.first?_whole h) o]

/-- What every replacement keeps, the whole run keeps. -/
theorem run_induction {P : WorkingText → Prop} {ends : Text → Bool} {registry : Registry}
    (step : ∀ (w : WorkingText) (s : Text) (cut : Cut), w.text = s ++ cut.whole →
      Cut.first? (escapedAfter false s) cut.whole = some cut → P w →
      P (w.spliced s cut (Occurrence.of registry w.context cut.inner)))
    {w : WorkingText} (hw : P w) : P (run ends registry w) := by
  have hstep (w : WorkingText) (span : Span) (h : Span.findFrom w.text w.boundary = some span)
      (hw : P w) : P (w.replace span (Occurrence.of registry w.context span.inner)) := by
    obtain ⟨s, cut, t, htext, -, hcut, rfl⟩ := findFrom_eq_some h
    have ht := Cut.first?_whole hcut
    rw [Cut.inner_ofCut, replace_ofCut htext ht]
    exact step w s cut (ht.symm ▸ htext) (ht.symm ▸ hcut) hw
  fun_induction run ends registry w with
  | case1 w h => exact hw
  | case2 w span h o _ =>
    exact hstep w span h hw
  | case3 w span h o _ _ =>
    rename_i ih
    exact ih (hstep w span h hw)

end WorkingText

/-! ## 4. The two passes side by side -/

/-- What a visit evaluated. -/
def Visit.occurrence (v : Visit) : Occurrence := ⟨v.expression, v.evaluation⟩

namespace Sweep

open Text

/-- A pass stands where the working text does: what it has written and what it has not scanned make
up the text, the boundary lies between the two, and what it tracks can be read off what it has
written.  Only an opening brace that is escaped is ever held back. -/
structure Follows (s : Sweep) (w : WorkingText) : Prop where
  text : w.text = s.written.reverse ++ (s.held ++ s.rest)
  boundary : w.boundary = byteSize s.written.reverse
  context : w.context = s.context
  evaluated : w.evaluated = s.visits.reverse.map Visit.occurrence
  pending : s.pending = pendingAfter false false s.written.reverse
  held : s.held = [] ∨ (s.held = ['{'] ∧ s.escapes = true)

theorem escapes_eq (s : Sweep) : s.escapes = escapedAfter false s.written.reverse := by
  rw [escapes, escapedAfter, List.getLast?_reverse]
  cases s.written.head? with
  | none => rfl
  | some c => simp

theorem pending_write {s : Sweep} (h : s.pending = pendingAfter false false s.written.reverse)
    (t : Text) : (s.write t).pending = pendingAfter false false (s.write t).written.reverse := by
  rw [written_write, List.reverse_append, List.reverse_reverse, pendingAfter_append, ← h,
    ← escapes_eq]
  rfl

theorem follows_start (ctx : Context) (source : Text) :
    (Sweep.start ctx source).Follows (WorkingText.start ctx source) :=
  ⟨rfl, rfl, rfl, rfl, rfl, .inl rfl⟩

/-- Nothing left to scan, nothing left behind the boundary. -/
theorem Follows.first?_eq_none {s : Sweep} {w : WorkingText} (hf : s.Follows w)
    (h : Cut.first? false s.rest = none) :
    Cut.first? (escapedAfter false s.written.reverse) (s.held ++ s.rest) = none := by
  rw [← escapes_eq]
  rcases hf.held with hh | ⟨hh, he⟩
  · rw [hh, List.nil_append]
    cases s.escapes with
    | false => exact h
    | true => rw [Cut.first?_true, h]; rfl
  · rw [hh, he, List.singleton_append, Cut.first?_true_brace, h]
    rfl

/-- A match that is not passed over is the first one behind the boundary. -/
theorem Follows.first?_eq_some {s : Sweep} {w : WorkingText} (hf : s.Follows w) {cut : Cut}
    (h : Cut.first? false s.rest = some cut) (hs : s.skips cut = false) :
    Cut.first? (escapedAfter false s.written.reverse) (s.held ++ s.rest) =
      some (cut.push s.held) := by
  rw [← escapes_eq]
  rcases hf.held with hh | ⟨hh, he⟩
  · rw [hh, List.nil_append, Cut.push_nil]
    cases he : s.escapes with
    | false => exact h
    | true =>
      have hb : cut.before ≠ [] := by simpa [skips, hh, he] using hs
      simp [Cut.first?_true, h, hb]
  · rw [hh, he, List.singleton_append, Cut.first?_true_brace, h]
    rfl

/-- Passing over an escaped brace changes nothing of the working text. -/
theorem Follows.skip {s : Sweep} {w : WorkingText} (hf : s.Follows w) {cut : Cut}
    (h : Cut.first? false s.rest = some cut) (hs : s.skips cut = true) : s.skip.Follows w := by
  simp only [skips, Bool.and_eq_true, List.isEmpty_iff] at hs
  obtain ⟨⟨hh, hb⟩, he⟩ := hs
  have hrest : s.rest = '{' :: s.rest.tail := by
    rw [← Cut.first?_whole h, Cut.whole, hb]
    rfl
  refine ⟨?_, hf.boundary, hf.context, hf.evaluated, hf.pending, .inr ⟨rfl, he⟩⟩
  rw [hf.text, hh, hrest]
  rfl

theorem Follows.visit {s : Sweep} {w : WorkingText} (hf : s.Follows w) (cut : Cut) (v : Visit) :
    (s.visit cut v).Follows (w.spliced s.written.reverse (cut.push s.held) v.occurrence) := by
  have hw : (s.visit cut v).written.reverse =
      s.written.reverse ++ (s.held ++ cut.before) ++ v.evaluation.text := by
    simp [Sweep.visit]
  refine ⟨?_, ?_, rfl, ?_, ?_, .inl rfl⟩
  · rw [hw]
    simp [Sweep.visit, WorkingText.spliced, Visit.occurrence]
  · rw [hw]
    rfl
  · simp [Sweep.visit, WorkingText.spliced, hf.evaluated]
  · exact pending_write (pending_write hf.pending _) _

/-- A visit is nested exactly when a brace waits in the working text before the span. -/
theorem Follows.nested_visitOf {s : Sweep} {w : WorkingText} (hf : s.Follows w)
    (registry : Registry) (cut : Cut) :
    (s.visitOf registry cut).nested =
      WorkingText.waits (s.written.reverse ++ (s.held ++ cut.before)) := by
  have h := pending_write hf.pending (s.held ++ cut.before)
  rw [written_write, List.reverse_append, List.reverse_reverse] at h
  rw [visitOf, h, WorkingText.waits, Bool.eq_iff_iff, decide_eq_true_iff]
  exact pendingAfter_eq_true_iff_hasOpen

theorem changed_visitOf (registry : Registry) (s : Sweep) (cut : Cut) :
    (s.visitOf registry cut).changed = true ↔
      (s.visitOf registry cut).occurrence.evaluation.text ≠ Cut.braced cut.inner :=
  bne_iff_ne

/-- A visit ends its pass exactly when the pass on the working text ends there. -/
theorem Follows.endsPass_visitOf {s : Sweep} {w : WorkingText} (hf : s.Follows w) (registry : Registry)
    (cut : Cut) :
    (s.visitOf registry cut).endsPass = true ↔
      (s.visitOf registry cut).occurrence.evaluation.text ≠ Cut.braced (cut.push s.held).inner ∧
        WorkingText.waits (s.written.reverse ++ (cut.push s.held).before) = true := by
  rw [Visit.endsPass, Bool.and_eq_true, hf.nested_visitOf, changed_visitOf]
  exact And.comm

/-- **A whole run keeps step**: wherever a pass stands where the working text does, it ends where the
pass on the working text ends. -/
theorem Follows.run {registry : Registry} {s : Sweep} {w : WorkingText} (hf : s.Follows w) :
    (Sweep.run registry s).Follows (WorkingText.run WorkingText.waits registry w) := by
  fun_induction Sweep.run registry s generalizing w with
  | case1 s h =>
    rw [WorkingText.run_of_none hf.text hf.boundary (hf.first?_eq_none h)]
    exact hf
  | case2 s cut h hs _ ih => exact ih (hf.skip h hs)
  | case3 s cut h hs v _ =>
    rename_i he
    have hs' : s.skips cut = false := by simpa using hs
    have ho : v.occurrence = Occurrence.of registry w.context cut.inner := by rw [hf.context]; rfl
    rw [WorkingText.run_of_some hf.text hf.boundary (hf.first?_eq_some h hs') ho,
      if_pos ((hf.endsPass_visitOf registry cut).1 he)]
    exact hf.visit cut v
  | case4 s cut h hs v _ he =>
    rename_i ih
    have hs' : s.skips cut = false := by simpa using hs
    have ho : v.occurrence = Occurrence.of registry w.context cut.inner := by rw [hf.context]; rfl
    rw [WorkingText.run_of_some hf.text hf.boundary (hf.first?_eq_some h hs') ho,
      if_neg fun hc => he ((hf.endsPass_visitOf registry cut).2 hc)]
    exact ih (hf.visit cut v)

theorem follows_pass (registry : Registry) (ctx : Context) (source : Text) :
    (Sweep.run registry (.start ctx.beginPass source)).Follows
      (WorkingText.pass registry ctx source) :=
  (follows_start ctx.beginPass source).run

end Sweep

/-! ## 5. The same outcome -/

theorem text_sweep (registry : Registry) (ctx : Context) (source : Text) :
    (sweep registry ctx source).text = (WorkingText.pass registry ctx source).text := by
  rw [(Sweep.follows_pass registry ctx source).text]
  exact Sweep.text_eq _

theorem context_sweep (registry : Registry) (ctx : Context) (source : Text) :
    (sweep registry ctx source).context = (WorkingText.pass registry ctx source).context :=
  (Sweep.follows_pass registry ctx source).context.symm

theorem visits_sweep (registry : Registry) (ctx : Context) (source : Text) :
    (sweep registry ctx source).visits.map Visit.occurrence =
      (WorkingText.pass registry ctx source).evaluated :=
  (Sweep.follows_pass registry ctx source).evaluated.symm

/-- **A pass is its working text.**  For every registry, text and context it yields the text that the
replacements leave, the context that the evaluations leave, and it makes the same evaluations in the
same order. -/
theorem sweep_eq_pass (registry : Registry) (ctx : Context) (source : Text) :
    (sweep registry ctx source).text = (WorkingText.pass registry ctx source).text ∧
      (sweep registry ctx source).context = (WorkingText.pass registry ctx source).context ∧
      (sweep registry ctx source).visits.map Visit.occurrence =
        (WorkingText.pass registry ctx source).evaluated :=
  ⟨text_sweep registry ctx source, context_sweep registry ctx source,
    visits_sweep registry ctx source⟩

end TemplateExpansion
