/-
# Passes in a row, with what they evaluated

A `Course` is a run of passes that also keeps the occurrences it evaluated.  When a pass ends is left
open: the policy `ends` is asked after every change, as in `WorkingText.run`.

* `waits`, which ends a pass at a change inside a waiting brace, is the policy of `Progress`:
  `toProgress_run` and `evaluated_run` say that the two runs are one.
* `always`, which ends a pass at every change, gives the plainest run of all: substitute once, start
  again.

What the start of a pass and every single replacement keep, the whole run keeps (`run_replacements`), so
later files need to look at one replacement only.

Under every policy the closing braces keep account of the run (`Accounted`): each executed
occurrence takes one of them away and nothing brings one back.  So a pass that changes the text leaves
fewer of them, and a run is over after one pass more than there are closing braces in the input
(`Accounted.passes_run_le`).
-/
import TemplateExpansion.Expansion
import TemplateExpansion.Proofs.WorkingText
import TemplateExpansion.Proofs.Effects

namespace TemplateExpansion

/-! ## 1. The run -/

/-- How far a run has come, with the occurrences it has evaluated, in order. -/
structure Course extends Progress where
  evaluated : List Occurrence
  deriving Repr, DecidableEq

namespace Course

/-- A run before its first pass. -/
def start (ctx : Context) (input : Text) : Course := ⟨.start ctx input, []⟩

/-- One pass over the working text, from its beginning. -/
def passOf (ends : Text → Bool) (registry : Registry) (c : Course) : WorkingText :=
  WorkingText.run ends registry (.start c.context.beginPass c.working)

/-- One more pass. -/
def next (ends : Text → Bool) (registry : Registry) (c : Course) : Course :=
  let w := c.passOf ends registry
  ⟨⟨w.text, w.context, c.passes + 1, w.text == c.working⟩, c.evaluated ++ w.evaluated⟩

/-- Passes until one of them leaves the text as it is, but no more than the limit. -/
def run (ends : Text → Bool) (registry : Registry) : Nat → Course → Course
  | 0, c => c
  | limit + 1, c =>
    let d := c.next ends registry
    if d.converged then d else run ends registry limit d

/-- Every change ends its pass. -/
def always (_ : Text) : Bool := true

end Course

/-- An expansion that converges has the text and the log of its run. -/
theorem expand_of_converged {registry : Registry} {limit : Nat} {args : List Text} {input : Text}
    (h : (Progress.run registry limit (.start (.fresh args) input)).converged = true) :
    expand registry limit args input =
      .ok (Progress.run registry limit (.start (.fresh args) input)).expanded := if_pos h

/-- The visits of all passes of a run, in order. -/
def Progress.visits (registry : Registry) : Nat → Progress → List Visit
  | 0, _ => []
  | limit + 1, p =>
    let q := p.next registry
    (sweep registry p.context p.working).visits ++
      if q.converged then [] else q.visits registry limit

namespace Course

variable {ends : Text → Bool} {registry : Registry}

theorem run_succ (ends : Text → Bool) (registry : Registry) (limit : Nat) (c : Course) :
    run ends registry (limit + 1) c =
      if (c.next ends registry).converged then c.next ends registry
      else run ends registry limit (c.next ends registry) := rfl

/-- What every pass keeps, the whole run keeps. -/
theorem run_induction {P : Course → Prop} (step : ∀ c, P c → P (c.next ends registry)) (limit : Nat)
    {c : Course} (hc : P c) : P (run ends registry limit c) := by
  induction limit generalizing c with
  | zero => exact hc
  | succ limit ih =>
    rw [run_succ]
    split
    · exact step c hc
    · exact ih (step c hc)

/-! ## 2. The run of `Progress` -/

theorem toProgress_next (registry : Registry) (c : Course) :
    (c.next WorkingText.waits registry).toProgress = c.toProgress.next registry := by
  simp only [Progress.next, text_sweep, context_sweep]
  rfl

/-- **`Progress` is the run whose passes end where a brace waits.** -/
theorem toProgress_run (registry : Registry) (limit : Nat) (c : Course) :
    (run WorkingText.waits registry limit c).toProgress =
      Progress.run registry limit c.toProgress := by
  induction limit generalizing c with
  | zero => rfl
  | succ limit ih =>
    have hnext := toProgress_next registry c
    rw [run_succ, Progress.run, ← hnext]
    by_cases h : (c.next WorkingText.waits registry).converged
    · rw [if_pos h, if_pos h]
    · rw [if_neg h, if_neg h, ih]

/-- Its visits evaluate what the run evaluates. -/
theorem evaluated_run (registry : Registry) (limit : Nat) (c : Course) :
    (run WorkingText.waits registry limit c).evaluated =
      c.evaluated ++ (c.toProgress.visits registry limit).map Visit.occurrence := by
  induction limit generalizing c with
  | zero => simp [run, Progress.visits]
  | succ limit ih =>
    have hnext := toProgress_next registry c
    have hev : (c.next WorkingText.waits registry).evaluated =
        c.evaluated ++ (sweep registry c.context c.working).visits.map Visit.occurrence := by
      rw [visits_sweep]
      rfl
    rw [run_succ, Progress.visits, List.map_append, ← hnext, ← List.append_assoc, ← hev]
    by_cases h : (c.next WorkingText.waits registry).converged
    · rw [if_pos h, if_pos h, List.map_nil, List.append_nil]
    · rw [if_neg h, if_neg h, ih]

end Course

/-! ## 3. What every replacement keeps -/

section

variable {P : Text → Context → List Occurrence → Prop} {registry : Registry}
  (hstep : ∀ {s cut ctx os}, Cut.first? (Text.escapedAfter false s) cut.whole = some cut →
    P (s ++ cut.whole) ctx os →
    P (s ++ cut.before ++ (Occurrence.of registry ctx cut.inner).evaluation.text ++ cut.after)
      (Occurrence.of registry ctx cut.inner).evaluation.context
      (os ++ [Occurrence.of registry ctx cut.inner]))

include hstep

/-- **What every replacement keeps, a pass keeps**: something said of the working text, the context and
the occurrences evaluated so far, those of earlier passes included. -/
theorem WorkingText.run_replacements {ends : Text → Bool} {before : List Occurrence} {w : WorkingText}
    (hw : P w.text w.context (before ++ w.evaluated)) :
    P (w.run ends registry).text (w.run ends registry).context
      (before ++ (w.run ends registry).evaluated) := by
  refine run_induction (P := fun w => P w.text w.context (before ++ w.evaluated)) ?_ hw
  intro w s cut htext hcut hp
  have hnext := hstep hcut (htext ▸ hp)
  rwa [List.append_assoc before] at hnext

variable (hbegin : ∀ {t ctx os}, P t ctx os → P t ctx.beginPass os)

include hbegin

/-- And if the start of a pass keeps it, a whole run does. -/
theorem Course.run_replacements {ends : Text → Bool} {c : Course} (limit : Nat)
    (hc : P c.working c.context c.evaluated) :
    P (c.run ends registry limit).working (c.run ends registry limit).context
      (c.run ends registry limit).evaluated := by
  refine run_induction (P := fun c => P c.working c.context c.evaluated) (fun c hc => ?_) limit hc
  have hstart : P c.working c.context.beginPass (c.evaluated ++ []) := by
    rw [List.append_nil]
    exact hbegin hc
  exact WorkingText.run_replacements hstep (w := .start c.context.beginPass c.working) hstart

/-- The same, told of `Progress` and its visits. -/
theorem Progress.run_replacements {ctx : Context} {input : Text} (limit : Nat) (h : P input ctx []) :
    P (run registry limit (start ctx input)).working (run registry limit (start ctx input)).context
      (((start ctx input).visits registry limit).map Visit.occurrence) := by
  have hrun : P (Course.run WorkingText.waits registry limit (.start ctx input)).working
      (Course.run WorkingText.waits registry limit (.start ctx input)).context
      (Course.run WorkingText.waits registry limit (.start ctx input)).evaluated :=
    Course.run_replacements hstep hbegin limit h
  rw [Course.evaluated_run, Course.toProgress_run] at hrun
  exact hrun

end

/-! ## 4. Nothing executed, nothing changed -/

/-- The operation ran. -/
def Occurrence.isExecuted (o : Occurrence) : Bool := o.evaluation.outcome == .executed

theorem Occurrence.isExecuted_of {registry : Registry} {ctx : Context} {inner : Text} :
    (Occurrence.of registry ctx inner).isExecuted = true ↔
      (evaluate registry (.parse inner) ctx).outcome = .executed := beq_iff_eq

theorem Occurrence.not_isExecuted_of {registry : Registry} {ctx : Context} {inner : Text} :
    (Occurrence.of registry ctx inner).isExecuted = false ↔
      (evaluate registry (.parse inner) ctx).outcome ≠ .executed := by
  rw [← Bool.not_eq_true, isExecuted_of]

/-- How many of the occurrences were executed. -/
def executions (os : List Occurrence) : Nat := os.countP Occurrence.isExecuted

theorem Occurrence.text_of {registry : Registry} {ctx : Context} {inner : Text}
    (h : (Occurrence.of registry ctx inner).isExecuted = false) :
    (Occurrence.of registry ctx inner).evaluation.text = Cut.braced inner :=
  (evaluate_text_of_ne_executed (not_isExecuted_of.1 h)).trans (Expression.source_parse inner)

theorem executions_append (a b : List Occurrence) : executions (a ++ b) = executions a + executions b :=
  List.countP_append

theorem executions_singleton (o : Occurrence) : executions [o] = if o.isExecuted then 1 else 0 := by
  simp [executions, List.countP_cons]

namespace WorkingText

open Text

theorem executions_spliced (w : WorkingText) (s : Text) (cut : Cut) (o : Occurrence) :
    executions (w.spliced s cut o).evaluated =
      executions w.evaluated + if o.isExecuted then 1 else 0 := by
  rw [spliced, executions_append, executions_singleton]

/-- **A pass that executes nothing changes nothing.** -/
theorem text_run_of_executions_eq_zero {ends : Text → Bool} {registry : Registry} {ctx : Context}
    {source : Text} (h : executions (run ends registry (.start ctx source)).evaluated = 0) :
    (run ends registry (.start ctx source)).text = source := by
  suffices hs : executions (run ends registry (.start ctx source)).evaluated = 0 →
      (run ends registry (.start ctx source)).text = source from hs h
  refine run_induction (P := fun w => executions w.evaluated = 0 → w.text = source) ?_ fun _ => rfl
  intro w s cut hw _ ih hx
  rw [executions_spliced] at hx
  have ho : (Occurrence.of registry w.context cut.inner).isExecuted = false := by
    cases ho : (Occurrence.of registry w.context cut.inner).isExecuted with
    | false => rfl
    | true => simp [ho] at hx
  rw [← ih (by omega), hw, Cut.whole_eq, spliced, Occurrence.text_of ho]
  simp

end WorkingText

/-! ## 5. The account of the closing braces -/

/-- An occurrence has one closing brace, its own. -/
theorem Cut.count_braced {inner : Text} (h : Text.Inert inner) : (braced inner).count '}' = 1 := by
  simp [braced, List.count_append, List.count_eq_zero.2 h.2]

/-- A property that inert texts have and that rules out closing braces. -/
structure ClosesNothing (P : Text → Prop) : Prop where
  of_inert : ∀ t, Text.Inert t → P t
  not_mem : ∀ t, P t → '}' ∉ t

theorem closesNothing_not_mem : ClosesNothing fun t => '}' ∉ t := ⟨fun _ h => h.2, fun _ h => h⟩

theorem closesNothing_inert : ClosesNothing Text.Inert := ⟨fun _ h => h, fun _ h => h.2⟩

/-- An occurrence that was executed yielded a text with the property, every other one came back as it
is written, and the values stored afterwards have the property. -/
structure Occurrence.Keeps (P : Text → Prop) (o : Occurrence) : Prop where
  text : o.isExecuted = true → P o.evaluation.text
  source : o.isExecuted = false → o.evaluation.text = o.expression.source
  values : Store.All P o.evaluation.context.values

theorem Occurrence.keeps_of {P : Text → Prop} (hP : ClosesNothing P) {registry : Registry}
    (hr : registry.Preserves P) {ctx : Context} (hs : Store.All P ctx.values) {inner : Text}
    (hi : Text.Inert inner) : (Occurrence.of registry ctx inner).Keeps P := by
  have he : ∀ t ∈ (Expression.parse inner).operands, P t := fun t ht =>
    hP.of_inert t (Expression.inert_operands hi t ht)
  obtain ⟨h1, h2, h3⟩ := hr.evaluate he hs
  exact ⟨fun h => h1 (isExecuted_of.1 h), fun h => h2 (not_isExecuted_of.1 h), h3⟩

/-- The account of a run: the closing braces in the text and the occurrences executed so far make up
the total, and all that was yielded and stored has the property. -/
structure Accounted (P : Text → Prop) (total : Nat) (t : Text) (ctx : Context)
    (evaluated : List Occurrence) : Prop where
  count : t.count '}' + executions evaluated = total
  values : Store.All P ctx.values
  outcomes : ∀ o ∈ evaluated, o.Keeps P

namespace Accounted

variable {P : Text → Prop} {registry : Registry} {total : Nat}

/-- The account before anything was evaluated. -/
theorem start {ctx : Context} (hs : Store.All P ctx.values) (t : Text) :
    Accounted P (t.count '}') t ctx [] :=
  ⟨by simp [executions], hs, by simp⟩

theorem count_spliced (hP : ClosesNothing P) {inner : Text} (hi : Text.Inert inner)
    {ctx : Context} (ho : (Occurrence.of registry ctx inner).Keeps P) :
    (Occurrence.of registry ctx inner).evaluation.text.count '}' +
        executions [Occurrence.of registry ctx inner] =
      (Cut.braced inner).count '}' := by
  have hb := Cut.count_braced hi
  rw [hb, executions_singleton]
  cases hx : (Occurrence.of registry ctx inner).isExecuted with
  | true =>
    rw [List.count_eq_zero.2 (hP.not_mem _ (ho.text hx))]
    rfl
  | false =>
    rw [Occurrence.text_of hx, hb]
    rfl

/-- One replacement keeps the account. -/
theorem replaced (hP : ClosesNothing P) (hr : registry.Preserves P) {s : Text} {cut : Cut}
    {ctx : Context} {os : List Occurrence}
    (hcut : Cut.first? (Text.escapedAfter false s) cut.whole = some cut)
    (h : Accounted P total (s ++ cut.whole) ctx os) :
    Accounted P total
      (s ++ cut.before ++ (Occurrence.of registry ctx cut.inner).evaluation.text ++ cut.after)
      (Occurrence.of registry ctx cut.inner).evaluation.context
      (os ++ [Occurrence.of registry ctx cut.inner]) := by
  have hi := (Cut.first?_eq_some_iff.1 hcut).2.2.2
  have ho := Occurrence.keeps_of hP hr h.values hi
  refine ⟨?_, ho.values, fun o hmem => ?_⟩
  · have hcount := h.count
    have hone := count_spliced hP hi ho
    rw [Cut.whole_eq] at hcount
    simp only [executions_append, List.count_append] at hcount ⊢
    omega
  · rcases List.mem_append.1 hmem with hmem | hmem
    · exact h.outcomes o hmem
    · rw [List.mem_singleton.1 hmem]
      exact ho

/-- One pass keeps the account, after whatever was evaluated before it. -/
theorem pass (hP : ClosesNothing P) (hr : registry.Preserves P) (ends : Text → Bool)
    {before : List Occurrence} {w : WorkingText}
    (h : Accounted P total w.text w.context (before ++ w.evaluated)) :
    Accounted P total (w.run ends registry).text (w.run ends registry).context
      (before ++ (w.run ends registry).evaluated) :=
  WorkingText.run_replacements (fun hcut h => h.replaced hP hr hcut) h

theorem next (hP : ClosesNothing P) (hr : registry.Preserves P) (ends : Text → Bool) {c : Course}
    (h : Accounted P total c.working c.context c.evaluated) :
    Accounted P total (c.next ends registry).working (c.next ends registry).context
      (c.next ends registry).evaluated :=
  pass (w := .start c.context.beginPass c.working) hP hr ends
    ⟨by simpa [WorkingText.start] using h.count, h.values,
      by simpa [WorkingText.start] using h.outcomes⟩

/-- A whole run keeps the account. -/
theorem run (hP : ClosesNothing P) (hr : registry.Preserves P) (ends : Text → Bool) (limit : Nat)
    {c : Course} (h : Accounted P total c.working c.context c.evaluated) :
    Accounted P total (c.run ends registry limit).working (c.run ends registry limit).context
      (c.run ends registry limit).evaluated :=
  Course.run_replacements (fun hcut h => h.replaced hP hr hcut)
    (fun h => ⟨h.count, h.values, h.outcomes⟩) limit h

/-- The same, told of `Progress` and its visits. -/
theorem visits (hP : ClosesNothing P) (hr : registry.Preserves P) (limit : Nat) {ctx : Context}
    {input : Text} (h : Accounted P total input ctx []) :
    Accounted P total (Progress.run registry limit (.start ctx input)).working
      (Progress.run registry limit (.start ctx input)).context
      (((Progress.start ctx input).visits registry limit).map Visit.occurrence) :=
  Progress.run_replacements (fun hcut h => h.replaced hP hr hcut)
    (fun h => ⟨h.count, h.values, h.outcomes⟩) limit h

/-- A pass takes away as many closing braces as it executes occurrences. -/
theorem count_next (hP : ClosesNothing P) (hr : registry.Preserves P) (ends : Text → Bool) {c : Course}
    (hs : Store.All P c.context.values) :
    (c.next ends registry).working.count '}' + executions (c.passOf ends registry).evaluated =
      c.working.count '}' := by
  have hbegin : Store.All P c.context.beginPass.values := hs
  have hstart : Accounted P (c.working.count '}') c.working c.context.beginPass ([] ++ []) :=
    start hbegin c.working
  exact (pass (w := .start c.context.beginPass c.working) hP hr ends hstart).count

/-- A pass that leaves the text as it is has executed nothing. -/
theorem executions_eq_zero_of_converged (hP : ClosesNothing P) (hr : registry.Preserves P)
    {ends : Text → Bool} {c : Course} (hs : Store.All P c.context.values)
    (hc : (c.next ends registry).converged = true) :
    executions (c.passOf ends registry).evaluated = 0 := by
  have hcount := count_next hP hr ends hs
  have hsame : (c.next ends registry).working = c.working := eq_of_beq hc
  rw [hsame] at hcount
  omega

/-- **A pass that changes the text leaves fewer closing braces.** -/
theorem count_next_lt (hP : ClosesNothing P) (hr : registry.Preserves P) {ends : Text → Bool} {c : Course}
    (hs : Store.All P c.context.values) (hc : (c.next ends registry).converged = false) :
    (c.next ends registry).working.count '}' < c.working.count '}' := by
  have hcount := count_next hP hr ends hs
  have hne : executions (c.passOf ends registry).evaluated ≠ 0 := by
    intro h0
    have htext := WorkingText.text_run_of_executions_eq_zero h0
    simp [Course.next, Course.passOf, htext] at hc
  omega

/-- **A run is over** after one pass more than there are closing braces, whatever ends its passes. -/
theorem passes_run_le (hP : ClosesNothing P) (hr : registry.Preserves P) (ends : Text → Bool)
    (limit : Nat) {c : Course} (h : Accounted P total c.working c.context c.evaluated) :
    (c.run ends registry limit).passes ≤ c.passes + c.working.count '}' + 1 ∧
      (c.working.count '}' < limit → (c.run ends registry limit).converged = true) := by
  induction limit generalizing c with
  | zero => exact ⟨by simp only [Course.run]; omega, by simp⟩
  | succ limit ih =>
    rw [Course.run_succ]
    have hpasses : (c.next ends registry).passes = c.passes + 1 := rfl
    cases hc : (c.next ends registry).converged with
    | true =>
      rw [if_pos rfl]
      exact ⟨by omega, fun _ => hc⟩
    | false =>
      rw [if_neg (by simp)]
      have hlt := count_next_lt hP hr h.values hc
      obtain ⟨h1, h2⟩ := ih (h.next hP hr ends)
      exact ⟨by omega, fun hlimit => h2 (by omega)⟩

end Accounted

end TemplateExpansion
