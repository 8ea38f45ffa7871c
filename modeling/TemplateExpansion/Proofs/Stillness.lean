/-
# Passes in which nothing is executed

Requirements that look at nothing but operands, arguments and stored values (`ChecksValues`) fare the
same throughout a pass as long as nothing is executed, since what is not executed changes neither
arguments nor stored values.  So whether a pass executes anything can be told before it starts: if no
expression of the chain of spans is executed in the context at the start, none is on the way.

Such a pass leaves its text alone and visits the whole chain (`sweep_still`), every expression fares as
it does in the context at the start (`map_outcome_evaluations`), and what is added to the log are the
entries of the rejected expressions, in order (`refused_evaluations`).  From a fresh context it is the
only pass of its run (`Progress.run_still`).
-/
import Mathlib.Data.List.Basic
import TemplateExpansion.Proofs.Refusals

namespace TemplateExpansion

open Text

/-! ## 1. Requirements that look at values -/

/-- The requirements look at the operands, the arguments and the stored values. -/
def Registry.ChecksValues (registry : Registry) : Prop :=
  ∀ op ∈ registry.operations, ∀ r ∈ op.requirements, ∀ e a b,
    a.args = b.args → a.values = b.values → r.holds e a = r.holds e b

theorem Registry.ReadsValues.checksValues {registry : Registry} (h : registry.ReadsValues) :
    registry.ChecksValues := fun op hop r hr e a b _ _ => (h op hop).holds r hr e a b

/-- How an occurrence fares depends on arguments and stored values alone. -/
theorem Registry.ChecksValues.outcome_eq {registry : Registry} (h : registry.ChecksValues)
    (e : Expression) {a b : Context} (hargs : a.args = b.args) (hvalues : a.values = b.values) :
    (evaluate registry e a).outcome = (evaluate registry e b).outcome :=
  outcome_congr fun op hop =>
    Operation.firstFailure_congr fun r hr => h op hop r hr e a b hargs hvalues

/-! ## 2. Evaluations one after the other -/

/-- Evaluates the expressions between braces, each in the context that the one before left. -/
def evaluations (registry : Registry) (ctx : Context) : List Text → List Occurrence
  | [] => []
  | inner :: inners =>
    let o := Occurrence.of registry ctx inner
    o :: evaluations registry o.evaluation.context inners

/-- The context behind occurrences. -/
def contextAfter (ctx : Context) : List Occurrence → Context
  | [] => ctx
  | o :: os => contextAfter o.evaluation.context os

section

variable {registry : Registry} (h : registry.ChecksValues) {ctx : Context}

include h

/-- Where one expression was not executed, another fares as it did before. -/
theorem Occurrence.outcome_of_not_executed {inner : Text}
    (hx : (Occurrence.of registry ctx inner).isExecuted = false) (e : Expression) :
    (evaluate registry e (Occurrence.of registry ctx inner).evaluation.context).outcome =
      (evaluate registry e ctx).outcome :=
  h.outcome_eq e (args_evaluate registry _ ctx) (values_evaluate (not_isExecuted_of.1 hx))

variable {inners : List Text}
  (hstill : ∀ inner ∈ inners, (Occurrence.of registry ctx inner).isExecuted = false)

include hstill

/-- If none of the expressions is executed at first, neither is any behind the first of them. -/
theorem still_tail {inner : Text} (hx : (Occurrence.of registry ctx inner).isExecuted = false) :
    ∀ i ∈ inners,
      (Occurrence.of registry (Occurrence.of registry ctx inner).evaluation.context i).isExecuted =
        false := by
  intro i hi
  have hout := Occurrence.outcome_of_not_executed h hx (.parse i)
  rw [Occurrence.not_isExecuted_of, hout]
  exact Occurrence.not_isExecuted_of.1 (hstill i hi)

/-- **Expressions of which none is executed fare as they do at first.** -/
theorem map_outcome_evaluations :
    (evaluations registry ctx inners).map (·.evaluation.outcome) =
      inners.map fun inner => (evaluate registry (.parse inner) ctx).outcome := by
  induction inners generalizing ctx with
  | nil => rfl
  | cons inner inners ih =>
    obtain ⟨hx, htail⟩ := List.forall_mem_cons.1 hstill
    rw [evaluations, List.map_cons, List.map_cons, ih (still_tail h htail hx)]
    refine congrArg (_ :: ·) (List.map_congr_left fun i _ => ?_)
    exact Occurrence.outcome_of_not_executed h hx (.parse i)

/-- None of them is executed. -/
theorem not_isExecuted_of_mem_evaluations :
    ∀ o ∈ evaluations registry ctx inners, o.isExecuted = false := by
  intro o ho
  have hmem := List.mem_map_of_mem (f := fun o : Occurrence => o.evaluation.outcome) ho
  rw [map_outcome_evaluations h hstill, List.mem_map] at hmem
  obtain ⟨inner, hi, heq⟩ := hmem
  have hne := Occurrence.not_isExecuted_of.1 (hstill inner hi)
  rw [heq] at hne
  exact beq_eq_false_iff_ne.2 hne

/-- They leave arguments and stored values alone. -/
theorem contextAfter_evaluations :
    (contextAfter ctx (evaluations registry ctx inners)).args = ctx.args ∧
      (contextAfter ctx (evaluations registry ctx inners)).values = ctx.values := by
  induction inners generalizing ctx with
  | nil => exact ⟨rfl, rfl⟩
  | cons inner inners ih =>
    obtain ⟨hx, htail⟩ := List.forall_mem_cons.1 hstill
    obtain ⟨hargs, hvalues⟩ := ih (still_tail h htail hx)
    rw [evaluations, contextAfter]
    exact ⟨hargs.trans (args_evaluate registry _ ctx),
      hvalues.trans (values_evaluate (Occurrence.not_isExecuted_of.1 hx))⟩

/-- They add to the log what the rejected ones among them add. -/
theorem errors_contextAfter_evaluations :
    (contextAfter ctx (evaluations registry ctx inners)).errors =
      ctx.errors ++ refused (evaluations registry ctx inners) := by
  induction inners generalizing ctx with
  | nil => exact (List.append_nil _).symm
  | cons inner inners ih =>
    obtain ⟨hx, htail⟩ := List.forall_mem_cons.1 hstill
    have herrors := Occurrence.errors_of_not_executed registry ctx inner hx
    rw [evaluations, contextAfter, ih (still_tail h htail hx), herrors, refused_cons, List.append_assoc]

/-- Where no earlier pass has seen more of them, that is an entry for every rejected one. -/
theorem refused_evaluations (hc : ctx.CaughtUp) :
    refused (evaluations registry ctx inners) =
      inners.filterMap fun inner =>
        (evaluate registry (.parse inner) ctx).outcome.entry? (Expression.parse inner).opcode := by
  induction inners generalizing ctx with
  | nil => rfl
  | cons inner inners ih =>
    obtain ⟨hx, htail⟩ := List.forall_mem_cons.1 hstill
    have hfirst := Occurrence.refusal?_of_caughtUp registry hc inner
    have hrest := ih (still_tail h htail hx) (hc.evaluate (Occurrence.not_isExecuted_of.1 hx))
    have hsame : ∀ i ∈ inners,
        (evaluate registry (.parse i) (Occurrence.of registry ctx inner).evaluation.context).outcome.entry?
            (Expression.parse i).opcode =
          (evaluate registry (.parse i) ctx).outcome.entry? (Expression.parse i).opcode :=
      fun i _ => by rw [Occurrence.outcome_of_not_executed h hx]
    rw [evaluations, refused_cons, hfirst, hrest, List.filterMap_congr hsame, List.filterMap_cons]
    cases hentry : (evaluate registry (.parse inner) ctx).outcome.entry? (Expression.parse inner).opcode <;>
      simp [Occurrence.of, hentry]

end

/-! ## 3. The pass -/

/-- What an occurrence looks like that was not executed. -/
theorem Visit.not_changed_visitOf {registry : Registry} {s : Sweep} {cut : Cut}
    (hx : (Occurrence.of registry s.context cut.inner).isExecuted = false) :
    (s.visitOf registry cut).evaluation.text = Cut.braced cut.inner ∧
      (s.visitOf registry cut).endsPass = false := by
  have htext : (s.visitOf registry cut).evaluation.text = Cut.braced cut.inner := Occurrence.text_of hx
  refine ⟨htext, ?_⟩
  have hchanged : (s.visitOf registry cut).changed = false := by
    rw [changed, htext]
    exact bne_self_eq_false _
  rw [endsPass, hchanged, Bool.and_false]

namespace Sweep

/-- Behind an occurrence that was not executed nothing is held back and nothing is escaped. -/
theorem escapes_visit {registry : Registry} {s : Sweep} {cut : Cut}
    (hx : (Occurrence.of registry s.context cut.inner).isExecuted = false) :
    (s.visit cut (s.visitOf registry cut)).escapes = false := by
  have htext := (Visit.not_changed_visitOf hx).1
  simp [escapes, visit, htext, Cut.braced]

/-- Its text comes back. -/
theorem text_visit {registry : Registry} {s : Sweep} {cut : Cut} (hcut : Cut.first? false s.rest = some cut)
    (hx : (Occurrence.of registry s.context cut.inner).isExecuted = false) :
    (s.visit cut (s.visitOf registry cut)).text = s.text := by
  have htext := (Visit.not_changed_visitOf hx).1
  rw [text_eq, text_eq, ← Cut.first?_whole hcut, Cut.whole_eq]
  simp [visit, htext]

/-- **A pass whose spans are not executed** visits all of them and leaves the text alone. -/
theorem run_still {registry : Registry} (h : registry.ChecksValues) {s : Sweep} (hheld : s.held = [])
    (hescapes : s.escapes = false)
    (hstill : ∀ inner ∈ (Span.chain s.cursor false s.rest).map Span.inner,
      (Occurrence.of registry s.context inner).isExecuted = false) :
    (run registry s).text = s.text ∧
      (run registry s).visits.reverse.map Visit.span =
        s.visits.reverse.map Visit.span ++ Span.chain s.cursor false s.rest ∧
      (run registry s).visits.reverse.map Visit.occurrence =
        s.visits.reverse.map Visit.occurrence ++
          evaluations registry s.context ((Span.chain s.cursor false s.rest).map Span.inner) ∧
      (run registry s).context = contextAfter s.context
        (evaluations registry s.context ((Span.chain s.cursor false s.rest).map Span.inner)) := by
  fun_induction run registry s with
  | case1 s hcut =>
    rw [Span.chain_of_none hcut]
    simp [evaluations, contextAfter]
  | case2 s cut hcut hskips =>
    simp [skips, hescapes] at hskips
  | case3 s cut hcut hskips v hlt hends =>
    rw [Span.chain_of_some hcut, List.map_cons] at hstill
    have hx := (List.forall_mem_cons.1 hstill).1
    exact absurd (hends.symm.trans (Visit.not_changed_visitOf hx).2) (by simp)
  | case4 s cut hcut hskips v hlt hends ih =>
    have hcursor : s.scanFrom = s.cursor := by simp [scanFrom, hheld]
    have hspan : v.span = Span.ofCut s.cursor cut := congrArg (Span.ofCut · cut) hcursor
    rw [Span.chain_of_some hcut, List.map_cons] at hstill
    obtain ⟨hx, htail⟩ := List.forall_mem_cons.1 hstill
    have hchain : Span.chain (s.visit cut v).cursor false (s.visit cut v).rest =
        Span.chain (Span.ofCut s.cursor cut).stop false cut.after :=
      congrArg (fun span : Span => Span.chain span.stop false cut.after) hspan
    rw [hchain] at ih
    obtain ⟨h1, h2, h3, h4⟩ := ih rfl (escapes_visit hx) (still_tail h htail hx)
    rw [Span.chain_of_some hcut, List.map_cons, evaluations]
    refine ⟨h1.trans (text_visit hcut hx), ?_, ?_, h4⟩
    · rw [h2]
      simp [visit, hspan]
    · rw [h3]
      simp [visit, v, visitOf, Visit.occurrence, Visit.expression, Occurrence.of]

end Sweep

/-- A pass none of whose spans is executed at first leaves the text alone, visits every span of it, and
evaluates them one after the other. -/
theorem sweep_still {registry : Registry} (h : registry.ChecksValues) {ctx : Context} {source : Text}
    (hstill : ∀ inner ∈ (Span.all source).map Span.inner,
      (Occurrence.of registry ctx inner).isExecuted = false) :
    (sweep registry ctx source).text = source ∧
      (sweep registry ctx source).visits.map Visit.span = Span.all source ∧
      (sweep registry ctx source).visits.map Visit.occurrence =
        evaluations registry ctx.beginPass ((Span.all source).map Span.inner) ∧
      (sweep registry ctx source).context = contextAfter ctx.beginPass
        (evaluations registry ctx.beginPass ((Span.all source).map Span.inner)) := by
  have hbegin : ∀ inner ∈ (Span.chain 0 false source).map Span.inner,
      (Occurrence.of registry ctx.beginPass inner).isExecuted = false := by
    intro inner hi
    have hout : (evaluate registry (.parse inner) ctx.beginPass).outcome =
        (evaluate registry (.parse inner) ctx).outcome := h.outcome_eq _ rfl rfl
    rw [Occurrence.not_isExecuted_of, hout]
    exact Occurrence.not_isExecuted_of.1 (hstill inner hi)
  exact Sweep.run_still (s := .start ctx.beginPass source) h rfl rfl hbegin

/-! ## 4. The run -/

/-- The entry that the log gets for a span, if it is rejected in the context. -/
def Span.entry? (registry : Registry) (ctx : Context) (span : Span) : Option Text :=
  (evaluate registry (.parse span.inner) ctx).outcome.entry? (Expression.parse span.inner).opcode

/-- **A text none of whose spans is executed in a fresh context is expanded in one pass**, which leaves it
alone, visits every span, executes none, stores nothing, and logs an entry for every rejected one. -/
theorem Progress.run_still {registry : Registry} (h : registry.ChecksValues) (args : List Text)
    {source : Text} (hstill : ∀ inner ∈ (Span.all source).map Span.inner,
      (Occurrence.of registry (.fresh args) inner).isExecuted = false)
    {limit : Nat} (hlimit : 0 < limit) :
    let p := run registry limit (.start (.fresh args) source)
    let visits := (start (.fresh args) source).visits registry limit
    p.converged = true ∧ p.passes = 1 ∧ p.working = source ∧ visits.map Visit.span = Span.all source ∧
      (∀ v ∈ visits, v.isExecuted = false) ∧ p.context.args = args ∧ p.context.values = [] ∧
      p.context.errors = (Span.all source).filterMap (Span.entry? registry (.fresh args)) := by
  intro p visits
  obtain ⟨htext, hspans, hevaluated, hcontext⟩ := sweep_still h hstill
  have hconverged : ((start (.fresh args) source).next registry).converged = true :=
    beq_iff_eq.2 htext
  obtain ⟨limit, rfl⟩ := Nat.exists_eq_succ_of_ne_zero (Nat.ne_of_gt hlimit)
  have hp : p = (start (.fresh args) source).next registry := if_pos hconverged
  have hvisits : visits = (sweep registry (.fresh args) source).visits := by
    have hall : visits = (sweep registry (.fresh args) source).visits ++ [] :=
      congrArg ((sweep registry (.fresh args) source).visits ++ ·) (if_pos hconverged)
    rw [hall, List.append_nil]
  have hcaughtUp : (Context.fresh args).CaughtUp := fun _ => Nat.le_refl _
  obtain ⟨hargs, hvalues⟩ := contextAfter_evaluations h hstill
  rw [hp, hvisits]
  refine ⟨hconverged, rfl, htext, hspans, fun v hv => ?_, (congrArg Context.args hcontext).trans hargs,
    (congrArg Context.values hcontext).trans hvalues, ?_⟩
  · have ho : v.occurrence ∈ evaluations registry (.fresh args) ((Span.all source).map Span.inner) :=
      hevaluated ▸ List.mem_map_of_mem hv
    exact not_isExecuted_of_mem_evaluations h hstill v.occurrence ho
  · have herrors := errors_contextAfter_evaluations h hstill
    rw [refused_evaluations h hstill hcaughtUp, List.filterMap_map] at herrors
    exact (congrArg Context.errors hcontext).trans herrors

end TemplateExpansion
