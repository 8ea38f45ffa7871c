/-
# Every occurrence is executed once

Between the braces of an occurrence there is no closing brace, so each occurrence has one of its own.
When it is executed that brace goes, and the outcome brings none back; when it is not, the occurrence
stays as it is written.  So after any number of passes the executions made so far and the closing braces
that are left add up to those of the input (`builtins_executions_eq`): no brace is spent twice, and none
is lost without an execution.
-/
import TemplateExpansion.Proofs.Convergence

namespace TemplateExpansion

open Text

/-! ## 1. What a run evaluates -/

/-- The occurrence was evaluated as it stands between the braces of a match. -/
def Occurrence.Arises (registry : Registry) (o : Occurrence) : Prop :=
  ∃ ctx inner, Inert inner ∧ o = .of registry ctx inner

/-- **Every occurrence that a run evaluates arises so.** -/
theorem Progress.arises_visits (registry : Registry) (limit : Nat) (ctx : Context) (input : Text) :
    ∀ v ∈ (start ctx input).visits registry limit, v.occurrence.Arises registry := by
  have hrun : ∀ o ∈ ((start ctx input).visits registry limit).map Visit.occurrence,
      o.Arises registry := by
    refine run_replacements (P := fun _ _ os => ∀ o ∈ os, o.Arises registry) ?_ (fun hos => hos) limit
      fun _ ho => absurd ho List.not_mem_nil
    intro s cut ctx os hcut hos o ho
    rcases List.mem_append.1 ho with ho | ho
    · exact hos o ho
    · exact ⟨ctx, cut.inner, (Cut.first?_eq_some_iff.1 hcut).2.2.2, List.mem_singleton.1 ho⟩
  exact fun v hv => hrun v.occurrence (List.mem_map_of_mem hv)

/-- A visit that arises so evaluates what stands between the braces of its span. -/
theorem Visit.occurrence_eq {registry : Registry} {v : Visit} (h : v.occurrence.Arises registry) :
    ∃ ctx, Inert v.span.inner ∧ v.occurrence = .of registry ctx v.span.inner := by
  obtain ⟨ctx, inner, hi, ho⟩ := h
  have hexpression : Expression.parse v.span.inner = .parse inner := congrArg Occurrence.expression ho
  have hinner := congrArg Expression.inner hexpression
  rw [Expression.inner_parse, Expression.inner_parse] at hinner
  rw [hinner]
  exact ⟨ctx, hi, ho⟩

/-- If its operation did not run, it leaves the span as it is written. -/
theorem Visit.text_eq_braced {registry : Registry} {v : Visit} (h : v.occurrence.Arises registry)
    (hx : v.isExecuted = false) : v.evaluation.text = Cut.braced v.span.inner := by
  obtain ⟨ctx, -, ho⟩ := v.occurrence_eq h
  have hnot : v.occurrence.isExecuted = false := hx
  rw [ho] at hnot
  exact (congrArg (·.evaluation.text) ho).trans (Occurrence.text_of hnot)

/-! ## 2. The account -/

theorem executions_map_occurrence (visits : List Visit) :
    executions (visits.map Visit.occurrence) = visits.countP Visit.isExecuted := by
  rw [executions, List.countP_map]
  rfl

/-- **Every occurrence is executed once.**  Unless a fetched body holds a closing brace, after any number
of passes as many operations have run as closing braces of the input are gone.  Each occurrence that was
met has one closing brace; an execution takes it away and brings none, and without an execution the
occurrence stays as it is written. -/
theorem builtins_executions_eq (settings : Settings) (fetch? : Option Fetcher)
    (hbody : ∀ fetch ∈ fetch?, ∀ url body, fetch url = .ok body → '}' ∉ body)
    (args : List Text) (input : Text) (passes : Nat) :
    let visits := (Progress.start (.fresh args) input).visits (.builtins settings fetch?) passes
    let working := (Progress.run (.builtins settings fetch?) passes (.start (.fresh args) input)).working
    visits.countP Visit.isExecuted + working.count '}' = input.count '}' ∧
      visits.countP Visit.isExecuted = input.count '}' - working.count '}' ∧
      ∀ v ∈ visits, (Cut.braced v.span.inner).count '}' = 1 ∧
        (v.isExecuted = true → '}' ∉ v.evaluation.text) ∧
        (v.isExecuted = false → v.evaluation.text = Cut.braced v.span.inner) := by
  intro visits working
  have hstart : Accounted (fun t => '}' ∉ t) (input.count '}') input (.fresh args) [] :=
    Accounted.start Store.all_nil input
  have hafter := hstart.visits closesNothing_not_mem
    (Registry.builtins_preserves_not_mem settings hbody) passes
  have hcount : working.count '}' + visits.countP Visit.isExecuted = input.count '}' := by
    rw [← executions_map_occurrence]
    exact hafter.count
  refine ⟨by omega, by omega, fun v hv => ?_⟩
  have ho := Progress.arises_visits _ passes _ input v hv
  obtain ⟨-, hi, -⟩ := v.occurrence_eq ho
  refine ⟨Cut.count_braced hi, fun hx => ?_, v.text_eq_braced ho⟩
  exact (hafter.outcomes v.occurrence (List.mem_map_of_mem hv)).text hx

/-- A body with an opening brace, a stray closing brace and a value that comes back: two executions in two passes,
and one closing brace is left of three. -/
theorem builtins_executions_eq_fetched :
    let registry := Registry.builtins .standard (some fun _ => .ok ['{'])
    let start := Progress.start (.fresh []) "\x7btext:u\x7dget:k\x7d\x7d".toList
    (∀ fetch ∈ (some fun _ => .ok ['{'] : Option Fetcher), ∀ url body, fetch url = .ok body →
        '}' ∉ body) ∧
      (start.visits registry 2).countP Visit.isExecuted = 2 ∧
      (Progress.run registry 2 start).working = ['}'] := by
  intro registry start
  have hbody : ∀ fetch ∈ (some fun _ => .ok ['{'] : Option Fetcher), ∀ url body,
      fetch url = .ok body → '}' ∉ body := Fetcher.forall_body (by decide)
  have hworking : (Progress.run registry 2 start).working = ['}'] := by decide +kernel
  obtain ⟨-, hexecutions, -⟩ := builtins_executions_eq .standard _ hbody []
    "\x7btext:u\x7dget:k\x7d\x7d".toList 2
  exact ⟨hbody, hexecutions.trans (by rw [hworking]; decide), hworking⟩

end TemplateExpansion
