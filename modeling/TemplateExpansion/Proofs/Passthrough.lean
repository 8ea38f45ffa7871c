/-
# Texts that pass through

An expression is declined if no operation has its opcode or a requirement of the operation fails
(`Registry.Declines`).  What is declined comes back as it is written, and the context differs at most by one
rejection, with the message of the first requirement that fails (`Occurrence.of_declined`).

`Stillness` says of a text of which nothing is executed that a pass leaves it alone.  This file says which
texts these are, in terms of opcodes and requirements, and what exactly the pass does to the context: it
makes one rejection for every span that has a requirement that fails, from left to right, and nothing else
(`sweep_declined`).  All rejections can be told in the context at the start, since none of them touches what
requirements look at (`contextAfter_evaluations_eq`).
-/
import TemplateExpansion.Proofs.Stillness
import TemplateExpansion.Proofs.Registration

namespace TemplateExpansion

open Text

/-! ## 1. The spans of a text, by searches -/

namespace Span

/-- The spans that searches find, the first from a byte offset on and each of the others from where the
span before it stops. -/
inductive Searched (source : Text) : Nat → List Span → Prop
  | stop {offset : Nat} (h : findFrom source offset = none) : Searched source offset []
  | next {offset : Nat} {span : Span} {spans : List Span} (h : findFrom source offset = some span)
      (hrest : Searched source span.stop spans) : Searched source offset (span :: spans)

/-- Searches find only one list of spans. -/
theorem Searched.unique {source : Text} {offset : Nat} {spans spans' : List Span}
    (h : Searched source offset spans) (h' : Searched source offset spans') : spans = spans' := by
  induction h generalizing spans' with
  | stop hnone =>
    cases h' with
    | stop _ => rfl
    | next hsome _ => exact absurd (hnone.symm.trans hsome) (by simp)
  | next hsome _ ih =>
    cases h' with
    | stop hnone => exact absurd (hnone.symm.trans hsome) (by simp)
    | next hsome' hrest' =>
      obtain rfl := Option.some.inj (hsome.symm.trans hsome')
      rw [ih hrest']

/-- A chain is found by searches in the text that it is a part of. -/
theorem searched_chain (s t : Text) :
    Searched (s ++ t) s.byteSize (chain s.byteSize (escapedAfter false s) t) := by
  -- The text behind the spans found so far gets shorter, and the text before it longer.
  induction hn : t.length using Nat.strongRecOn generalizing s t with
  | ind n ih =>
    subst hn
    have hfind := findFrom_append s t
    cases hcut : Cut.first? (escapedAfter false s) t with
    | none =>
      rw [chain_of_none hcut]
      rw [hcut] at hfind
      exact .stop hfind
    | some cut =>
      have hstop := Cut.stop_ofCut s cut
      have hescaped : escapedAfter false (s ++ cut.before ++ Cut.braced cut.inner) = false := by
        simp [escapedAfter_append, Cut.braced]
      have hsplit : s ++ t = (s ++ cut.before ++ Cut.braced cut.inner) ++ cut.after := by
        rw [← Cut.first?_whole hcut, Cut.whole_eq]
        simp
      have hrest := ih _ (Cut.length_after_lt hcut) (s ++ cut.before ++ Cut.braced cut.inner) cut.after rfl
      rw [hescaped, ← hstop, ← hsplit] at hrest
      rw [chain_of_some hcut]
      rw [hcut] at hfind
      exact .next hfind hrest

/-- **The spans of a text are those that searches find.** -/
theorem searched_all (source : Text) : Searched source 0 (all source) := searched_chain [] source

end Span

/-! ## 2. Declined expressions -/

namespace Registry

/-- No operation has the opcode, or a requirement of the operation fails. -/
def Declines (registry : Registry) (ctx : Context) (e : Expression) : Prop :=
  ∀ op, registry.get? e.opcode = some op → ∃ r ∈ op.requirements, r.holds e ctx = false

/-- A requirement of the operation fails, and all those stated before it hold. -/
def FailsFirst (registry : Registry) (ctx : Context) (e : Expression) (r : Requirement) : Prop :=
  ∃ op before after, registry.get? e.opcode = some op ∧ op.requirements = before ++ r :: after ∧
    (∀ q ∈ before, q.holds e ctx = true) ∧ r.holds e ctx = false

/-- The first requirement of the operation that fails. -/
def failing? (registry : Registry) (ctx : Context) (e : Expression) : Option Requirement :=
  (registry.get? e.opcode).bind fun op => op.firstFailure e ctx

variable {registry : Registry} {ctx : Context} {e : Expression}

theorem failing?_eq_some_iff {r : Requirement} :
    registry.failing? ctx e = some r ↔ registry.FailsFirst ctx e r := by
  simp only [failing?, Option.bind_eq_some_iff, Operation.firstFailure, List.find?_eq_some_iff_append,
    Bool.not_eq_true', Bool.not_not]
  constructor
  · rintro ⟨op, hop, hr, before, after, hsplit, hbefore⟩
    exact ⟨op, before, after, hop, hsplit, hbefore, hr⟩
  · rintro ⟨op, before, after, hop, hsplit, hbefore, hr⟩
    exact ⟨op, hop, hr, before, after, hsplit, hbefore⟩

/-- What is declined is unknown, or there is a first requirement that fails. -/
theorem declines_iff :
    registry.Declines ctx e ↔
      registry.contains e.opcode = false ∨ (registry.failing? ctx e).isSome = true := by
  rw [Declines, failing?, contains]
  cases registry.get? e.opcode with
  | none => simp
  | some op => simp [Operation.firstFailure]

instance : Decidable (registry.Declines ctx e) := decidable_of_iff _ declines_iff.symm

end Registry

/-! ## 3. What is declined, evaluated -/

section

variable {registry : Registry} {ctx : Context} {e : Expression}

/-- Without an operation there is no requirement that fails. -/
theorem evaluate_of_unknown (ctx : Context) (h : registry.contains e.opcode = false) :
    evaluate registry e ctx = ⟨e.source, ctx, .unknown⟩ ∧ registry.failing? ctx e = none := by
  have hnone : registry.get? e.opcode = none := Option.not_isSome_iff_eq_none.1 (Bool.eq_false_iff.1 h)
  rw [evaluate, Registry.failing?, hnone]
  exact ⟨rfl, rfl⟩

/-- The first requirement that fails is the one that is logged. -/
theorem evaluate_of_failing {r : Requirement} (h : registry.failing? ctx e = some r) :
    evaluate registry e ctx =
      ⟨e.source, ctx.reject e.source e.opcode r.message, .rejected r.message⟩ := by
  obtain ⟨op, hop, hr⟩ := Option.bind_eq_some_iff.1 h
  simp only [evaluate, hop, hr]

/-- The rejection that is made for the text between two braces, if a requirement fails. -/
def Registry.rejection? (registry : Registry) (ctx : Context) (inner : Text) : Option Change :=
  (registry.failing? ctx (.parse inner)).map fun r =>
    .reject (Cut.braced inner) (Expression.parse inner).opcode r.message

theorem Registry.rejection?_eq_some_iff {inner : Text} {change : Change} :
    registry.rejection? ctx inner = some change ↔
      ∃ r, registry.FailsFirst ctx (.parse inner) r ∧
        change = .reject (Cut.braced inner) (Expression.parse inner).opcode r.message := by
  rw [rejection?, Option.map_eq_some_iff]
  constructor
  · rintro ⟨r, hr, rfl⟩
    exact ⟨r, failing?_eq_some_iff.1 hr, rfl⟩
  · rintro ⟨r, hr, rfl⟩
    exact ⟨r, failing?_eq_some_iff.2 hr, rfl⟩

/-- **What is declined is not executed**, and what it does to the context is its rejection. -/
theorem Occurrence.of_declined {inner : Text} (h : registry.Declines ctx (.parse inner)) :
    (Occurrence.of registry ctx inner).isExecuted = false ∧
      (Occurrence.of registry ctx inner).evaluation.context =
        ctx.applyAll (registry.rejection? ctx inner).toList := by
  rw [Occurrence.not_isExecuted_of, Occurrence.of, Registry.rejection?]
  rcases Registry.declines_iff.1 h with hunknown | hfailing
  · obtain ⟨hevaluate, hnone⟩ := evaluate_of_unknown ctx hunknown
    rw [hevaluate, hnone]
    exact ⟨by simp, rfl⟩
  · obtain ⟨r, hr⟩ := Option.isSome_iff_exists.1 hfailing
    have hsource : (Expression.parse inner).source = Cut.braced inner := Expression.source_parse inner
    rw [evaluate_of_failing hr, hr, hsource]
    exact ⟨by simp, rfl⟩

end

/-! ## 4. Requirements that look at values -/

section

variable {registry : Registry} (h : registry.ChecksValues) {a b : Context} (hargs : a.args = b.args)
  (hvalues : a.values = b.values)

include h hargs hvalues

theorem Registry.ChecksValues.failing?_eq (e : Expression) :
    registry.failing? a e = registry.failing? b e := by
  rw [failing?, failing?]
  cases hop : registry.get? e.opcode with
  | none => rfl
  | some op =>
    exact Operation.firstFailure_congr fun r hr => h op (mem_of_get? hop) r hr e a b hargs hvalues

theorem Registry.ChecksValues.rejection?_eq (inner : Text) :
    registry.rejection? a inner = registry.rejection? b inner := by
  rw [rejection?, rejection?, h.failing?_eq hargs hvalues]

theorem Registry.Declines.congr {e : Expression} (hd : registry.Declines a e) :
    registry.Declines b e := by
  intro op hop
  obtain ⟨r, hr, hfails⟩ := hd op hop
  exact ⟨r, hr, (h op (mem_of_get? hop) r hr e a b hargs hvalues).symm.trans hfails⟩

end

/-- **Declined expressions make their rejections and nothing else**, each of them the one that the context
at the start calls for. -/
theorem contextAfter_evaluations_eq {registry : Registry} (h : registry.ChecksValues) {ctx : Context}
    {inners : List Text} (hd : ∀ inner ∈ inners, registry.Declines ctx (.parse inner)) :
    contextAfter ctx (evaluations registry ctx inners) =
      ctx.applyAll (inners.filterMap (registry.rejection? ctx)) := by
  induction inners generalizing ctx with
  | nil => rfl
  | cons inner inners ih =>
    obtain ⟨hfirst, hrest⟩ := List.forall_mem_cons.1 hd
    obtain ⟨hx, hcontext⟩ := Occurrence.of_declined hfirst
    -- The rejection leaves what requirements look at, so the others fare as they do at first.
    have hargs : ctx.args = (Occurrence.of registry ctx inner).evaluation.context.args :=
      (args_evaluate registry _ ctx).symm
    have hvalues : ctx.values = (Occurrence.of registry ctx inner).evaluation.context.values :=
      (values_evaluate (Occurrence.not_isExecuted_of.1 hx)).symm
    have hsame : ∀ i ∈ inners,
        registry.rejection? (Occurrence.of registry ctx inner).evaluation.context i =
          registry.rejection? ctx i := fun i _ => (h.rejection?_eq hargs hvalues i).symm
    rw [evaluations, contextAfter, ih fun i hi => (hrest i hi).congr h hargs hvalues,
      List.filterMap_congr hsame, hcontext, List.filterMap_cons]
    cases registry.rejection? ctx inner <;> rfl

/-! ## 5. The pass and the run -/

/-- The entry for a rejected span has the message of the first requirement that fails. -/
theorem Span.entry?_eq (registry : Registry) (ctx : Context) (span : Span) :
    span.entry? registry ctx = (registry.failing? ctx (.parse span.inner)).map fun r =>
      Context.entry (Expression.parse span.inner).opcode r.message := by
  rw [Span.entry?, Registry.failing?, evaluate]
  cases registry.get? (Expression.parse span.inner).opcode with
  | none => rfl
  | some op =>
    simp only [Option.bind_some]
    cases op.firstFailure (.parse span.inner) ctx <;> rfl

/-- Declined spans are not executed. -/
theorem Span.still_of_declined {registry : Registry} {ctx : Context} {spans : List Span}
    (hd : ∀ span ∈ spans, registry.Declines ctx (.parse span.inner)) :
    ∀ inner ∈ spans.map Span.inner, (Occurrence.of registry ctx inner).isExecuted = false := by
  intro inner hi
  obtain ⟨span, hspan, rfl⟩ := List.mem_map.1 hi
  exact (Occurrence.of_declined (hd span hspan)).1

section

variable {registry : Registry} (h : registry.ChecksValues) {source : Text}

include h

/-- **A pass all of whose spans are declined** leaves the text alone, visits every span and executes none,
and makes the rejections of the spans, from left to right, and no other change. -/
theorem sweep_declined {ctx : Context}
    (hd : ∀ span ∈ Span.all source, registry.Declines ctx (.parse span.inner)) :
    (sweep registry ctx source).text = source ∧
      (sweep registry ctx source).visits.map Visit.span = Span.all source ∧
      (∀ v ∈ (sweep registry ctx source).visits, v.isExecuted = false) ∧
      (sweep registry ctx source).context.args = ctx.args ∧
      (sweep registry ctx source).context.values = ctx.values ∧
      (sweep registry ctx source).context = ctx.beginPass.applyAll
        ((Span.all source).filterMap fun span => registry.rejection? ctx span.inner) := by
  have hbegin : ∀ span ∈ Span.all source, registry.Declines ctx.beginPass (.parse span.inner) :=
    fun span hspan => (hd span hspan).congr (a := ctx) (b := ctx.beginPass) h rfl rfl
  have hsame : ∀ span ∈ Span.all source,
      registry.rejection? ctx.beginPass span.inner = registry.rejection? ctx span.inner :=
    fun span _ => h.rejection?_eq (a := ctx.beginPass) (b := ctx) rfl rfl span.inner
  obtain ⟨htext, hvisited, hevaluated, hcontext⟩ := sweep_still h (Span.still_of_declined hd)
  obtain ⟨hargs, hvalues⟩ := contextAfter_evaluations h (Span.still_of_declined hbegin)
  refine ⟨htext, hvisited, fun v hv => ?_, (congrArg Context.args hcontext).trans hargs,
    (congrArg Context.values hcontext).trans hvalues, ?_⟩
  · have ho : v.occurrence ∈ evaluations registry ctx.beginPass ((Span.all source).map Span.inner) :=
      hevaluated ▸ List.mem_map_of_mem hv
    exact not_isExecuted_of_mem_evaluations h (Span.still_of_declined hbegin) v.occurrence ho
  · rw [hcontext, contextAfter_evaluations_eq h (List.forall_mem_map.2 hbegin), List.filterMap_map]
    exact congrArg _ (List.filterMap_congr hsame)

/-- **A text all of whose spans are declined in a fresh context is expanded in one pass**, to itself with its
escapes dropped; the log has an entry for every span that has a requirement that fails. -/
theorem expand_declined (args : List Text) {limit : Nat} (hlimit : 0 < limit)
    (hd : ∀ span ∈ Span.all source, registry.Declines (.fresh args) (.parse span.inner)) :
    (Progress.run registry limit (.start (.fresh args) source)).passes = 1 ∧
      expand registry limit args source = .ok ⟨source.unescape,
        (Span.all source).filterMap fun span => (registry.failing? (.fresh args) (.parse span.inner)).map
          fun r => Context.entry (Expression.parse span.inner).opcode r.message⟩ := by
  obtain ⟨hconverged, hpasses, hworking, -, -, -, -, herrors⟩ :=
    Progress.run_still h args (Span.still_of_declined hd) hlimit
  rw [List.filterMap_congr fun span _ => Span.entry?_eq registry (.fresh args) span] at herrors
  refine ⟨hpasses, ?_⟩
  rw [expand_of_converged hconverged, Progress.expanded, hworking, herrors]

end

theorem Registry.declines_empty (ctx : Context) (e : Expression) : Registry.empty.Declines ctx e :=
  fun _ hop => absurd hop (by simp [Registry.get?, Registry.empty])

theorem Registry.failing?_empty (ctx : Context) (e : Expression) : Registry.empty.failing? ctx e = none := rfl

/-- **Unknown and rejected expressions pass through.**  Let requirements look at nothing but operands,
arguments and stored values, and let every span that searches find in the text be declined in the context.

* A pass returns the text as it is, visits all spans and executes none, and leaves arguments and stored
  values alone.  What it does to the context is one rejection for each span of which a requirement fails, in
  the order of the spans; an unknown opcode makes none.
* A rejection names the span as it is written, its opcode, and the message of the requirement that fails
  first.
* If the context is fresh, one pass is all that is made, and the result is the text with its escapes dropped
  and one entry for each rejection.
* In an empty registry that is so for every text, and nothing is logged. -/
theorem declined_pass_through {registry : Registry} (h : registry.ChecksValues) {source : Text}
    {spans : List Span} (hspans : Span.Searched source 0 spans) :
    (∀ ctx, (∀ span ∈ spans, registry.Declines ctx (.parse span.inner)) →
      let swept := sweep registry ctx source
      swept.text = source ∧ swept.visits.map Visit.span = spans ∧
        (∀ v ∈ swept.visits, v.isExecuted = false) ∧
        swept.context.args = ctx.args ∧ swept.context.values = ctx.values ∧
        swept.context = ctx.beginPass.applyAll
          (spans.filterMap fun span => registry.rejection? ctx span.inner)) ∧
      (∀ ctx inner change, registry.rejection? ctx inner = some change ↔
        ∃ r, registry.FailsFirst ctx (.parse inner) r ∧
          change = .reject (Cut.braced inner) (Expression.parse inner).opcode r.message) ∧
      (∀ args limit, 0 < limit →
        (∀ span ∈ spans, registry.Declines (.fresh args) (.parse span.inner)) →
        (Progress.run registry limit (.start (.fresh args) source)).passes = 1 ∧
          expand registry limit args source = .ok ⟨source.unescape,
            spans.filterMap fun span => (registry.failing? (.fresh args) (.parse span.inner)).map
              fun r => Context.entry (Expression.parse span.inner).opcode r.message⟩) ∧
      ∀ args limit, 0 < limit →
        (Progress.run .empty limit (.start (.fresh args) source)).passes = 1 ∧
          expand .empty limit args source = .ok ⟨source.unescape, []⟩ := by
  obtain rfl := (Span.searched_all source).unique hspans
  refine ⟨fun ctx hd => ?_, fun ctx inner change => ?_, fun args limit hlimit hd => ?_,
    fun args limit hlimit => ?_⟩
  · exact sweep_declined h hd
  · exact Registry.rejection?_eq_some_iff
  · exact expand_declined h args hlimit hd
  · have hempty : Registry.empty.ChecksValues := fun op hop => absurd hop List.not_mem_nil
    have hd : ∀ span ∈ Span.all source, Registry.empty.Declines (.fresh args) (.parse span.inner) :=
      fun span _ => Registry.declines_empty (.fresh args) (.parse span.inner)
    have hrun := expand_declined hempty args hlimit hd
    simpa [Registry.failing?_empty] using hrun

/-- An operation whose requirements look at a stored value first and then at an operand. -/
def Operation.recall : Operation where
  name := "recall".toList
  requirements :=
    [⟨"value is not set".toList, fun e ctx => (ctx.get? (e.operand 0)).isSome⟩,
      ⟨"no second operand".toList, fun e _ => !(e.operand 1).isEmpty⟩]
  execute e ctx := ((ctx.get? (e.operand 0)).getD [], [])

/-- An escaped brace, an expression both of whose requirements fail, an unknown one, and one that stands
inside braces that are never closed before it. -/
theorem declined_pass_through_recall :
    (Registry.ofList [Operation.recall]).ChecksValues ∧
      Span.Searched "\\\x7bx\x7d\x7brecall:k\x7d\x7bgone\x7d\x7ba:\x7brecall:k|v\x7d|\x7d".toList 0
        [⟨4, 14, "recall:k".toList⟩, ⟨14, 20, "gone".toList⟩, ⟨23, 35, "recall:k|v".toList⟩] ∧
      0 < 1 ∧
      expand (.ofList [.recall]) 1 []
          "\\\x7bx\x7d\x7brecall:k\x7d\x7bgone\x7d\x7ba:\x7brecall:k|v\x7d|\x7d".toList =
        .ok ⟨"\x7bx\x7d\x7brecall:k\x7d\x7bgone\x7d\x7ba:\x7brecall:k|v\x7d|\x7d".toList,
          ["recall: value is not set".toList, "recall: value is not set".toList]⟩ := by
  have hchecks : (Registry.ofList [Operation.recall]).ChecksValues := by
    intro op hop r hr e a b _ hvalues
    obtain rfl := List.mem_singleton.1 (Registry.mem_ofList hop)
    rcases List.mem_pair.1 hr with rfl | rfl
    · exact congrArg (fun values : Store => (values.get? (e.operand 0)).isSome) hvalues
    · rfl
  have hspans : Span.Searched
      "\\\x7bx\x7d\x7brecall:k\x7d\x7bgone\x7d\x7ba:\x7brecall:k|v\x7d|\x7d".toList 0
      [⟨4, 14, "recall:k".toList⟩, ⟨14, 20, "gone".toList⟩, ⟨23, 35, "recall:k|v".toList⟩] :=
    .next (by decide) (.next (by decide) (.next (by decide) (.stop (by decide))))
  have hdeclined : ∀ span ∈ [⟨4, 14, "recall:k".toList⟩, ⟨14, 20, "gone".toList⟩,
      ⟨23, 35, "recall:k|v".toList⟩], (Registry.ofList [Operation.recall]).Declines (.fresh [])
        (.parse (Span.inner span)) := by decide
  obtain ⟨-, -, hrun, -⟩ := declined_pass_through hchecks hspans
  obtain ⟨-, hexpand⟩ := hrun [] 1 Nat.one_pos hdeclined
  exact ⟨hchecks, hspans, Nat.one_pos, hexpand.trans (congrArg Except.ok (by decide))⟩

end TemplateExpansion
