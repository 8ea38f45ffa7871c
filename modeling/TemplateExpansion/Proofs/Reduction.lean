/-
# Reduction: a run that never looks back

A `Reduction` has neither passes nor a boundary.  It holds the occurrences that it has passed, because
they were not executed, and the rest of the text.  One step evaluates the first occurrence of the rest.
If it is executed, its outcome takes its place and the rest is searched from its beginning; if not, it
is passed for good.  So no occurrence is checked twice, and each rejection is logged when it is met.

Steps are a function, so all runs that come to an end from one start end in one state (`reaches_unique`).

This file states what holds of every state on the way (`Sound`): what was passed is a chain of first
matches that no context would execute, and the counts of the context are the counts of the passed
rejections.
-/
import Mathlib.Logic.Relation
import TemplateExpansion.Proofs.Refusals

namespace TemplateExpansion

open Text

/-! ## 1. Calls -/

/-- One call of an operation: its expression, the text it yielded, and the stored values and the log
after it. -/
structure Call where
  expression : Expression
  text : Text
  values : Store
  errors : List Text
  deriving Repr, DecidableEq

/-- The call that an executed occurrence made. -/
def Occurrence.call (o : Occurrence) : Call :=
  ⟨o.expression, o.evaluation.text, o.evaluation.context.values, o.evaluation.context.errors⟩

/-- The calls among evaluated occurrences, in order. -/
def calls (os : List Occurrence) : List Call := (os.filter Occurrence.isExecuted).map Occurrence.call

theorem calls_append (a b : List Occurrence) : calls (a ++ b) = calls a ++ calls b := by
  simp [calls]

theorem calls_singleton_of_executed {o : Occurrence} (h : o.isExecuted = true) :
    calls [o] = [o.call] := by
  simp [calls, h]

theorem calls_singleton_of_not {o : Occurrence} (h : o.isExecuted = false) : calls [o] = [] := by
  simp [calls, h]

/-! ## 2. Passed occurrences -/

/-- An occurrence that was not executed: the text between it and the one before, the text between its
braces, and how its evaluation went. -/
structure Passed where
  before : Text
  inner : Text
  outcome : Outcome
  deriving Repr, DecidableEq

namespace Passed

/-- The text up to the end of the occurrence. -/
def text (p : Passed) : Text := p.before ++ Cut.braced p.inner

/-- The rejection that it counts, if any. -/
def rejection? (p : Passed) : Option Rejection := p.outcome.rejection? (Cut.braced p.inner)

/-- The entry in which the log names the rejection. -/
def entry? (p : Passed) : Option Text := p.outcome.entry? (Expression.parse p.inner).opcode

/-- The texts of passed occurrences one after the other. -/
def textOf (ps : List Passed) : Text := ps.flatMap text

/-- The rejections among passed occurrences, in order. -/
def rejections (ps : List Passed) : List Rejection := ps.filterMap rejection?

/-- The entries for passed occurrences, in order. -/
def entries (ps : List Passed) : List Text := ps.filterMap entry?

@[simp] theorem textOf_nil : textOf [] = [] := rfl

theorem textOf_cons (p : Passed) (ps : List Passed) : textOf (p :: ps) = p.text ++ textOf ps := rfl

theorem textOf_concat (ps : List Passed) (p : Passed) :
    textOf (ps ++ [p]) = textOf ps ++ (p.before ++ Cut.braced p.inner) := by
  simp [textOf, text]

theorem count_rejections_concat (ps : List Passed) (p : Passed) (q : Rejection) :
    (rejections (ps ++ [p])).count q = (rejections ps).count q + p.rejection?.toList.count q := by
  rw [rejections, List.filterMap_append, List.count_append]
  cases h : p.rejection? <;> simp [rejections, h]

theorem entries_concat (ps : List Passed) (p : Passed) :
    entries (ps ++ [p]) = entries ps ++ p.entry?.toList := by
  rw [entries, List.filterMap_append]
  cases h : p.entry? <;> simp [entries, h]

/-- Passed text ends in a closing brace, so behind it nothing is escaped and no brace waits. -/
theorem escapedAfter_textOf (ps : List Passed) : escapedAfter false (textOf ps) = false := by
  rcases List.eq_nil_or_concat ps with rfl | ⟨qs, p, rfl⟩
  · rfl
  · simp [textOf_concat, Cut.braced, escapedAfter_append]

theorem pendingAfter_textOf (ps : List Passed) : pendingAfter false false (textOf ps) = false := by
  rcases List.eq_nil_or_concat ps with rfl | ⟨qs, p, rfl⟩
  · rfl
  · simp only [List.concat_eq_append, textOf_concat, Cut.braced, pendingAfter_append, pendingAfter]
    simp

/-- The occurrence is the first match wherever its text is read from a fresh start, and no context
executes it. -/
structure Stuck (registry : Registry) (p : Passed) : Prop where
  first : Cut.first? false p.before = none
  opens : escapedAfter false p.before = false
  inert : Inert p.inner
  outcome : ∀ ctx, (evaluate registry (.parse p.inner) ctx).outcome = p.outcome
  not_executed : p.outcome ≠ .executed

theorem Stuck.first?_append {registry : Registry} {p : Passed} (h : p.Stuck registry) (t : Text) :
    Cut.first? false (p.text ++ t) = some ⟨p.before, p.inner, t⟩ :=
  Cut.first?_eq_some_iff.2 ⟨by simp [Cut.whole_eq, text], h.first, h.opens, h.inert⟩

end Passed

/-! ## 3. Steps -/

/-- How far a reduction has come. -/
structure Reduction where
  passed : List Passed
  rest : Text
  context : Context
  calls : List Call
  deriving Repr, DecidableEq

namespace Reduction

/-- A reduction before its first step. -/
def start (ctx : Context) (input : Text) : Reduction := ⟨[], input, ctx, []⟩

/-- The whole text. -/
def text (r : Reduction) : Text := Passed.textOf r.passed ++ r.rest

/-- What follows when an occurrence at a cut of the rest was executed: its outcome takes its place. -/
def execute (r : Reduction) (cut : Cut) (o : Occurrence) : Reduction where
  passed := r.passed
  rest := cut.before ++ o.evaluation.text ++ cut.after
  context := o.evaluation.context
  calls := r.calls ++ [o.call]

/-- What follows when it was not: it is passed. -/
def pass (r : Reduction) (cut : Cut) (o : Occurrence) : Reduction where
  passed := r.passed ++ [⟨cut.before, cut.inner, o.evaluation.outcome⟩]
  rest := cut.after
  context := o.evaluation.context
  calls := r.calls

/-- One step: the first occurrence of the rest is evaluated. -/
def next? (registry : Registry) (r : Reduction) : Option Reduction :=
  (Cut.first? false r.rest).map fun cut =>
    let o := Occurrence.of registry r.context cut.inner
    if o.isExecuted then r.execute cut o else r.pass cut o

/-- Steps lead from one state to another. -/
def Reaches (registry : Registry) : Reduction → Reduction → Prop :=
  Relation.ReflTransGen fun r q => r.next? registry = some q

variable {registry : Registry}

theorem Reaches.refl (r : Reduction) : Reaches registry r r := Relation.ReflTransGen.refl

theorem Reaches.trans {r q t : Reduction} (h : Reaches registry r q) (h' : Reaches registry q t) :
    Reaches registry r t := Relation.ReflTransGen.trans h h'

theorem Reaches.head {r q t : Reduction} (h : r.next? registry = some q)
    (h' : Reaches registry q t) : Reaches registry r t := Relation.ReflTransGen.head h h'

theorem next?_of_executed {r : Reduction} {cut : Cut} (h : Cut.first? false r.rest = some cut)
    (hx : (Occurrence.of registry r.context cut.inner).isExecuted = true) :
    r.next? registry = some (r.execute cut (Occurrence.of registry r.context cut.inner)) := by
  rw [next?, h, Option.map_some]
  exact congrArg some (if_pos hx)

theorem next?_of_not {r : Reduction} {cut : Cut} (h : Cut.first? false r.rest = some cut)
    (hx : (Occurrence.of registry r.context cut.inner).isExecuted = false) :
    r.next? registry = some (r.pass cut (Occurrence.of registry r.context cut.inner)) := by
  rw [next?, h, Option.map_some]
  exact congrArg some (if_neg (by simp [hx]))

theorem next?_eq_none {r : Reduction} :
    r.next? registry = none ↔ Cut.first? false r.rest = none := by
  simp [next?]

/-- What one step leads to. -/
theorem next?_eq_some {r q : Reduction} (h : r.next? registry = some q) :
    ∃ cut, Cut.first? false r.rest = some cut ∧
      (((Occurrence.of registry r.context cut.inner).isExecuted = true ∧
          q = r.execute cut (.of registry r.context cut.inner)) ∨
        ((Occurrence.of registry r.context cut.inner).isExecuted = false ∧
          q = r.pass cut (.of registry r.context cut.inner))) := by
  cases hcut : Cut.first? false r.rest with
  | none =>
    rw [next?_eq_none.2 hcut] at h
    exact absurd h (by simp)
  | some cut =>
    refine ⟨cut, rfl, ?_⟩
    cases hx : (Occurrence.of registry r.context cut.inner).isExecuted with
    | true => exact .inl ⟨rfl, (Option.some.inj ((next?_of_executed hcut hx).symm.trans h)).symm⟩
    | false => exact .inr ⟨rfl, (Option.some.inj ((next?_of_not hcut hx).symm.trans h)).symm⟩

/-- From an end nothing else is reached. -/
theorem Reaches.eq_of_next?_eq_none {r q : Reduction} (h : Reaches registry r q)
    (hr : r.next? registry = none) : q = r := by
  rcases Relation.ReflTransGen.cases_head h with rfl | ⟨t, ht, -⟩
  · rfl
  · rw [hr] at ht
    exact absurd ht (by simp)

theorem args_next {r q : Reduction} (hq : r.next? registry = some q) :
    q.context.args = r.context.args := by
  obtain ⟨cut, -, ⟨-, rfl⟩ | ⟨-, rfl⟩⟩ := next?_eq_some hq
  · exact args_evaluate registry _ _
  · exact args_evaluate registry _ _

theorem args_eq_of_reaches {r q : Reduction} (hq : Reaches registry r q) :
    q.context.args = r.context.args := by
  induction hq with
  | refl => rfl
  | tail _ hstep ih => exact (args_next hstep).trans ih

/-- **A reduction ends in one state only.** -/
theorem reaches_unique {r p q : Reduction} (hp : Reaches registry r p) (hq : Reaches registry r q)
    (hpe : p.next? registry = none) (hqe : q.next? registry = none) : p = q := by
  have hunique : Relator.RightUnique fun r q : Reduction => r.next? registry = some q :=
    fun _ _ _ h1 h2 => Option.some.inj (h1.symm.trans h2)
  rcases Relation.ReflTransGen.total_of_right_unique hunique hp hq with h | h
  · exact (Reaches.eq_of_next?_eq_none h hpe).symm
  · exact Reaches.eq_of_next?_eq_none h hqe

/-! ## 4. What holds on the way -/

end Reduction

/-- A context in which values are stored, and nothing is logged or counted yet. -/
def Context.storing (args : List Text) (values : Store) : Context := { fresh args with values := values }

namespace Reduction

variable {registry : Registry}

/-- What was passed would be met again and passed again, the counts of the context are those of the
passed rejections, and the stored values are inert. -/
structure Sound (registry : Registry) (r : Reduction) : Prop where
  stuck : ∀ p ∈ r.passed, p.Stuck registry
  earlier : ∀ q, (r.context.rejections.find q).earlier = 0
  current : ∀ q, (r.context.rejections.find q).current = (Passed.rejections r.passed).count q
  values : Store.All Inert r.context.values

theorem Sound.caughtUp {r : Reduction} (h : r.Sound registry) : r.context.CaughtUp := fun q => by
  rw [h.earlier q]
  exact Nat.zero_le _

theorem sound_start_storing (args : List Text) {values : Store} (hv : Store.All Inert values)
    (input : Text) : (start (.storing args values) input).Sound registry :=
  ⟨fun _ hp => absurd hp List.not_mem_nil, fun _ => rfl, fun _ => rfl, hv⟩

theorem sound_start (args : List Text) (input : Text) :
    (start (.fresh args) input).Sound registry :=
  sound_start_storing args Store.all_nil input

section

variable (h : registry.Tame) {r : Reduction} (hs : r.Sound registry) {cut : Cut}
  (hc : Cut.first? false r.rest = some cut)

include h hs hc

theorem Sound.execute (hx : (Occurrence.of registry r.context cut.inner).isExecuted = true) :
    (r.execute cut (Occurrence.of registry r.context cut.inner)).Sound registry := by
  have hi := (Cut.first?_eq_some_iff.1 hc).2.2.2
  have hop := Expression.inert_operands hi
  have hout := Occurrence.isExecuted_of.1 hx
  refine ⟨hs.stuck, fun q => ?_, fun q => ?_, ?_⟩
  · exact ((h.find_evaluate hop hs.values q).1).trans (hs.earlier q)
  · refine ((h.find_evaluate hop hs.values q).2).trans ?_
    rw [hs.current q, hout]
    rfl
  · exact (h.preserves.evaluate hop hs.values).2.2

theorem Sound.pass (hx : (Occurrence.of registry r.context cut.inner).isExecuted = false) :
    (r.pass cut (Occurrence.of registry r.context cut.inner)).Sound registry := by
  obtain ⟨-, hb, he, hi⟩ := Cut.first?_eq_some_iff.1 hc
  have hop := Expression.inert_operands hi
  have hne := Occurrence.not_isExecuted_of.1 hx
  refine ⟨fun p hp => ?_, fun q => ?_, fun q => ?_, ?_⟩
  · rcases List.mem_append.1 hp with hp | hp
    · exact hs.stuck p hp
    · rw [List.mem_singleton.1 hp]
      exact ⟨hb, he, hi, fun ctx => h.reads.outcome_eq _ _ _, hne⟩
  · exact ((h.find_evaluate hop hs.values q).1).trans (hs.earlier q)
  · refine ((h.find_evaluate hop hs.values q).2).trans ?_
    rw [hs.current q, Reduction.pass, Passed.count_rejections_concat, Expression.source_parse]
    rfl
  · exact (h.preserves.evaluate hop hs.values).2.2

end

theorem Sound.next {r q : Reduction} (hs : r.Sound registry) (h : registry.Tame)
    (hq : r.next? registry = some q) : q.Sound registry := by
  obtain ⟨cut, hcut, ⟨hx, rfl⟩ | ⟨hx, rfl⟩⟩ := next?_eq_some hq
  · exact hs.execute h hcut hx
  · exact hs.pass h hcut hx

end Reduction

end TemplateExpansion
