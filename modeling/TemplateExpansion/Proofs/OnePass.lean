/-
# Texts that one pass finishes

A pass over a text that begins with an expression puts the expression's outcome in its place and goes on
behind it (`WorkingText.run_source`).  So an expression alone is replaced by its outcome (`sweep_source`), and
one behind an expression without an outcome is evaluated in the context which that one leaves
(`sweep_source_source`), and the pass is aborted exactly if one of these evaluations is.  If no brace opens in
what a pass leaves, nothing is left to evaluate: the next pass is the last, and the result is what the first one
left (`expand?_of_flat_sweep`).

The built-in operations are found under their opcodes (`Registry.get?_builtins`), and their expressions are
read back if their operands are inert and have no bars (`Builtin.written_applied`).
-/
import TemplateExpansion.Proofs.Dispatch
import TemplateExpansion.Proofs.Framing
import TemplateExpansion.Proofs.Quotation
import TemplateExpansion.Proofs.Totality

namespace TemplateExpansion

open Text

/-! ## 1. Written expressions -/

/-- The operation that is registered under the opcode of a built-in operation. -/
theorem Registry.get?_builtins (settings : Settings) (fetch? : Option Fetcher) (fetch : Fetcher)
    {b : Builtin} (hb : b ≠ .text) :
    (Registry.builtins settings fetch?).get? b.opcode = some (b.operation settings fetch) := by
  cases b with
  | text => exact absurd rfl hb
  | _ => cases fetch? <;> rfl

/-- An expression that is read back from its source, and none of whose braces means anything. -/
structure Expression.Written (e : Expression) : Prop where
  parse_inner : parse e.inner = e
  inert : Inert e.inner

/-- An expression of a built-in operation. -/
def Builtin.applied (b : Builtin) (operands : List Text) : Expression := .make b.opcode operands

section

variable (b : Builtin) {operands : List Text} (hne : operands ≠ [])

include hne

/-- It is written with the opcode, a colon, and bars between the operands. -/
theorem Builtin.source_applied :
    (b.applied operands).source = Cut.braced (b.opcode ++ ':' :: join '|' operands) := by
  have hdivided : (b.applied operands).divided = true := by simpa [applied, Expression.make] using hne
  rw [Expression.source, Expression.inner, if_pos ⟨hdivided, hne⟩]
  rfl

/-- **It is read back**, if its operands are inert and have no bars. -/
theorem Builtin.written_applied (h : ∀ operand ∈ operands, Inert operand ∧ '|' ∉ operand) :
    (b.applied operands).Written where
  parse_inner := by
    have hcolon : ':' ∉ b.opcode := by cases b <;> decide
    exact (Expression.legible_make_iff.2 ⟨hne, hcolon, fun operand ho => (h operand ho).2⟩).parse_inner
  inert := by
    have hopcode : Inert b.opcode := by cases b <;> exact inert_of_not_mem (by decide) (by decide)
    exact Expression.inert_inner_make hopcode fun operand ho => (h operand ho).1

end

theorem Builtin.source_applied_one (b : Builtin) (operand : Text) :
    (b.applied [operand]).source = Cut.braced (b.opcode ++ ':' :: operand) := by
  rw [source_applied b (List.cons_ne_nil _ _), join_singleton]

theorem Builtin.source_applied_two (b : Builtin) (operand next : Text) :
    (b.applied [operand, next]).source = Cut.braced (b.opcode ++ ':' :: (operand ++ '|' :: next)) := by
  rw [source_applied b (List.cons_ne_nil _ _), join_cons_cons, join_singleton]

/-- An operation all of whose requirements hold is run. -/
theorem evaluate_of_firstFailure_eq_none {registry : Registry} {e : Expression} {ctx : Context}
    {op : Operation} (hop : registry.get? e.opcode = some op) (hnone : op.firstFailure e ctx = none) :
    evaluate registry e ctx = ⟨(op.run e ctx).1, (op.run e ctx).2, .executed⟩ := by
  rw [evaluate, hop]
  simp only [hnone]

/-! ## 2. A pass over an expression -/

namespace WorkingText

/-- **A pass puts the outcome of an expression in its place** and goes on behind it, if nothing in front of
the expression opens or escapes. -/
theorem run_source {registry : Registry} {w : WorkingText} {s t : Text} {e : Expression}
    (hw : w.text = s ++ (e.source ++ t)) (hb : w.boundary = s.byteSize)
    (hescaped : escapedAfter false s = false) (hwaits : waits s = false) (he : e.Written) :
    run waits registry w = run waits registry
      (w.spliced s ⟨[], e.inner, t⟩ ⟨e, evaluate registry e w.context⟩) := by
  have hcut : Cut.first? (escapedAfter false s) (e.source ++ t) = some ⟨[], e.inner, t⟩ := by
    rw [hescaped, Cut.first?_eq_some_iff]
    exact ⟨Cut.whole_eq ⟨[], e.inner, t⟩, rfl, rfl, he.inert⟩
  have ho : (⟨e, evaluate registry e w.context⟩ : Occurrence) =
      Occurrence.of registry w.context e.inner := by rw [Occurrence.of, he.parse_inner]
  rw [run_of_some hw hb hcut ho, List.append_nil, hwaits]
  simp

/-- With an expression at the end of the text, the pass ends. -/
theorem run_source_nil {registry : Registry} {w : WorkingText} {s : Text} {e : Expression}
    (hw : w.text = s ++ e.source) (hb : w.boundary = s.byteSize)
    (hescaped : escapedAfter false s = false) (hwaits : waits s = false) (he : e.Written) :
    (run waits registry w).text = s ++ (evaluate registry e w.context).text ∧
      (run waits registry w).context = (evaluate registry e w.context).context ∧
      (run waits registry w).evaluated = w.evaluated ++ [⟨e, evaluate registry e w.context⟩] := by
  have hw' : w.text = s ++ (e.source ++ []) := hw.trans (by rw [List.append_nil])
  have hrest : ('}' : Char) ∉ ([] : Text) := List.not_mem_nil
  rw [run_source hw' hb hescaped hwaits he, run_of_none rfl rfl (Cut.scan_eq_none_of_not_mem hrest [] none _)]
  refine ⟨?_, rfl, rfl⟩
  rw [spliced, List.append_nil, List.append_nil]

end WorkingText

/-- A pass is aborted as its evaluations on the working text say. -/
theorem sweep?_of_evaluated {registry : Registry} {ctx : Context} {source : Text} {occurrences : List Occurrence}
    (h : (WorkingText.pass registry ctx source).evaluated = occurrences) :
    sweep? registry ctx source =
      if registry.abortsAmong ctx.beginPass (occurrences.map fun o => (o.expression, o.evaluation)) then none
      else some (sweep registry ctx source) := by
  rw [← h, ← visits_sweep, List.map_map]
  rfl

section

variable {e : Expression} (he : e.Written) (registry : Registry) (ctx : Context)

include he

/-- The working text of an expression and nothing else becomes the outcome of the expression. -/
theorem WorkingText.pass_source :
    let w := pass registry ctx e.source
    w.text = (evaluate registry e ctx.beginPass).text ∧
      w.context = (evaluate registry e ctx.beginPass).context ∧
      w.evaluated = [⟨e, evaluate registry e ctx.beginPass⟩] :=
  run_source_nil (s := []) rfl rfl rfl (by decide) he

/-- **A pass over an expression and nothing else** leaves the outcome of the expression. -/
theorem sweep_source :
    (sweep registry ctx e.source).text = (evaluate registry e ctx.beginPass).text ∧
      (sweep registry ctx e.source).context = (evaluate registry e ctx.beginPass).context := by
  rw [text_sweep, context_sweep]
  obtain ⟨htext, hcontext, -⟩ := WorkingText.pass_source he registry ctx
  exact ⟨htext, hcontext⟩

/-- It is aborted exactly if the expression is. -/
theorem sweep?_source :
    sweep? registry ctx e.source =
      if registry.aborts e ctx.beginPass then none else some (sweep registry ctx e.source) := by
  obtain ⟨-, -, hevaluated⟩ := WorkingText.pass_source he registry ctx
  rw [sweep?_of_evaluated hevaluated]
  simp [Registry.abortsAmong]

variable {first : Expression} (hfirst : first.Written)
  (hsilent : (evaluate registry first ctx.beginPass).text = [])

include hfirst hsilent

/-- Behind an expression without an outcome the working text starts with the next one. -/
theorem WorkingText.pass_source_source :
    let w := pass registry ctx (first.source ++ e.source)
    let left := (evaluate registry first ctx.beginPass).context
    w.text = (evaluate registry e left).text ∧ w.context = (evaluate registry e left).context ∧
      w.evaluated = [⟨first, evaluate registry first ctx.beginPass⟩, ⟨e, evaluate registry e left⟩] := by
  have hwaits : waits [] = false := by decide
  have hpass : pass registry ctx (first.source ++ e.source) = _ :=
    run_source (s := []) rfl rfl rfl hwaits hfirst
  have htext : (evaluate registry first ctx.beginPass).text ++ e.source = e.source := by
    rw [hsilent, List.nil_append]
  rw [hpass]
  exact run_source_nil (s := []) htext (congrArg byteSize hsilent) rfl hwaits he

/-- **A pass over two expressions** of which the first has no outcome evaluates the second one in the context
that the first one leaves. -/
theorem sweep_source_source :
    (sweep registry ctx (first.source ++ e.source)).text =
        (evaluate registry e (evaluate registry first ctx.beginPass).context).text ∧
      (sweep registry ctx (first.source ++ e.source)).context =
        (evaluate registry e (evaluate registry first ctx.beginPass).context).context := by
  rw [text_sweep, context_sweep]
  obtain ⟨htext, hcontext, -⟩ := WorkingText.pass_source_source he registry ctx hfirst hsilent
  exact ⟨htext, hcontext⟩

/-- It is aborted exactly if one of the two is. -/
theorem sweep?_source_source :
    sweep? registry ctx (first.source ++ e.source) =
      if registry.aborts first ctx.beginPass ||
          registry.aborts e (evaluate registry first ctx.beginPass).context then none
      else some (sweep registry ctx (first.source ++ e.source)) := by
  obtain ⟨-, -, hevaluated⟩ := WorkingText.pass_source_source he registry ctx hfirst hsilent
  rw [sweep?_of_evaluated hevaluated]
  simp [Registry.abortsAmong]

end

/-! ## 3. Nothing left to evaluate -/

/-- **If no brace opens in what the first pass leaves**, the second pass is the last, and what the first one
left is the result. -/
theorem expand_of_flat_sweep {registry : Registry} {args : List Text} {source : Text}
    (hflat : Flat false (sweep registry (.fresh args) source).text) {limit : Nat} (hlimit : 2 ≤ limit) :
    expand registry limit args source = .ok ⟨(sweep registry (.fresh args) source).text.unescape,
      (sweep registry (.fresh args) source).context.errors⟩ := by
  obtain ⟨limit, rfl⟩ := Nat.exists_eq_add_of_le' hlimit
  obtain ⟨q, hq⟩ : ∃ q, q = (Progress.start (.fresh args) source).next registry := ⟨_, rfl⟩
  have hfirst : q.expanded = ⟨(sweep registry (.fresh args) source).text.unescape,
      (sweep registry (.fresh args) source).context.errors⟩ := by rw [hq]; rfl
  have hsecond : sweep registry q.context q.working = ⟨q.working, q.context.beginPass, []⟩ := by
    rw [hq]
    exact sweep_of_flat hflat registry _
  have hrun : Progress.run registry (limit + 2) (.start (.fresh args) source) =
      if q.converged then q else ⟨q.working, q.context.beginPass, q.passes + 1, true⟩ := by
    have hnext : q.next registry = ⟨q.working, q.context.beginPass, q.passes + 1, true⟩ := by
      rw [Progress.next, hsecond, beq_self_eq_true]
    rw [Progress.run, ← hq, Progress.run, hnext]
    rfl
  rw [expand, hrun, ← hfirst]
  cases hc : q.converged with
  | true => simp [hc]
  | false => rfl

/-- A first pass that is aborted is the whole run. -/
theorem expand?_of_aborted {registry : Registry} {args : List Text} {source : Text}
    (h : sweep? registry (.fresh args) source = none) {limit : Nat} (hlimit : 1 ≤ limit) :
    expand? registry limit args source = none := by
  obtain ⟨limit, rfl⟩ := Nat.exists_eq_add_of_le' hlimit
  have hstart : sweep? registry (Progress.start (.fresh args) source).context
      (Progress.start (.fresh args) source).working = none := h
  rw [expand?, Progress.run?, hstart]
  rfl

/-- **If the first pass is not aborted and no brace opens in what it leaves**, nothing is aborted after it, and
what it left is the result. -/
theorem expand?_of_flat_sweep {registry : Registry} {args : List Text} {source : Text} {s : Swept}
    (h : sweep? registry (.fresh args) source = some s) (hflat : Flat false s.text) {limit : Nat}
    (hlimit : 2 ≤ limit) :
    expand? registry limit args source = some (.ok ⟨s.text.unescape, s.context.errors⟩) := by
  obtain ⟨-, rfl⟩ := sweep?_eq_some_iff.1 h
  rw [← expand_of_flat_sweep hflat hlimit]
  obtain ⟨limit, rfl⟩ := Nat.exists_eq_add_of_le' hlimit
  obtain ⟨q, hq⟩ : ∃ q, q = (Progress.start (.fresh args) source).following (sweep registry (.fresh args) source) :=
    ⟨_, rfl⟩
  have hfirst : sweep? registry (Progress.start (.fresh args) source).context
      (Progress.start (.fresh args) source).working = some (sweep registry (.fresh args) source) := h
  have hsecond : sweep? registry q.context q.working = some ⟨q.working, q.context.beginPass, []⟩ := by
    have hsweep : sweep registry q.context q.working = ⟨q.working, q.context.beginPass, []⟩ := by
      rw [hq]
      exact sweep_of_flat hflat registry _
    rw [sweep?, hsweep]
    rfl
  have hlast : (q.following ⟨q.working, q.context.beginPass, []⟩).converged = true := beq_self_eq_true q.working
  have hrun : Progress.run? registry (limit + 2) (.start (.fresh args) source) =
      if q.converged then some q else some (q.following ⟨q.working, q.context.beginPass, []⟩) := by
    rw [Progress.run?, hfirst]
    simp only [← hq]
    rw [Progress.run?, hsecond]
    simp only [hlast, if_true]
  cases hc : q.converged with
  | true => exact expand?_of_run? (hrun.trans (if_pos hc))
  | false => exact expand?_of_run? (hrun.trans (if_neg (Bool.not_eq_true _ ▸ hc)))

end TemplateExpansion
