/-
# The limit on the number of passes

`Progress.run` looks at a limit before each pass and stops after a pass that left the text as it was.
`Progress.after` makes a given number of passes and looks at neither.  This file says how the first is
read off the second: a run is the passes up to the first that changes nothing, or all that the limit
allows (`run_eq_after_of_settles`, `run_eq_after_of_changes`).

So a limit only cuts a run short (`expand_limit`): it decides whether there is a result and not which,
and since passes only ever add to the log (`errors_prefix_sweep`), what is logged under a limit is the
beginning of what is logged under a larger one.
-/
import Mathlib.Logic.Function.Iterate
import TemplateExpansion.Expansion
import TemplateExpansion.Proofs.WorkingText

namespace TemplateExpansion

/-! ## 1. The log only grows -/

/-- An evaluation only ever adds to the log. -/
theorem errors_prefix_evaluate (registry : Registry) (e : Expression) (ctx : Context) :
    ctx.errors <+: (evaluate registry e ctx).context.errors := by
  unfold evaluate
  cases registry.get? e.opcode with
  | none => exact List.prefix_rfl
  | some op =>
    simp only
    cases op.firstFailure e ctx with
    | some r => exact Context.errors_prefix_reject ctx _ _ _
    | none => exact Context.errors_prefix_applyAll ctx _

/-- **So does a pass**, whatever its operations do. -/
theorem errors_prefix_sweep (registry : Registry) (ctx : Context) (source : Text) :
    ctx.errors <+: (sweep registry ctx source).context.errors := by
  rw [context_sweep]
  refine WorkingText.run_induction (P := fun w => ctx.errors <+: w.context.errors) ?_
    List.prefix_rfl
  intro w s cut _ _ hw
  exact hw.trans (errors_prefix_evaluate registry _ w.context)

/-! ## 2. Passes without a limit -/

namespace Progress

variable {registry : Registry}

/-- A number of passes, one after the other, whether they change the text or not. -/
def after (registry : Registry) (passes : Nat) (p : Progress) : Progress := (next registry)^[passes] p

/-- The first pass, and then the others. -/
theorem after_succ (registry : Registry) (passes : Nat) (p : Progress) :
    p.after registry (passes + 1) = (p.next registry).after registry passes := rfl

/-- The last pass comes after all others. -/
theorem after_succ' (registry : Registry) (passes : Nat) (p : Progress) :
    p.after registry (passes + 1) = (p.after registry passes).next registry :=
  Function.iterate_succ_apply' (next registry) passes p

theorem passes_after (registry : Registry) (passes : Nat) (p : Progress) :
    (p.after registry passes).passes = p.passes + passes := by
  induction passes with
  | zero => rfl
  | succ passes ih =>
    rw [after_succ']
    exact congrArg (· + 1) ih

theorem converged_next {p : Progress} :
    (p.next registry).converged = true ↔ (p.next registry).working = p.working := beq_iff_eq

theorem converged_next_eq_false {p : Progress} :
    (p.next registry).converged = false ↔ (p.next registry).working ≠ p.working := beq_eq_false_iff_ne

theorem converged_after_succ {passes : Nat} {p : Progress} :
    (p.after registry (passes + 1)).converged = true ↔
      (p.after registry (passes + 1)).working = (p.after registry passes).working := by
  rw [after_succ']
  exact converged_next

theorem errors_prefix_after {m n : Nat} (h : m ≤ n) (p : Progress) :
    (p.after registry m).context.errors <+: (p.after registry n).context.errors := by
  induction h with
  | refl => exact List.prefix_rfl
  | step _ ih =>
    rw [after_succ']
    exact ih.trans (errors_prefix_sweep registry _ _)

/-! ## 3. Passes under a limit -/

/-- The first passes of a run all change the text. -/
def Changes (registry : Registry) (p : Progress) (passes : Nat) : Prop :=
  ∀ i < passes, (p.after registry (i + 1)).working ≠ (p.after registry i).working

/-- After a number of passes the next one changes the text no more, and it is the first that does
not. -/
structure Settles (registry : Registry) (p : Progress) (passes : Nat) : Prop where
  changes : p.Changes registry passes
  same : (p.after registry (passes + 1)).working = (p.after registry passes).working

theorem changes_succ {p : Progress} {passes : Nat} :
    p.Changes registry (passes + 1) ↔
      (p.next registry).converged = false ∧ (p.next registry).Changes registry passes := by
  rw [converged_next_eq_false]
  constructor
  · exact fun h => ⟨h 0 (Nat.succ_pos passes), fun i hi => h (i + 1) (Nat.succ_lt_succ hi)⟩
  · rintro ⟨h0, h⟩ i hi
    cases i with
    | zero => exact h0
    | succ i => exact h i (Nat.lt_of_succ_lt_succ hi)

/-- **Passes that change the text are all made** as long as the limit allows them. -/
theorem run_eq_after_of_changes {p : Progress} {limit : Nat} (h : p.Changes registry limit) :
    run registry limit p = p.after registry limit := by
  induction limit generalizing p with
  | zero => rfl
  | succ limit ih =>
    obtain ⟨h0, h⟩ := changes_succ.1 h
    rw [run, after_succ, h0]
    exact ih h

/-- **The first pass that changes nothing is the last** under every limit that allows it. -/
theorem run_eq_after_of_settles {p : Progress} {limit passes : Nat} (hlimit : passes < limit)
    (h : p.Settles registry passes) : run registry limit p = p.after registry (passes + 1) := by
  induction passes generalizing p limit with
  | zero =>
    obtain ⟨limit, rfl⟩ := Nat.exists_eq_succ_of_ne_zero (Nat.ne_zero_of_lt hlimit)
    rw [run, if_pos (converged_next.2 h.same)]
    rfl
  | succ passes ih =>
    obtain ⟨limit, rfl⟩ := Nat.exists_eq_succ_of_ne_zero (Nat.ne_zero_of_lt hlimit)
    obtain ⟨h0, hchanges⟩ := changes_succ.1 h.changes
    rw [run, h0, after_succ]
    exact ih (Nat.lt_of_succ_lt_succ hlimit) ⟨hchanges, h.same⟩

/-- Within a limit all passes change the text, or there is a first that does not. -/
theorem changes_or_settles (registry : Registry) (p : Progress) (limit : Nat) :
    p.Changes registry limit ∨ ∃ passes < limit, p.Settles registry passes := by
  induction limit with
  | zero => exact .inl fun i hi => absurd hi (Nat.not_lt_zero i)
  | succ limit ih =>
    rcases ih with h | ⟨passes, hlt, h⟩
    · by_cases hsame : (p.after registry (limit + 1)).working = (p.after registry limit).working
      · exact .inr ⟨limit, Nat.lt_succ_self limit, h, hsame⟩
      · refine .inl fun i hi => ?_
        rcases Nat.lt_succ_iff_lt_or_eq.1 hi with hi | rfl
        · exact h i hi
        · exact hsame
    · exact .inr ⟨passes, Nat.lt_succ_of_lt hlt, h⟩

/-- Text that still changes has not settled. -/
theorem Settles.not_changes {p : Progress} {limit passes : Nat} (h : p.Settles registry passes)
    (hlt : passes < limit) : ¬ p.Changes registry limit := fun hc => hc passes hlt h.same

/-- Passes that all change the text leave a run that has not converged. -/
theorem converged_after_of_changes {ctx : Context} {input : Text} {limit : Nat}
    (h : (start ctx input).Changes registry limit) :
    ((start ctx input).after registry limit).converged = false := by
  cases limit with
  | zero => rfl
  | succ limit =>
    rw [← Bool.not_eq_true, converged_after_succ]
    exact h limit (Nat.lt_succ_self limit)

end Progress

/-! ## 4. The result under a limit -/

/-- The text and the log that an expansion comes to, converged or not. -/
def Expanded.ofResult : Except ExpansionError Expanded → Expanded
  | .ok e => e
  | .error (.nonConvergent _ reached) => reached

section

variable {registry : Registry} {args : List Text} {input : Text} {limit passes : Nat}

/-- If every pass changes the text, all passes are made and there is no result. -/
theorem expand_of_changes (h : (Progress.start (.fresh args) input).Changes registry limit) :
    expand registry limit args input = .error (.nonConvergent limit
      ((Progress.start (.fresh args) input).after registry limit).expanded) := by
  have hpasses := Progress.passes_after registry limit (.start (.fresh args) input)
  rw [expand, Progress.run_eq_after_of_changes h, Progress.converged_after_of_changes h, hpasses]
  simp [Progress.start]

/-- If a pass within the limit changes nothing, the text before it is the result. -/
theorem expand_of_settles (h : (Progress.start (.fresh args) input).Settles registry passes)
    (hlimit : passes < limit) :
    expand registry limit args input =
      .ok ⟨((Progress.start (.fresh args) input).after registry passes).working.unescape,
        ((Progress.start (.fresh args) input).after registry (passes + 1)).context.errors⟩ := by
  rw [expand, Progress.run_eq_after_of_settles hlimit h]
  simp only [Progress.converged_after_succ.2 h.same, if_true, Progress.expanded, h.same]

/-- There is no result exactly when every pass within the limit changes the text. -/
theorem expand_eq_error_iff :
    (∃ e, expand registry limit args input = .error e) ↔
      (Progress.start (.fresh args) input).Changes registry limit := by
  constructor
  · rintro ⟨e, he⟩
    rcases Progress.changes_or_settles registry (.start (.fresh args) input) limit with
      hc | ⟨passes, hlt, hs⟩
    · exact hc
    · exact absurd ((expand_of_settles hs hlt).symm.trans he) (by simp)
  · exact fun hc => ⟨_, expand_of_changes hc⟩

/-- There is a result exactly when the text settles within the limit, and it is the text that settled
with the log of the pass that found it so. -/
theorem expand_eq_ok_iff {e : Expanded} :
    expand registry limit args input = .ok e ↔
      ∃ passes < limit, (Progress.start (.fresh args) input).Settles registry passes ∧
        e = ⟨((Progress.start (.fresh args) input).after registry passes).working.unescape,
          ((Progress.start (.fresh args) input).after registry (passes + 1)).context.errors⟩ := by
  constructor
  · intro he
    rcases Progress.changes_or_settles registry (.start (.fresh args) input) limit with
      hc | ⟨passes, hlt, hs⟩
    · exact absurd ((expand_of_changes hc).symm.trans he) (by simp)
    · exact ⟨passes, hlt, hs, (Except.ok.inj ((expand_of_settles hs hlt).symm.trans he)).symm⟩
  · rintro ⟨passes, hlt, hs, rfl⟩
    exact expand_of_settles hs hlt

/-- Under a larger limit the log goes on. -/
theorem errors_prefix_expand {larger : Nat} (h : limit ≤ larger) :
    (Expanded.ofResult (expand registry limit args input)).errors <+:
      (Expanded.ofResult (expand registry larger args input)).errors := by
  rcases Progress.changes_or_settles registry (.start (.fresh args) input) limit with
    hc | ⟨passes, hlt, hs⟩
  · rw [expand_of_changes hc]
    rcases Progress.changes_or_settles registry (.start (.fresh args) input) larger with
      hc' | ⟨passes, hlt, hs⟩
    · rw [expand_of_changes hc']
      exact Progress.errors_prefix_after h _
    · -- The text still changes within the smaller limit, so it settles no earlier.
      have hle : limit ≤ passes := Nat.le_of_not_lt fun hlt => hs.not_changes hlt hc
      rw [expand_of_settles hs hlt]
      exact Progress.errors_prefix_after (Nat.le_succ_of_le hle) _
  · have hsame : expand registry larger args input = expand registry limit args input :=
      (expand_of_settles hs (Nat.lt_of_lt_of_le hlt h)).trans (expand_of_settles hs hlt).symm
    exact hsame ▸ List.prefix_rfl

end

/-- **A limit only cuts a run short.**  Let `w k` and `log k` be the working text and the log after `k`
passes.  Under a limit of `m` there is no result exactly when each of the first `m` passes changes the
text, and then `w m` and `log m` are what was reached.  Otherwise the first pass that changes nothing
gives the result, under this limit and every larger one.  Whether or not there is a result, the log is
the beginning of the log under a larger limit. -/
theorem expand_limit (registry : Registry) (args : List Text) (input : Text) (m : Nat) :
    let w k := ((Progress.start (.fresh args) input).after registry k).working
    let log k := ((Progress.start (.fresh args) input).after registry k).context.errors
    ((∃ e, expand registry m args input = .error e) ↔ ∀ i < m, w (i + 1) ≠ w i) ∧
      (∀ e, expand registry m args input = .error e →
        e = .nonConvergent m ⟨(w m).unescape, log m⟩) ∧
      (∀ e, expand registry m args input = .ok e ↔
        ∃ j < m, w (j + 1) = w j ∧ (∀ i < j, w (i + 1) ≠ w i) ∧
          e = ⟨(w j).unescape, log (j + 1)⟩) ∧
      (∀ e, expand registry m args input = .ok e →
        ∀ n, m ≤ n → expand registry n args input = .ok e) ∧
      ∀ n, m ≤ n → (Expanded.ofResult (expand registry m args input)).errors <+:
        (Expanded.ofResult (expand registry n args input)).errors := by
  intro w log
  refine ⟨expand_eq_error_iff, fun e he => ?_, fun e => ?_, fun e he n hn => ?_,
    fun n hn => errors_prefix_expand hn⟩
  · have hreached := expand_of_changes (expand_eq_error_iff.1 ⟨e, he⟩)
    exact Except.error.inj (he.symm.trans hreached)
  · rw [expand_eq_ok_iff]
    constructor
    · rintro ⟨j, hj, hs, rfl⟩
      exact ⟨j, hj, hs.same, hs.changes, rfl⟩
    · rintro ⟨j, hj, hsame, hchanges, rfl⟩
      exact ⟨j, hj, ⟨hchanges, hsame⟩, rfl⟩
  · obtain ⟨j, hj, hs, rfl⟩ := expand_eq_ok_iff.1 he
    exact expand_of_settles hs (Nat.lt_of_lt_of_le hj hn)

end TemplateExpansion
