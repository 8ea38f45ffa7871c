/-
# Refusals in the log

A rejected occurrence is logged when its pass has by then met more such rejections than any pass before.
Whether it was logged can be told in two ways: from the counts in the context behind it
(`Occurrence.refusal?`), or by looking at what the log holds then and did not hold before
(`Occurrence.added`).  The first looks at one occurrence alone, so the entries of two lists are those of
the one followed by those of the other (`refused_append`); the second takes nothing for granted about
the counts.  In every run they are the same entries (`refusals_run`).
-/
import TemplateExpansion.Proofs.Course

namespace TemplateExpansion

/-! ## 1. Entries for rejections -/

/-- The entry in which the log names a rejection. -/
def Outcome.entry? (opcode : Text) : Outcome → Option Text
  | .rejected message => some (Context.entry opcode message)
  | _ => none

/-- The entry that a rejected occurrence added to the log.  It did if by then its pass had counted more
such rejections than any earlier pass. -/
def Occurrence.refusal? (o : Occurrence) : Option Text :=
  match o.evaluation.outcome with
  | .rejected message =>
    let tally := o.evaluation.context.rejections.find ⟨o.expression.source, message⟩
    if tally.earlier < tally.current then some (Context.entry o.expression.opcode message) else none
  | _ => none

/-- The entries that rejected occurrences added to the log, in order. -/
def refused (os : List Occurrence) : List Text := os.filterMap Occurrence.refusal?

theorem refused_append (a b : List Occurrence) : refused (a ++ b) = refused a ++ refused b :=
  List.filterMap_append

theorem refused_singleton (o : Occurrence) : refused [o] = o.refusal?.toList := by
  rw [refused]
  cases h : o.refusal? <;> simp [h]

theorem refused_cons (o : Occurrence) (os : List Occurrence) :
    refused (o :: os) = o.refusal?.toList ++ refused os := by
  rw [← List.singleton_append, refused_append, refused_singleton]

theorem Occurrence.refusal?_of_executed {o : Occurrence} (h : o.isExecuted = true) :
    o.refusal? = none := by
  have hout : o.evaluation.outcome = .executed := beq_iff_eq.1 h
  rw [refusal?, hout]

/-- A rejection that is new to its pass is logged. -/
theorem Occurrence.refusal?_of_caughtUp (registry : Registry) {ctx : Context} (h : ctx.CaughtUp)
    (inner : Text) :
    (of registry ctx inner).refusal? =
      (of registry ctx inner).evaluation.outcome.entry? (Expression.parse inner).opcode := by
  rw [refusal?, of]
  rcases evaluate_cases registry (.parse inner) ctx with ⟨-, h1⟩ | ⟨op, -, r, -, -, h1⟩ | ⟨op, -, -, -, h1⟩
  · rw [h1]
    rfl
  · rw [h1]
    simp only [Context.rejections_reject, Ledger.find_record, if_true, Tally.count]
    exact if_pos (Nat.lt_succ_of_le (h _))
  · rw [h1]
    rfl

/-- A rejection that some earlier pass has seen is not logged again. -/
theorem Occurrence.refusal?_eq_none {registry : Registry} {ctx : Context} {inner : Text}
    (h : ∀ q ∈ (evaluate registry (.parse inner) ctx).outcome.rejection? (Expression.parse inner).source,
      (ctx.rejections.find q).current < (ctx.rejections.find q).earlier) :
    (of registry ctx inner).refusal? = none := by
  rw [refusal?, of]
  rcases evaluate_cases registry (.parse inner) ctx with ⟨-, h1⟩ | ⟨op, -, r, -, -, h1⟩ | ⟨op, -, -, -, h1⟩
  · rw [h1]
  · rw [h1] at h ⊢
    simp only [Context.rejections_reject, Ledger.find_record, if_true, Tally.count]
    exact if_neg (Nat.not_lt.2 (Nat.succ_le_of_lt (h _ rfl)))
  · rw [h1]

/-! ## 2. What the log shows -/

/-- What the log behind a rejected occurrence holds beyond the log in front of it. -/
def Occurrence.added (log : List Text) (o : Occurrence) : List Text :=
  match o.evaluation.outcome with
  | .rejected _ => o.evaluation.context.errors.drop log.length
  | _ => []

/-- What rejected occurrences added to a log, in order. -/
def refusals (log : List Text) : List Occurrence → List Text
  | [] => []
  | o :: os => o.added log ++ refusals o.evaluation.context.errors os

/-- The log behind occurrences. -/
def logAfter (log : List Text) : List Occurrence → List Text
  | [] => log
  | o :: os => logAfter o.evaluation.context.errors os

theorem refusals_concat (log : List Text) (os : List Occurrence) (o : Occurrence) :
    refusals log (os ++ [o]) = refusals log os ++ o.added (logAfter log os) := by
  induction os generalizing log with
  | nil => exact List.append_nil _
  | cons p os ih => simp [refusals, logAfter, ih]

@[simp] theorem logAfter_concat (log : List Text) (os : List Occurrence) (o : Occurrence) :
    logAfter log (os ++ [o]) = o.evaluation.context.errors := by
  induction os generalizing log with
  | nil => rfl
  | cons p os ih => exact ih _

namespace Occurrence

variable (registry : Registry) (ctx : Context) (inner : Text)

/-- **What is seen in the log is what the counts say.** -/
theorem added_eq_refusal? : (of registry ctx inner).added ctx.errors =
    (of registry ctx inner).refusal?.toList := by
  rw [added, refusal?, of]
  rcases evaluate_cases registry (.parse inner) ctx with ⟨-, h1⟩ | ⟨op, -, r, -, -, h1⟩ | ⟨op, -, -, -, h1⟩
  · rw [h1]
    rfl
  · rw [h1]
    simp only [Context.rejections_reject, Ledger.find_record, if_true, Tally.count]
    rw [Context.reject]
    split
    · simp [Context.report]
    · simp
  · rw [h1]
    rfl

/-- What is not executed adds nothing else to the log. -/
theorem errors_of_not_executed (hx : (of registry ctx inner).isExecuted = false) :
    (of registry ctx inner).evaluation.context.errors =
      ctx.errors ++ (of registry ctx inner).refusal?.toList := by
  have hne := not_isExecuted_of.1 hx
  rw [← added_eq_refusal?, added, of]
  rcases evaluate_cases registry (.parse inner) ctx with ⟨-, h1⟩ | ⟨op, -, r, -, -, h1⟩ | ⟨op, -, -, -, h1⟩
  · rw [h1]
    exact (List.append_nil _).symm
  · rw [h1]
    exact (List.prefix_iff_eq_append.1 (Context.errors_prefix_reject ctx _ _ _)).symm
  · rw [h1] at hne
    exact absurd rfl hne

end Occurrence

/-! ## 3. Runs -/

/-- The occurrences have led from the log to the context, and what is seen of their rejections is what
the counts say. -/
structure Logged (log : List Text) (ctx : Context) (os : List Occurrence) : Prop where
  refusals : TemplateExpansion.refusals log os = refused os
  log : logAfter log os = ctx.errors

/-- One more occurrence. -/
theorem Logged.concat (registry : Registry) {log : List Text} {ctx : Context} {os : List Occurrence}
    (h : Logged log ctx os) (inner : Text) :
    Logged log (Occurrence.of registry ctx inner).evaluation.context (os ++ [.of registry ctx inner]) := by
  refine ⟨?_, logAfter_concat _ _ _⟩
  rw [refusals_concat, h.log, h.refusals, Occurrence.added_eq_refusal?, refused_append,
    refused_singleton]

/-- **In every run the entries that rejections added to the log are those that the counts tell.** -/
theorem refusals_run (registry : Registry) (limit : Nat) (ctx : Context) (input : Text) :
    refusals ctx.errors (((Progress.start ctx input).visits registry limit).map Visit.occurrence) =
      refused (((Progress.start ctx input).visits registry limit).map Visit.occurrence) := by
  have hstart : Logged ctx.errors ctx [] := ⟨rfl, rfl⟩
  have hrun : Logged ctx.errors (Progress.run registry limit (.start ctx input)).context
      (((Progress.start ctx input).visits registry limit).map Visit.occurrence) :=
    Progress.run_replacements (P := fun _ => Logged ctx.errors) (fun _ h => h.concat registry _)
      (fun h => ⟨h.refusals, h.log⟩) limit hstart
  exact hrun.refusals

end TemplateExpansion
