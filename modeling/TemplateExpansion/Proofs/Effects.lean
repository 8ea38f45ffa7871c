/-
# What an evaluation may do

An evaluation ends in one of three ways (`evaluate_cases`).  This file says what it does to the
context in each of them, for operations of two kinds:

* `Operation.Preserves P`: given operands and stored values with a property, the operation yields and
  stores only texts with the property, and counts no rejection itself;
* `Operation.ReadsValues`: the operation looks at its operands and at the stored values, and its
  requirements at the operands alone.

Two contexts AGREE when they differ at most in their counts of rejections.  On contexts that agree,
operations of the second kind go the same way (`ReadsValues.outcome_eq`, `ReadsValues.text_eq`).
-/
import TemplateExpansion.Evaluation
import TemplateExpansion.Proofs.Matching

namespace TemplateExpansion

/-! ## 1. The three ways -/

theorem Registry.mem_of_get? {registry : Registry} {name : Text} {op : Operation}
    (h : registry.get? name = some op) : op ∈ registry.operations :=
  List.mem_of_find?_eq_some h

/-- **An evaluation ends in one of three ways.** -/
theorem evaluate_cases (registry : Registry) (e : Expression) (ctx : Context) :
    (registry.get? e.opcode = none ∧ evaluate registry e ctx = ⟨e.source, ctx, .unknown⟩) ∨
      (∃ op ∈ registry.operations, ∃ r, registry.get? e.opcode = some op ∧
        op.firstFailure e ctx = some r ∧
        evaluate registry e ctx =
          ⟨e.source, ctx.reject e.source e.opcode r.message, .rejected r.message⟩) ∨
      ∃ op ∈ registry.operations, registry.get? e.opcode = some op ∧
        op.firstFailure e ctx = none ∧
        evaluate registry e ctx = ⟨(op.run e ctx).1, (op.run e ctx).2, .executed⟩ := by
  unfold evaluate
  cases hop : registry.get? e.opcode with
  | none => exact .inl ⟨rfl, rfl⟩
  | some op =>
    have hmem := Registry.mem_of_get? hop
    cases hr : op.firstFailure e ctx with
    | some r => exact .inr (.inl ⟨op, hmem, r, rfl, hr, by simp only [hr]⟩)
    | none => exact .inr (.inr ⟨op, hmem, rfl, hr, by simp only [hr]⟩)

/-- No evaluation touches the arguments. -/
theorem args_evaluate (registry : Registry) (e : Expression) (ctx : Context) :
    (evaluate registry e ctx).context.args = ctx.args := by
  rcases evaluate_cases registry e ctx with ⟨-, h1⟩ | ⟨op, -, r, -, -, h1⟩ | ⟨op, -, -, -, h1⟩
  · rw [h1]
  · rw [h1]
    exact Context.args_reject ctx _ _ _
  · rw [h1]
    exact Context.args_applyAll ctx _

/-- What is not executed stores nothing. -/
theorem values_evaluate {registry : Registry} {e : Expression} {ctx : Context}
    (hne : (evaluate registry e ctx).outcome ≠ .executed) :
    (evaluate registry e ctx).context.values = ctx.values := by
  rcases evaluate_cases registry e ctx with ⟨-, h1⟩ | ⟨op, -, r, -, -, h1⟩ | ⟨op, -, -, -, h1⟩
  · rw [h1]
  · rw [h1]
    exact Context.values_reject ctx _ _ _
  · rw [h1] at hne
    exact absurd rfl hne

/-! ## 2. Texts with a property -/

/-- All values of a store have a property. -/
def Store.All (P : Text → Prop) (s : Store) : Prop := ∀ entry ∈ s, P entry.2

/-- The change stores only values with a property, and is no rejection. -/
def Change.Keeps (P : Text → Prop) : Change → Prop
  | .set _ value => P value
  | .report _ _ => True
  | .reject _ _ _ => False

/-- Given operands and stored values with a property, the operation yields and stores only texts with
the property, and rejects nothing. -/
def Operation.Preserves (P : Text → Prop) (op : Operation) : Prop :=
  ∀ e ctx, (∀ t ∈ e.operands, P t) → Store.All P ctx.values →
    P (op.execute e ctx).1 ∧ ∀ change ∈ (op.execute e ctx).2, change.Keeps P

/-- All its operations do so. -/
def Registry.Preserves (P : Text → Prop) (registry : Registry) : Prop :=
  ∀ op ∈ registry.operations, op.Preserves P

namespace Store

variable {P : Text → Prop} {s : Store}

theorem all_nil : All P [] := fun _ he => absurd he List.not_mem_nil

theorem All.set (h : All P s) {value : Text} (hv : P value) (name : Text) :
    All P (s.set name value) := by
  intro entry he
  rcases List.mem_cons.1 he with rfl | he
  · exact hv
  · exact h entry (List.mem_filter.1 he).1

theorem All.get? (h : All P s) {name value : Text} (hv : s.get? name = some value) : P value := by
  induction s with
  | nil => simp [Store.get?] at hv
  | cons entry s ih =>
    obtain ⟨k, v⟩ := entry
    rw [get?_cons] at hv
    split at hv
    · exact Option.some.inj hv ▸ h (k, v) List.mem_cons_self
    · exact ih (fun entry he => h entry (List.mem_cons_of_mem _ he)) hv

end Store

namespace Context

variable {P : Text → Prop} {ctx : Context}

theorem all_values_apply (h : Store.All P ctx.values) {change : Change} (hc : change.Keeps P) :
    Store.All P (ctx.apply change).values := by
  cases change with
  | set name value => exact h.set hc name
  | report opcode message => exact h
  | reject source opcode message => exact hc.elim

theorem rejections_apply {change : Change} (hc : change.Keeps P) :
    (ctx.apply change).rejections = ctx.rejections := by
  cases change with
  | set name value => rfl
  | report opcode message => rfl
  | reject source opcode message => exact hc.elim

/-- Changes that keep a property leave stored values that have it. -/
theorem all_values_applyAll {changes : List Change} (h : Store.All P ctx.values)
    (hc : ∀ change ∈ changes, change.Keeps P) : Store.All P (ctx.applyAll changes).values := by
  induction changes generalizing ctx with
  | nil => exact h
  | cons change changes ih =>
    exact ih (all_values_apply h (hc change List.mem_cons_self))
      (fun d hd => hc d (List.mem_cons_of_mem _ hd))

/-- Changes that reject nothing leave the counts alone. -/
theorem rejections_applyAll {changes : List Change} (hc : ∀ change ∈ changes, change.Keeps P) :
    (ctx.applyAll changes).rejections = ctx.rejections := by
  induction changes generalizing ctx with
  | nil => rfl
  | cons change changes ih =>
    rw [applyAll_cons, ih (fun d hd => hc d (List.mem_cons_of_mem _ hd)),
      rejections_apply (hc change List.mem_cons_self)]

end Context

/-- **What an evaluation keeps.**  An executed occurrence yields a text with the property, every other
one comes back as it is written, and the stored values have the property afterwards. -/
theorem Registry.Preserves.evaluate {P : Text → Prop} {registry : Registry}
    (h : registry.Preserves P) {e : Expression} {ctx : Context} (he : ∀ t ∈ e.operands, P t)
    (hs : Store.All P ctx.values) :
    ((evaluate registry e ctx).outcome = .executed → P (evaluate registry e ctx).text) ∧
      ((evaluate registry e ctx).outcome ≠ .executed →
        (evaluate registry e ctx).text = e.source) ∧
      Store.All P (evaluate registry e ctx).context.values := by
  rcases evaluate_cases registry e ctx with ⟨-, h1⟩ | ⟨op, -, r, -, -, h1⟩ | ⟨op, hop, -, -, h1⟩
  · rw [h1]
    exact ⟨by simp, fun _ => rfl, hs⟩
  · rw [h1]
    refine ⟨by simp, fun _ => rfl, ?_⟩
    rw [Context.values_reject]
    exact hs
  · rw [h1]
    obtain ⟨ht, hc⟩ := h op hop e ctx he hs
    exact ⟨fun _ => ht, by simp, Context.all_values_applyAll hs hc⟩

/-! ## 3. Operands

The operands of an expression are parts of its text between colons and bars, so they have every property
that is handed on to such parts. -/

theorem Text.property_of_mem_join {P : Text → Prop} {separator : Char}
    (hparts : ∀ s t, P (s ++ separator :: t) → P s ∧ P t) :
    ∀ {pieces : List Text}, P (join separator pieces) → ∀ piece ∈ pieces, P piece
  | [], _ => fun _ hp => absurd hp List.not_mem_nil
  | [piece], h => fun p hp => by
    rw [List.mem_singleton.1 hp]
    simpa using h
  | piece :: next :: pieces, h => fun p hp => by
    rw [join_cons_cons] at h
    obtain ⟨h1, h2⟩ := hparts _ _ h
    rcases List.mem_cons.1 hp with rfl | hp
    · exact h1
    · exact property_of_mem_join hparts h2 p hp

namespace Expression

theorem property_operands {P : Text → Prop} (hnil : P [])
    (hcolon : ∀ s t, P (s ++ ':' :: t) → P s ∧ P t) (hbar : ∀ s t, P (s ++ '|' :: t) → P s ∧ P t)
    {inner : Text} (h : P inner) : ∀ t ∈ (parse inner).operands, P t := by
  unfold parse
  cases hs : inner.splitFirst ':' with
  | none => simpa using hnil
  | some parts =>
    obtain ⟨opcode, block⟩ := parts
    rw [(Text.splitFirst_eq_some.1 hs).1] at h
    refine Text.property_of_mem_join hbar ?_
    rw [Text.join_splitOn]
    exact (hcolon _ _ h).2

end Expression

/-- The parts on both sides of a character are inert where the whole is. -/
theorem Text.Inert.parts {s t : Text} {c : Char} (hc : c ≠ '\\') (h : Inert (s ++ c :: t)) :
    Inert s ∧ Inert t := by
  obtain ⟨hf, hm⟩ := h
  obtain ⟨hs, -, ht⟩ := flat_append.1 hf
  have hb : (c == '\\') = false := by simp [hc]
  rw [hb] at ht
  simp only [List.mem_append, List.mem_cons, not_or] at hm
  exact ⟨⟨hs, hm.1⟩, ⟨ht, hm.2.2⟩⟩

/-- **Every operand between the braces of a match is inert**: neither a colon nor a bar is a
backslash. -/
theorem Expression.inert_operands {inner : Text} (h : Text.Inert inner) :
    ∀ t ∈ (parse inner).operands, Text.Inert t :=
  property_operands Text.inert_nil (fun _ _ => Text.Inert.parts (by decide))
    (fun _ _ => Text.Inert.parts (by decide)) h

/-! ## 4. Contexts that agree -/

/-- The requirements look at the operands, and the operation at the operands and the stored values. -/
structure Operation.ReadsValues (op : Operation) : Prop where
  holds : ∀ r ∈ op.requirements, ∀ e a b, r.holds e a = r.holds e b
  execute : ∀ e a b, a.values = b.values → op.execute e a = op.execute e b

/-- All its operations are of this kind. -/
def Registry.ReadsValues (registry : Registry) : Prop :=
  ∀ op ∈ registry.operations, op.ReadsValues

namespace Context

/-- The contexts differ at most in their counts of rejections. -/
structure Agrees (a b : Context) : Prop where
  args : a.args = b.args
  values : a.values = b.values
  errors : a.errors = b.errors

namespace Agrees

variable {a b c : Context}

theorem refl (a : Context) : a.Agrees a := ⟨rfl, rfl, rfl⟩

theorem symm (h : a.Agrees b) : b.Agrees a := ⟨h.args.symm, h.values.symm, h.errors.symm⟩

theorem trans (h : a.Agrees b) (h' : b.Agrees c) : a.Agrees c :=
  ⟨h.args.trans h'.args, h.values.trans h'.values, h.errors.trans h'.errors⟩

theorem beginPass (h : a.Agrees b) : a.beginPass.Agrees b := ⟨h.args, h.values, h.errors⟩

theorem report (h : a.Agrees b) (opcode message : Text) :
    (a.report opcode message).Agrees (b.report opcode message) :=
  ⟨h.args, h.values, by simp [Context.report, h.errors]⟩

theorem set (h : a.Agrees b) (name value : Text) : (a.set name value).Agrees (b.set name value) :=
  ⟨h.args, by simp [Context.set, h.values], h.errors⟩

theorem applyAll {P : Text → Prop} (h : a.Agrees b) {changes : List Change}
    (hc : ∀ change ∈ changes, change.Keeps P) : (a.applyAll changes).Agrees (b.applyAll changes) := by
  induction changes generalizing a b with
  | nil => exact h
  | cons change changes ih =>
    refine ih ?_ (fun d hd => hc d (List.mem_cons_of_mem _ hd))
    have hchange := hc change List.mem_cons_self
    cases change with
    | set name value => exact h.set name value
    | report opcode message => exact h.report opcode message
    | reject source opcode message => exact hchange.elim

end Agrees

/-- A rejection that is new to its pass is logged. -/
theorem reject_agrees_report {ctx : Context} {source opcode message : Text}
    (h : (ctx.rejections.find ⟨source, message⟩).earlier ≤
      (ctx.rejections.find ⟨source, message⟩).current) :
    (ctx.reject source opcode message).Agrees (ctx.report opcode message) := by
  simp only [reject, if_pos (Nat.lt_succ_of_le h)]
  exact ⟨rfl, rfl, rfl⟩

/-- A rejection that some earlier pass has seen is not logged again. -/
theorem reject_agrees_self {ctx : Context} {source opcode message : Text}
    (h : (ctx.rejections.find ⟨source, message⟩).current <
      (ctx.rejections.find ⟨source, message⟩).earlier) :
    (ctx.reject source opcode message).Agrees ctx := by
  simp only [reject, if_neg (Nat.not_lt.2 (Nat.succ_le_of_lt h))]
  exact ⟨rfl, rfl, rfl⟩

theorem rejections_reject (ctx : Context) (source opcode message : Text) :
    (ctx.reject source opcode message).rejections = ctx.rejections.record ⟨source, message⟩ := by
  simp only [reject]
  split <;> rfl

end Context

/-- Where all requirements fare the same, the same one is the first that fails. -/
theorem Operation.firstFailure_congr {op : Operation} {e : Expression} {a b : Context}
    (h : ∀ r ∈ op.requirements, r.holds e a = r.holds e b) :
    op.firstFailure e a = op.firstFailure e b := by
  rw [firstFailure, firstFailure, ← List.head?_filter, ← List.head?_filter]
  have hr : ∀ r ∈ op.requirements, (!r.holds e a) = !r.holds e b := fun r hr => by rw [h r hr]
  rw [List.filter_congr hr]

/-- How an occurrence fares is decided by the first requirement that fails. -/
theorem outcome_congr {registry : Registry} {e : Expression} {a b : Context}
    (h : ∀ op ∈ registry.operations, op.firstFailure e a = op.firstFailure e b) :
    (evaluate registry e a).outcome = (evaluate registry e b).outcome := by
  unfold evaluate
  cases hop : registry.get? e.opcode with
  | none => rfl
  | some op =>
    simp only [h op (Registry.mem_of_get? hop)]
    cases op.firstFailure e b with
    | some r => rfl
    | none => rfl

namespace Registry.ReadsValues

variable {registry : Registry} (h : registry.ReadsValues) {a b : Context}

include h

theorem firstFailure_eq {op : Operation} (hop : op ∈ registry.operations) (e : Expression)
    (a b : Context) : op.firstFailure e a = op.firstFailure e b :=
  Operation.firstFailure_congr fun r hr => (h op hop).holds r hr e a b

/-- How an occurrence fares does not depend on the context. -/
theorem outcome_eq (e : Expression) (a b : Context) :
    (evaluate registry e a).outcome = (evaluate registry e b).outcome :=
  outcome_congr fun _ hop => h.firstFailure_eq hop e a b

/-- **On stored values that are the same, an evaluation yields the same text.** -/
theorem text_eq (e : Expression) (hv : a.values = b.values) :
    (evaluate registry e a).text = (evaluate registry e b).text := by
  unfold evaluate
  cases hop : registry.get? e.opcode with
  | none => rfl
  | some op =>
    have hmem := Registry.mem_of_get? hop
    simp only [h.firstFailure_eq hmem e a b]
    cases op.firstFailure e b with
    | some r => rfl
    | none => simp only [Operation.run, (h op hmem).execute e a b hv]

end Registry.ReadsValues

/-! ## 5. Counts of rejections -/

/-- The rejection that an outcome counts, when the occurrence is written like this. -/
def Outcome.rejection? (source : Text) : Outcome → Option Rejection
  | .rejected message => some ⟨source, message⟩
  | _ => none

/-- No rejection has been met more often in an earlier pass than in this one. -/
def Context.CaughtUp (ctx : Context) : Prop :=
  ∀ q, (ctx.rejections.find q).earlier ≤ (ctx.rejections.find q).current

/-- What is not executed counts in this pass alone. -/
theorem Context.CaughtUp.evaluate {registry : Registry} {e : Expression} {ctx : Context}
    (h : ctx.CaughtUp) (hne : (evaluate registry e ctx).outcome ≠ .executed) :
    (TemplateExpansion.evaluate registry e ctx).context.CaughtUp := by
  rcases evaluate_cases registry e ctx with ⟨-, h1⟩ | ⟨op, -, r, -, -, h1⟩ | ⟨op, -, -, -, h1⟩
  · rw [h1]
    exact h
  · intro q
    rw [h1, rejections_reject, Ledger.find_record]
    split
    · exact Nat.le_succ_of_le (h _)
    · exact h q
  · rw [h1] at hne
    exact absurd rfl hne

/-- **Checking a known rejection again leaves no trace in the log.** -/
theorem agrees_evaluate_self {registry : Registry} {e : Expression} {ctx : Context}
    (hne : (evaluate registry e ctx).outcome ≠ .executed)
    (hq : ∀ q ∈ (evaluate registry e ctx).outcome.rejection? e.source,
      (ctx.rejections.find q).current < (ctx.rejections.find q).earlier) :
    (evaluate registry e ctx).context.Agrees ctx := by
  rcases evaluate_cases registry e ctx with ⟨-, h1⟩ | ⟨op, -, r, -, -, h1⟩ | ⟨op, -, -, -, h1⟩
  · rw [h1]
    exact .refl ctx
  · rw [h1] at hq ⊢
    exact Context.reject_agrees_self (hq _ rfl)
  · rw [h1] at hne
    exact absurd rfl hne

/-- Operations that keep to inert texts and look at nothing but operands and stored values. -/
structure Registry.Tame (registry : Registry) : Prop where
  preserves : registry.Preserves Text.Inert
  reads : registry.ReadsValues

namespace Registry.Tame

variable {registry : Registry} (h : registry.Tame) {e : Expression}
  (he : ∀ t ∈ e.operands, Text.Inert t)

include h he

/-- **An evaluation counts its own rejection and no other**, in this pass alone. -/
theorem find_evaluate {ctx : Context} (hs : Store.All Text.Inert ctx.values) (q : Rejection) :
    ((evaluate registry e ctx).context.rejections.find q).earlier =
        (ctx.rejections.find q).earlier ∧
      ((evaluate registry e ctx).context.rejections.find q).current =
        (ctx.rejections.find q).current +
          ((evaluate registry e ctx).outcome.rejection? e.source).toList.count q := by
  rcases evaluate_cases registry e ctx with ⟨-, h1⟩ | ⟨op, -, r, -, -, h1⟩ | ⟨op, hop, -, -, h1⟩
  · rw [h1]
    exact ⟨rfl, rfl⟩
  · rw [h1]
    simp only [Context.rejections_reject, Ledger.find_record, Outcome.rejection?, Option.toList_some,
      List.count_singleton]
    by_cases hq : q = ⟨e.source, r.message⟩
    · subst hq
      simp [Tally.count]
    · have hne : (⟨e.source, r.message⟩ == q) = false := by simpa using Ne.symm hq
      simp [hq, hne]
  · rw [h1]
    have hc := (h.preserves op hop e ctx he hs).2
    simp [Operation.run, Context.rejections_applyAll hc, Outcome.rejection?]

/-- **Contexts that agree and are caught up agree after an evaluation.** -/
theorem agrees_evaluate {a b : Context} (hab : a.Agrees b) (hs : Store.All Text.Inert a.values)
    (ha : a.CaughtUp) (hb : b.CaughtUp) :
    (evaluate registry e a).context.Agrees (evaluate registry e b).context := by
  unfold evaluate
  cases hop : registry.get? e.opcode with
  | none => exact hab
  | some op =>
    have hmem := Registry.mem_of_get? hop
    simp only [h.reads.firstFailure_eq hmem e a b]
    cases op.firstFailure e b with
    | some r =>
      exact (Context.reject_agrees_report (ha _)).trans
        ((hab.report _ _).trans (Context.reject_agrees_report (hb _)).symm)
    | none =>
      simp only [Operation.run, ← (h.reads op hmem).execute e a b hab.values]
      exact hab.applyAll (h.preserves op hmem e a he hs).2

end Registry.Tame

end TemplateExpansion
