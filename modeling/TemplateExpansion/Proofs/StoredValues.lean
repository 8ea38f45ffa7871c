/-
# What is stored and what is logged

The built-in operations change the context in two ways: `set` stores one value, and all others report at most
one thing (`changes_operation`).  So one evaluation stores what its expression says and nothing else, and adds
at most one entry to the log (`logsAtMostOne_evaluate`).  After a history of evaluations a key has the value that
the latest expression stored under it (`get?_evaluateEach`), and `get` yields this value.
-/
import Mathlib.Data.List.Induction
import TemplateExpansion.Builtin.Standard
import TemplateExpansion.Proofs.Effects
import TemplateExpansion.Proofs.Registration

namespace TemplateExpansion

/-! ## 1. What an expression stores -/

namespace Expression

/-- The expression stores a value: it is one of `set`, and neither its key nor its value is empty or
missing. -/
def IsStoring (e : Expression) : Prop :=
  e.opcode = Builtin.opcode .set ∧ e.operand 0 ≠ [] ∧ e.operand 1 ≠ []

instance : DecidablePred IsStoring := fun _ => inferInstanceAs (Decidable (_ ∧ _ ∧ _))

/-- The value that the expression stores under a key. -/
def stored? (key : Text) (e : Expression) : Option Text :=
  if e.IsStoring ∧ e.operand 0 = key then some (e.operand 1) else none

/-- The value that the latest of the expressions stores under a key. -/
def latest? (key : Text) (history : List Expression) : Option Text :=
  history.reverse.findSome? (stored? key)

theorem latest?_concat (key : Text) (history : List Expression) (e : Expression) :
    latest? key (history ++ [e]) = (e.stored? key).or (latest? key history) := by
  rw [latest?, List.reverse_append, List.reverse_singleton, List.singleton_append, List.findSome?_cons]
  cases e.stored? key <;> rfl

end Expression

/-! ## 2. One evaluation -/

/-- The log is the one before with at most one more entry. -/
def Context.LogsAtMostOne (before after : Context) : Prop :=
  ∃ added : List Text, added.length ≤ 1 ∧ after.errors = before.errors ++ added

namespace Context

theorem LogsAtMostOne.refl (ctx : Context) : ctx.LogsAtMostOne ctx :=
  ⟨[], Nat.zero_le 1, (List.append_nil _).symm⟩

theorem logsAtMostOne_report (ctx : Context) (opcode message : Text) :
    ctx.LogsAtMostOne (ctx.report opcode message) :=
  ⟨[entry opcode message], Nat.le_refl 1, rfl⟩

theorem logsAtMostOne_reject (ctx : Context) (source opcode message : Text) :
    ctx.LogsAtMostOne (ctx.reject source opcode message) := by
  rw [reject]
  split
  · exact ⟨[entry opcode message], Nat.le_refl 1, rfl⟩
  · exact ⟨[], Nat.zero_le 1, (List.append_nil _).symm⟩

end Context

section

variable (settings : Settings) (fetch : Fetcher)

/-- **Every built-in operation but `set` reports at most one thing** and does nothing else to the context. -/
theorem Builtin.changes_operation {b : Builtin} (hb : b ≠ .set) (e : Expression) (ctx : Context) :
    ((b.operation settings fetch).execute e ctx).2 = [] ∨
      ∃ message, ((b.operation settings fetch).execute e ctx).2 = [.report b.opcode message] := by
  cases b with
  | set => exact absurd rfl hb
  | e => exact .inl rfl
  | pi => exact .inl rfl
  | get => exact .inl rfl
  | note => exact .inl rfl
  | add =>
    simp only [operation, operation?, Option.get_some, Operation.add]
    cases Operation.sum e.operands with
    | ok total => exact .inl rfl
    | error cause => exact .inr ⟨cause.message, rfl⟩
  | replicate =>
    simp only [operation, operation?, Option.get_some, Operation.replicate]
    cases Operation.repeatText settings.maxRepeat settings.maxRepeatBytes (e.operand 0) (e.operand 1) with
    | ok t => exact .inl rfl
    | error cause => exact .inr ⟨cause.message, rfl⟩
  | text =>
    simp only [operation, operation?, Option.map_some, Option.get_some, Operation.text]
    cases fetch (e.operand 0) with
    | ok body => exact .inl rfl
    | error cause => exact .inr ⟨cause.message, rfl⟩

theorem Registry.get?_standard (b : Builtin) :
    (Registry.standard settings fetch).get? b.opcode = some (b.operation settings fetch) := by
  cases b <;> rfl

/-- What is found under an opcode is the built-in operation of this opcode. -/
theorem Registry.exists_builtin_of_get? {name : Text} {op : Operation}
    (h : (Registry.standard settings fetch).get? name = some op) :
    ∃ b : Builtin, op = b.operation settings fetch ∧ b.opcode = name := by
  obtain ⟨hmem, hname⟩ := Registry.get?_eq_some_iff.1 h
  obtain ⟨b, -, rfl⟩ := List.mem_map.1 (Registry.mem_ofList hmem)
  exact ⟨b, rfl, (Builtin.name_operation settings fetch b).symm.trans hname⟩

variable (e : Expression) (ctx : Context)

/-- The requirement of `set` is that there are a key and a value. -/
theorem Operation.firstFailure_set :
    Operation.set.firstFailure e ctx = none ↔ e.operand 0 ≠ [] ∧ e.operand 1 ≠ [] := by
  rw [Operation.firstFailure_eq_none]
  simp [Operation.set]

/-- **A storing expression stores its value** and yields nothing. -/
theorem evaluate_of_isStoring {e : Expression} (h : e.IsStoring) :
    evaluate (.standard settings fetch) e ctx =
      ⟨[], ctx.set (e.operand 0) (e.operand 1), .executed⟩ := by
  obtain ⟨hopcode, hoperands⟩ := h
  have hget : (Registry.standard settings fetch).get? e.opcode = some .set :=
    hopcode ▸ Registry.get?_standard settings fetch .set
  have hnone : Operation.set.firstFailure e ctx = none := (Operation.firstFailure_set e ctx).2 hoperands
  rw [evaluate, hget]
  simp only [hnone]
  rfl

/-- **No other expression stores anything**, and it logs at most one thing, however its evaluation ends. -/
theorem evaluate_of_not_isStoring {e : Expression} (h : ¬e.IsStoring) :
    (evaluate (.standard settings fetch) e ctx).context.values = ctx.values ∧
      ctx.LogsAtMostOne (evaluate (.standard settings fetch) e ctx).context := by
  rcases evaluate_cases (.standard settings fetch) e ctx with
    ⟨-, hresult⟩ | ⟨op, -, r, -, -, hresult⟩ | ⟨op, -, hget, hnone, hresult⟩
  · rw [hresult]
    exact ⟨rfl, .refl ctx⟩
  · rw [hresult]
    exact ⟨Context.values_reject ctx _ _ _, Context.logsAtMostOne_reject ctx _ _ _⟩
  · rw [hresult]
    obtain ⟨b, rfl, hopcode⟩ := Registry.exists_builtin_of_get? settings fetch hget
    by_cases hb : b = .set
    · subst hb
      exact absurd ⟨hopcode.symm, (Operation.firstFailure_set e ctx).1 hnone⟩ h
    · rcases Builtin.changes_operation settings fetch hb e ctx with hchanges | ⟨message, hchanges⟩
      · rw [Operation.run, hchanges]
        exact ⟨rfl, .refl ctx⟩
      · rw [Operation.run, hchanges]
        exact ⟨rfl, Context.logsAtMostOne_report ctx _ message⟩

/-- **The value under a key** after an evaluation is the one that the expression stores under it, or else the one
before. -/
theorem get?_evaluate (key : Text) :
    (evaluate (.standard settings fetch) e ctx).context.get? key = (e.stored? key).or (ctx.get? key) := by
  rw [Expression.stored?]
  by_cases h : e.IsStoring
  · rw [evaluate_of_isStoring settings fetch ctx h, Context.get?, Context.set, Store.get?_set]
    by_cases hkey : key = e.operand 0
    · rw [if_pos hkey, if_pos ⟨h, hkey.symm⟩]
      rfl
    · rw [if_neg hkey, if_neg fun hboth => hkey hboth.2.symm]
      rfl
  · rw [if_neg fun hboth => h hboth.1, Option.none_or, Context.get?,
      (evaluate_of_not_isStoring settings fetch ctx h).1]
    rfl

/-- `get` yields the value under its operand, and leaves the context as it was. -/
theorem evaluate_recall {e : Expression} (h : e.opcode = Builtin.opcode .get) :
    evaluate (.standard settings fetch) e ctx = ⟨(ctx.get? (e.operand 0)).getD [], ctx, .executed⟩ := by
  have hget : (Registry.standard settings fetch).get? e.opcode = some .get :=
    h ▸ Registry.get?_standard settings fetch .get
  rw [evaluate, hget]
  rfl

theorem logsAtMostOne_evaluate :
    ctx.LogsAtMostOne (evaluate (.standard settings fetch) e ctx).context := by
  by_cases h : e.IsStoring
  · rw [evaluate_of_isStoring settings fetch ctx h]
    exact .refl ctx
  · exact (evaluate_of_not_isStoring settings fetch ctx h).2

end

/-! ## 3. Evaluations one after the other -/

/-- The context after expressions are evaluated one after the other. -/
def Context.evaluateEach (registry : Registry) (ctx : Context) (history : List Expression) : Context :=
  history.foldl (fun ctx e => (evaluate registry e ctx).context) ctx

namespace Context

theorem evaluateEach_concat (registry : Registry) (ctx : Context) (history : List Expression)
    (e : Expression) :
    ctx.evaluateEach registry (history ++ [e]) =
      (evaluate registry e (ctx.evaluateEach registry history)).context := by
  rw [evaluateEach, List.foldl_append]
  rfl

/-- No evaluation touches the arguments. -/
theorem args_evaluateEach (registry : Registry) (ctx : Context) (history : List Expression) :
    (ctx.evaluateEach registry history).args = ctx.args := by
  induction history using List.reverseRecOn with
  | nil => rfl
  | append_singleton history e ih => rw [evaluateEach_concat, args_evaluate, ih]

/-- **A key has the value that was stored under it last.** -/
theorem get?_evaluateEach (settings : Settings) (fetch : Fetcher) (ctx : Context)
    (history : List Expression) (key : Text) :
    (ctx.evaluateEach (.standard settings fetch) history).get? key =
      (Expression.latest? key history).or (ctx.get? key) := by
  induction history using List.reverseRecOn with
  | nil => rfl
  | append_singleton history e ih =>
    rw [evaluateEach_concat, get?_evaluate, ih, Expression.latest?_concat, Option.or_assoc]

end Context

/-- **Storing and logging are disciplined.**  Evaluate expressions one after the other on one context, with the
built-in operations and any fetcher, and then one more expression.

* If it is one of `get`, it yields the value that the latest expression stored under its operand, or else what was
  there at the start, which is nothing in a fresh context; and it leaves the context as it was.
* If it is one of `set` with a key and a value, it is executed, and its key has its value from then on, while
  every other key keeps its own.
* If it is anything else, all stored values stay, however its evaluation ends.
* The arguments are those from the start, and the log is the one before with at most one more entry. -/
theorem builtins_discipline (settings : Settings) (fetch : Fetcher) (start : Context)
    (history : List Expression) (e : Expression) :
    let registry := Registry.standard settings fetch
    let ctx := start.evaluateEach registry history
    let result := evaluate registry e ctx
    (e.opcode = Builtin.opcode .get →
        result.text = ((Expression.latest? (e.operand 0) history).or (start.get? (e.operand 0))).getD [] ∧
          result.context = ctx) ∧
      (e.IsStoring → result.outcome = .executed ∧
        ∀ key, result.context.get? key = if key = e.operand 0 then some (e.operand 1) else ctx.get? key) ∧
      (¬e.IsStoring → result.context.values = ctx.values) ∧
      result.context.args = start.args ∧
      ∃ added : List Text, added.length ≤ 1 ∧ result.context.errors = ctx.errors ++ added := by
  intro registry ctx result
  refine ⟨?_, ?_, ?_, ?_, logsAtMostOne_evaluate settings fetch e ctx⟩
  · intro hget
    have hresult : result = ⟨(ctx.get? (e.operand 0)).getD [], ctx, .executed⟩ :=
      evaluate_recall settings fetch ctx hget
    rw [hresult, ← Context.get?_evaluateEach settings fetch start history]
    exact ⟨rfl, rfl⟩
  · intro hstoring
    have hresult : result = ⟨[], ctx.set (e.operand 0) (e.operand 1), .executed⟩ :=
      evaluate_of_isStoring settings fetch ctx hstoring
    rw [hresult]
    refine ⟨rfl, fun key => ?_⟩
    exact Store.get?_set ctx.values (e.operand 0) (e.operand 1) key
  · intro hstoring
    exact (evaluate_of_not_isStoring settings fetch ctx hstoring).1
  · rw [← Context.args_evaluateEach registry start history]
    exact args_evaluate registry e ctx

/-- A missing value and a failed fetch are logged once each, and store nothing. -/
example :
    let registry := Registry.standard .standard fun _ => .error .missingUrl
    let history := ["set:k|1", "set:k|", "text:", "set:k|2", "get:k"].map fun s => Expression.parse s.toList
    let after := (Context.fresh []).evaluateEach registry history
    after.get? ['k'] = some ['2'] ∧
      after.errors = ["set: both a key and a value are required", "text: no URL given"].map String.toList := by
  decide

end TemplateExpansion
