/-
# Which runs are aborted

What is not aborted yields what `evaluate`, `sweep` and `expand` say (`evaluate?_eq_some_iff`,
`sweep?_eq_some_iff`, `expand?_eq_some`).  If no operation of a registry is ever aborted, no evaluation over it
is, so no pass and no run (`expand?_of_neverAborts`).
-/
import TemplateExpansion.Abort

namespace TemplateExpansion

/-! ## 1. What comes back -/

theorem evaluate?_eq_some_iff {registry : Registry} {e : Expression} {ctx : Context} {r : Evaluation} :
    evaluate? registry e ctx = some r ↔ registry.aborts e ctx = false ∧ r = evaluate registry e ctx := by
  rw [evaluate?, Option.ite_none_left_eq_some, Bool.not_eq_true, Option.some.injEq, eq_comm (a := r)]

theorem evaluate?_eq_none_iff {registry : Registry} {e : Expression} {ctx : Context} :
    evaluate? registry e ctx = none ↔ registry.aborts e ctx = true := by
  simp [evaluate?]

theorem sweep?_eq_some_iff {registry : Registry} {ctx : Context} {source : Text} {s : Swept} :
    sweep? registry ctx source = some s ↔
      registry.abortsAmong ctx.beginPass
          ((sweep registry ctx source).visits.map fun v => (v.expression, v.evaluation)) = false ∧
        s = sweep registry ctx source := by
  rw [sweep?, Option.ite_none_left_eq_some, Bool.not_eq_true, Option.some.injEq, eq_comm (a := s)]

/-- **What a run comes to that is not aborted** is what the run comes to that takes this for granted. -/
theorem Progress.eq_run_of_run? {registry : Registry} {limit : Nat} {p q : Progress}
    (h : run? registry limit p = some q) : q = run registry limit p := by
  induction limit generalizing p with
  | zero => exact (Option.some.inj h).symm
  | succ limit ih =>
    rw [run?] at h
    cases hs : sweep? registry p.context p.working with
    | none =>
      rw [hs] at h
      exact absurd h (by simp)
    | some s =>
      obtain ⟨-, rfl⟩ := sweep?_eq_some_iff.1 hs
      rw [hs] at h
      have hnext : p.following (sweep registry p.context p.working) = p.next registry := rfl
      simp only [hnext] at h
      rw [run]
      by_cases hc : (p.next registry).converged = true
      · rw [if_pos hc] at h ⊢
        exact (Option.some.inj h).symm
      · rw [if_neg hc] at h ⊢
        exact ih h

theorem expand?_eq_some {registry : Registry} {limit : Nat} {args : List Text} {input : Text}
    {r : Except ExpansionError Expanded} (h : expand? registry limit args input = some r) :
    r = expand registry limit args input := by
  obtain ⟨q, hq, rfl⟩ := Option.map_eq_some_iff.1 h
  rw [Progress.eq_run_of_run? hq]
  rfl

/-- A run comes to something if its passes do. -/
theorem expand?_of_run? {registry : Registry} {limit : Nat} {args : List Text} {input : Text} {q : Progress}
    (h : Progress.run? registry limit (.start (.fresh args) input) = some q) :
    expand? registry limit args input = some (expand registry limit args input) := by
  have hresult : expand? registry limit args input = some q.result := by rw [expand?, h, Option.map_some]
  rw [hresult, expand?_eq_some hresult]

/-! ## 2. Operations that are never aborted -/

/-- No operation of the registry is ever aborted. -/
def Registry.NeverAborts (registry : Registry) : Prop :=
  ∀ op ∈ registry.operations, ∀ e ctx, op.aborts e ctx = false

section

variable {registry : Registry} (h : registry.NeverAborts)

include h

/-- Then no evaluation is. -/
theorem Registry.aborts_eq_false (e : Expression) (ctx : Context) : registry.aborts e ctx = false := by
  unfold aborts
  split
  · rfl
  · rename_i op hop
    rw [h op (List.mem_of_find?_eq_some hop) e ctx, Bool.and_false]

/-- Then no pass is. -/
theorem sweep?_of_neverAborts (ctx : Context) (source : Text) :
    sweep? registry ctx source = some (sweep registry ctx source) := by
  have hamong (evaluations : List (Expression × Evaluation)) (ctx : Context) :
      registry.abortsAmong ctx evaluations = false := by
    induction evaluations generalizing ctx with
    | nil => rfl
    | cons first later ih => rw [Registry.abortsAmong, Registry.aborts_eq_false h, ih, Bool.or_false]
  exact sweep?_eq_some_iff.2 ⟨hamong _ _, rfl⟩

theorem Progress.run?_of_neverAborts (limit : Nat) (p : Progress) :
    run? registry limit p = some (run registry limit p) := by
  induction limit generalizing p with
  | zero => rfl
  | succ limit ih =>
    have hnext : p.following (sweep registry p.context p.working) = p.next registry := rfl
    rw [run?, sweep?_of_neverAborts h, run]
    simp only [hnext, ih]
    split <;> rfl

/-- **Then no run is.** -/
theorem expand?_of_neverAborts (limit : Nat) (args : List Text) (input : Text) :
    expand? registry limit args input = some (expand registry limit args input) :=
  expand?_of_run? (Progress.run?_of_neverAborts h limit _)

end

end TemplateExpansion
