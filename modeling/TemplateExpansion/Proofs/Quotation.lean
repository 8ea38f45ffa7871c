/-
# Quotation

`Text.escape` writes a backslash before every opening brace.  No brace of the outcome opens, whatever the text
has in it (`flat_escape`): two braces that meet get a backslash between them, and a backslash that stood
before a brace stands before the new one.

A text in which no brace opens has nothing to evaluate, so one pass leaves it and the context as they are
(`sweep_of_flat`), and the run is over (`Progress.run_of_flat`).  What remains is to drop the escapes, and
that gives the text back (`expand_escape`).
-/
import TemplateExpansion.Builtin.Standard
import TemplateExpansion.Proofs.Course

namespace TemplateExpansion

open Text

/-! ## 1. No brace of an escaped text opens -/

/-- **No brace of an escaped text opens**, whether or not a backslash stands before the text. -/
theorem Text.flat_escape (escaped : Bool) (t : Text) : Flat escaped t.escape := by
  induction t generalizing escaped with
  | nil => exact flat_nil escaped
  | cons c t ih =>
    by_cases hc : c = '{'
    · rw [hc, escape_brace]
      exact ⟨fun h => absurd h (by decide), fun _ => rfl, ih _⟩
    · rw [escape_cons hc]
      exact ⟨fun h => absurd h hc, ih _⟩

/-! ## 2. Nothing to evaluate -/

section

variable {t : Text} (h : Flat false t) (registry : Registry)

include h

/-- A pass over a text in which no brace opens evaluates nothing. -/
theorem sweep_of_flat (ctx : Context) : sweep registry ctx t = ⟨t, ctx.beginPass, []⟩ := by
  have hnone : Cut.first? false (Sweep.start ctx.beginPass t).rest = none := Cut.first?_of_flat h
  have hrun : Sweep.run registry (.start ctx.beginPass t) = .start ctx.beginPass t := by
    rw [Sweep.run]
    split
    · rfl
    · rename_i cut hcut
      exact absurd (hnone.symm.trans hcut) (by simp)
  rw [sweep, hrun]
  rfl

theorem Progress.next_of_flat (ctx : Context) :
    (start ctx t).next registry = ⟨t, ctx.beginPass, 1, true⟩ := by
  have hpass : sweep registry (start ctx t).context (start ctx t).working = ⟨t, ctx.beginPass, []⟩ :=
    sweep_of_flat h registry ctx
  have hsame : (t == t) = true := beq_self_eq_true t
  rw [next, hpass]
  exact congrArg (Progress.mk t ctx.beginPass 1) hsame

variable {limit : Nat} (hlimit : 1 ≤ limit)

include hlimit

/-- **It is expanded in one pass**, which leaves the text alone and evaluates nothing. -/
theorem Progress.run_of_flat (ctx : Context) :
    run registry limit (start ctx t) = ⟨t, ctx.beginPass, 1, true⟩ ∧
      (start ctx t).visits registry limit = [] := by
  obtain ⟨limit, rfl⟩ := Nat.exists_eq_succ_of_ne_zero (Nat.ne_of_gt hlimit)
  have hnext := next_of_flat h registry ctx
  refine ⟨?_, ?_⟩
  · rw [run, hnext]
    rfl
  · have hpass : sweep registry (start ctx t).context (start ctx t).working = ⟨t, ctx.beginPass, []⟩ :=
      sweep_of_flat h registry ctx
    rw [visits, hnext, hpass]
    rfl

end

/-! ## 3. Quotation -/

/-- **Escaping is a faithful quotation.**  Under every limit that allows a pass, an escaped text is expanded
in one pass to the text itself.  Nothing is evaluated, nothing is logged, and the context is as fresh as
before; so the text comes back by dropping the escapes, even if backslashes stood before its braces. -/
theorem expand_escape (registry : Registry) (args : List Text) (t : Text) {limit : Nat} (hlimit : 1 ≤ limit) :
    expand registry limit args t.escape = .ok ⟨t, []⟩ ∧
      Progress.run registry limit (.start (.fresh args) t.escape) = ⟨t.escape, .fresh args, 1, true⟩ ∧
      (Progress.start (.fresh args) t.escape).visits registry limit = [] ∧
      t.escape.unescape = t := by
  have hflat : Flat false t.escape := flat_escape false t
  have hfresh : (Context.fresh args).beginPass = .fresh args := rfl
  obtain ⟨hrun, hvisits⟩ := Progress.run_of_flat hflat registry hlimit (.fresh args)
  rw [hfresh] at hrun
  have hexpanded : (⟨t.escape, .fresh args, 1, true⟩ : Progress).expanded = ⟨t, []⟩ :=
    congrArg (Expanded.mk · []) (unescape_escape t)
  refine ⟨?_, hrun, hvisits, unescape_escape t⟩
  rw [expand_of_converged (congrArg Progress.converged hrun), hrun, hexpanded]

/-- Backslashes before a brace, two braces that meet, and an expression. -/
theorem expand_escape_backslashes :
    1 ≤ 1 ∧ Text.escape "\\\\\x7b\x7bpi\x7d\\".toList = "\\\\\\\x7b\\\x7bpi\x7d\\".toList ∧
      expand (.builtins .standard none) 1 [] "\\\\\\\x7b\\\x7bpi\x7d\\".toList =
        .ok ⟨"\\\\\x7b\x7bpi\x7d\\".toList, []⟩ := by
  have hescape : Text.escape "\\\\\x7b\x7bpi\x7d\\".toList = "\\\\\\\x7b\\\x7bpi\x7d\\".toList := by decide
  obtain ⟨hexpand, -⟩ :=
    expand_escape (.builtins .standard none) [] "\\\\\x7b\x7bpi\x7d\\".toList (Nat.le_refl 1)
  exact ⟨Nat.le_refl 1, hescape, hescape ▸ hexpand⟩

end TemplateExpansion
