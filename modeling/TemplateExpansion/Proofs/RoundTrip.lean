/-
# Reading what was written, and writing what was read

`Expression.parse` reads what stands between two braces, `Expression.source` writes it with its braces.
Writing what was read gives the text back, whatever the text is (`source_parse`).  The other way round
it is not so for every expression, since not every expression is the outcome of reading: reading puts no
colon into an opcode, no bar into an operand, and always finds an operand.

* `Legible` names these conditions, and every expression that was read meets them (`legible_parse`).
* An expression is read back from its text exactly when it is legible (`parse_inner_eq_self_iff`).  The
  flag `divided` takes part in this: without a colon there is the one empty operand and no other.
* For an expression put together by `make` this comes to conditions on opcode and operands alone
  (`round_trip`).
-/
import TemplateExpansion.Expression

namespace TemplateExpansion

/-! ## 1. Pieces -/

/-- No piece of a text has the separator in it. -/
theorem Text.not_mem_of_mem_splitOn {separator : Char} {t piece : Text}
    (h : piece ∈ splitOn separator t) : separator ∉ piece := by
  induction t generalizing piece with
  | nil =>
    rw [List.mem_singleton.1 h]
    exact List.not_mem_nil
  | cons c t ih =>
    rw [splitOn_cons] at h
    cases ht : splitOn separator t with
    | nil => exact absurd ht (splitOn_ne_nil separator t)
    | cons first pieces =>
      rw [ht] at h ih
      obtain ⟨hfirst, hpieces⟩ := List.forall_mem_cons.1 @ih
      by_cases hc : c = separator
      · rw [splitStep, if_pos hc] at h
        rcases List.mem_cons.1 h with rfl | h
        · exact List.not_mem_nil
        · exact ih h
      · rw [splitStep, if_neg hc] at h
        rcases List.mem_cons.1 h with rfl | h
        · intro hmem
          rcases List.mem_cons.1 hmem with rfl | hmem
          · exact hc rfl
          · exact hfirst hmem
        · exact hpieces piece h

namespace Expression

/-! ## 2. Legible expressions -/

/-- The expression can be the outcome of reading: its opcode has no colon; if it is divided it has
operands, none of them with a bar, and if not it has the one empty operand. -/
structure Legible (e : Expression) : Prop where
  opcode : ':' ∉ e.opcode
  divided : e.divided = true → e.operands ≠ [] ∧ ∀ operand ∈ e.operands, '|' ∉ operand
  undivided : e.divided = false → e.operands = [[]]

/-- **What was read is legible.** -/
theorem legible_parse (t : Text) : (parse t).Legible := by
  unfold parse
  cases hs : t.splitFirst ':' with
  | none =>
    have hcolon : ':' ∉ t := Text.splitFirst_eq_none.1 hs
    exact ⟨hcolon, fun h => absurd h Bool.false_ne_true, fun _ => rfl⟩
  | some parts =>
    obtain ⟨opcode, block⟩ := parts
    have hcolon : ':' ∉ opcode := (Text.splitFirst_eq_some.1 hs).2
    refine ⟨hcolon, fun _ => ⟨Text.splitOn_ne_nil '|' block, ?_⟩, fun h => absurd h.symm Bool.false_ne_true⟩
    intro operand ho
    exact Text.not_mem_of_mem_splitOn ho

/-- **What is legible is read back** from what stands between its braces. -/
theorem Legible.parse_inner {e : Expression} (h : e.Legible) : parse e.inner = e := by
  obtain ⟨opcode, operands, divided⟩ := e
  obtain ⟨hcolon, hdivided, hundivided⟩ := h
  cases divided with
  | false =>
    obtain rfl : operands = [[]] := hundivided rfl
    have hnone : opcode.splitFirst ':' = none := Text.splitFirst_eq_none.2 hcolon
    have hinner : (⟨opcode, [[]], false⟩ : Expression).inner = opcode := if_neg (by simp)
    rw [hinner, parse, hnone]
  | true =>
    obtain ⟨hne, hbars⟩ := hdivided rfl
    have hfirst : (opcode ++ ':' :: Text.join '|' operands).splitFirst ':' =
        some (opcode, Text.join '|' operands) := Text.splitFirst_eq_some.2 ⟨rfl, hcolon⟩
    have hinner : (⟨opcode, operands, true⟩ : Expression).inner =
        opcode ++ ':' :: Text.join '|' operands := if_pos ⟨rfl, hne⟩
    rw [hinner, parse, hfirst]
    simp only [Text.splitOn_join hne hbars]

/-- **An expression is read back exactly when it is legible.** -/
theorem parse_inner_eq_self_iff {e : Expression} : parse e.inner = e ↔ e.Legible := by
  constructor
  · intro h
    rw [← h]
    exact legible_parse e.inner
  · intro h
    exact h.parse_inner

/-! ## 3. Expressions put together from their parts -/

/-- Without its braces, what is written of an expression is what stands between them. -/
theorem dropLast_tail_source (e : Expression) : e.source.tail.dropLast = e.inner := by
  rw [source, List.tail_cons, List.dropLast_concat]

/-- Put together from an opcode and operands, an expression is legible exactly when there is an operand,
the opcode has no colon, and no operand has a bar. -/
theorem legible_make_iff {opcode : Text} {operands : List Text} :
    (make opcode operands).Legible ↔
      operands ≠ [] ∧ ':' ∉ opcode ∧ ∀ operand ∈ operands, '|' ∉ operand := by
  constructor
  · rintro ⟨hcolon, hdivided, hundivided⟩
    cases operands with
    | nil =>
      -- Reading never leaves the list of operands empty.
      exact absurd (hundivided rfl) (List.cons_ne_nil _ _).symm
    | cons operand operands =>
      obtain ⟨hne, hbars⟩ := hdivided rfl
      exact ⟨hne, hcolon, hbars⟩
  · rintro ⟨hne, hcolon, hbars⟩
    cases operands with
    | nil => exact absurd rfl hne
    | cons operand operands =>
      exact ⟨hcolon, fun _ => ⟨hne, hbars⟩, fun h => absurd h.symm Bool.false_ne_true⟩

/-- **The round trips of expressions.**  Whatever stands between two braces, writing what was read from it
gives the same text with its braces.  And an expression put together from an opcode and operands is read
back from its text without the braces, the flag `divided` included, exactly when there is an operand, the
opcode has no colon, and no operand has a bar. -/
theorem round_trip :
    (∀ inner : Text, (parse inner).source = '{' :: (inner ++ ['}'])) ∧
      ∀ (opcode : Text) (operands : List Text),
        parse (make opcode operands).source.tail.dropLast = make opcode operands ↔
          operands ≠ [] ∧ ':' ∉ opcode ∧ ∀ operand ∈ operands, '|' ∉ operand := by
  refine ⟨source_parse, ?_⟩
  intro opcode operands
  rw [dropLast_tail_source, parse_inner_eq_self_iff]
  exact legible_make_iff

/-- An opcode with a colon is cut at it. -/
example : parse (make "a:b".toList ["c".toList]).source.tail.dropLast =
    ⟨"a".toList, ["b:c".toList], true⟩ := by decide

end Expression

end TemplateExpansion
