/-
# Templates as trees

A template is a list of items: literals, and expressions whose operands are templates again.  This
file writes a template as a text (`Template.render`) and says what it means without any pass over that
text (`Template.interpret`): from left to right, operands first, with one context threaded through.
An expression that is not executed is stuck.  So is every expression around it, which is then not even
checked.

What is not stuck has no mark in it (`Template.interpret_clean`), so an expression made from operands
that are not stuck can be read back from its text (`parse_ofOperands`).
-/
import TemplateExpansion.Proofs.Effects
import TemplateExpansion.Proofs.RoundTrip

namespace TemplateExpansion

/-! ## 1. Characters to avoid -/

namespace Text

/-- None of the characters is in the text. -/
def Avoids (marks : List Char) (t : Text) : Prop := ∀ c ∈ t, c ∉ marks

instance (marks : List Char) (t : Text) : Decidable (Avoids marks t) :=
  List.decidableBAll (fun c => c ∉ marks) t

/-- Nothing in a literal is a brace or a backslash. -/
def marks : List Char := ['{', '}', '\\']

/-- Inside an operand nothing is a bar either. -/
def operandMarks : List Char := '|' :: marks

/-- Nor is anything in an opcode a colon. -/
def opcodeMarks : List Char := ':' :: operandMarks

variable {cs ds : List Char} {s t : Text}

@[simp] theorem avoids_nil (cs : List Char) : Avoids cs [] := fun _ h => absurd h List.not_mem_nil

@[simp] theorem avoids_append : Avoids cs (s ++ t) ↔ Avoids cs s ∧ Avoids cs t := List.forall_mem_append

@[simp] theorem avoids_cons {c : Char} : Avoids cs (c :: t) ↔ c ∉ cs ∧ Avoids cs t :=
  List.forall_mem_cons

theorem Avoids.not_mem (h : Avoids cs t) {c : Char} (hc : c ∈ cs) : c ∉ t := fun ht => h c ht hc

theorem Avoids.mono (h : Avoids ds t) (hsub : cs ⊆ ds) : Avoids cs t := fun c hc hm => h c hc (hsub hm)

theorem marks_subset_operandMarks : marks ⊆ operandMarks := List.subset_cons_self _ _

/-- Pieces one after the other, the first led in by one separator and the others by bars. -/
def led (separator : Char) : List Text → Text
  | [] => []
  | piece :: pieces => separator :: (piece ++ led '|' pieces)

/-- Past the first separator, led pieces are joined pieces. -/
theorem led_cons (separator : Char) (piece : Text) (pieces : List Text) :
    led separator (piece :: pieces) = separator :: join '|' (piece :: pieces) := by
  induction pieces generalizing separator piece with
  | nil => simp [led]
  | cons next pieces ih => rw [led, ih, join_cons_cons]

theorem avoids_led {separator : Char} (hs : separator ∉ cs) (hbar : '|' ∉ cs) {pieces : List Text}
    (h : ∀ piece ∈ pieces, Avoids cs piece) : Avoids cs (led separator pieces) := by
  induction pieces generalizing separator with
  | nil => exact avoids_nil cs
  | cons piece pieces ih =>
    simp only [led, avoids_cons, avoids_append]
    exact ⟨hs, h piece List.mem_cons_self, ih hbar fun p hp => h p (List.mem_cons_of_mem _ hp)⟩

end Text

/-! ## 2. Expressions of operands -/

/-- The expression of an opcode and operands.  Written without operands it has one empty operand. -/
def Expression.ofOperands (opcode : Text) (operands : List Text) : Expression :=
  if operands = [] then ⟨opcode, [[]], false⟩ else ⟨opcode, operands, true⟩

theorem Expression.inner_ofOperands (opcode : Text) (operands : List Text) :
    (ofOperands opcode operands).inner = opcode ++ Text.led ':' operands := by
  cases operands with
  | nil => simp [ofOperands, inner, Text.led]
  | cons operand operands => simp [ofOperands, inner, Text.led_cons]

/-- **What is written from operands without bars is read back.** -/
theorem Expression.parse_ofOperands {opcode : Text} (ho : ':' ∉ opcode) {operands : List Text}
    (h : ∀ operand ∈ operands, '|' ∉ operand) :
    parse (ofOperands opcode operands).inner = ofOperands opcode operands := by
  apply Legible.parse_inner
  cases operands with
  | nil => exact ⟨ho, fun h => absurd h Bool.false_ne_true, fun _ => rfl⟩
  | cons operand operands =>
    exact ⟨ho, fun _ => ⟨List.cons_ne_nil _ _, h⟩, fun h => absurd h.symm Bool.false_ne_true⟩

/-! ## 3. Items -/

/-- A literal, or an expression whose operands are lists of items. -/
inductive Item where
  | literal (t : Text)
  | node (opcode : Text) (operands : List (List Item))
  deriving Repr

/-- A template is a list of items. -/
abbrev Template := List Item

mutual

/-- An item as it is written. -/
def Item.render : Item → Text
  | .literal t => t
  | .node opcode operands => (Expression.ofOperands opcode (Template.renderAll operands)).source

/-- A template as it is written. -/
def Template.render : List Item → Text
  | [] => []
  | i :: t => i.render ++ Template.render t

/-- Templates as they are written. -/
def Template.renderAll : List (List Item) → List Text
  | [] => []
  | t :: ts => Template.render t :: Template.renderAll ts

end

mutual

/-- The number of expressions in an item. -/
def Item.nodes : Item → Nat
  | .literal _ => 0
  | .node _ operands => Template.nodesAll operands + 1

/-- The number of expressions in a template. -/
def Template.nodes : List Item → Nat
  | [] => 0
  | i :: t => i.nodes + Template.nodes t

/-- The number of expressions in templates. -/
def Template.nodesAll : List (List Item) → Nat
  | [] => 0
  | t :: ts => Template.nodes t + Template.nodesAll ts

end

mutual

/-- The literals of an item avoid the marks.  Its opcodes and the literals in its operands avoid what
would divide them. -/
def Item.isWellFormed (marks : List Char) : Item → Bool
  | .literal t => decide (t.Avoids marks)
  | .node opcode operands =>
    decide (opcode.Avoids Text.opcodeMarks) && Template.allWellFormed operands

/-- All items of a template are well-formed. -/
def Template.isWellFormed (marks : List Char) : List Item → Bool
  | [] => true
  | i :: t => i.isWellFormed marks && Template.isWellFormed marks t

/-- All operands are well-formed. -/
def Template.allWellFormed : List (List Item) → Bool
  | [] => true
  | t :: ts => Template.isWellFormed Text.operandMarks t && Template.allWellFormed ts

end

/-! ## 4. Interpretation -/

/-- What interpreting a template yields: its text, whether a stuck expression is left in it, and the
context. -/
structure Reading where
  text : Text
  stuck : Bool
  context : Context
  deriving Repr, DecidableEq

/-- What interpreting operands yields: the text of each, whether a stuck expression is left in any, and
the context. -/
structure Readings where
  texts : List Text
  stuck : Bool
  context : Context
  deriving Repr, DecidableEq

/-- Performs the operation of an expression.  If it is unknown the expression is stuck, and if a
requirement fails it is stuck and the failure is logged. -/
def Expression.perform (registry : Registry) (e : Expression) (ctx : Context) : Reading :=
  match registry.get? e.opcode with
  | none => ⟨e.source, true, ctx⟩
  | some op =>
    match op.firstFailure e ctx with
    | some r => ⟨e.source, true, ctx.report e.opcode r.message⟩
    | none => ⟨(op.run e ctx).1, false, (op.run e ctx).2⟩

mutual

/-- Interprets an item.  An expression around a stuck one is stuck and neither checked nor logged. -/
def Item.interpret (registry : Registry) : Item → Context → Reading
  | .literal t, ctx => ⟨t, false, ctx⟩
  | .node opcode operands, ctx =>
    let read := Template.interpretAll registry operands ctx
    let e := Expression.ofOperands opcode read.texts
    if read.stuck then ⟨e.source, true, read.context⟩ else e.perform registry read.context

/-- Interprets the items of a template from left to right. -/
def Template.interpret (registry : Registry) : List Item → Context → Reading
  | [], ctx => ⟨[], false, ctx⟩
  | i :: t, ctx =>
    let first := i.interpret registry ctx
    let others := Template.interpret registry t first.context
    ⟨first.text ++ others.text, first.stuck || others.stuck, others.context⟩

/-- Interprets operands from left to right. -/
def Template.interpretAll (registry : Registry) : List (List Item) → Context → Readings
  | [], ctx => ⟨[], false, ctx⟩
  | t :: ts, ctx =>
    let first := Template.interpret registry t ctx
    let others := Template.interpretAll registry ts first.context
    ⟨first.text :: others.texts, first.stuck || others.stuck, others.context⟩

end

/-! ## 5. What is not stuck is clean -/

/-- Nothing in the text divides operands, or opens, closes or escapes anything. -/
abbrev Text.Clean : Text → Prop := Text.Avoids Text.operandMarks

theorem Expression.clean_ofOperands {opcode : Text} {operands : List Text}
    (h : ∀ t ∈ operands, t.Clean) : ∀ t ∈ (ofOperands opcode operands).operands, t.Clean := by
  unfold ofOperands
  split
  · intro t ht
    rw [List.mem_singleton.1 ht]
    exact Text.avoids_nil _
  · exact h

/-- Between the braces of an expression of clean operands nothing is a mark. -/
theorem Expression.inner_avoids {opcode : Text} (ho : opcode.Avoids Text.opcodeMarks)
    {operands : List Text} (h : ∀ t ∈ operands, t.Clean) :
    (ofOperands opcode operands).inner.Avoids Text.marks := by
  rw [inner_ofOperands]
  refine Text.avoids_append.2 ⟨ho.mono (by decide), ?_⟩
  refine Text.avoids_led (by decide) (by decide) fun t ht => ?_
  exact (h t ht).mono Text.marks_subset_operandMarks

/-- On clean operands and stored values, performing an expression yields and stores only clean texts. -/
theorem Expression.perform_clean {registry : Registry} (hr : registry.Preserves Text.Clean)
    {e : Expression} (he : ∀ t ∈ e.operands, t.Clean) {ctx : Context}
    (hs : Store.All Text.Clean ctx.values) :
    Store.All Text.Clean (e.perform registry ctx).context.values ∧
      ((e.perform registry ctx).stuck = false → (e.perform registry ctx).text.Clean) := by
  unfold perform
  cases hop : registry.get? e.opcode with
  | none => exact ⟨hs, by simp⟩
  | some op =>
    obtain ⟨ht, hc⟩ := hr op (Registry.mem_of_get? hop) e ctx he hs
    simp only
    cases hf : op.firstFailure e ctx with
    | some r => exact ⟨hs, by simp⟩
    | none =>
      exact ⟨Context.all_values_applyAll hs hc, fun _ => ht⟩

mutual

/-- **An item that is not stuck yields a text without marks**, and only clean texts are stored. -/
theorem Item.interpret_clean {registry : Registry} (hr : registry.Preserves Text.Clean)
    {marks : List Char} (hm : marks ⊆ Text.operandMarks) {i : Item}
    (hi : i.isWellFormed marks = true) {ctx : Context} (hs : Store.All Text.Clean ctx.values) :
    Store.All Text.Clean (i.interpret registry ctx).context.values ∧
      ((i.interpret registry ctx).stuck = false → (i.interpret registry ctx).text.Avoids marks) := by
  cases i with
  | literal t =>
    have ht : t.Avoids marks := by simpa [Item.isWellFormed] using hi
    exact ⟨hs, fun _ => ht⟩
  | node opcode operands =>
    simp only [Item.isWellFormed, Bool.and_eq_true] at hi
    obtain ⟨h1, h2⟩ := Template.interpretAll_clean hr hi.2 hs
    simp only [Item.interpret]
    cases hstuck : (Template.interpretAll registry operands ctx).stuck with
    | true => exact ⟨h1, by simp⟩
    | false =>
      obtain ⟨h3, h4⟩ := Expression.perform_clean hr (Expression.clean_ofOperands (h2 hstuck)) h1
      exact ⟨h3, fun h => (h4 h).mono hm⟩

/-- So does a template. -/
theorem Template.interpret_clean {registry : Registry} (hr : registry.Preserves Text.Clean)
    {marks : List Char} (hm : marks ⊆ Text.operandMarks) {t : Template}
    (ht : Template.isWellFormed marks t = true) {ctx : Context}
    (hs : Store.All Text.Clean ctx.values) :
    Store.All Text.Clean (Template.interpret registry t ctx).context.values ∧
      ((Template.interpret registry t ctx).stuck = false →
        (Template.interpret registry t ctx).text.Avoids marks) := by
  cases t with
  | nil => exact ⟨hs, fun _ => Text.avoids_nil _⟩
  | cons i t =>
    simp only [Template.isWellFormed, Bool.and_eq_true] at ht
    obtain ⟨h1, h2⟩ := Item.interpret_clean hr hm ht.1 hs
    obtain ⟨h3, h4⟩ := Template.interpret_clean hr hm ht.2 h1
    refine ⟨h3, fun h => ?_⟩
    simp only [Template.interpret, Bool.or_eq_false_iff] at h
    exact Text.avoids_append.2 ⟨h2 h.1, h4 h.2⟩

/-- So does each of several operands. -/
theorem Template.interpretAll_clean {registry : Registry} (hr : registry.Preserves Text.Clean)
    {ts : List Template} (ht : Template.allWellFormed ts = true) {ctx : Context}
    (hs : Store.All Text.Clean ctx.values) :
    Store.All Text.Clean (Template.interpretAll registry ts ctx).context.values ∧
      ((Template.interpretAll registry ts ctx).stuck = false →
        ∀ t ∈ (Template.interpretAll registry ts ctx).texts, t.Clean) := by
  cases ts with
  | nil => exact ⟨hs, fun _ t ht => absurd ht List.not_mem_nil⟩
  | cons t ts =>
    simp only [Template.allWellFormed, Bool.and_eq_true] at ht
    obtain ⟨h1, h2⟩ := Template.interpret_clean hr (fun _ h => h) ht.1 hs
    obtain ⟨h3, h4⟩ := Template.interpretAll_clean hr ht.2 h1
    refine ⟨h3, fun h => ?_⟩
    simp only [Template.interpretAll, Bool.or_eq_false_iff] at h
    exact List.forall_mem_cons.2 ⟨h2 h.1, h4 h.2⟩

end

/-! ## 6. Closing braces -/

/-- The separators between pieces close nothing. -/
theorem Text.count_led {separator : Char} (hs : separator ≠ '}') (pieces : List Text) :
    (led separator pieces).count '}' = pieces.flatten.count '}' := by
  induction pieces generalizing separator with
  | nil => rfl
  | cons piece pieces ih =>
    have hbar : ('|' : Char) ≠ '}' := by decide
    rw [led, List.count_cons_of_ne hs, List.count_append, ih hbar, List.flatten_cons, List.count_append]

mutual

/-- **There are as many closing braces in an item as it is written as there are expressions.** -/
theorem Item.count_render {marks : List Char} (hm : '}' ∈ marks) {i : Item}
    (hi : i.isWellFormed marks = true) : i.render.count '}' = i.nodes := by
  cases i with
  | literal t =>
    have ht : t.Avoids marks := by simpa [Item.isWellFormed] using hi
    exact List.count_eq_zero.2 (ht.not_mem hm)
  | node opcode operands =>
    simp only [Item.isWellFormed, Bool.and_eq_true, decide_eq_true_eq] at hi
    have hopcode : opcode.count '}' = 0 := List.count_eq_zero.2 (hi.1.not_mem (by decide))
    have hall := Template.count_renderAll hi.2
    have hcolon : (':' : Char) ≠ '}' := by decide
    have hled := Text.count_led hcolon (Template.renderAll operands)
    simp only [Item.render, Item.nodes, Expression.source, Expression.inner_ofOperands,
      List.count_cons, List.count_append]
    simp [hopcode, hled, hall]

/-- So there are in a template. -/
theorem Template.count_render {marks : List Char} (hm : '}' ∈ marks) {t : Template}
    (ht : Template.isWellFormed marks t = true) :
    (Template.render t).count '}' = Template.nodes t := by
  cases t with
  | nil => rfl
  | cons i t =>
    simp only [Template.isWellFormed, Bool.and_eq_true] at ht
    rw [Template.render, List.count_append, Item.count_render hm ht.1,
      Template.count_render hm ht.2, Template.nodes]

/-- So there are in operands. -/
theorem Template.count_renderAll {ts : List Template} (ht : Template.allWellFormed ts = true) :
    (Template.renderAll ts).flatten.count '}' = Template.nodesAll ts := by
  cases ts with
  | nil => rfl
  | cons t ts =>
    simp only [Template.allWellFormed, Bool.and_eq_true] at ht
    rw [Template.renderAll, List.flatten_cons, List.count_append,
      Template.count_render (by decide) ht.1, Template.count_renderAll ht.2, Template.nodesAll]

end

end TemplateExpansion
