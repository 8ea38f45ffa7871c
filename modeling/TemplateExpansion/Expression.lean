/-
# Expressions

The text between two braces names an operation and lists its operands: the first colon divides the
opcode from the operands, and bars separate the operands.  Only the first colon divides, so
`text:http://example.com` has the single operand `http://example.com`.

The main statement says that writing an expression that was read gives the text it was read from
(`source_parse`).
-/
import TemplateExpansion.Text

namespace TemplateExpansion

/-- An opcode with its operands.  `divided` tells `{get:}` from `{get}`: both have one empty
operand, and only the first one has a colon. -/
structure Expression where
  opcode : Text
  operands : List Text
  divided : Bool
  deriving Repr, DecidableEq

namespace Expression

/-- An expression put together from its parts; it has a colon as soon as it has an operand. -/
def make (opcode : Text) (operands : List Text) : Expression :=
  ⟨opcode, operands, !operands.isEmpty⟩

/-- Reads the text between two braces.  Without a colon there is one empty operand. -/
def parse (inner : Text) : Expression :=
  match inner.splitFirst ':' with
  | some (opcode, block) => ⟨opcode, Text.splitOn '|' block, true⟩
  | none => ⟨inner, [[]], false⟩

/-- The operand at an index, empty when there is none. -/
def operand (e : Expression) (index : Nat) : Text := e.operands.getD index []

/-- The opcode and the operands as they are written between braces. -/
def inner (e : Expression) : Text :=
  if e.divided ∧ e.operands ≠ [] then e.opcode ++ ':' :: Text.join '|' e.operands else e.opcode

/-- The expression as it is written, braces included. -/
def source (e : Expression) : Text := '{' :: (e.inner ++ ['}'])

theorem inner_parse (t : Text) : (parse t).inner = t := by
  unfold parse
  cases h : t.splitFirst ':' with
  | none => simp [inner]
  | some parts =>
    obtain ⟨opcode, block⟩ := parts
    have ht := (Text.splitFirst_eq_some.1 h).1
    simp [inner, Text.splitOn_ne_nil, Text.join_splitOn, ht]

/-- **Writing an expression that was read gives its text back**, byte for byte. -/
theorem source_parse (t : Text) : (parse t).source = '{' :: (t ++ ['}']) := by
  rw [source, inner_parse]

end Expression

end TemplateExpansion
