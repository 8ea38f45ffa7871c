/-
# Quoted texts

A text inside a message is quoted so that every character of it can be told apart: between double
quotes, with a backslash before quotes and backslashes, letters for the common controls, and the
code point for what would not print on its own.
-/
import TemplateExpansion.Text
import TemplateExpansion.Text.Printable

namespace TemplateExpansion
namespace Text

/-- The digits of a number in base sixteen, in lower case. -/
def hexDigits (n : Nat) : Text := Nat.toDigits 16 n

/-- A character by its code point, as in `\u{200b}`. -/
def codeEscape (c : Char) : Text := "\\u\x7b".toList ++ hexDigits c.toNat ++ ['}']

/-- One character between double quotes. -/
def quotedChar (c : Char) : Text :=
  if c.toNat = 0 then ['\\', '0']
  else if c = '\t' then ['\\', 't']
  else if c = '\r' then ['\\', 'r']
  else if c = '\n' then ['\\', 'n']
  else if c = '\\' then ['\\', '\\']
  else if c = '\"' then ['\\', '\"']
  else if printsAlone c then [c]
  else codeEscape c

/-- A text between double quotes. -/
def quoted (t : Text) : Text := '\"' :: (t.flatMap quotedChar ++ ['\"'])

end Text
end TemplateExpansion
