/-
# Settings written as a JSON document

Settings are written as an object without gaps, with the six fields in their order.  The time for a fetch is
written in milliseconds.  In a string only what has to be escaped is escaped: quotes, backslashes and control
characters, which have an escape of one letter or else their number.
-/
import TemplateExpansion.Settings.Reader

namespace TemplateExpansion

namespace Json

/-- How a character is written in a string. -/
def writeChar (c : Char) : Text :=
  if c = '\"' then ['\\', '\"']
  else if c = '\\' then ['\\', '\\']
  else if c = '\x08' then ['\\', 'b']
  else if c = '\x0c' then ['\\', 'f']
  else if c = '\n' then ['\\', 'n']
  else if c = '\r' then ['\\', 'r']
  else if c = '\t' then ['\\', 't']
  else if c.toNat < 0x20 then
    ['\\', 'u', '0', '0', Nat.digitChar (c.toNat / 16), Nat.digitChar (c.toNat % 16)]
  else [c]

/-- How a text is written as a string. -/
def writeString (t : Text) : Text := '\"' :: (t.flatMap writeChar ++ ['\"'])

end Json

namespace Settings

/-- How the value of a field is written. -/
def writeValue (s : Settings) : Field → Text
  | .maxIterations => Decimal.ofNat s.maxIterations
  | .fetchTimeout => Decimal.ofNat s.fetchTimeout
  | .maxFetchBytes => Decimal.ofNat s.maxFetchBytes
  | .userAgent => Json.writeString s.userAgent
  | .maxRepeat => Decimal.ofNat s.maxRepeat
  | .maxRepeatBytes => Decimal.ofNat s.maxRepeatBytes

/-- How a field is written with its name. -/
def writeMember (s : Settings) (field : Field) : Text :=
  Json.writeString field.name ++ ':' :: s.writeValue field

/-- The document of settings. -/
def write (s : Settings) : Text :=
  '\x7b' :: ([','].intercalate (Field.all.map s.writeMember) ++ ['\x7d'])

end Settings

end TemplateExpansion
