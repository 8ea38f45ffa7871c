/-
# Faults in a JSON document

A document is read byte by byte, at times one byte ahead.  A fault lies where reading had come to,
except that of a string whose bytes make no text.  It keeps the number of bytes after its place, from
which the line and the column follow.  Lines are counted from one, and the column is the number of bytes
of the line up to the place.
-/
import TemplateExpansion.Decimal.Integer

namespace TemplateExpansion
namespace Json

/-- The bytes of a document, or what is left of them. -/
abbrev Bytes := List UInt8

/-- What is wrong with a document. -/
inductive Cause where
  | endInValue
  | endInList
  | endInObject
  | endInString
  | expectedColon
  | expectedListEnd
  | expectedObjectEnd
  | expectedLiteral
  | expectedValue
  | invalidEscape
  | invalidNumber
  | numberOutOfRange
  | invalidCodePoint
  | controlCharacter
  | keyNotString
  | loneSurrogate
  | unfinishedSurrogate
  | trailingComma
  | trailingCharacters
  /-- The document is well formed so far, and a value in it is not what its place asks for. -/
  | unfit (message : Text)
  deriving Repr, DecidableEq

/-- The three kinds of cause. -/
inductive Category where
  | endOfInput
  | grammar
  | data
  deriving Repr, DecidableEq

namespace Cause

/-- The wording of each cause. -/
def message : Cause → Text
  | .endInValue => "EOF while parsing a value".toList
  | .endInList => "EOF while parsing a list".toList
  | .endInObject => "EOF while parsing an object".toList
  | .endInString => "EOF while parsing a string".toList
  | .expectedColon => "expected `:`".toList
  | .expectedListEnd => "expected `,` or `]`".toList
  | .expectedObjectEnd => "expected `,` or `\x7d`".toList
  | .expectedLiteral => "expected ident".toList
  | .expectedValue => "expected value".toList
  | .invalidEscape => "invalid escape".toList
  | .invalidNumber => "invalid number".toList
  | .numberOutOfRange => "number out of range".toList
  | .invalidCodePoint => "invalid unicode code point".toList
  | .controlCharacter => "control character (\\u0000-\\u001F) found while parsing a string".toList
  | .keyNotString => "key must be a string".toList
  | .loneSurrogate => "lone leading surrogate in hex escape".toList
  | .unfinishedSurrogate => "unexpected end of hex escape".toList
  | .trailingComma => "trailing comma".toList
  | .trailingCharacters => "trailing characters".toList
  | .unfit message => message

/-- The kind of each cause. -/
def category : Cause → Category
  | .endInValue | .endInList | .endInObject | .endInString => .endOfInput
  | .unfit _ => .data
  | _ => .grammar

end Cause

/-- A cause, with the number of bytes after its place; mostly these had not been looked at. -/
structure Fault where
  cause : Cause
  unread : Nat
  deriving Repr, DecidableEq

namespace Fault

/-- A fault met with the rest of the document not looked at. -/
def before (cause : Cause) (rest : Bytes) : Fault := ⟨cause, rest.length⟩

/-- A fault met after a look at the first byte of the rest, or at its end. -/
def looking (cause : Cause) (rest : Bytes) : Fault := ⟨cause, rest.length - 1⟩

/-- The line of a fault in its document. -/
def line (fault : Fault) (document : Bytes) : Nat :=
  1 + (document.take (document.length - fault.unread)).count 0x0A

/-- The column of a fault in its document. -/
def column (fault : Fault) (document : Bytes) : Nat :=
  ((document.take (document.length - fault.unread)).reverse.takeWhile (· != 0x0A)).length

/-- The cause and the place of a fault. -/
def message (fault : Fault) (document : Bytes) : Text :=
  fault.cause.message ++ " at line ".toList ++ Decimal.ofNat (fault.line document) ++
    " column ".toList ++ Decimal.ofNat (fault.column document)

end Fault

end Json
end TemplateExpansion
