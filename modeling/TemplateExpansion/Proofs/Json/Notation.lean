/-
# The notation of JSON documents

The grammar of a document, as data.  A part of a document is what its bytes are written from: a string is a
list of pieces, a number has a whole part and perhaps a fraction and an exponent, and a list or an object holds
a `Phrase` with its gaps.  So every part is well formed by construction, and any bytes of the grammar are those
of some part.

What a part stands for is a function of its own.  The pieces of a string need not make a text, since a piece may
be half of a character (`Spelling.text?`).  A number is one of 64 bits or it is not (`Numeral.natural?`).
-/
import TemplateExpansion.Json.Value

namespace TemplateExpansion
namespace Json

/-! ## 1. Gaps -/

/-- A character that separates parts of a document. -/
inductive Blank where
  | space
  | lineFeed
  | tab
  | carriageReturn
  deriving Repr, DecidableEq

/-- The byte of a separating character. -/
def Blank.byte : Blank → UInt8
  | .space => 0x20
  | .lineFeed => 0x0A
  | .tab => 0x09
  | .carriageReturn => 0x0D

/-- What may stand between two parts. -/
abbrev Gap := List Blank

/-- The bytes of a gap. -/
def Gap.bytes (g : Gap) : Bytes := g.map Blank.byte

/-! ## 2. Strings -/

/-- A character with an escape of one letter. -/
inductive Letter where
  | quote
  | backslash
  | slash
  | backspace
  | formFeed
  | lineFeed
  | carriageReturn
  | tab
  deriving Repr, DecidableEq

namespace Letter

/-- The letter of the escape. -/
def byte : Letter → UInt8
  | .quote => 0x22
  | .backslash => 0x5C
  | .slash => 0x2F
  | .backspace => 0x62
  | .formFeed => 0x66
  | .lineFeed => 0x6E
  | .carriageReturn => 0x72
  | .tab => 0x74

/-- The character. -/
def char : Letter → Char
  | .quote => '\"'
  | .backslash => '\\'
  | .slash => '/'
  | .backspace => '\x08'
  | .formFeed => '\x0c'
  | .lineFeed => '\n'
  | .carriageReturn => '\r'
  | .tab => '\t'

end Letter

/-- A digit in base sixteen.  From ten on it is a letter, which may be large or small. -/
structure HexDigit where
  value : Fin 16
  isLarge : Bool
  deriving Repr, DecidableEq

/-- The byte of a digit in base sixteen. -/
def HexDigit.byte (d : HexDigit) : UInt8 :=
  if d.value.val < 10 then UInt8.ofNat (0x30 + d.value.val)
  else UInt8.ofNat ((if d.isLarge then 0x41 else 0x61) + (d.value.val - 10))

/-- Four digits in base sixteen. -/
structure CodeUnit where
  first : HexDigit
  second : HexDigit
  third : HexDigit
  fourth : HexDigit
  deriving Repr, DecidableEq

namespace CodeUnit

/-- The number that the digits make. -/
def value (u : CodeUnit) : Nat :=
  ((u.first.value.val * 16 + u.second.value.val) * 16 + u.third.value.val) * 16 + u.fourth.value.val

/-- The bytes of the digits. -/
def bytes (u : CodeUnit) : Bytes := [u.first.byte, u.second.byte, u.third.byte, u.fourth.byte]

end CodeUnit

/-- A character may stand for itself in a string. -/
def IsPlain (c : Char) : Prop := 0x20 ≤ c.toNat ∧ c ≠ '\"' ∧ c ≠ '\\'

instance (c : Char) : Decidable (IsPlain c) := inferInstanceAs (Decidable (_ ∧ _))

/-- A piece of a string. -/
inductive Piece where
  /-- A character that stands for itself. -/
  | plain (c : Char) (h : IsPlain c)
  /-- An escape of one letter. -/
  | letter (l : Letter)
  /-- An escape by number. -/
  | code (u : CodeUnit)

/-- The bytes of a piece. -/
def Piece.bytes : Piece → Bytes
  | .plain c _ => String.utf8EncodeChar c
  | .letter l => [0x5C, l.byte]
  | .code u => 0x5C :: 0x75 :: u.bytes

/-- A string between its quotes. -/
abbrev Spelling := List Piece

namespace Spelling

/-- The bytes of a string between its quotes. -/
def bytes (s : Spelling) : Bytes := s.flatMap Piece.bytes

/-- The text that a string stands for.  An escape by number may be one half of a character; then the other
half has to follow. -/
def text? : Spelling → Option Text
  | [] => some []
  | .plain c _ :: s => (text? s).map (c :: ·)
  | .letter l :: s => (text? s).map (l.char :: ·)
  | .code u :: s =>
    if 0xDC00 ≤ u.value ∧ u.value ≤ 0xDFFF then none
    else if 0xD800 ≤ u.value ∧ u.value ≤ 0xDBFF then
      match s with
      | .code v :: s =>
        if 0xDC00 ≤ v.value ∧ v.value ≤ 0xDFFF then
          (text? s).map (Char.ofNat (0x10000 + (u.value - 0xD800) * 0x400 + (v.value - 0xDC00)) :: ·)
        else none
      | _ => none
    else (text? s).map (Char.ofNat u.value :: ·)

end Spelling

/-! ## 3. Numbers -/

/-- The byte of a digit. -/
def digitByte (d : Fin 10) : UInt8 := UInt8.ofNat (0x30 + d.val)

/-- At least one digit. -/
structure Digits where
  first : Fin 10
  others : List (Fin 10)
  deriving Repr, DecidableEq

/-- The bytes of digits. -/
def Digits.bytes (d : Digits) : Bytes := digitByte d.first :: d.others.map digitByte

/-- The sign of an exponent. -/
inductive Sign where
  | none
  | plus
  | minus
  deriving Repr, DecidableEq

/-- The bytes of a sign. -/
def Sign.bytes : Sign → Bytes
  | .none => []
  | .plus => [0x2B]
  | .minus => [0x2D]

/-- An exponent with its letter, which may be large or small. -/
structure Exponent where
  isLarge : Bool
  sign : Sign
  digits : Digits
  deriving Repr, DecidableEq

/-- The bytes of an exponent. -/
def Exponent.bytes (e : Exponent) : Bytes :=
  (if e.isLarge then 0x45 else 0x65) :: (e.sign.bytes ++ e.digits.bytes)

/-- The bytes of an exponent where there is one. -/
def exponentBytes : Option Exponent → Bytes
  | none => []
  | some e => e.bytes

/-- A number.  The digits before a point have no zero in front, so they are those of one whole number. -/
structure Numeral where
  isNegative : Bool
  whole : Nat
  fraction : Option Digits
  exponent : Option Exponent
  deriving Repr, DecidableEq

namespace Numeral

/-- The bytes after the digits before a point. -/
def tail (n : Numeral) : Bytes :=
  match n.fraction with
  | none => exponentBytes n.exponent
  | some d => 0x2E :: (d.bytes ++ exponentBytes n.exponent)

/-- The bytes after the sign. -/
def unsigned (n : Numeral) : Bytes := Utf8.encode (Decimal.ofNat n.whole) ++ n.tail

/-- The bytes of a number. -/
def bytes (n : Numeral) : Bytes := if n.isNegative then 0x2D :: n.unsigned else n.unsigned

/-- The whole number of 64 bits that a number is. -/
def natural? : Numeral → Option Nat
  | ⟨false, whole, none, none⟩ => if whole ≤ Decimal.maxUnsigned then some whole else none
  | _ => none

end Numeral

/-! ## 4. Values -/

/-- A value that is no list and no object. -/
inductive Simple where
  | null
  | boolean (b : Bool)
  | number (n : Numeral)
  | string (s : Spelling)

/-- The bytes of such a value. -/
def Simple.bytes : Simple → Bytes
  | .null => [0x6E, 0x75, 0x6C, 0x6C]
  | .boolean true => [0x74, 0x72, 0x75, 0x65]
  | .boolean false => [0x66, 0x61, 0x6C, 0x73, 0x65]
  | .number n => n.bytes
  | .string s => 0x22 :: (s.bytes ++ [0x22])

/-- The byte that opens a bracket. -/
def Bracket.opening : Bracket → UInt8
  | .list => 0x5B
  | .object => 0x7B

/-- What stands before a value inside a bracket: a gap, and in an object the name with its colon. -/
inductive Lead : Bracket → Type where
  | gap (g : Gap) : Lead .list
  | key (before : Gap) (name : Spelling) (beforeColon afterColon : Gap) : Lead .object

/-- The bytes before a value inside a bracket. -/
def Lead.bytes : {bracket : Bracket} → Lead bracket → Bytes
  | _, .gap g => g.bytes
  | _, .key before name beforeColon afterColon =>
    before.bytes ++ 0x22 :: (name.bytes ++ 0x22 :: (beforeColon.bytes ++ 0x3A :: afterColon.bytes))

/-- The parts that hold one another: values, and what stands inside a bracket. -/
inductive Part where
  | value
  | inside (bracket : Bracket)
  deriving Repr, DecidableEq

/-- A value, or the values inside a bracket that is not empty. -/
inductive Phrase : Part → Type where
  | simple (s : Simple) : Phrase .value
  | empty (bracket : Bracket) (g : Gap) : Phrase .value
  | nest {bracket : Bracket} (items : Phrase (.inside bracket)) : Phrase .value
  | last {bracket : Bracket} (lead : Lead bracket) (value : Phrase .value) (after : Gap) :
      Phrase (.inside bracket)
  | more {bracket : Bracket} (lead : Lead bracket) (value : Phrase .value) (after : Gap)
      (items : Phrase (.inside bracket)) : Phrase (.inside bracket)

namespace Phrase

/-- The bytes of a phrase. -/
def bytes : {part : Part} → Phrase part → Bytes
  | _, .simple s => s.bytes
  | _, .empty bracket g => bracket.opening :: (g.bytes ++ [bracket.close])
  | _, @nest bracket items => bracket.opening :: (items.bytes ++ [bracket.close])
  | _, .last lead value after => lead.bytes ++ (value.bytes ++ after.bytes)
  | _, .more lead value after items => lead.bytes ++ (value.bytes ++ (after.bytes ++ 0x2C :: items.bytes))

/-- The whole number of 64 bits or the text that a value stands for. -/
def scalar? : Phrase .value → Option Value
  | .simple (.number n) => n.natural?.map (.number ∘ .natural)
  | .simple (.string s) => s.text?.map .string
  | _ => none

end Phrase

/-! ## 5. Documents -/

/-- A value inside a bracket, with what stands around it. -/
structure Entry (bracket : Bracket) where
  lead : Lead bracket
  value : Phrase .value
  after : Gap

/-- The bytes of a value inside a bracket. -/
def Entry.bytes {bracket : Bracket} (entry : Entry bracket) : Bytes :=
  entry.lead.bytes ++ (entry.value.bytes ++ entry.after.bytes)

/-- A document that is a list or an object. -/
structure Document (bracket : Bracket) where
  before : Gap
  /-- What follows the opening bracket, which may be all there is inside. -/
  inside : Gap
  entries : List (Entry bracket)
  after : Gap

/-- The bytes of a document. -/
def Document.bytes {bracket : Bracket} (d : Document bracket) : Bytes :=
  d.before.bytes ++ bracket.opening :: (d.inside.bytes ++
    ([0x2C].intercalate (d.entries.map Entry.bytes) ++ bracket.close :: d.after.bytes))

end Json
end TemplateExpansion
