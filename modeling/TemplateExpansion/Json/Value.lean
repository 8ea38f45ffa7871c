/-
# Values in a JSON document

A value that is asked for is read as far as it takes to see what it is: a list or an object is seen at
its first bracket.  A value that nobody asks for is passed over, however deep its lists and objects go,
with one open bracket remembered for each of them.
-/
import TemplateExpansion.Json.Number
import TemplateExpansion.Decimal.Shortest
import TemplateExpansion.Text.Quoted

namespace TemplateExpansion
namespace Json

/-! ## 1. Values that are asked for -/

/-- What a value turns out to be. -/
inductive Value where
  | null
  | boolean (b : Bool)
  | number (n : Number)
  | string (t : Text)
  | list
  | object
  deriving Repr, DecidableEq

/-- How a diagnostic names a value that does not fit. -/
def Value.describe : Value → Text
  | .null => "null".toList
  | .boolean true => "boolean `true`".toList
  | .boolean false => "boolean `false`".toList
  | .number (.natural n) => "integer `".toList ++ Decimal.ofNat n ++ ['\x60']
  | .number (.negative n) => "integer `-".toList ++ Decimal.ofNat n ++ ['\x60']
  | .number (.fraction x) => "floating point `".toList ++ x.pointed ++ ['\x60']
  | .string t => "string ".toList ++ t.quoted
  | .list => "sequence".toList
  | .object => "map".toList

/-- A value with what is left after it; `ahead` says that the first byte of that has been looked at. -/
structure Seen where
  value : Value
  rest : Bytes
  ahead : Bool
  deriving Repr, DecidableEq

/-- The fault of a value that does not fit its place. -/
def Seen.unfit (seen : Seen) (message : Text) : Fault :=
  if seen.ahead then .looking (.unfit message) seen.rest else .before (.unfit message) seen.rest

/-- Reads a value, separators before it aside. -/
def readValue (rest : Bytes) : Except Fault Seen :=
  match skipSeparators rest with
  | [] => .error (.before .endInValue [])
  | b :: after =>
    if b = 0x6E then (readLiteral [0x75, 0x6C, 0x6C] after).map fun left => ⟨.null, left, false⟩
    else if b = 0x74 then
      (readLiteral [0x72, 0x75, 0x65] after).map fun left => ⟨.boolean true, left, false⟩
    else if b = 0x66 then
      (readLiteral [0x61, 0x6C, 0x73, 0x65] after).map fun left => ⟨.boolean false, left, false⟩
    else if b = 0x2D then
      (Number.read false after).map fun parts => ⟨.number parts.1, parts.2, true⟩
    else if isDigit b then
      (Number.read true (b :: after)).map fun parts => ⟨.number parts.1, parts.2, true⟩
    else if b = 0x22 then (readString after).map fun parts => ⟨.string parts.1, parts.2, false⟩
    else if b = 0x5B then .ok ⟨.list, b :: after, true⟩
    else if b = 0x7B then .ok ⟨.object, b :: after, true⟩
    else .error (.looking .expectedValue (b :: after))

/-! ## 2. Values that are passed over -/

/-- An open bracket. -/
inductive Bracket where
  | list
  | object
  deriving Repr, DecidableEq

namespace Bracket

/-- The byte that closes the bracket. -/
def close : Bracket → UInt8
  | .list => 0x5D
  | .object => 0x7D

/-- The document ended inside the bracket. -/
def atEnd : Bracket → Cause
  | .list => .endInList
  | .object => .endInObject

/-- Something stands where a comma or the closing bracket is due. -/
def expectedEnd : Bracket → Cause
  | .list => .expectedListEnd
  | .object => .expectedObjectEnd

end Bracket

/-- Passes over a value that is no list and no object, after its first byte `b`. -/
def skipSimple (b : UInt8) (after : Bytes) : Except Fault Bytes :=
  if b = 0x6E then readLiteral [0x75, 0x6C, 0x6C] after
  else if b = 0x74 then readLiteral [0x72, 0x75, 0x65] after
  else if b = 0x66 then readLiteral [0x61, 0x6C, 0x73, 0x65] after
  else if b = 0x2D then Number.skip after
  else if isDigit b then Number.skip (b :: after)
  else if b = 0x22 then skipString after
  else .error (.looking .expectedValue (b :: after))

/-- Passes over the key of a member and its colon, separators before them aside. -/
def skipKey (rest : Bytes) : Except Fault Bytes :=
  match skipSeparators rest with
  | [] => .error (.before .endInObject [])
  | b :: after =>
    if b = 0x22 then
      match skipString after with
      | .error fault => .error fault
      | .ok rest =>
        match skipSeparators rest with
        | [] => .error (.before .endInObject [])
        | b :: after => if b = 0x3A then .ok after else .error (.looking .expectedColon (b :: after))
    else .error (.looking .keyNotString (b :: after))

/-- Goes to the next value inside an open bracket: in an object its key comes first. -/
def toNextValue (bracket : Bracket) (rest : Bytes) : Except Fault Bytes :=
  match bracket with
  | .list => .ok rest
  | .object => skipKey rest

/-- Where passing over a value has come to. -/
inductive SkipState where
  /-- A value is due. -/
  | value (rest : Bytes)
  /-- A value has ended. -/
  | ended (rest : Bytes)
  deriving Repr, DecidableEq

/-- Passes over what is due inside open brackets, the innermost first.  Every second step takes at
least one byte, so twice as many steps as there are bytes are enough. -/
def skipWithin : Nat → List Bracket → SkipState → Except Fault Bytes
  | 0, _, .value rest => .error (.looking .expectedValue rest)
  | 0, _, .ended rest => .ok rest
  | steps + 1, open_, .value rest =>
    match skipSeparators rest with
    | [] => .error (.before .endInValue [])
    | b :: after =>
      let opened := if b = 0x5B then some Bracket.list else if b = 0x7B then some .object else none
      match opened with
      | none =>
        match skipSimple b after with
        | .error fault => .error fault
        | .ok rest => skipWithin steps open_ (.ended rest)
      | some bracket =>
        match skipSeparators after with
        | [] => .error (.before bracket.atEnd [])
        | c :: rest =>
          if c = bracket.close then skipWithin steps open_ (.ended rest)
          else match toNextValue bracket (c :: rest) with
            | .error fault => .error fault
            | .ok rest => skipWithin steps (bracket :: open_) (.value rest)
  | _ + 1, [], .ended rest => .ok rest
  | steps + 1, bracket :: open_, .ended rest =>
    match skipSeparators rest with
    | [] => .error (.before bracket.atEnd [])
    | c :: after =>
      if c = bracket.close then skipWithin steps open_ (.ended after)
      else if c = 0x2C then
        match toNextValue bracket after with
        | .error fault => .error fault
        | .ok rest => skipWithin steps (bracket :: open_) (.value rest)
      else .error (.looking bracket.expectedEnd (c :: after))

/-- Passes over a value, separators before it aside. -/
def skipValue (rest : Bytes) : Except Fault Bytes :=
  skipWithin (2 * rest.length + 2) [] (.value rest)

end Json
end TemplateExpansion
