/-
# Settings from a JSON document

The settings are an object whose members are the six fields, each at most once and in any order, or a
list of the fields in their order.  What is missing keeps its standard value, and members of other
names are passed over.  A value that does not fit its field is a fault as soon as it is read, and so is
a second member for one field as soon as its name is read.
-/
import TemplateExpansion.Settings
import TemplateExpansion.Json.Value

namespace TemplateExpansion

open Json

/-! ## 1. Fields -/

/-- A field of the settings, in the order of a list. -/
inductive Settings.Field where
  | maxIterations
  | fetchTimeout
  | maxFetchBytes
  | userAgent
  | maxRepeat
  | maxRepeatBytes
  deriving Repr, DecidableEq

namespace Settings

namespace Field

/-- All fields in their order. -/
def all : List Field :=
  [.maxIterations, .fetchTimeout, .maxFetchBytes, .userAgent, .maxRepeat, .maxRepeatBytes]

/-- The name of a field in a document. -/
def name : Field → Text
  | .maxIterations => "max_iterations".toList
  | .fetchTimeout => "fetch_timeout".toList
  | .maxFetchBytes => "max_fetch_bytes".toList
  | .userAgent => "user_agent".toList
  | .maxRepeat => "max_repeat".toList
  | .maxRepeatBytes => "max_repeat_bytes".toList

/-- The field of a name. -/
def ofName? (name : Text) : Option Field := all.find? (·.name == name)

/-- How a diagnostic names what a field asks for. -/
def expected : Field → Text
  | .userAgent => "a string".toList
  | .fetchTimeout => "u64".toList
  | _ => "usize".toList

end Field

/-- What a document has said so far: a value for some of the fields. -/
structure Draft where
  maxIterations : Option Nat
  fetchTimeout : Option Nat
  maxFetchBytes : Option Nat
  userAgent : Option Text
  maxRepeat : Option Nat
  maxRepeatBytes : Option Nat
  deriving Repr, DecidableEq

namespace Draft

/-- Nothing has been said. -/
def empty : Draft := ⟨none, none, none, none, none, none⟩

/-- A field has a value. -/
def has (d : Draft) : Field → Bool
  | .maxIterations => d.maxIterations.isSome
  | .fetchTimeout => d.fetchTimeout.isSome
  | .maxFetchBytes => d.maxFetchBytes.isSome
  | .userAgent => d.userAgent.isSome
  | .maxRepeat => d.maxRepeat.isSome
  | .maxRepeatBytes => d.maxRepeatBytes.isSome

/-- Puts a number into a field that holds one. -/
def putNumber (d : Draft) (n : Nat) : Field → Draft
  | .maxIterations => { d with maxIterations := some n }
  | .fetchTimeout => { d with fetchTimeout := some n }
  | .maxFetchBytes => { d with maxFetchBytes := some n }
  | .userAgent => d
  | .maxRepeat => { d with maxRepeat := some n }
  | .maxRepeatBytes => { d with maxRepeatBytes := some n }

/-- A diagnostic about a value that does not fit: its kind, what it is, and what was asked for. -/
def mismatch (kind : String) (value : Value) (expected : Text) : Text :=
  kind.toList ++ ": ".toList ++ value.describe ++ ", expected ".toList ++ expected

/-- Puts a value into a field, or says why it does not fit.  A negative number is of the right type for
a number and out of its range. -/
def put (d : Draft) (field : Field) (value : Value) : Except Text Draft :=
  if field = .userAgent then
    match value with
    | .string t => .ok { d with userAgent := some t }
    | _ => .error (mismatch "invalid type" value field.expected)
  else
    match value with
    | .number (.natural n) => .ok (d.putNumber n field)
    | .number (.negative _) => .error (mismatch "invalid value" value field.expected)
    | _ => .error (mismatch "invalid type" value field.expected)

/-- The settings of a draft; what was not said keeps its standard value. -/
def complete (d : Draft) : Settings where
  maxIterations := d.maxIterations.getD standard.maxIterations
  fetchTimeout := d.fetchTimeout.getD standard.fetchTimeout
  maxFetchBytes := d.maxFetchBytes.getD standard.maxFetchBytes
  userAgent := d.userAgent.getD standard.userAgent
  maxRepeat := d.maxRepeat.getD standard.maxRepeat
  maxRepeatBytes := d.maxRepeatBytes.getD standard.maxRepeatBytes

end Draft

/-! ## 2. Errors -/

/-- Why there are no settings. -/
inductive Error where
  /-- The document could not be opened; the system says why. -/
  | unreadable (message : Text)
  /-- The document could not be read to its end; the system says why. -/
  | interrupted (message : Text)
  /-- The document has a fault. -/
  | faulty (document : Bytes) (fault : Fault)
  /-- A field that must not be zero is. -/
  | zero (field : Field)
  deriving Repr, DecidableEq

/-- The wording of each cause. -/
def Error.message : Error → Text
  | .unreadable message => "Failed to open config file: ".toList ++ message
  | .interrupted message => "Failed to parse config: ".toList ++ message
  | .faulty document fault => "Failed to parse config: ".toList ++ fault.message document
  | .zero field => "Invalid config: ".toList ++ field.name ++ " must be greater than 0".toList

/-- Settings that can be used, or the first field that must not be zero. -/
def validate (s : Settings) : Except Error Settings :=
  if s.maxIterations = 0 then .error (.zero .maxIterations)
  else if s.fetchTimeout = 0 then .error (.zero .fetchTimeout)
  else .ok s

/-! ## 3. Objects -/

/-- The fault of a second member for a field.  The end of the object is still looked for, so the byte
after the name and the separators has been looked at. -/
def duplicateFault (field : Field) (rest : Bytes) : Fault :=
  .looking (.unfit ("duplicate field `".toList ++ field.name ++ ['\x60'])) (skipSeparators rest)

/-- Passes the colon after the name of a member. -/
def readColon (rest : Bytes) : Except Fault Bytes :=
  match skipSeparators rest with
  | [] => .error (.before .endInObject [])
  | b :: after => if b = 0x3A then .ok after else .error (.looking .expectedColon (b :: after))

/-- Reads a value into a field. -/
def readField (d : Draft) (field : Field) (rest : Bytes) : Except Fault (Draft × Bytes) :=
  match readValue rest with
  | .error fault => .error fault
  | .ok seen =>
    match d.put field seen.value with
    | .error message => .error (seen.unfit message)
    | .ok d => .ok (d, seen.rest)

/-- Reads a member after the opening quote of its name. -/
def readMember (d : Draft) (rest : Bytes) : Except Fault (Draft × Bytes) := do
  let (name, rest) ← readString rest
  match Field.ofName? name with
  | none =>
    let rest ← readColon rest
    let rest ← skipValue rest
    return (d, rest)
  | some field =>
    if d.has field then throw (duplicateFault field rest)
    let rest ← readColon rest
    readField d field rest

/-- Reads members up to the closing brace.  Every member takes at least one byte, so as many steps as
there are bytes are enough. -/
def readMembers : Nat → Bool → Draft → Bytes → Except Fault (Draft × Bytes)
  | 0, _, _, rest => .error (.looking .expectedObjectEnd rest)
  | steps + 1, isFirst, d, rest =>
    match skipSeparators rest with
    | [] => .error (.before .endInObject [])
    | b :: after =>
      if b = 0x7D then .ok (d, after)
      else if isFirst = false ∧ b ≠ 0x2C then .error (.looking .expectedObjectEnd (b :: after))
      else
        match (if isFirst then b :: after else skipSeparators after) with
        | [] => .error (.before .endInValue [])
        | c :: rest =>
          if c = 0x22 then
            match readMember d rest with
            | .error fault => .error fault
            | .ok (d, rest) => readMembers steps false d rest
          else if c = 0x7D then .error (.looking .trailingComma (c :: rest))
          else .error (.looking .keyNotString (c :: rest))

/-! ## 4. Lists -/

/-- Looks for the end of a list whose fields have all been read. -/
def readListEnd (rest : Bytes) : Except Fault Bytes :=
  match skipSeparators rest with
  | [] => .error (.before .endInList [])
  | b :: after =>
    if b = 0x5D then .ok after
    else if b = 0x2C then
      let left := skipSeparators after
      .error (.looking (if left.head? = some 0x5D then .trailingComma else .trailingCharacters) left)
    else .error (.looking .trailingCharacters (b :: after))

/-- Reads the fields of a list in their order; the list may end before any of them. -/
def readElements : List Field → Bool → Draft → Bytes → Except Fault (Draft × Bytes)
  | [], _, d, rest => (readListEnd rest).map (d, ·)
  | field :: fields, isFirst, d, rest =>
    match skipSeparators rest with
    | [] => .error (.before .endInList [])
    | b :: after =>
      if b = 0x5D then .ok (d, after)
      else if isFirst = false ∧ b ≠ 0x2C then .error (.looking .expectedListEnd (b :: after))
      else
        match (if isFirst then b :: after else skipSeparators after) with
        | [] => .error (.before .endInValue [])
        | c :: rest =>
          if isFirst = false ∧ c = 0x5D then .error (.looking .trailingComma (c :: rest))
          else
            match readField d field (c :: rest) with
            | .error fault => .error fault
            | .ok (d, rest) => readElements fields false d rest

/-! ## 5. Documents -/

/-- Reads what a document says, up to the end of its value. -/
def readDraft (document : Bytes) : Except Fault (Draft × Bytes) :=
  match skipSeparators document with
  | [] => .error (.before .endInValue [])
  | b :: after =>
    if b = 0x7B then readMembers (after.length + 1) true .empty after
    else if b = 0x5B then readElements Field.all true .empty after
    else
      match readValue (b :: after) with
      | .error fault => .error fault
      | .ok seen =>
        .error (seen.unfit (Draft.mismatch "invalid type" seen.value "struct ParserConfig".toList))

/-- Nothing but separators follows the value of a document. -/
def readEnd (rest : Bytes) : Except Fault Unit :=
  match skipSeparators rest with
  | [] => .ok ()
  | b :: after => .error (.looking .trailingCharacters (b :: after))

/-- Reads the settings in a document. -/
def read (document : Bytes) : Except Error Settings :=
  match readDraft document with
  | .error fault => .error (.faulty document fault)
  | .ok (d, rest) =>
    match readEnd rest with
    | .error fault => .error (.faulty document fault)
    | .ok () => validate d.complete

end Settings

end TemplateExpansion
