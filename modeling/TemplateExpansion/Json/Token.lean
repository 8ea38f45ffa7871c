/-
# Strings and literals in a JSON document

The parts of a document that have no parts of their own, except numbers.  Each reader takes what is
left of the document and yields what it has read with what is left after it.
-/
import TemplateExpansion.Json.Fault
import TemplateExpansion.Text.Utf8

namespace TemplateExpansion
namespace Json

/-- The byte separates parts of a document. -/
def isSeparator (b : UInt8) : Bool := b == 0x20 || b == 0x0A || b == 0x09 || b == 0x0D

/-- What is left after the separators at the start. -/
def skipSeparators (rest : Bytes) : Bytes := rest.dropWhile isSeparator

/-- The byte is a digit. -/
def isDigit (b : UInt8) : Bool := 0x30 ≤ b && b ≤ 0x39

/-- The value of a digit. -/
def digitValue (b : UInt8) : Nat := b.toNat - 0x30

/-! ## 1. Literals -/

/-- Reads the rest of a literal such as `null` after its first letter. -/
def readLiteral : List UInt8 → Bytes → Except Fault Bytes
  | [], rest => .ok rest
  | _ :: _, [] => .error (.before .endInValue [])
  | expected :: more, b :: rest =>
    if b = expected then readLiteral more rest else .error (.before .expectedLiteral rest)

/-! ## 2. Escapes in strings -/

/-- The value of a digit in base sixteen. -/
def hexValue? (b : UInt8) : Option Nat :=
  if isDigit b then some (digitValue b)
  else if 0x61 ≤ b ∧ b ≤ 0x66 then some (b.toNat - 0x61 + 10)
  else if 0x41 ≤ b ∧ b ≤ 0x46 then some (b.toNat - 0x41 + 10)
  else none

/-- Reads four digits in base sixteen. -/
def readHex : Bytes → Except Fault (Nat × Bytes)
  | a :: b :: c :: d :: rest =>
    match hexValue? a, hexValue? b, hexValue? c, hexValue? d with
    | some w, some x, some y, some z => .ok (((w * 16 + x) * 16 + y) * 16 + z, rest)
    | _, _, _, _ => .error (.before .invalidEscape rest)
  | _ => .error (.before .endInString [])

/-- Reads the second half of a code point that takes two escapes, after the first half. -/
def readLowSurrogate (high : Nat) : Bytes → Except Fault (Char × Bytes)
  | [] => .error (.before .endInString [])
  | [b] =>
    if b = 0x5C then .error (.before .endInString [])
    else .error (.looking .unfinishedSurrogate [b])
  | b :: c :: rest =>
    if b ≠ 0x5C then .error (.looking .unfinishedSurrogate (b :: c :: rest))
    else if c ≠ 0x75 then .error (.looking .unfinishedSurrogate (c :: rest))
    else match readHex rest with
      | .error fault => .error fault
      | .ok (low, rest) =>
        if 0xDC00 ≤ low ∧ low ≤ 0xDFFF then
          .ok (Char.ofNat (0x10000 + (high - 0xD800) * 0x400 + (low - 0xDC00)), rest)
        else .error (.before .loneSurrogate rest)

/-- Reads a code point after the letter of its escape. -/
def readCodePoint (rest : Bytes) : Except Fault (Char × Bytes) :=
  match readHex rest with
  | .error fault => .error fault
  | .ok (n, rest) =>
    if 0xDC00 ≤ n ∧ n ≤ 0xDFFF then .error (.before .loneSurrogate rest)
    else if 0xD800 ≤ n ∧ n ≤ 0xDBFF then readLowSurrogate n rest
    else .ok (Char.ofNat n, rest)

/-- The character that an escape of one letter stands for. -/
def simpleEscape? (b : UInt8) : Option Char :=
  if b = 0x22 then some '\"'
  else if b = 0x5C then some '\\'
  else if b = 0x2F then some '/'
  else if b = 0x62 then some '\x08'
  else if b = 0x66 then some '\x0c'
  else if b = 0x6E then some '\n'
  else if b = 0x72 then some '\r'
  else if b = 0x74 then some '\t'
  else none

/-- Reads an escape after its backslash. -/
def readEscape : Bytes → Except Fault (Char × Bytes)
  | [] => .error (.before .endInString [])
  | b :: rest =>
    match simpleEscape? b with
    | some c => .ok (c, rest)
    | none => if b = 0x75 then readCodePoint rest else .error (.before .invalidEscape rest)

/-- Passes over an escape after its backslash; a code point is not looked at beyond its digits. -/
def skipEscape : Bytes → Except Fault Bytes
  | [] => .error (.before .endInString [])
  | b :: rest =>
    if (simpleEscape? b).isSome then .ok rest
    else if b = 0x75 then (readHex rest).map Prod.snd
    else .error (.before .invalidEscape rest)

/-! ## 3. Strings -/

theorem length_readHex {rest left : Bytes} {n : Nat} (h : readHex rest = .ok (n, left)) :
    left.length ≤ rest.length := by
  unfold readHex at h
  split at h
  · split at h
    · cases h
      simp only [List.length_cons]
      omega
    · cases h
  · cases h

theorem length_readLowSurrogate {high : Nat} {rest left : Bytes} {c : Char}
    (h : readLowSurrogate high rest = .ok (c, left)) : left.length ≤ rest.length := by
  unfold readLowSurrogate at h
  split at h
  · simp at h
  · split at h <;> simp at h
  · split at h
    · simp at h
    · split at h
      · simp at h
      · split at h
        · simp at h
        · rename_i hx
          have := length_readHex hx
          split at h
          · simp only [Except.ok.injEq, Prod.mk.injEq] at h
            simp only [List.length_cons, ← h.2]
            omega
          · simp at h

theorem length_readCodePoint {rest left : Bytes} {c : Char}
    (h : readCodePoint rest = .ok (c, left)) : left.length ≤ rest.length := by
  unfold readCodePoint at h
  split at h
  · simp at h
  · rename_i hx
    have h1 := length_readHex hx
    split at h
    · simp at h
    · split at h
      · have h2 := length_readLowSurrogate h
        omega
      · simp only [Except.ok.injEq, Prod.mk.injEq] at h
        rw [← h.2]
        exact h1

theorem length_readEscape {rest left : Bytes} {c : Char} (h : readEscape rest = .ok (c, left)) :
    left.length ≤ rest.length := by
  unfold readEscape at h
  split at h
  · simp at h
  · split at h
    · simp only [Except.ok.injEq, Prod.mk.injEq] at h
      simp [← h.2]
    · split at h
      · have := length_readCodePoint h
        simp only [List.length_cons]
        omega
      · simp at h

theorem length_skipEscape {rest left : Bytes} (h : skipEscape rest = .ok left) :
    left.length ≤ rest.length := by
  unfold skipEscape at h
  split at h
  · cases h
  · split at h
    · cases h
      simp
    · split at h
      · rename_i b rest _ _
        cases hx : readHex rest with
        | error fault => simp [hx, Except.map] at h
        | ok parts =>
          obtain ⟨n, r⟩ := parts
          have := length_readHex hx
          simp only [hx, Except.map, Except.ok.injEq] at h
          subst h
          simp only [List.length_cons]
          omega
      · cases h

/-- The bytes of a string up to its closing quote; `read` are those so far, last byte first. -/
def readStringBytes (read : Bytes) : Bytes → Except Fault (Bytes × Bytes)
  | [] => .error (.before .endInString [])
  | b :: rest =>
    if b = 0x22 then .ok (read.reverse, rest)
    else if b = 0x5C then
      match h : readEscape rest with
      | .error fault => .error fault
      | .ok (c, left) =>
        have := length_readEscape h
        readStringBytes ((String.utf8EncodeChar c).reverse ++ read) left
    else if b < 0x20 then .error (.before .controlCharacter rest)
    else readStringBytes (b :: read) rest
termination_by rest => rest.length

/-- A string whose bytes make no text, met with the rest of the document not looked at.  The fault lies
at the first byte that makes no character: as many bytes before the rest as are left of the string. -/
def undecodable (bytes rest : Bytes) : Fault :=
  ⟨.invalidCodePoint, rest.length + (bytes.length - (Utf8.encode (Utf8.decodeStart bytes)).length)⟩

/-- Reads a string after its opening quote. -/
def readString (rest : Bytes) : Except Fault (Text × Bytes) :=
  match readStringBytes [] rest with
  | .error fault => .error fault
  | .ok (bytes, left) =>
    match Utf8.decode? bytes with
    | some t => .ok (t, left)
    | none => .error (undecodable bytes left)

/-- Passes over a string after its opening quote. -/
def skipString : Bytes → Except Fault Bytes
  | [] => .error (.before .endInString [])
  | b :: rest =>
    if b = 0x22 then .ok rest
    else if b = 0x5C then
      match h : skipEscape rest with
      | .error fault => .error fault
      | .ok left =>
        have := length_skipEscape h
        skipString left
    else if b < 0x20 then .error (.before .controlCharacter rest)
    else skipString rest
termination_by rest => rest.length

end Json
end TemplateExpansion
