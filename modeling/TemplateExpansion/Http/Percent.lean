/-
# Percent-encoding

Characters that may not stand in a part of a URL are written as their bytes, each as a percent sign
and two digits in base sixteen.  Which characters these are depends on the part.
-/
import TemplateExpansion.Text.Utf8

namespace TemplateExpansion
namespace Http

/-- A part of a URL, for the choice of characters that may stand in it. -/
inductive UrlPart where
  /-- The name of a host without a fixed meaning, and a path without segments. -/
  | verbatim
  | fragment
  | path
  | query
  /-- A query under a scheme with a fixed meaning, where the single quote is written in bytes too. -/
  | specialQuery
  /-- The name and the password of a user. -/
  | user
  deriving Repr, DecidableEq

namespace UrlPart

/-- The characters written in bytes besides the controls and everything outside ASCII. -/
def reserved : UrlPart → Text
  | .verbatim => []
  | .fragment => " \"<>`".toList
  | .path => " \"<>`#?\x7b\x7d".toList
  | .query => " \"#<>".toList
  | .specialQuery => " \"#<>\x27".toList
  | .user => " \"<>`#?\x7b\x7d/:;=@[\\]^|".toList

/-- A character is written in bytes. -/
def encodes (part : UrlPart) (c : Char) : Bool :=
  c.toNat < 0x20 || 0x7F ≤ c.toNat || part.reserved.contains c

end UrlPart

/-- A digit in base sixteen, in upper case. -/
def hexDigit (n : Nat) : Char := (Nat.digitChar n).toUpper

/-- A byte as a percent sign and two digits. -/
def percentByte (b : UInt8) : Text := ['%', hexDigit (b.toNat / 16), hexDigit (b.toNat % 16)]

/-- A text as it stands in a part of a URL. -/
def percentEncode (part : UrlPart) (t : Text) : Text :=
  t.flatMap fun c => if part.encodes c then (String.utf8EncodeChar c).flatMap percentByte else [c]

/-- The value of a digit in base sixteen. -/
def hexValue? (c : Char) : Option Nat :=
  if c.isDigit then some (c.toNat - '0'.toNat)
  else if 'a' ≤ c ∧ c ≤ 'f' then some (c.toNat - 'a'.toNat + 10)
  else if 'A' ≤ c ∧ c ≤ 'F' then some (c.toNat - 'A'.toNat + 10)
  else none

/-- The bytes of a text in which a percent sign and two digits stand for a byte; `read` are the bytes
so far, last byte first. -/
def percentDecodeOnto (read : List UInt8) : Text → List UInt8
  | [] => read.reverse
  | '%' :: a :: b :: rest =>
    match hexValue? a, hexValue? b with
    | some x, some y => percentDecodeOnto (UInt8.ofNat (x * 16 + y) :: read) rest
    | _, _ => percentDecodeOnto (0x25 :: read) (a :: b :: rest)
  | c :: rest => percentDecodeOnto ((String.utf8EncodeChar c).reverse ++ read) rest
termination_by t => t.length

/-- The bytes of a text in which a percent sign and two digits stand for a byte. -/
def percentDecode (t : Text) : List UInt8 := percentDecodeOnto [] t

end Http
end TemplateExpansion
