/-
# Labels of a domain name

A label is shown with all its characters and written with those of ASCII alone.  A label that is not
ASCII is written encoded, after a mark that says so; a label that has the mark already is shown decoded,
and must be what encoding would have made of a label in its normal form.
-/
import TemplateExpansion.Http.Punycode
import TemplateExpansion.Http.Domain.Mapping
import TemplateExpansion.Http.Domain.Composition
import TemplateExpansion.Http.Domain.Mark
import TemplateExpansion.Http.Domain.Joining

namespace TemplateExpansion
namespace Http
namespace Domain

/-- A label as it is shown and as it is written. -/
structure Label where
  shown : Text
  written : Text
  deriving Repr, DecidableEq

namespace Label

/-- Every character is one of ASCII. -/
def isAscii (t : Text) : Bool := t.all (·.toNat < 0x80)

/-- What stands before an encoded label. -/
def encodedMark : Text := "xn--".toList

/-- The most characters of a label that is encoded. -/
def maxShown : Nat := 1000

/-- The most characters of an encoded label, without its mark. -/
def maxEncoded : Nat := 2000

/-- A label from what it shows. -/
def ofShown? (shown : Text) : Option Label :=
  if isAscii shown then some ⟨shown, shown⟩
  else if maxShown < shown.length then none
  else some ⟨shown, encodedMark ++ Punycode.encode shown⟩

/-- A label from what follows the mark of an encoded one. -/
def ofEncoded? (encoded : Text) : Option Label :=
  if encoded.isEmpty ∨ encoded.getLast? = some '-' ∨ isAscii encoded = false ∨
      maxEncoded < encoded.length then none
  else match Punycode.decode? encoded with
    | none => none
    | some shown =>
      if shown.all isPlain ∧ compose shown = shown ∧ encodedMark.isPrefixOf shown = false then
        some ⟨shown, encodedMark ++ encoded⟩
      else none

/-- A label from a part of a name between points. -/
def ofText? (t : Text) : Option Label :=
  if encodedMark.isPrefixOf t then ofEncoded? (t.drop encodedMark.length) else ofShown? t

/-- No mark starts the label, and every joiner in it may stand where it does. -/
def isWellFormed (label : Label) : Bool := !label.shown.head?.any isMark && joinersFit [] label.shown

end Label

end Domain
end Http
end TemplateExpansion
