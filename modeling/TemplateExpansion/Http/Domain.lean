/-
# Domain names

A domain name is compared without regard to case and to the many ways to write the same characters, and
it is written in ASCII.  Its characters are replaced by what they stand for and composed; then every
label between points is looked at by itself, and all of them together for the direction in which they
run.
-/
import TemplateExpansion.Http.Domain.Label
import TemplateExpansion.Http.Domain.Direction

namespace TemplateExpansion
namespace Http
namespace Domain

/-- The characters that no name holds. -/
def isForbidden (c : Char) : Bool :=
  c.toNat ≤ 0x20 || c.toNat == 0x7F || "%#/:<>?@[\\]^|".toList.contains c

/-- The characters that a text stands for, composed. -/
def normal? (t : Text) : Option Text := (t.mapM replacement?).map fun texts => compose texts.flatten

/-- A name in ASCII, or nothing when the text is no name. -/
def toAscii? (t : Text) : Option Text := do
  let name ← normal? t
  if name.any isForbidden then none
  else
    let labels ← (Text.splitOn '.' name).mapM Label.ofText?
    if labels.all Label.isWellFormed ∧ runClearly (labels.map Label.shown) then
      some (Text.join '.' (labels.map Label.written))
    else none

end Domain
end Http
end TemplateExpansion
