/-
# Schemes

The scheme of a URL says how the rest of it is to be read.  Six schemes have a fixed meaning: that of
files, and five of protocols that ask a host.
-/
import TemplateExpansion.Text

namespace TemplateExpansion
namespace Http

/-- What a scheme says about the rest of its URL. -/
inductive SchemeKind where
  /-- A file, of this machine or of another. -/
  | file
  /-- Something that is asked of a host. -/
  | network
  /-- Nothing that is known beforehand. -/
  | other
  deriving Repr, DecidableEq

namespace SchemeKind

/-- The kind of a scheme in lower case. -/
def ofScheme (scheme : Text) : SchemeKind :=
  if scheme = "file".toList then .file
  else if ["http", "https", "ws", "wss", "ftp"].any (·.toList == scheme) then .network
  else .other

/-- The kind has a fixed meaning.  Then a backslash counts as a slash. -/
def isSpecial : SchemeKind → Bool
  | .other => false
  | _ => true

end SchemeKind

namespace Scheme

/-- The port that goes without saying under a scheme. -/
def standardPort? (scheme : Text) : Option Nat :=
  if scheme = "http".toList ∨ scheme = "ws".toList then some 80
  else if scheme = "https".toList ∨ scheme = "wss".toList then some 443
  else if scheme = "ftp".toList then some 21
  else none

/-- The character may stand in a scheme, after its first letter. -/
def isSchemeChar (c : Char) : Bool := c.isAlphanum || "+-.".toList.contains c

/-- The scheme at the start of a text, in lower case and without its colon, and what follows it;
characters for which `skip` holds count for nothing before the colon. -/
def split? (skip : Char → Bool) (t : Text) : Option (Text × Text) :=
  let scheme := (t.takeWhile (· != ':')).filter fun c => !skip c
  match t.dropWhile (· != ':') with
  | [] => none
  | _ :: rest =>
    if scheme.head?.any Char.isAlpha ∧ scheme.all isSchemeChar then some (Text.toLower scheme, rest)
    else none

end Scheme

end Http
end TemplateExpansion
