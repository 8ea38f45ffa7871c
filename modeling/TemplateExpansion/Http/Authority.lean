/-
# Authorities

What stands between the two slashes and the path of a URL: the name and the password of a user, a host,
and a port.
-/
import TemplateExpansion.Http.Scheme
import TemplateExpansion.Http.Host

namespace TemplateExpansion
namespace Http

/-- An authority in its parts, each as it is written. -/
structure Authority where
  user : Text
  password : Option Text
  host : Text
  port : Option Nat
  deriving Repr, DecidableEq

namespace Authority

/-! ## 1. Writing -/

/-- The authority of a host alone. -/
def ofHost (host : Text) : Authority := ⟨[], none, host, none⟩

/-- A part that may be missing, with the character that stands before it. -/
def optionalPart (mark : Char) : Option Text → Text
  | none => []
  | some t => mark :: t

/-- The user with the at sign. -/
def userText (a : Authority) : Text :=
  if a.user.isEmpty ∧ a.password.isNone then [] else a.user ++ optionalPart ':' a.password ++ ['@']

/-- The authority as a text. -/
def text (a : Authority) : Text :=
  a.userText ++ a.host ++ optionalPart ':' (a.port.map Decimal.ofNat)

@[simp] theorem text_ofHost (host : Text) : (ofHost host).text = host := by
  simp [ofHost, text, userText, optionalPart]

/-! ## 2. Users -/

/-- The text that percent signs stand for, or nothing when their bytes make none. -/
def plain? (t : Text) : Option Text := Utf8.decode? (percentDecode t)

/-- The authority without its user when that can be told apart: the name is a text, and it or a password
that is a text is there. -/
def withoutUser (a : Authority) : Authority :=
  if (plain? a.user).isSome ∧ (a.user ≠ [] ∨ (a.password.bind plain?).isSome) then
    { a with user := [], password := none }
  else a

/-- The name and the password before an at sign; an empty password is none. -/
def readUser (t : Text) : Text × Option Text :=
  let (name, rest) := t.span (· != ':')
  (percentEncode .user name,
    if rest.length ≤ 1 then none else some (percentEncode .user rest.tail))

/-- Cuts an authority at its last at sign. -/
def splitUser (t : Text) : Option Text × Text :=
  let host := (t.reverse.takeWhile (· != '@')).reverse
  if host.length = t.length then (none, t) else (some (t.take (t.length - host.length - 1)), host)

/-! ## 3. Hosts and ports -/

/-- Cuts a host from its port at the first colon that stands outside square brackets; `host` is what was
passed, last character first. -/
def splitPort (inBrackets : Bool) (host : Text) : Text → Text × Option Text
  | [] => (host.reverse, none)
  | c :: rest =>
    if c = ':' ∧ inBrackets = false then (host.reverse, some rest)
    else splitPort (if c = '[' then true else if c = ']' then false else inBrackets) (c :: host) rest

/-- Reads a port; an empty one is none, and so is the one that goes without saying.  A backslash ends
the port, and belongs to what follows. -/
def readPort (scheme : Text) : Option Text → Except UrlError (Option Nat × Text)
  | none => .ok (none, [])
  | some t =>
    let digits := t.takeWhile Char.isDigit
    let rest := t.dropWhile Char.isDigit
    if 65535 < Decimal.value digits ∨ rest.head?.any (· != '\\') then .error .invalidPort
    else if digits.isEmpty ∨ Scheme.standardPort? scheme = some (Decimal.value digits) then
      .ok (none, rest)
    else .ok (some (Decimal.value digits), rest)

/-! ## 4. Reading -/

/-- The character ends an authority. -/
def isEnd (kind : SchemeKind) (c : Char) : Bool :=
  c == '/' || c == '?' || c == '#' || (kind.isSpecial && c == '\\')

/-- Reads an authority, and what follows it. -/
def read (scheme t : Text) : Except UrlError (Authority × Text) := do
  let kind := SchemeKind.ofScheme scheme
  let (whole, rest) := t.span fun c => !isEnd kind c
  let (before, hostPort) := splitUser whole
  if before = some [] ∧ hostPort.isEmpty ∧ rest ≠ [] then throw .emptyHost
  let (user, password) := readUser (before.getD [])
  let (name, digits) := splitPort false [] hostPort
  if name.isEmpty ∧ (kind.isSpecial ∨ digits.isSome) then throw .emptyHost
  let host ← if kind.isSpecial then Host.special name else Host.verbatimName name
  if host.isEmpty ∧ (user ≠ [] ∨ password.isSome) then throw .emptyHost
  let (port, more) ← readPort scheme digits
  return (⟨user, password, host, port⟩, more ++ rest)

end Authority
end Http
end TemplateExpansion
