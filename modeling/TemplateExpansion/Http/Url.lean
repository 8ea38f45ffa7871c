/-
# URLs

An absolute URL is a scheme, an optional authority, a path, and an optional query and fragment.  Under a
scheme with a fixed meaning the authority is never missing.
-/
import TemplateExpansion.Http.Authority
import TemplateExpansion.Http.Path

namespace TemplateExpansion
namespace Http

/-- A URL in its parts, each as it is written. -/
structure Url where
  scheme : Text
  authority : Option Authority
  path : Text
  query : Option Text
  fragment : Option Text
  deriving Repr, DecidableEq

namespace Url

/-! ## 1. Writing -/

/-- The authority with the two slashes before it.  Where there is none, a path that starts with two
slashes has a dot before it, so that it does not look like one. -/
def authorityText (url : Url) : Text :=
  match url.authority with
  | some authority => "//".toList ++ authority.text
  | none => if "//".toList.isPrefixOf url.path then "/.".toList else []

/-- The URL as a text. -/
def text (url : Url) : Text :=
  url.scheme ++ ':' :: (url.authorityText ++ url.path ++ Authority.optionalPart '?' url.query ++
    Authority.optionalPart '#' url.fragment)

/-- The host, when there is one and it is not empty. -/
def host? (url : Url) : Option Text := (url.authority.map Authority.host).filter (!·.isEmpty)

/-- The URL without the user, when that can be told apart. -/
def withoutUser (url : Url) : Url :=
  { url with authority := url.authority.map Authority.withoutUser }

/-! ## 2. Reading the parts -/

/-- Cuts a text before the first query or fragment mark. -/
def splitPath (t : Text) : Text × Text := t.span fun c => c != '?' && c != '#'

/-- Reads the query and the fragment after a path. -/
def withTail (kind : SchemeKind) (tail : Text) (url : Url) : Url :=
  let parts := tail.span (· != '#')
  { url with
    query := if parts.1.isEmpty then none
      else some (percentEncode (if kind.isSpecial then .specialQuery else .query) parts.1.tail)
    fragment := if parts.2.isEmpty then none else some (percentEncode .fragment parts.2.tail) }

/-- The character is a slash, or counts as one under a scheme with a fixed meaning. -/
def isSlash (c : Char) : Bool := c == '/' || c == '\\'

/-- A text with slashes for backslashes. -/
def slashed (t : Text) : Text := t.map fun c => if c = '\\' then '/' else c

/-- A text without the slash at its start. -/
def dropSlash (t : Text) : Text := if t.head? = some '/' then t.tail else t

/-- Reads what follows the two slashes before an authority. -/
def readNetwork (scheme t : Text) : Except UrlError Url := do
  let kind := SchemeKind.ofScheme scheme
  let (authority, rest) ← Authority.read scheme t
  let (path, tail) := splitPath rest
  let path := if kind.isSpecial then slashed path else path
  let path := if path.isEmpty ∧ kind.isSpecial = false then [] else Path.ofText (dropSlash path)
  return withTail kind tail ⟨scheme, some authority, path, none, none⟩

/-- Reads what follows the colon of a scheme without a fixed meaning.  A path that does not start with a
slash has no segments. -/
def readOther (scheme t : Text) : Except UrlError Url :=
  match t with
  | '/' :: '/' :: rest => readNetwork scheme rest
  | _ =>
    let (path, tail) := splitPath t
    let path := match path with
      | '/' :: rest => Path.ofText rest
      | _ => percentEncode .verbatim path
    .ok (withTail .other tail ⟨scheme, none, path, none, none⟩)

/-! ## 3. Files -/

/-- The host and the path of a file, from what follows two slashes.  The letter of a drive is no host,
and neither an empty host nor `localhost` is written.  The path after a host starts with a slash. -/
def splitFileHost (t : Text) : Except UrlError (Text × Text) := do
  let (authority, path) := t.span fun c => !Authority.isEnd .file c
  let name := Path.withoutBreaks authority
  if name.isEmpty then return ([], path)
  else if Path.isDrive name then return ([], t)
  else
    let host ← Host.special name
    if host = "localhost".toList then return ([], path)
    else return (host, path.tail)

/-- What follows a slash at the start of a text, breaks aside. -/
def afterSlash? (t : Text) : Option Text :=
  match t.dropWhile Path.isBreak with
  | [] => none
  | c :: rest => if isSlash c then some rest else none

/-- Reads the URL of a file, still with its breaks, after the scheme. -/
def readFile (scheme t : Text) : Except UrlError Url := do
  let (before, tail) := splitPath t
  let (host, path) ← match afterSlash? before with
    | none => pure ([], before)
    | some rest =>
      match afterSlash? rest with
      | none => pure ([], rest)
      | some rest => splitFileHost rest
  let file := Path.ofFileText (slashed path)
  let host := if file.startsWithDrive then [] else host
  return withTail .file (Path.withoutBreaks tail)
    ⟨scheme, some (.ofHost host), file.path, none, none⟩

/-! ## 4. Whole URLs -/

/-- The character stands for nothing at the ends of a URL. -/
def isMargin (c : Char) : Bool := c.toNat ≤ 0x20

/-- The text of a URL without controls and spaces at its ends. -/
def trim (t : Text) : Text := ((t.dropWhile isMargin).reverse.dropWhile isMargin).reverse

/-- Reads an absolute URL.  Breaks count for nothing, except in the path of a file. -/
def read (t : Text) : Except UrlError Url :=
  match Scheme.split? Path.isBreak (trim t) with
  | none => .error .relativeWithoutBase
  | some (scheme, rest) =>
    match SchemeKind.ofScheme scheme with
    | .file => readFile scheme rest
    | .network => readNetwork scheme ((Path.withoutBreaks rest).dropWhile isSlash)
    | .other => readOther scheme (Path.withoutBreaks rest)

end Url
end Http
end TemplateExpansion
