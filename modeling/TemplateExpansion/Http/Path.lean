/-
# Paths

A path leads from a root over segments between slashes.  A segment of one dot stays where it is, and a
segment of two dots goes up, though never above the root and never above the letter of a drive.  The
path of a file loses empty segments at its start, and its first segment may be a drive.

A path is built segment by segment with its last character first; it ends with a slash when another
segment follows.
-/
import TemplateExpansion.Http.Percent

namespace TemplateExpansion
namespace Http
namespace Path

/-! ## 1. Segments -/

/-- A segment that stays. -/
def isDot (segment : Text) : Bool := [".", "%2e"].any (·.toList == segment.toLower)

/-- A segment that goes up. -/
def isDoubleDot (segment : Text) : Bool :=
  ["..", ".%2e", "%2e.", "%2e%2e"].any (·.toList == segment.toLower)

/-- The letter of a drive and the character after it. -/
def isDriveStart (letter mark : Char) : Bool := letter.isAlpha && (mark == ':' || mark == '|')

/-- The segment is the letter of a drive. -/
def isDrive : Text → Bool
  | [letter, mark] => isDriveStart letter mark
  | _ => false

/-- The segment cannot be left upwards: it is a drive, or a backslash follows the drive. -/
def holdsFast : Text → Bool
  | letter :: mark :: rest => isDriveStart letter mark && (rest.isEmpty || rest.head? == some '\\')
  | _ => false

/-! ## 2. Building a path -/

/-- The path above the last segment of a path that ends with a slash. -/
def above (path : Text) : Text :=
  match path.tail.span (· != '/') with
  | (_, []) => path
  | (segment, rest) => if holdsFast segment.reverse then path else rest

/-- There is nothing above the root. -/
@[simp] theorem above_root : above ['/'] = ['/'] := rfl

/-- Puts a segment at the end of a path, with a slash after it unless it is the last. -/
def put (last : Bool) (path segment : Text) : Text :=
  (if last then [] else ['/']) ++ (segment.reverse ++ path)

/-- Adds a segment to a path that ends with a slash. -/
def add (last : Bool) (path segment : Text) : Text :=
  if isDoubleDot segment then above path
  else if isDot segment then path
  else put last path segment

/-- Adds segments one after the other, the last of them as the last. -/
def addAll {State : Type} (add : Bool → State → Text → State) : State → List Text → State
  | state, [] => state
  | state, segment :: segments => addAll add (add segments.isEmpty state segment) segments

/-- The path over the segments of a text from the root. -/
def ofText (t : Text) : Text :=
  (addAll (fun last path segment => add last path (percentEncode .path segment)) ['/']
    (Text.splitOn '/' t)).reverse

/-! ## 3. Paths of files -/

/-- The character breaks a line or is a tab; such characters count for nothing in a URL. -/
def isBreak (c : Char) : Bool := c == '\t' || c == '\n' || c == '\r'

/-- A text without breaks. -/
def withoutBreaks (t : Text) : Text := t.filter fun c => !isBreak c

/-- A path of a file so far, and whether it started with a drive, which belongs to no host. -/
structure FilePath where
  path : Text
  startsWithDrive : Bool
  deriving Repr, DecidableEq

/-- Cuts a first segment in two where a break stands right after a drive: the letter of the drive, and
the characters after it. -/
def cutDrive? (segment : Text) : Option (Char × Text) :=
  match segment.span (· != ':') with
  | (before, _ :: after) =>
    match withoutBreaks before with
    | [letter] =>
      if letter.isAlpha ∧ after.head?.any isBreak ∧ withoutBreaks after ≠ [] then
        some (letter, withoutBreaks after)
      else none
    | _ => none
  | _ => none

/-- Adds a segment, still with its breaks, to the path of a file.  A drive at the start is written with
a colon.  What is cut from a drive becomes a segment as it is. -/
def addFile (last : Bool) (file : FilePath) (segment : Text) : FilePath :=
  let encoded := percentEncode .path (withoutBreaks segment)
  if file.path ≠ ['/'] then { file with path := add last file.path encoded }
  else match cutDrive? segment with
    | some (letter, rest) =>
      { file with path := put last (put false file.path [letter, ':']) (percentEncode .path rest) }
    | none =>
      if isDrive encoded then ⟨put last file.path [encoded.headD '/', ':'], true⟩
      else { file with path := add last file.path encoded }

/-- The path of a file over the segments of a text, and whether it started with a drive. -/
def ofFileText (t : Text) : FilePath :=
  let file := addAll addFile ⟨['/'], false⟩ (Text.splitOn '/' t)
  { file with path := '/' :: file.path.reverse.dropWhile (· == '/') }

end Path
end Http
end TemplateExpansion
