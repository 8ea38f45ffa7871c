/-
# Hosts

The host in a URL under a scheme with a fixed meaning is an address of version 6 in square brackets,
an address of version 4 when its last label is a number, or a domain name, written in ASCII.  Under any
other scheme the host is kept as it is written.
-/
import TemplateExpansion.Http.Percent
import TemplateExpansion.Http.Domain
import TemplateExpansion.Decimal.Integer
import TemplateExpansion.Text.Quoted

namespace TemplateExpansion
namespace Http

/-- Why a text is no URL. -/
inductive UrlError where
  | relativeWithoutBase
  | emptyHost
  | invalidPort
  | invalidIpv4
  | invalidIpv6
  | invalidName
  | invalidHostCharacter
  deriving Repr, DecidableEq

/-- The wording of each cause. -/
def UrlError.message : UrlError → Text
  | .relativeWithoutBase => "relative URL without a base".toList
  | .emptyHost => "empty host".toList
  | .invalidPort => "invalid port number".toList
  | .invalidIpv4 => "invalid IPv4 address".toList
  | .invalidIpv6 => "invalid IPv6 address".toList
  | .invalidName => "invalid international domain name".toList
  | .invalidHostCharacter => "invalid domain character".toList

namespace Host

/-! ## 1. Addresses of version 4 -/

/-- The value of digits in a base, or nothing when one of them is no such digit. -/
def digitsIn? (base : Nat) (t : Text) : Option Nat :=
  t.foldl (fun n c => do
    let n ← n
    let d ← hexValue? c
    if d < base then some (n * base + d) else none) (some 0)

/-- One part of an address: in base sixteen after `0x`, in base eight after another zero, else in base
ten. -/
def ipv4Part? : Text → Option Nat
  | [] => none
  | '0' :: 'x' :: rest => digitsIn? 16 rest
  | '0' :: 'X' :: rest => digitsIn? 16 rest
  | '0' :: c :: rest => digitsIn? 8 (c :: rest)
  | t => digitsIn? 10 t

/-- The labels of a name, without the empty one after a point at its end. -/
def labels (name : Text) : List Text :=
  let parts := Text.splitOn '.' name
  if parts.length > 1 ∧ parts.getLast? = some [] then parts.dropLast else parts

/-- The last label of a name is a number. -/
def endsInNumber (name : Text) : Bool :=
  match (labels name).getLast? with
  | none => false
  | some label => (!label.isEmpty && label.all Char.isDigit) || (ipv4Part? label).isSome

/-- The four bytes of an address, in base ten. -/
def ipv4Text (address : Nat) : Text :=
  Text.join '.' ([3, 2, 1, 0].map fun place => Decimal.ofNat (address / Nat.pow 256 place % 256))

/-- An address of up to four parts; the last part stands for all bytes that are left. -/
def ipv4 (name : Text) : Except UrlError Text :=
  let parts := (labels name).map ipv4Part?
  let heads := parts.dropLast.filterMap id
  match parts.getLast? with
  | some (some last) =>
    if parts.length > 4 ∨ heads.length + 1 ≠ parts.length ∨ heads.any (255 < ·) ∨
        Nat.pow 256 (4 - heads.length) ≤ last then .error .invalidIpv4
    else .ok (ipv4Text (heads.zipIdx.foldl (fun n part => n + part.1 * Nat.pow 256 (3 - part.2)) last))
  | _ => .error .invalidIpv4

/-! ## 2. Addresses of version 6 -/

/-- One piece of an address: one to four digits in base sixteen. -/
def ipv6Piece? (t : Text) : Option Nat :=
  if t.isEmpty ∨ 4 < t.length then none else digitsIn? 16 t

/-- An address of version 4 at the end of one of version 6, as two pieces. -/
def ipv4Pieces? (t : Text) : Option (List Nat) :=
  let parts := Text.splitOn '.' t
  let numbers := parts.filterMap fun part =>
    if part.isEmpty ∨ 3 < part.length ∨ (part.head? = some '0' ∧ 1 < part.length) then none
    else (digitsIn? 10 part).filter (· ≤ 255)
  match numbers with
  | [a, b, c, d] => if parts.length = 4 then some [a * 256 + b, c * 256 + d] else none
  | _ => none

/-- Pieces between colons; the last may be an address of version 4. -/
def ipv6Pieces? (t : Text) : Option (List Nat) :=
  if t.isEmpty then some []
  else
    let parts := Text.splitOn ':' t
    let heads := parts.dropLast.map ipv6Piece?
    match parts.getLast? with
    | none => none
    | some last =>
      let tail := if last.contains '.' then ipv4Pieces? last else (ipv6Piece? last).map ([·])
      if heads.all Option.isSome then tail.map (heads.filterMap id ++ ·) else none

/-- Cuts a text at the first two colons in a row. -/
def splitGap? (before : Text) : Text → Option (Text × Text)
  | [] => none
  | ':' :: ':' :: rest => some (before.reverse, rest)
  | c :: rest => splitGap? (c :: before) rest

/-- The eight pieces of an address; two colons in a row stand for all pieces that are missing. -/
def ipv6? (t : Text) : Option (List Nat) :=
  match splitGap? [] t with
  | none => (ipv6Pieces? t).filter (·.length = 8)
  | some (before, after) => do
    let a ← ipv6Pieces? before
    let b ← ipv6Pieces? after
    if before.contains '.' ∨ 8 ≤ a.length + b.length then none
    else some (a ++ List.replicate (8 - a.length - b.length) 0 ++ b)

/-- The length of the row of zeros at the start of a list. -/
def zeroRow (pieces : List Nat) : Nat := (pieces.takeWhile (· == 0)).length

/-- Where the first longest row of at least two zeros starts. -/
def longestGap? (pieces : List Nat) : Option Nat :=
  let rows := (List.range pieces.length).map fun i => (i, zeroRow (pieces.drop i))
  let longest := (rows.map Prod.snd).foldl max 0
  if longest < 2 then none else (rows.find? (·.2 == longest)).map Prod.fst

/-- Pieces in base sixteen between colons. -/
def ipv6Row (pieces : List Nat) : Text := Text.join ':' (pieces.map Text.hexDigits)

/-- An address in square brackets, with two colons for its longest row of zeros. -/
def ipv6Text (pieces : List Nat) : Text :=
  let inside := match longestGap? pieces with
    | none => ipv6Row pieces
    | some i => ipv6Row (pieces.take i) ++ "::".toList ++
        ipv6Row (pieces.drop (i + zeroRow (pieces.drop i)))
  '[' :: (inside ++ [']'])

/-- What stands between square brackets. -/
def bracketed (t : Text) : Except UrlError Text :=
  if t.getLast? ≠ some ']' then .error .invalidIpv6
  else match ipv6? (t.drop 1).dropLast with
    | some pieces => .ok (ipv6Text pieces)
    | none => .error .invalidIpv6

/-! ## 3. Names -/

/-- A name in ASCII; percent signs with two digits stand for its bytes. -/
def asciiName (t : Text) : Except UrlError Text :=
  match (Utf8.decode? (percentDecode t)).bind Domain.toAscii? with
  | none => .error .invalidName
  | some name => .ok name

/-- A host under a scheme with a fixed meaning. -/
def special (t : Text) : Except UrlError Text :=
  if t.head? = some '[' then bracketed t
  else do
    let name ← asciiName t
    if name.isEmpty then .error .emptyHost
    else if endsInNumber name then ipv4 name
    else .ok name

/-- A host under any other scheme. -/
def verbatimName (t : Text) : Except UrlError Text :=
  if t.head? = some '[' then bracketed t
  else if t.any fun c => c.toNat = 0 || "\t\n\r #/:<>?@[\\]^|".toList.contains c then
    .error .invalidHostCharacter
  else .ok (percentEncode .verbatim t)

end Host
end Http
end TemplateExpansion
