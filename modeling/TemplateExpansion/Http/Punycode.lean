/-
# Labels outside ASCII

A label of a host name with characters outside ASCII is written with the characters of ASCII alone:
first those it has, then for each of the others, by increasing code point, the number of places it is
away from the one before, as digits in base 36 whose weights adapt to the distances met so far.
-/
import TemplateExpansion.Text

namespace TemplateExpansion
namespace Http
namespace Punycode

/-! ## 1. Digits with adapting weights -/

/-- A digit in base 36: the letters first. -/
def digit (n : Nat) : Char :=
  if n < 26 then Char.ofNat ('a'.toNat + n) else Char.ofNat ('0'.toNat + n - 26)

/-- The number of digit values that end a number at a place. -/
def threshold (place bias : Nat) : Nat :=
  if place ≤ bias then 1 else if bias + 26 ≤ place then 26 else place - bias

theorem threshold_bounds (place bias : Nat) :
    1 ≤ threshold place bias ∧ threshold place bias ≤ 26 := by
  unfold threshold
  split
  · omega
  · split <;> omega

/-- A distance as digits, the least significant first. -/
def digits (bias place n : Nat) : Text :=
  let t := threshold place bias
  if n < t then [digit n]
  else digit (t + (n - t) % (36 - t)) :: digits bias (place + 36) ((n - t) / (36 - t))
termination_by n
decreasing_by
  have h := threshold_bounds place bias
  have := Nat.div_le_self (n - threshold place bias) (36 - threshold place bias)
  omega

/-- Divides a distance by 35 until it is small, and counts 36 for each division. -/
def shrink (distance count : Nat) : Nat × Nat :=
  if 455 < distance then shrink (distance / 35) (count + 36) else (distance, count)
termination_by distance
decreasing_by omega

/-- The bias after a distance to the `points`-th character. -/
def adapt (distance points : Nat) (first : Bool) : Nat :=
  let d := if first then distance / 700 else distance / 2
  let s := shrink (d + d / points) 0
  s.2 + 36 * s.1 / (s.1 + 38)

/-! ## 2. Writing labels -/

/-- The state of the writer: what is written, the distance since the last character, the bias, and how
many characters are written. -/
structure Writer where
  written : Text
  distance : Nat
  bias : Nat
  handled : Nat
  deriving Repr, DecidableEq

/-- Passes one character of the label while the characters of code point `code` are written. -/
def Writer.pass (basic code : Nat) (w : Writer) (c : Char) : Writer :=
  if c.toNat < code then { w with distance := w.distance + 1 }
  else if c.toNat = code then
    { written := w.written ++ digits w.bias 36 w.distance
      distance := 0
      bias := adapt w.distance (w.handled + 1) (w.handled == basic)
      handled := w.handled + 1 }
  else w

/-- Writes the characters of increasing code points, each in a walk over the whole label. -/
def writeCodes (label : Text) (basic : Nat) : List Nat → Nat → Writer → Writer
  | [], _, w => w
  | code :: codes, next, w =>
    let w := { w with distance := w.distance + (code - next) * (w.handled + 1) }
    let w := label.foldl (Writer.pass basic code) w
    writeCodes label basic codes (code + 1) { w with distance := w.distance + 1 }

/-- A label in ASCII. -/
def encode (label : Text) : Text :=
  let basic := label.filter (·.toNat < 0x80)
  let codes := ((label.filter (0x80 ≤ ·.toNat)).map Char.toNat).mergeSort.eraseDups
  basic ++ (if basic.isEmpty then [] else ['-']) ++
    (writeCodes label basic.length codes 0x80 ⟨[], 0, 72, basic.length⟩).written

/-! ## 3. Reading labels -/

/-- The value of a digit. -/
def digitValue? (c : Char) : Option Nat :=
  if 'a' ≤ c ∧ c ≤ 'z' then some (c.toNat - 'a'.toNat)
  else if c.isDigit then some (c.toNat - '0'.toNat + 26)
  else none

/-- The largest distance and the largest weight. -/
def largest : Nat := 0xFFFFFFFF

/-- Reads the digits of a distance and adds it to `sum`; `weight` is that of the next digit. -/
def readDistance (bias place weight sum : Nat) : Text → Option (Nat × Text)
  | [] => none
  | c :: rest =>
    match digitValue? c with
    | none => none
    | some d =>
      let t := threshold place bias
      if (largest - sum) / weight < d then none
      else if d < t then some (sum + d * weight, rest)
      else if largest / (36 - t) < weight then none
      else readDistance bias (place + 36) (weight * (36 - t)) (sum + d * weight) rest

theorem length_readDistance {bias place weight sum n : Nat} {t left : Text}
    (h : readDistance bias place weight sum t = some (n, left)) : left.length < t.length := by
  induction t generalizing place weight sum with
  | nil => simp [readDistance] at h
  | cons c rest ih =>
    rw [readDistance] at h
    split at h
    · simp at h
    · dsimp only at h
      split at h
      · simp at h
      · split at h
        · simp only [Option.some.injEq, Prod.mk.injEq] at h
          simp [← h.2]
        · split at h
          · simp at h
          · have := ih h
            simp only [List.length_cons]
            omega

/-- Reads characters into `text`.  A distance counts places from `place` on, one before each character
of the text and one at its end; beyond the end it goes on at the start with the next code point. -/
def readCodes (text : Text) (code place bias : Nat) (t : Text) : Option Text :=
  match t with
  | [] => some text
  | c :: rest =>
    match h : readDistance bias 36 1 place (c :: rest) with
    | none => none
    | some (sum, left) =>
      let points := text.length + 1
      let code := code + sum / points
      if code < 0xD800 ∨ (0xDFFF < code ∧ code < 0x110000) then
        have := length_readDistance h
        readCodes (text.take (sum % points) ++ Char.ofNat code :: text.drop (sum % points)) code
          (sum % points + 1) (adapt (sum - place) points (place == 0)) left
      else none
termination_by t.length
decreasing_by assumption

/-- A label from what it is in ASCII: the characters before the last hyphen, and the digits for all
others after it. -/
def decode? (t : Text) : Option Text :=
  let digits := (t.reverse.takeWhile (· != '-')).reverse
  let basic := (t.take (t.length - digits.length)).dropLast
  if basic.isEmpty then readCodes [] 0x80 0 72 t else readCodes basic 0x80 0 72 digits

end Punycode
end Http
end TemplateExpansion
