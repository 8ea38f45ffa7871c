/-
# Texts as bytes

Texts are exchanged as bytes of UTF-8.  The decoder reads one byte at a time; its state is what it
still expects of the character it is in.  A byte that does not fit ends the character begun before it,
which becomes one invalid unit, and is looked at again as the start of the next.

The main statement says that decoding in pieces is decoding the whole (`decodeFrom_append`), so a
character may be split between two pieces.
-/
import TemplateExpansion.Text

namespace TemplateExpansion
namespace Utf8

/-- The bytes of a text. -/
def encode (t : Text) : List UInt8 := t.flatMap String.utf8EncodeChar

@[simp] theorem encode_nil : encode [] = [] := rfl

@[simp] theorem encode_cons (c : Char) (t : Text) :
    encode (c :: t) = String.utf8EncodeChar c ++ encode t := rfl

@[simp] theorem encode_append (s t : Text) : encode (s ++ t) = encode s ++ encode t :=
  List.flatMap_append

/-- **A text has as many bytes as its size says.** -/
@[simp] theorem length_encode (t : Text) : (encode t).length = t.byteSize := by
  induction t with
  | nil => rfl
  | cons c t ih => simp [ih]

/-! ## 1. The decoder -/

/-- What the decoder expects: the start of a character, or `missing` more bytes of one whose value so
far is `value`, the next of them between `low` and `high`. -/
inductive Expectation where
  | start
  | more (missing value low high : Nat)
  deriving Repr, DecidableEq

/-- The decoder: what it expects, and the units decoded so far, last unit first.  A unit is a
character, or nothing for bytes that make none. -/
structure Decoder where
  expectation : Expectation
  units : List (Option Char)
  deriving Repr, DecidableEq

namespace Decoder

/-- The decoder before the first byte. -/
def initial : Decoder := ⟨.start, []⟩

/-- Reads a byte at the start of a character. -/
def begin (units : List (Option Char)) (b : Nat) : Decoder :=
  if b < 0x80 then ⟨.start, some (Char.ofNat b) :: units⟩
  else if 0xC2 ≤ b ∧ b ≤ 0xDF then ⟨.more 1 (b - 0xC0) 0x80 0xBF, units⟩
  else if b = 0xE0 then ⟨.more 2 0 0xA0 0xBF, units⟩
  else if b = 0xED then ⟨.more 2 0xD 0x80 0x9F, units⟩
  else if 0xE1 ≤ b ∧ b ≤ 0xEF then ⟨.more 2 (b - 0xE0) 0x80 0xBF, units⟩
  else if b = 0xF0 then ⟨.more 3 0 0x90 0xBF, units⟩
  else if 0xF1 ≤ b ∧ b ≤ 0xF3 then ⟨.more 3 (b - 0xF0) 0x80 0xBF, units⟩
  else if b = 0xF4 then ⟨.more 3 4 0x80 0x8F, units⟩
  else ⟨.start, none :: units⟩

/-- Reads one byte. -/
def step (d : Decoder) (byte : UInt8) : Decoder :=
  let b := byte.toNat
  match d.expectation with
  | .start => begin d.units b
  | .more missing value low high =>
    if low ≤ b ∧ b ≤ high then
      let value := value * 64 + (b - 0x80)
      if missing ≤ 1 then ⟨.start, some (Char.ofNat value) :: d.units⟩
      else ⟨.more (missing - 1) value 0x80 0xBF, d.units⟩
    else begin (none :: d.units) b

/-- The units once no byte follows: a character that was begun is one invalid unit. -/
def finish (d : Decoder) : List (Option Char) :=
  match d.expectation with
  | .start => d.units.reverse
  | .more .. => (none :: d.units).reverse

end Decoder

/-! ## 2. Whole texts -/

/-- Reads bytes one after the other. -/
def decodeFrom (d : Decoder) (bytes : List UInt8) : Decoder := bytes.foldl Decoder.step d

/-- **Decoding in pieces is decoding the whole.** -/
theorem decodeFrom_append (d : Decoder) (a b : List UInt8) :
    decodeFrom d (a ++ b) = decodeFrom (decodeFrom d a) b := by
  simp [decodeFrom]

/-- The units that bytes stand for. -/
def units (bytes : List UInt8) : List (Option Char) := (decodeFrom .initial bytes).finish

/-- The text that bytes stand for, with the replacement character for what makes none. -/
def decodeLossy (bytes : List UInt8) : Text := (units bytes).map fun u => u.getD '\uFFFD'

/-- The text that bytes stand for, or nothing when some of them make no character. -/
def decode? (bytes : List UInt8) : Option Text :=
  let us := units bytes
  if us.all Option.isSome then some (us.filterMap id) else none

/-- The text before the first bytes that make no character. -/
def decodeStart (bytes : List UInt8) : Text :=
  ((units bytes).takeWhile Option.isSome).filterMap id

end Utf8
end TemplateExpansion
