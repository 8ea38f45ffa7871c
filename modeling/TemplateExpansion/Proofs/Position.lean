/-
# Places in a text

`Span.findFrom` speaks of byte offsets, the walk behind it of what lies before and behind a place.
This file takes one to the other: cutting a text at the size of its first part gives the two parts
back (`splitOffset_byteSize`), so a search from there is a walk over the second part
(`findFrom_append`).
-/
import TemplateExpansion.Proofs.Matching

namespace TemplateExpansion

namespace Text

/-! ## 1. Cutting at the end of a part -/

theorem splitOffsetFrom_byteSize (passed s t : Text) :
    splitOffsetFrom passed s.byteSize (s ++ t) = (passed.reverse ++ s, t) := by
  induction s generalizing passed with
  | nil => cases t <;> simp [splitOffsetFrom]
  | cons c s ih =>
    obtain ⟨n, hn⟩ : ∃ n, byteSize (c :: s) = n + 1 :=
      ⟨c.utf8Size - 1 + byteSize s, by have := Char.utf8Size_pos c; rw [byteSize_cons]; omega⟩
    have hrest : n + 1 - c.utf8Size = byteSize s := by rw [byteSize_cons] at hn; omega
    rw [hn, List.cons_append, splitOffsetFrom, hrest, ih]
    simp

/-- **Cutting at the size of the first part** gives the two parts back. -/
theorem splitOffset_byteSize (s t : Text) : splitOffset s.byteSize (s ++ t) = (s, t) := by
  simp [splitOffset, splitOffsetFrom_byteSize]

/-- The text before a byte offset. -/
def upTo (offset : Nat) (t : Text) : Text := (splitOffset offset t).1

/-- The text from a byte offset on. -/
def startingAt (offset : Nat) (t : Text) : Text := (splitOffset offset t).2

theorem upTo_append_startingAt (offset : Nat) (t : Text) :
    upTo offset t ++ startingAt offset t = t :=
  splitOffset_append offset t

@[simp] theorem upTo_byteSize (s t : Text) : upTo s.byteSize (s ++ t) = s := by
  simp [upTo, splitOffset_byteSize]

@[simp] theorem startingAt_byteSize (s t : Text) : startingAt s.byteSize (s ++ t) = t := by
  simp [startingAt, splitOffset_byteSize]

theorem endsWith_backslash (t : Text) : endsWith t '\\' = escapedAfter false t := by
  rw [endsWith, escapedAfter]
  cases t.getLast? with
  | none => rfl
  | some c => simp

/-! ## 2. Searching from there -/

theorem findFrom_eq_map (source : Text) (offset : Nat) :
    Span.findFrom source offset =
      (Cut.first? (escapedAfter false (upTo offset source)) (startingAt offset source)).map
        (Span.ofCut (upTo offset source).byteSize) := by
  rw [Span.findFrom, endsWith_backslash]
  rfl

/-- **A search from the end of the first part** walks over the second. -/
theorem findFrom_append (s t : Text) :
    Span.findFrom (s ++ t) s.byteSize =
      (Cut.first? (escapedAfter false s) t).map (Span.ofCut s.byteSize) := by
  rw [findFrom_eq_map, upTo_byteSize, startingAt_byteSize]

end Text

namespace Cut

@[simp] theorem start_ofCut (offset : Nat) (cut : Cut) :
    (Span.ofCut offset cut).start = offset + cut.before.byteSize := rfl

@[simp] theorem inner_ofCut (offset : Nat) (cut : Cut) : (Span.ofCut offset cut).inner = cut.inner := rfl

/-- A pair of braces with what stands between them. -/
def braced (inner : Text) : Text := '{' :: (inner ++ ['}'])

theorem whole_eq (cut : Cut) : cut.whole = cut.before ++ braced cut.inner ++ cut.after := by
  simp [whole, braced]

theorem byteSize_braced (inner : Text) : (braced inner).byteSize = inner.byteSize + 2 := by
  have ho : ('{' : Char).utf8Size = 1 := rfl
  have hc : ('}' : Char).utf8Size = 1 := rfl
  simp only [braced, Text.byteSize_cons, Text.byteSize_append, Text.byteSize_nil, ho, hc]
  omega

/-- A cut of the second part of a text is a place in the whole: the span starts where the text before
it ends, and stops where its own text ends. -/
theorem stop_ofCut (s : Text) (cut : Cut) :
    (Span.ofCut s.byteSize cut).stop = (s ++ cut.before ++ braced cut.inner).byteSize := by
  simp [Span.ofCut, width, byteSize_braced, Nat.add_assoc]

theorem start_ofCut_eq (s : Text) (cut : Cut) :
    (Span.ofCut s.byteSize cut).start = (s ++ cut.before).byteSize := by
  simp

end Cut

end TemplateExpansion
