/-
# Spans

An occurrence of an expression is the text from an opening brace to the first closing brace after
it that has an eligible opening brace before it; the opening brace is the nearest one that is not
escaped, that is, not directly after a backslash.  So `{a{b}}` yields `{b}` first, and a closing
brace with nothing to close is plain text.

A scan walks the text once.  It carries what it has passed and, once an unescaped opening brace has
been met, what has come since the latest one.  The main statement says that a scan loses nothing
(`Cut.first?_whole`).
-/
import TemplateExpansion.Text

namespace TemplateExpansion

/-! ## 1. Cuts -/

/-- A text cut at a matched pair of braces: it reads `before`, an opening brace, `inner`, a closing
brace, `after`. -/
structure Cut where
  before : Text
  inner : Text
  after : Text
  deriving Repr, DecidableEq

namespace Cut

/-- The text that was cut. -/
def whole (cut : Cut) : Text := cut.before ++ '{' :: (cut.inner ++ '}' :: cut.after)

/-- Walks a text to its first matched pair of braces.  `passed` is what lies before the candidate
brace and `candidate` what has come after it, both with the last character first; `escaped` says
that a backslash came last. -/
def scan (passed : Text) (candidate : Option Text) (escaped : Bool) : Text → Option Cut
  | [] => none
  | c :: rest =>
    if c = '{' ∧ escaped = false then
      match candidate with
      | none => scan passed (some []) false rest
      | some inner => scan (inner ++ '{' :: passed) (some []) false rest
    else
      match candidate with
      | none => scan (c :: passed) none (c == '\\') rest
      | some inner =>
        if c = '}' then some ⟨passed.reverse, inner.reverse, rest⟩
        else scan passed (some (c :: inner)) (c == '\\') rest

/-- The first matched pair of braces in a text; `escaped` says that a backslash stands before it. -/
def first? (escaped : Bool) (t : Text) : Option Cut := scan [] none escaped t

/-- What a scan has passed, in reading order. -/
def walked (passed : Text) : Option Text → Text
  | none => passed.reverse
  | some inner => passed.reverse ++ '{' :: inner.reverse

theorem scan_whole {passed : Text} {candidate : Option Text} {escaped : Bool} {t : Text} {cut : Cut}
    (h : scan passed candidate escaped t = some cut) :
    cut.whole = walked passed candidate ++ t := by
  fun_induction scan passed candidate escaped t with
  | case1 => simp at h
  | case2 passed escaped c rest hc ih => simpa [walked, hc] using ih h
  | case3 passed escaped c rest hc inner ih => simpa [walked, hc] using ih h
  | case4 passed escaped c rest hc ih => simpa [walked] using ih h
  | case5 passed escaped rest inner hc =>
    obtain rfl := Option.some.inj h
    simp [walked, whole]
  | case6 passed escaped c rest hc inner hb ih => simpa [walked] using ih h

/-- **A cut reads as the text it was made from.** -/
theorem first?_whole {escaped : Bool} {t : Text} {cut : Cut} (h : first? escaped t = some cut) :
    cut.whole = t := by
  simpa [walked] using scan_whole h

/-- What follows a matched pair of braces is shorter than the text. -/
theorem length_after_lt {escaped : Bool} {t : Text} {cut : Cut} (h : first? escaped t = some cut) :
    cut.after.length < t.length := by
  rw [← first?_whole h]
  simp only [whole, List.length_append, List.length_cons]
  omega

/-- The number of bytes from the opening brace to just after the closing brace. -/
def width (cut : Cut) : Nat := cut.inner.byteSize + 2

end Cut

/-! ## 2. Spans: cuts by position -/

/-- One matched expression occurrence: `start` is the byte offset of the opening brace, `stop` the
offset just after the closing brace, and `inner` the text between the braces. -/
structure Span where
  start : Nat
  stop : Nat
  inner : Text
  deriving Repr, DecidableEq

namespace Span

/-- The length of the occurrence in bytes, braces included. -/
def width (span : Span) : Nat := span.stop - span.start

/-- Nothing stands between the braces. -/
def isBlank (span : Span) : Bool := span.inner.isEmpty

/-- The span of a cut made in a text that starts at a byte offset. -/
def ofCut (offset : Nat) (cut : Cut) : Span :=
  let start := offset + cut.before.byteSize
  ⟨start, start + cut.width, cut.inner⟩

/-- The first span whose opening brace stands at a byte offset of at least `offset`.  Whether a brace
at that very place is escaped is decided by the character before it. -/
def findFrom (source : Text) (offset : Nat) : Option Span :=
  let parts := source.splitOffset offset
  (Cut.first? (parts.1.endsWith '\\') parts.2).map (ofCut parts.1.byteSize)

/-- The first span of a text. -/
def find (source : Text) : Option Span := findFrom source 0

/-- The spans met when each search goes on where the last one ended; `escaped` says that a backslash
stands before the text, which starts at byte `offset`. -/
def chain (offset : Nat) (escaped : Bool) (t : Text) : List Span :=
  match h : Cut.first? escaped t with
  | none => []
  | some cut =>
    have := Cut.length_after_lt h
    let span := ofCut offset cut
    span :: chain span.stop false cut.after
termination_by t.length

theorem chain_of_none {escaped : Bool} {t : Text} (h : Cut.first? escaped t = none) (offset : Nat) :
    chain offset escaped t = [] := by
  rw [chain]
  split
  · rfl
  · rename_i cut hcut
    exact absurd (h.symm.trans hcut) (by simp)

theorem chain_of_some {escaped : Bool} {t : Text} {cut : Cut} (h : Cut.first? escaped t = some cut)
    (offset : Nat) :
    chain offset escaped t =
      ofCut offset cut :: chain (ofCut offset cut).stop false cut.after := by
  rw [chain]
  split
  · rename_i hnone
    exact absurd (h.symm.trans hnone) (by simp)
  · rename_i cut' hcut
    obtain rfl : cut = cut' := Option.some.inj (h.symm.trans hcut)
    rfl

/-- All spans of a text, each searched for from the end of the one before. -/
def all (source : Text) : List Span := chain 0 false source

end Span

end TemplateExpansion
