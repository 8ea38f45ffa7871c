/-
# What a search finds

`Span.findFrom` walks a text once, with one candidate brace in hand.  This file says what it finds without
a walk, as a search backwards among the bytes of the text: take the first closing brace that has an opening
one to close, and from there the nearest opening brace before it.  An opening brace directly behind a
backslash is none, also when the backslash stands before the offset that the search starts from.

* `Cut.isSome_first?_iff`: something is found exactly when a brace that opens stands before a closing one.
* `closesAt_iff`, `opensAt_iff`: the bytes of the two braces, told as parts of the text.
* `findFrom_nearest`: the search, for every text and every offset, beyond the end of the text and inside
  a character as well.
-/
import Mathlib.Order.Bounds.Defs
import TemplateExpansion.Proofs.Bytes
import TemplateExpansion.Proofs.WorkingText

namespace TemplateExpansion

open Text

/-! ## 1. When something is found -/

namespace Cut

/-- With a candidate in hand the walk ends at the next closing brace at the latest. -/
theorem isSome_scan_of_mem {t : Text} (h : '}' ∈ t) (passed inner : Text) (escaped : Bool) :
    (scan passed (some inner) escaped t).isSome = true := by
  induction t generalizing passed inner escaped with
  | nil => cases h
  | cons c t ih =>
    by_cases hc : c = '{' ∧ escaped = false
    · have ht : '}' ∈ t := (List.mem_cons.1 h).resolve_left (by simp [hc.1])
      rw [scan, if_pos hc]
      exact ih ht _ _ _
    · rw [scan, if_neg hc]
      by_cases hb : c = '}'
      · simp [hb]
      · have ht : '}' ∈ t := (List.mem_cons.1 h).resolve_left (Ne.symm hb)
        simpa [hb] using ih ht passed (c :: inner) (c == '\\')

/-- **Something is found** exactly when a brace that opens stands before a closing one. -/
theorem isSome_first?_iff {escaped : Bool} {t : Text} :
    (first? escaped t).isSome = true ↔
      ∃ s inner r, t = s ++ '{' :: (inner ++ '}' :: r) ∧ escapedAfter escaped s = false := by
  constructor
  · intro h
    obtain ⟨cut, hcut⟩ := Option.isSome_iff_exists.1 h
    obtain ⟨hw, -, he, -⟩ := first?_eq_some_iff.1 hcut
    exact ⟨cut.before, cut.inner, cut.after, hw.symm, he⟩
  · rintro ⟨s, inner, r, rfl, he⟩
    cases hs : first? escaped s with
    | some cut => rw [first?_append_of_some hs]; rfl
    | none =>
      obtain ⟨passed, candidate, hscan, -, -⟩ := scan_append_of_none hs ('{' :: (inner ++ '}' :: r))
      have hmem : '}' ∈ inner ++ '}' :: r := by simp
      rw [first?, hscan, he]
      cases candidate <;> simpa [scan] using isSome_scan_of_mem hmem _ [] false

end Cut

theorem Text.escapedAfter_eq_true {t : Text} :
    escapedAfter false t = true ↔ ∃ s, t = s ++ ['\\'] := by
  rw [← Bool.not_eq_false, escapedAfter_eq_false, Decidable.not_not, List.getLast?_eq_some_iff]

/-- In a flat text a backslash stands before every opening brace. -/
theorem Text.getLast?_of_flat {s r : Text} (h : Flat false (s ++ '{' :: r)) : s.getLast? = some '\\' :=
  flat_iff_getLast?.1 h s r rfl

/-! ## 2. Braces among the bytes -/

namespace Span

/-- At this index stands the byte of an opening brace, and not directly behind that of a backslash. -/
def OpensAt (bytes : List UInt8) (i : Nat) : Prop :=
  bytes[i]? = some '{'.toUInt8 ∧ ¬ (0 < i ∧ bytes[i - 1]? = some '\\'.toUInt8)

/-- At this index stands the byte of a closing brace, and between an offset and the index an opening brace
that it can close. -/
def ClosesAt (bytes : List UInt8) (offset j : Nat) : Prop :=
  offset ≤ j ∧ bytes[j]? = some '}'.toUInt8 ∧ ∃ i, offset ≤ i ∧ i < j ∧ OpensAt bytes i

theorem opensAt_iff {source : Text} {i : Nat} :
    OpensAt (Utf8.encode source) i ↔
      ∃ s r, source = s ++ '{' :: r ∧ s.byteSize = i ∧ escapedAfter false s = false := by
  rw [OpensAt, Utf8.getElem?_encode_eq_some_iff (by decide), Utf8.getElem?_encode_eq_some_iff (by decide)]
  constructor
  · rintro ⟨⟨s, r, rfl, rfl⟩, hescaped⟩
    refine ⟨s, r, rfl, rfl, Bool.eq_false_iff.2 fun h => hescaped ?_⟩
    obtain ⟨t, rfl⟩ := escapedAfter_eq_true.1 h
    exact ⟨by simp, t, '{' :: r, by simp, by simp⟩
  · rintro ⟨s, r, rfl, rfl, he⟩
    refine ⟨⟨s, r, rfl, rfl⟩, ?_⟩
    rintro ⟨hpos, t, u, ht, hsize⟩
    -- The backslash and what is before it make up all of `s`.
    have hparts : s ++ '{' :: r = (t ++ ['\\']) ++ u := by simpa using ht
    have hs : s = t ++ ['\\'] := eq_of_byteSize_eq hparts (by simp; omega)
    exact Bool.eq_false_iff.1 he (escapedAfter_eq_true.2 ⟨t, hs⟩)

/-- A brace closes exactly where a brace that opens stands before it, no earlier than the offset. -/
theorem closesAt_iff {source : Text} {offset j : Nat} :
    ClosesAt (Utf8.encode source) offset j ↔
      ∃ s inner r, source = s ++ '{' :: (inner ++ '}' :: r) ∧ escapedAfter false s = false ∧
        offset ≤ s.byteSize ∧ (s ++ '{' :: inner).byteSize = j := by
  rw [ClosesAt, Utf8.getElem?_encode_eq_some_iff (by decide)]
  constructor
  · rintro ⟨-, ⟨s', r', hs', rfl⟩, i, hoffset, hlt, hopens⟩
    obtain ⟨s, r, hs, rfl, he⟩ := opensAt_iff.1 hopens
    -- The opening brace comes before the closing one, so it stands in the text before that.
    have hparts : (s ++ ['{']) ++ r = s' ++ '}' :: r' := by rw [← hs', hs]; simp
    obtain ⟨inner, rfl⟩ := isPrefix_of_byteSize_le hparts (by simp; omega)
    exact ⟨s, inner, r', by simpa using hs', he, hoffset, by simp⟩
  · rintro ⟨s, inner, r, rfl, he, hoffset, rfl⟩
    refine ⟨by simp; omega, ⟨s ++ '{' :: inner, r, by simp, rfl⟩, s.byteSize, hoffset, ?_, ?_⟩
    · rw [byteSize_append, byteSize_cons, utf8Size_openBrace]
      omega
    · exact opensAt_iff.2 ⟨s, inner ++ '}' :: r, rfl, rfl, he⟩

/-! ## 3. What is found -/

/-- What is found from an offset is a cut of the text behind some part of it that reaches as far. -/
theorem exists_cut_of_findFrom {source : Text} {offset : Nat} {span : Span}
    (h : findFrom source offset = some span) :
    ∃ s cut, upTo offset source = s ∧ source = s ++ cut.whole ∧ offset ≤ s.byteSize ∧
      Cut.first? (escapedAfter false s) cut.whole = some cut ∧ span = ofCut s.byteSize cut := by
  rw [findFrom_eq_map, Option.map_eq_some_iff] at h
  obtain ⟨cut, hcut, rfl⟩ := h
  have hwhole := Cut.first?_whole hcut
  have hne : startingAt offset source ≠ [] := by simp [← hwhole, Cut.whole]
  refine ⟨_, cut, rfl, ?_, le_byteSize_upTo hne, hwhole ▸ hcut, rfl⟩
  rw [hwhole, upTo_append_startingAt]

/-- What begins behind an offset begins with the text before it. -/
theorem exists_append_of_le {source : Text} {offset : Nat} {t r : Text} (ht : source = t ++ r)
    (hoffset : offset ≤ t.byteSize) : ∃ u, t = upTo offset source ++ u := by
  have hprefix : upTo offset source <+: t := by
    rw [ht]
    exact upTo_isPrefix hoffset r
  obtain ⟨u, hu⟩ := hprefix
  exact ⟨u, hu.symm⟩

section

variable {source : Text} {offset : Nat} {s : Text} {cut : Cut} (hs : upTo offset source = s)
  (hsource : source = s ++ cut.whole) (hoffset : offset ≤ s.byteSize)
  (hcut : Cut.first? (escapedAfter false s) cut.whole = some cut)

include hs hsource hoffset hcut

/-- **Its closing brace is the first** that has an opening one to close. -/
theorem isLeast_closesAt :
    IsLeast {j | ClosesAt (Utf8.encode source) offset j}
      (s ++ cut.before ++ '{' :: cut.inner).byteSize := by
  obtain ⟨-, hbefore, hopens, hinert⟩ := Cut.first?_eq_some_iff.1 hcut
  refine ⟨closesAt_iff.2 ?_, fun j hj => Nat.le_of_not_lt fun hlt => ?_⟩
  · refine ⟨s ++ cut.before, cut.inner, cut.after, ?_, ?_, ?_, rfl⟩
    · rw [hsource, Cut.whole, List.append_assoc]
    · rw [escapedAfter_append, hopens]
    · rw [byteSize_append]
      omega
  · obtain ⟨t, inner, r, ht, he, hoffset', rfl⟩ := closesAt_iff.1 hj
    obtain ⟨t, rfl⟩ := exists_append_of_le ht hoffset'
    rw [hs] at ht he hlt
    -- Both braces stand before the closing brace of the cut, where nothing is to be found.
    have hparts : (s ++ t ++ '{' :: (inner ++ ['}'])) ++ r =
        (s ++ cut.before ++ '{' :: cut.inner) ++ '}' :: cut.after := by
      rw [hsource, Cut.whole] at ht
      simpa using ht.symm
    obtain ⟨u, hu⟩ := isPrefix_of_byteSize_le hparts (by simp at hlt ⊢; omega)
    have hsame : cut.before ++ '{' :: cut.inner = t ++ '{' :: (inner ++ '}' :: u) := by
      simpa using hu.symm
    have hnone : Cut.first? (escapedAfter false s) (cut.before ++ '{' :: cut.inner) = none :=
      Cut.first?_append_eq_none hbefore (by simpa using hinert.2)
    rw [escapedAfter_append] at he
    have hsome := Cut.isSome_first?_iff.2 ⟨t, inner, u, hsame, he⟩
    rw [hnone] at hsome
    cases hsome

omit hs in
/-- **Its opening brace is the last** one before that. -/
theorem isGreatest_opensAt :
    IsGreatest {i | offset ≤ i ∧ i < (s ++ cut.before ++ '{' :: cut.inner).byteSize ∧
      OpensAt (Utf8.encode source) i} (s ++ cut.before).byteSize := by
  obtain ⟨-, -, hopens, hinert⟩ := Cut.first?_eq_some_iff.1 hcut
  refine ⟨⟨?_, ?_, opensAt_iff.2 ?_⟩, fun i hi => Nat.le_of_not_lt fun hlt => ?_⟩
  · rw [byteSize_append]
    omega
  · rw [byteSize_append _ ('{' :: cut.inner), byteSize_cons, utf8Size_openBrace]
    omega
  · refine ⟨s ++ cut.before, cut.inner ++ '}' :: cut.after, ?_, rfl, ?_⟩
    · rw [hsource, Cut.whole, List.append_assoc]
    · rw [escapedAfter_append, hopens]
  · obtain ⟨-, hclose, hat⟩ := hi
    obtain ⟨t, r, ht, rfl, he⟩ := opensAt_iff.1 hat
    have hfront : (s ++ cut.before ++ ['{']) ++ (cut.inner ++ '}' :: cut.after) = t ++ '{' :: r := by
      rw [← ht, hsource, Cut.whole]
      simp
    obtain ⟨x, rfl⟩ := isPrefix_of_byteSize_le hfront (by simp at hlt ⊢; omega)
    have hback : (s ++ cut.before ++ ['{'] ++ x ++ ['{']) ++ r =
        (s ++ cut.before ++ '{' :: cut.inner) ++ '}' :: cut.after := by
      simpa using hfront.symm
    obtain ⟨y, hy⟩ := isPrefix_of_byteSize_le hback (by simp at hclose ⊢; omega)
    have hinner : cut.inner = x ++ '{' :: y := by simpa using hy.symm
    -- The brace stands between those of the cut, so a backslash stands before it.
    have hescaped : escapedAfter false x = true := flat_iff.1 hinert.1 x y hinner
    rw [escapedAfter_append, escapedAfter_append, escapedAfter_singleton] at he
    exact absurd (hescaped.symm.trans he) (by decide)

end

/-- **Something is found** exactly when a closing brace has an opening one to close. -/
theorem isSome_findFrom_iff {source : Text} {offset : Nat} :
    (findFrom source offset).isSome = true ↔ ∃ j, ClosesAt (Utf8.encode source) offset j := by
  constructor
  · intro h
    obtain ⟨span, hspan⟩ := Option.isSome_iff_exists.1 h
    obtain ⟨s, cut, hs, hsource, hoffset, hcut, -⟩ := exists_cut_of_findFrom hspan
    exact ⟨_, (isLeast_closesAt hs hsource hoffset hcut).1⟩
  · rintro ⟨j, hj⟩
    obtain ⟨t, inner, r, ht, he, hoffset, -⟩ := closesAt_iff.1 hj
    obtain ⟨u, rfl⟩ := exists_append_of_le ht hoffset
    have hparts : upTo offset source ++ startingAt offset source =
        upTo offset source ++ (u ++ '{' :: (inner ++ '}' :: r)) := by
      rw [upTo_append_startingAt, ← List.append_assoc]
      exact ht
    have hrest := List.append_cancel_left hparts
    rw [escapedAfter_append] at he
    rw [findFrom_eq_map, Option.isSome_map, Cut.isSome_first?_iff]
    exact ⟨u, inner, r, hrest, he⟩

/-! ## 4. Where it stands -/

/-- A span stops just behind its closing brace. -/
theorem stop_ofCut_eq (s : Text) (cut : Cut) :
    (ofCut s.byteSize cut).stop = (s ++ cut.before ++ '{' :: cut.inner).byteSize + 1 := by
  rw [Cut.stop_ofCut]
  simp [Cut.braced, Nat.add_assoc]

section

variable {source s : Text} {cut : Cut} (hsource : source = s ++ cut.whole)

include hsource

theorem isBoundary_start : source.IsBoundary (ofCut s.byteSize cut).start :=
  ⟨s ++ cut.before, _, by rw [hsource, Cut.whole, List.append_assoc], (Cut.start_ofCut_eq s cut).symm⟩

theorem isBoundary_stop : source.IsBoundary (ofCut s.byteSize cut).stop :=
  ⟨s ++ cut.before ++ Cut.braced cut.inner, cut.after, by rw [hsource, Cut.whole_eq]; simp,
    (Cut.stop_ofCut s cut).symm⟩

/-- The bytes between the braces are those of the inner text. -/
theorem extract_inner :
    (Utf8.encode source).extract ((ofCut s.byteSize cut).start + 1) ((ofCut s.byteSize cut).stop - 1) =
      Utf8.encode cut.inner := by
  have hparts : source = (s ++ cut.before ++ ['{']) ++ cut.inner ++ '}' :: cut.after := by
    rw [hsource, Cut.whole]
    simp
  have hopened : (ofCut s.byteSize cut).start + 1 = (s ++ cut.before ++ ['{']).byteSize := by
    rw [Cut.start_ofCut_eq, byteSize_append _ ['{'], byteSize_cons, utf8Size_openBrace, byteSize_nil]
  have hclosed : (ofCut s.byteSize cut).stop - 1 = (s ++ cut.before ++ ['{'] ++ cut.inner).byteSize := by
    rw [stop_ofCut_eq, Nat.add_sub_cancel, List.append_assoc _ ['{']]
    rfl
  rw [hopened, hclosed, hparts, Utf8.encode_extract]

end

/-! ## 5. The search -/

/-- **The walk is the search backwards.**  For every text and every offset something is found exactly when
a closing brace stands at or behind the offset with an unescaped opening brace between the offset and it.
What is found stops just behind the first such closing brace and starts at the last unescaped opening brace
before that.  Both ends lie in the text from the offset on and between characters, the bytes between the
braces are those of the inner text, and that holds no closing brace and no unescaped opening one. -/
theorem findFrom_nearest (source : Text) (offset : Nat) :
    let bytes := Utf8.encode source
    ((findFrom source offset).isSome = true ↔ ∃ j, ClosesAt bytes offset j) ∧
      ∀ span, findFrom source offset = some span →
        IsLeast {j | ClosesAt bytes offset j} (span.stop - 1) ∧
          IsGreatest {i | offset ≤ i ∧ i < span.stop - 1 ∧ OpensAt bytes i} span.start ∧
          offset ≤ span.start ∧ span.start < span.stop ∧ span.stop ≤ bytes.length ∧
          source.IsBoundary span.start ∧ source.IsBoundary span.stop ∧
          bytes.extract (span.start + 1) (span.stop - 1) = Utf8.encode span.inner ∧
          '}' ∉ span.inner ∧ ∀ s r, span.inner = s ++ '{' :: r → s.getLast? = some '\\' := by
  intro bytes
  refine ⟨isSome_findFrom_iff, ?_⟩
  intro span h
  obtain ⟨s, cut, hs, hsource, hoffset, hcut, rfl⟩ := exists_cut_of_findFrom h
  obtain ⟨-, -, -, hinert⟩ := Cut.first?_eq_some_iff.1 hcut
  have hleast := isLeast_closesAt hs hsource hoffset hcut
  have hgreatest := isGreatest_opensAt hsource hoffset hcut
  have hclose : (s ++ cut.before ++ '{' :: cut.inner).byteSize = (ofCut s.byteSize cut).stop - 1 := by
    rw [stop_ofCut_eq, Nat.add_sub_cancel]
  rw [hclose] at hleast
  rw [hclose, ← Cut.start_ofCut_eq] at hgreatest
  have hlt := hgreatest.1.2.1
  have hle := (isBoundary_stop hsource).le
  rw [← Utf8.length_encode source] at hle
  refine ⟨hleast, hgreatest, hgreatest.1.1, by omega, hle, isBoundary_start hsource,
    isBoundary_stop hsource, extract_inner hsource, hinert.2, ?_⟩
  intro x y hxy
  have hflat : Flat false (x ++ '{' :: y) := hxy ▸ hinert.1
  exact getLast?_of_flat hflat

end Span

end TemplateExpansion
