/-
# What the first matched pair of braces looks like

`Cut.first?` walks a text with a candidate brace in hand.  This file says what it finds without
mentioning the walk.  An opening brace OPENS when no backslash stands directly before it; a text is
`Flat` when none of its braces opens, and `Inert` when besides it holds no closing brace.

* `first?_eq_some_iff`: a cut is found exactly when the text before it has no match of its own, its
  opening brace opens, and the text between its braces is inert.
* `first?_append_of_flat`: a flat text in front moves a match and neither adds nor hides one.
* `first?_true`: a backslash before the whole text matters only when the match begins the text.
* `flat_of_first?_eq_none`: a text without a match in which no brace waits is flat.
-/
import TemplateExpansion.Span
import TemplateExpansion.Escape

namespace TemplateExpansion

/-! ## 1. Flat and inert texts -/

namespace Text

/-- No opening brace of the text opens; `escaped` says that a backslash stands before the text. -/
def Flat (escaped : Bool) : Text → Prop
  | [] => True
  | c :: rest => (c = '{' → escaped = true) ∧ Flat (c == '\\') rest

/-- No brace of the text opens or closes anything. -/
def Inert (t : Text) : Prop := Flat false t ∧ '}' ∉ t

@[simp] theorem flat_nil (escaped : Bool) : Flat escaped [] := trivial

theorem escapedAfter_append (escaped : Bool) (s t : Text) :
    escapedAfter escaped (s ++ t) = escapedAfter (escapedAfter escaped s) t := by
  induction s generalizing escaped with
  | nil => rfl
  | cons c s ih => simp [ih]

@[simp] theorem escapedAfter_singleton (escaped : Bool) (c : Char) :
    escapedAfter escaped [c] = (c == '\\') := rfl

theorem escapedAfter_of_not_mem {t : Text} (h : '\\' ∉ t) : escapedAfter false t = false := by
  induction t with
  | nil => rfl
  | cons c t ih =>
    simp only [List.mem_cons, not_or] at h
    have hc : (c == '\\') = false := by simp [Ne.symm h.1]
    rw [escapedAfter_cons, hc]
    exact ih h.2

theorem flat_append {escaped : Bool} {s t : Text} :
    Flat escaped (s ++ t) ↔ Flat escaped s ∧ Flat (escapedAfter escaped s) t := by
  induction s generalizing escaped with
  | nil => simp
  | cons c s ih => simp [Flat, ih, and_assoc]

theorem escapedAfter_eq_false {t : Text} :
    escapedAfter false t = false ↔ t.getLast? ≠ some '\\' := by
  rw [escapedAfter]
  cases t.getLast? <;> simp

/-- **A text is flat exactly when each of its opening braces is escaped** by what stands before it. -/
theorem flat_iff {escaped : Bool} {t : Text} :
    Flat escaped t ↔ ∀ s r, t = s ++ '{' :: r → escapedAfter escaped s = true := by
  constructor
  · rintro h s r rfl
    exact (flat_append.1 h).2.1 rfl
  · intro h
    induction t generalizing escaped with
    | nil => exact flat_nil escaped
    | cons c t ih =>
      refine ⟨fun hc => ?_, ih fun s r hs => ?_⟩
      · exact h [] t (congrArg (· :: t) hc)
      · rw [← escapedAfter_cons escaped c]
        exact h (c :: s) r (congrArg (c :: ·) hs)

/-- At the start of a text that is a backslash directly before the brace. -/
theorem flat_iff_getLast? {t : Text} :
    Flat false t ↔ ∀ s r, t = s ++ '{' :: r → s.getLast? = some '\\' := by
  have hescaped (s : Text) : escapedAfter false s = true ↔ s.getLast? = some '\\' := by
    rw [← Bool.not_eq_false, escapedAfter_eq_false, Decidable.not_not]
  rw [flat_iff]
  simp only [hescaped]

/-- A backslash before a text can only make it flatter. -/
theorem Flat.escaped {escaped : Bool} {t : Text} (h : Flat false t) : Flat escaped t := by
  cases t with
  | nil => trivial
  | cons c t => exact ⟨fun hc => absurd (h.1 hc) (by simp), h.2⟩

theorem flat_of_not_mem {escaped : Bool} {t : Text} (h : '{' ∉ t) : Flat escaped t := by
  induction t generalizing escaped with
  | nil => trivial
  | cons c t ih =>
    simp only [List.mem_cons, not_or] at h
    exact ⟨fun hc => absurd hc.symm h.1, ih h.2⟩

@[simp] theorem inert_nil : Inert [] := ⟨trivial, by simp⟩

/-- Inert texts one after the other are inert. -/
theorem Inert.append {s t : Text} (hs : Inert s) (ht : Inert t) : Inert (s ++ t) :=
  ⟨flat_append.2 ⟨hs.1, ht.1.escaped⟩, by simp [hs.2, ht.2]⟩

theorem inert_of_not_mem {t : Text} (ho : '{' ∉ t) (hc : '}' ∉ t) : Inert t :=
  ⟨flat_of_not_mem ho, hc⟩

end Text

/-! ## 2. Walking on

A walk over `s ++ t` that finds nothing in `s` goes on into `t`, from a state that `s` alone
determines. -/

namespace Cut

open Text

/-- Puts a text in front of a cut. -/
def push (t : Text) (cut : Cut) : Cut := { cut with before := t ++ cut.before }

@[simp] theorem before_push (t : Text) (cut : Cut) : (cut.push t).before = t ++ cut.before := rfl

@[simp] theorem inner_push (t : Text) (cut : Cut) : (cut.push t).inner = cut.inner := rfl

@[simp] theorem after_push (t : Text) (cut : Cut) : (cut.push t).after = cut.after := rfl

@[simp] theorem push_nil (cut : Cut) : cut.push [] = cut := rfl

/-- What was passed before the candidate only ends up in front of the cut. -/
theorem scan_passed (passed : Text) (candidate : Option Text) (escaped : Bool) (t : Text) :
    scan passed candidate escaped t = (scan [] candidate escaped t).map (push passed.reverse) := by
  suffices h : ∀ p q : Text, scan (p ++ q) candidate escaped t =
      (scan p candidate escaped t).map (push q.reverse) by simpa using h [] passed
  intro p q
  fun_induction scan p candidate escaped t with
  | case1 => simp [scan]
  | case2 p escaped c rest hc ih => simpa [scan, hc] using ih
  | case3 p escaped c rest hc inner ih => simpa [scan, hc] using ih
  | case4 p escaped c rest hc ih => simpa [scan, hc] using ih
  | case5 p escaped rest inner hc => simp [scan, push]
  | case6 p escaped c rest hc inner hb ih => simpa [scan, hc, hb] using ih

/-- A walk that finds nothing in `s` goes on behind it; it holds a candidate exactly when a brace
waits there. -/
theorem scan_append_of_none {passed : Text} {candidate : Option Text} {escaped : Bool} {s : Text}
    (h : scan passed candidate escaped s = none) (t : Text) :
    ∃ p c, scan passed candidate escaped (s ++ t) = scan p c (escapedAfter escaped s) t ∧
      walked p c = walked passed candidate ++ s ∧
      c.isSome = pendingAfter candidate.isSome escaped s := by
  fun_induction scan passed candidate escaped s with
  | case1 passed candidate escaped => exact ⟨passed, candidate, rfl, by simp, rfl⟩
  | case2 passed escaped c rest hc ih =>
    obtain ⟨p, d, h1, h2, h3⟩ := ih h
    refine ⟨p, d, ?_, ?_, ?_⟩
    · simpa [scan, hc] using h1
    · simpa [walked, hc] using h2
    · simpa [pendingAfter, hc] using h3
  | case3 passed escaped c rest hc inner ih =>
    obtain ⟨p, d, h1, h2, h3⟩ := ih h
    refine ⟨p, d, ?_, ?_, ?_⟩
    · simpa [scan, hc] using h1
    · simpa [walked, hc] using h2
    · simpa [pendingAfter, hc] using h3
  | case4 passed escaped c rest hc ih =>
    obtain ⟨p, d, h1, h2, h3⟩ := ih h
    refine ⟨p, d, ?_, ?_, ?_⟩
    · simpa [scan, hc] using h1
    · simpa [walked] using h2
    · simpa [pendingAfter, hc] using h3
  | case5 passed escaped rest inner hc => simp at h
  | case6 passed escaped c rest hc inner hb ih =>
    obtain ⟨p, d, h1, h2, h3⟩ := ih h
    refine ⟨p, d, ?_, ?_, ?_⟩
    · simpa [scan, hc, hb] using h1
    · simpa [walked] using h2
    · simpa [pendingAfter, hc, hb] using h3

/-- Without a candidate, a flat text is passed over. -/
theorem scan_append_of_flat {escaped : Bool} {s : Text} (h : Flat escaped s) (passed t : Text) :
    scan passed none escaped (s ++ t) = scan (s.reverse ++ passed) none (escapedAfter escaped s) t := by
  induction s generalizing passed escaped with
  | nil => rfl
  | cons c s ih =>
    have hc : ¬ (c = '{' ∧ escaped = false) := fun hc => by simp [h.1 hc.1] at hc
    simpa [scan, hc] using ih h.2 (c :: passed)

/-- With a candidate, an inert text and the closing brace after it complete the match. -/
theorem scan_close {escaped : Bool} {s : Text} (hf : Flat escaped s) (hs : '}' ∉ s)
    (passed inner t : Text) :
    scan passed (some inner) escaped (s ++ '}' :: t) =
      some ⟨passed.reverse, inner.reverse ++ s, t⟩ := by
  induction s generalizing inner escaped with
  | nil => simp [scan]
  | cons c s ih =>
    simp only [List.mem_cons, not_or] at hs
    have hc : ¬ (c = '{' ∧ escaped = false) := fun hc => by simp [hf.1 hc.1] at hc
    have hb : c ≠ '}' := Ne.symm hs.1
    simpa [scan, hc, hb] using ih hf.2 hs.2 (c :: inner)

/-- A candidate is dropped for a later opening brace, unless its match comes first. -/
theorem scan_candidate (passed inner : Text) (escaped : Bool) (t : Text) :
    scan passed (some inner) escaped t = scan (inner ++ '{' :: passed) none escaped t ∨
      ∃ cut, scan passed (some inner) escaped t = some cut ∧ cut.before = passed.reverse := by
  induction t generalizing inner escaped with
  | nil => simp [scan]
  | cons c t ih =>
    by_cases hc : c = '{' ∧ escaped = false
    · simp [scan, hc]
    · by_cases hb : c = '}'
      · exact .inr ⟨_, by simp [scan, hb]; rfl, rfl⟩
      · simpa [scan, hc, hb] using ih (c :: inner) (c == '\\')

/-! ## 3. When nothing is found -/

theorem scan_eq_none_of_not_mem {t : Text} (h : '}' ∉ t) (passed : Text) (candidate : Option Text)
    (escaped : Bool) : scan passed candidate escaped t = none := by
  fun_induction scan passed candidate escaped t with
  | case1 => rfl
  | case2 passed escaped c rest hc ih => exact ih (fun hm => h (List.mem_cons_of_mem _ hm))
  | case3 passed escaped c rest hc inner ih => exact ih (fun hm => h (List.mem_cons_of_mem _ hm))
  | case4 passed escaped c rest hc ih => exact ih (fun hm => h (List.mem_cons_of_mem _ hm))
  | case5 passed escaped rest inner hc => exact absurd List.mem_cons_self h
  | case6 passed escaped c rest hc inner hb ih =>
    exact ih (fun hm => h (List.mem_cons_of_mem _ hm))

/-- More text without a closing brace completes no match. -/
theorem first?_append_eq_none {escaped : Bool} {s t : Text} (h : first? escaped s = none)
    (ht : '}' ∉ t) : first? escaped (s ++ t) = none := by
  obtain ⟨p, c, h1, -, -⟩ := scan_append_of_none h t
  rw [first?, h1]
  exact scan_eq_none_of_not_mem ht p c _

/-- A flat text has no match. -/
theorem first?_of_flat {escaped : Bool} {t : Text} (h : Flat escaped t) : first? escaped t = none := by
  have h1 := scan_append_of_flat h [] []
  rw [List.append_nil] at h1
  rw [first?, h1]
  rfl

/-- A walk that finds nothing and leaves no brace waiting has gone over a flat text. -/
theorem flat_of_scan_eq_none {passed : Text} {candidate : Option Text} {escaped : Bool} {t : Text}
    (h : scan passed candidate escaped t = none)
    (hp : pendingAfter candidate.isSome escaped t = false) : candidate = none ∧ Flat escaped t := by
  fun_induction scan passed candidate escaped t with
  | case1 passed candidate escaped => exact ⟨by simpa [pendingAfter] using hp, trivial⟩
  | case2 passed escaped c rest hc ih => simpa using (ih h (by simpa [pendingAfter, hc] using hp)).1
  | case3 passed escaped c rest hc inner ih =>
    simpa using (ih h (by simpa [pendingAfter, hc] using hp)).1
  | case4 passed escaped c rest hc ih =>
    have ih' := ih h (by simpa [pendingAfter, hc] using hp)
    exact ⟨rfl, fun hb => by simpa [hb] using hc, ih'.2⟩
  | case5 passed escaped rest inner hc => simp at h
  | case6 passed escaped c rest hc inner hb ih =>
    simpa using (ih h (by simpa [pendingAfter, hc, hb] using hp)).1

/-- **A text without a match in which no brace waits is flat.** -/
theorem flat_of_first?_eq_none {escaped : Bool} {t : Text} (h : first? escaped t = none)
    (hp : pendingAfter false escaped t = false) : Flat escaped t :=
  (flat_of_scan_eq_none h hp).2

/-! ## 4. When a match is found -/

/-- What holds of a walk on its way over a text that starts after a backslash or not, as `start`
says: without a candidate it has passed a flat text; with one, the text before the candidate has no
match, the candidate opens, and what came after it is inert. -/
def Walking (start : Bool) (passed : Text) (escaped : Bool) : Option Text → Prop
  | none => Flat start passed.reverse ∧ escaped = escapedAfter start passed.reverse
  | some inner =>
    first? start passed.reverse = none ∧ escapedAfter start passed.reverse = false ∧
      Inert inner.reverse ∧ escaped = escapedAfter false inner.reverse

theorem scan_spec {start : Bool} {passed : Text} {candidate : Option Text} {escaped : Bool}
    {t : Text} {cut : Cut} (h : scan passed candidate escaped t = some cut)
    (hw : Walking start passed escaped candidate) :
    first? start cut.before = none ∧ escapedAfter start cut.before = false ∧ Inert cut.inner := by
  fun_induction scan passed candidate escaped t with
  | case1 => simp at h
  | case2 passed escaped c rest hc ih =>
    obtain ⟨hf, he⟩ := hw
    exact ih h ⟨first?_of_flat hf, by rw [← he, hc.2], inert_nil, rfl⟩
  | case3 passed escaped c rest hc inner ih =>
    obtain ⟨h1, h2, h3, h4⟩ := hw
    have hrev : (inner ++ '{' :: passed).reverse = passed.reverse ++ '{' :: inner.reverse := by simp
    refine ih h ⟨?_, ?_, inert_nil, rfl⟩
    · rw [hrev]
      exact first?_append_eq_none h1 (by simpa using h3.2)
    · rw [hrev, escapedAfter_append, escapedAfter_cons]
      exact h4.symm.trans hc.2
  | case4 passed escaped c rest hc ih =>
    obtain ⟨hf, he⟩ := hw
    refine ih h ⟨?_, ?_⟩
    · rw [List.reverse_cons, flat_append, ← he]
      exact ⟨hf, fun hb => by simpa [hb] using hc, trivial⟩
    · rw [List.reverse_cons, escapedAfter_append, escapedAfter_singleton]
  | case5 passed escaped rest inner hc =>
    obtain rfl := Option.some.inj h
    exact ⟨hw.1, hw.2.1, hw.2.2.1⟩
  | case6 passed escaped c rest hc inner hb ih =>
    obtain ⟨h1, h2, h3, h4⟩ := hw
    refine ih h ⟨h1, h2, ?_, ?_⟩
    · rw [List.reverse_cons]
      refine ⟨flat_append.2 ⟨h3.1, ?_, trivial⟩, by simpa using ⟨by simpa using h3.2, Ne.symm hb⟩⟩
      intro ho
      rw [← h4]
      simpa [ho] using hc
    · rw [List.reverse_cons, escapedAfter_append, escapedAfter_singleton]

/-- **What is found, and when.**  The text before the match has no match of its own, the opening
brace opens, and the text between the braces is inert; and wherever a text reads like that, this is
its first match. -/
theorem first?_eq_some_iff {escaped : Bool} {t : Text} {cut : Cut} :
    first? escaped t = some cut ↔
      cut.whole = t ∧ first? escaped cut.before = none ∧ escapedAfter escaped cut.before = false ∧
        Inert cut.inner := by
  constructor
  · intro h
    exact ⟨first?_whole h, scan_spec h ⟨trivial, rfl⟩⟩
  · rintro ⟨rfl, hb, he, hi⟩
    obtain ⟨p, c, h1, h2, -⟩ := scan_append_of_none hb ('{' :: (cut.inner ++ '}' :: cut.after))
    rw [first?, whole, h1, he]
    cases c with
    | none =>
      simp only [walked, List.reverse_nil, List.nil_append] at h2
      simp [scan, scan_close hi.1 hi.2, h2]
    | some inner =>
      simp only [walked, List.reverse_nil, List.nil_append] at h2
      simp [scan, scan_close hi.1 hi.2, h2]

/-! ## 5. What stands behind and in front -/

/-- **More text behind a match** ends up behind it. -/
theorem first?_append_of_some {escaped : Bool} {s : Text} {cut : Cut}
    (h : first? escaped s = some cut) (t : Text) :
    first? escaped (s ++ t) = some { cut with after := cut.after ++ t } := by
  obtain ⟨hw, hb, he, hi⟩ := first?_eq_some_iff.1 h
  exact first?_eq_some_iff.2 ⟨by simp [← hw, whole], hb, he, hi⟩

/-- **A flat text in front moves a match** and neither adds nor hides one. -/
theorem first?_append_of_flat {escaped : Bool} {s : Text} (h : Flat escaped s) (t : Text) :
    first? escaped (s ++ t) = (first? (escapedAfter escaped s) t).map (push s) := by
  rw [first?, scan_append_of_flat h, scan_passed]
  simp [first?]

theorem first?_true_brace (t : Text) : first? true ('{' :: t) = (first? false t).map (push ['{']) := by
  have h : Flat true ['{'] := ⟨fun _ => rfl, trivial⟩
  simpa using first?_append_of_flat h t

theorem first?_cons {c : Char} (hc : c ≠ '{') (escaped : Bool) (t : Text) :
    first? escaped (c :: t) = (first? (c == '\\') t).map (push [c]) := by
  have h : Flat escaped [c] := ⟨fun h => absurd h hc, trivial⟩
  simpa using first?_append_of_flat h t

/-- **A backslash before the text matters only when the match begins the text**: then its brace is
passed over. -/
theorem first?_true (t : Text) :
    first? true t =
      (first? false t).bind fun cut =>
        if cut.before = [] then (first? false t.tail).map (push ['{']) else some cut := by
  cases t with
  | nil => rfl
  | cons c t =>
    by_cases hc : c = '{'
    · subst hc
      have hopen : first? false ('{' :: t) = scan [] (some []) false t := by simp [first?, scan]
      have hpassed : scan ['{'] none false t = (first? false t).map (push ['{']) :=
        scan_passed ['{'] none false t
      rw [first?_true_brace, hopen]
      rcases scan_candidate [] [] false t with h | ⟨cut, h, hb⟩
      · rw [h, List.nil_append, hpassed]
        cases hf : first? false t with
        | none => rfl
        | some cut => simp [push]
      · rw [h]
        simp [hb]
    · rw [first?_cons hc, first?_cons hc]
      cases hf : first? (c == '\\') t with
      | none => rfl
      | some cut => simp [push]

end Cut

end TemplateExpansion
