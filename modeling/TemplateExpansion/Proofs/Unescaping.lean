/-
# Escapes are dropped at once

`Text.unescape` walks a text from left to right and drops a backslash where it meets one with an opening brace
behind it.  This file says the same without a walk: of all backslashes in the text, those with an opening brace
directly behind them go, and everything else stays where it is (`unescape_eq_without`).  Which ones go is asked
of the text as it was, so a backslash that comes to stand before a brace only because another one went stays:
that leaves an escape in the outcome exactly where two backslashes stood before a brace
(`isInfix_unescape_iff`), and it makes one cut of a text matter, that between a backslash and its brace
(`unescape_append_eq_iff`).
-/
import TemplateExpansion.Escape

namespace TemplateExpansion
namespace Text

/-! ## 1. Places in a text -/

/-- At this place stands a backslash, with an opening brace directly behind it. -/
def EscapesAt (t : Text) (i : Nat) : Prop := t[i]? = some '\\' ∧ t[i + 1]? = some '{'

instance (t : Text) : DecidablePred (EscapesAt t) := fun _ => inferInstanceAs (Decidable (_ ∧ _))

/-- The text without the characters at the places of which `p` holds. -/
def without (p : Nat → Prop) [DecidablePred p] (t : Text) : Text :=
  ((List.range t.length).filter fun i => ¬ p i).filterMap fun i => t[i]?

theorem without_cons (p : Nat → Prop) [DecidablePred p] (c : Char) (t : Text) :
    without p (c :: t) = (if p 0 then [] else [c]) ++ without (fun i => p (i + 1)) t := by
  rw [without, List.length_cons, List.range_succ_eq_map, List.filter_cons, List.filter_map]
  by_cases h : p 0 <;> simp [h, without, List.filterMap_map, Function.comp_def]

theorem escapesAt_zero {c : Char} {t : Text} :
    EscapesAt (c :: t) 0 ↔ c = '\\' ∧ t.head? = some '{' := by
  simp [EscapesAt, List.head?_eq_getElem?]

theorem escapesAt_succ (c : Char) (t : Text) (i : Nat) :
    EscapesAt (c :: t) (i + 1) ↔ EscapesAt t i := by
  simp [EscapesAt]

/-! ## 2. What goes and what stays -/

/-- A backslash directly before an opening brace goes, and makes no difference to what is behind it. -/
theorem unescape_backslash {t : Text} (h : t.head? = some '{') : unescape ('\\' :: t) = unescape t := by
  obtain ⟨r, rfl⟩ := List.head?_eq_some_iff.1 h
  rw [unescape_escaped, unescape_cons (by simp)]

/-- One character more in front: it goes, or it stays. -/
theorem unescape_cons_eq (c : Char) (t : Text) :
    unescape (c :: t) = (if EscapesAt (c :: t) 0 then [] else [c]) ++ unescape t := by
  by_cases h : EscapesAt (c :: t) 0
  · obtain ⟨rfl, hhead⟩ := escapesAt_zero.1 h
    rw [if_pos h, unescape_backslash hhead, List.nil_append]
  · rw [if_neg h, unescape_cons fun hc hhead => h (escapesAt_zero.2 ⟨hc, hhead⟩), List.singleton_append]

/-- **The backslashes before opening braces go, all others stay**, and which they are is asked of the whole
text. -/
theorem unescape_eq_without (t : Text) : unescape t = t.without (EscapesAt t) := by
  induction t with
  | nil => rfl
  | cons c t ih =>
    rw [unescape_cons_eq, without_cons, ih]
    simp only [escapesAt_succ]

/-! ## 3. The escapes that are left -/

theorem pair_prefix_cons {a b c : Char} {t : Text} : [a, b] <+: c :: t ↔ c = a ∧ t.head? = some b := by
  cases t <;> simp [List.cons_prefix_cons, eq_comm]

/-- The outcome begins with an opening brace if the text does, escaped or not. -/
theorem head?_unescape_eq_iff {t : Text} :
    (unescape t).head? = some '{' ↔ t.head? = some '{' ∨ ['\\', '{'] <+: t := by
  cases t with
  | nil => simp
  | cons c t =>
    rw [pair_prefix_cons]
    by_cases h : EscapesAt (c :: t) 0
    · obtain ⟨rfl, hhead⟩ := escapesAt_zero.1 h
      obtain ⟨r, rfl⟩ := List.head?_eq_some_iff.1 hhead
      simp
    · rw [unescape_cons_eq, if_neg h]
      rw [escapesAt_zero] at h
      simp [h]

/-- **An escape is left exactly where two backslashes stood before an opening brace.** -/
theorem isInfix_unescape_iff (t : Text) : ['\\', '{'] <:+: unescape t ↔ ['\\', '\\', '{'] <:+: t := by
  induction t with
  | nil => simp
  | cons c t ih =>
    by_cases h : EscapesAt (c :: t) 0
    · -- The brace behind the backslash keeps it from being the first of two.
      obtain ⟨rfl, hhead⟩ := escapesAt_zero.1 h
      obtain ⟨r, rfl⟩ := List.head?_eq_some_iff.1 hhead
      rw [unescape_backslash hhead, ih, List.infix_cons_iff (a := '\\')]
      simp
    · have hfirst : ['\\', '{'] <+: c :: unescape t ↔ ['\\', '\\', '{'] <+: c :: t := by
        rw [escapesAt_zero] at h
        rw [pair_prefix_cons, head?_unescape_eq_iff, List.cons_prefix_cons, eq_comm (a := c)]
        exact and_congr_right fun hc => or_iff_right fun hhead => h ⟨hc.symm, hhead⟩
      rw [unescape_cons_eq, if_neg h, List.singleton_append, List.infix_cons_iff, List.infix_cons_iff,
        hfirst, ih]

/-! ## 4. Cutting a text -/

/-- **The only cut that matters** is the one between a backslash and its brace: there the parts keep the
backslash that the whole drops. -/
theorem unescape_append_eq_iff (s t : Text) :
    unescape (s ++ t) = unescape s ++ unescape t ↔ ¬ (s.getLast? = some '\\' ∧ t.head? = some '{') := by
  refine ⟨?_, fun h => unescape_append fun hs ht => h ⟨hs, ht⟩⟩
  rintro heq ⟨hs, ht⟩
  obtain ⟨front, rfl⟩ := List.getLast?_eq_some_iff.1 hs
  have hcut (u : Text) (hu : u.head? = some '\\') : unescape (front ++ u) = unescape front ++ unescape u :=
    unescape_append fun _ => by simp [hu]
  have hwhole : unescape (front ++ ['\\'] ++ t) = unescape front ++ unescape t := by
    rw [List.append_assoc, hcut _ rfl, List.singleton_append, unescape_backslash ht]
  have hparts : unescape (front ++ ['\\']) = unescape front ++ ['\\'] := hcut _ rfl
  have hlength := congrArg List.length heq
  rw [hwhole, hparts] at hlength
  simp at hlength

/-! ## 5. At once -/

/-- **Dropping escapes deletes all of them at once.**  For every text, the backslashes with an opening brace
directly behind them go, and nothing else does; an escape is left exactly where two backslashes stood before an
opening brace; and unescaping goes part by part wherever a text is not cut between a backslash and its
brace, and nowhere else. -/
theorem unescape_at_once :
    (∀ t : Text, unescape t = t.without (EscapesAt t)) ∧
      (∀ t : Text, ['\\', '{'] <:+: unescape t ↔ ['\\', '\\', '{'] <:+: t) ∧
      ∀ s t : Text, unescape (s ++ t) = unescape s ++ unescape t ↔
        ¬ (s.getLast? = some '\\' ∧ t.head? = some '{') :=
  ⟨unescape_eq_without, isInfix_unescape_iff, unescape_append_eq_iff⟩

example : unescape "a\\\\\x7b\\\x7d".toList = "a\\\x7b\\\x7d".toList := by decide

end Text
end TemplateExpansion
