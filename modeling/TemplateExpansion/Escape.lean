/-
# Escaped braces

A backslash directly before an opening brace makes the brace literal.  `escape` writes a backslash
before every opening brace, `unescape` drops the backslash before every opening brace, and
`pendingAfter` tells whether an unescaped opening brace still waits for its closing brace.

The main statements say that unescaping undoes escaping (`unescape_escape`), that it goes part by part
(`unescape_append`), and that what is pending does not depend on how a text is cut
(`pendingAfter_append`).
-/
import TemplateExpansion.Text

namespace TemplateExpansion
namespace Text

/-! ## 1. Writing and dropping escapes -/

/-- Writes a backslash directly before every opening brace. -/
def escape (t : Text) : Text :=
  t.foldr (fun c rest => if c = '{' then '\\' :: c :: rest else c :: rest) []

/-- Drops the backslash directly before every opening brace, in one walk from left to right; `written`
is the outcome so far, last character first. -/
def unescapeOnto (written : Text) : Text → Text
  | [] => written.reverse
  | '\\' :: '{' :: rest => unescapeOnto ('{' :: written) rest
  | c :: rest => unescapeOnto (c :: written) rest

/-- Drops the backslash directly before every opening brace.  What a dropped backslash brings
together is not looked at again. -/
def unescape (t : Text) : Text := unescapeOnto [] t

theorem unescapeOnto_eq (written t : Text) :
    unescapeOnto written t = written.reverse ++ unescape t := by
  suffices h : ∀ w v, unescapeOnto (w ++ v) t = v.reverse ++ unescapeOnto w t by
    simpa [unescape] using h [] written
  intro w v
  fun_induction unescapeOnto w t with
  | case1 w => simp [unescapeOnto]
  | case2 w rest ih => simpa [unescapeOnto] using ih
  | case3 w c rest hc ih =>
    rw [unescapeOnto]
    · simpa using ih
    · exact hc

@[simp] theorem unescape_nil : unescape [] = [] := rfl

/-- A backslash and the brace after it become the brace. -/
@[simp] theorem unescape_escaped (t : Text) : unescape ('\\' :: '{' :: t) = '{' :: unescape t := by
  rw [unescape, unescapeOnto, unescapeOnto_eq]
  rfl

/-- Every other character stays. -/
theorem unescape_cons {c : Char} {t : Text} (h : c = '\\' → t.head? ≠ some '{') :
    unescape (c :: t) = c :: unescape t := by
  rw [unescape, unescapeOnto, unescapeOnto_eq]
  · rfl
  · rintro rest rfl rfl
    simp at h

/-- **Unescaping goes part by part** wherever a text is not cut between a backslash and its brace. -/
theorem unescape_append : ∀ {s t : Text}, (s.getLast? = some '\\' → t.head? ≠ some '{') →
    unescape (s ++ t) = unescape s ++ unescape t
  | [], _, _ => rfl
  | [c], t, h => by
    rw [List.singleton_append, unescape_cons, unescape_cons]
    · rfl
    · simp
    · exact fun hc => h (by simp [hc])
  | c :: d :: s, t, h => by
    have hd : (d :: s).getLast? = some '\\' → t.head? ≠ some '{' := by simpa using h
    by_cases hesc : c = '\\' ∧ d = '{'
    · obtain ⟨rfl, rfl⟩ := hesc
      have hs : s.getLast? = some '\\' → t.head? ≠ some '{' :=
        fun hl => hd (by simp [List.getLast?_cons, hl])
      simp [unescape_append hs]
    · have hc (u : Text) : c = '\\' → (d :: u).head? ≠ some '{' := by
        rintro rfl hu
        exact hesc ⟨rfl, by simpa using hu⟩
      rw [List.cons_append, List.cons_append, unescape_cons (hc _), unescape_cons (hc _),
        ← List.cons_append, unescape_append hd, List.cons_append]

/-- **Where no backslash stands before an opening brace** there is nothing to drop. -/
theorem unescape_eq_self {t : Text} (h : ¬ ['\\', '{'] <:+: t) : unescape t = t := by
  induction t with
  | nil => rfl
  | cons c t ih =>
    have hc : c = '\\' → t.head? ≠ some '{' := by
      rintro rfl hhead
      obtain ⟨rest, rfl⟩ := List.head?_eq_some_iff.1 hhead
      exact h (List.prefix_append ['\\', '{'] rest).isInfix
    rw [unescape_cons hc, ih fun ht => h (List.infix_cons ht)]

@[simp] theorem escape_nil : escape [] = [] := rfl

@[simp] theorem escape_brace (t : Text) : escape ('{' :: t) = '\\' :: '{' :: escape t := rfl

theorem escape_cons {c : Char} (h : c ≠ '{') (t : Text) : escape (c :: t) = c :: escape t := by
  simp [escape, h]

/-- **Escaping goes part by part**, wherever a text is cut. -/
theorem escape_append (s t : Text) : escape (s ++ t) = escape s ++ escape t := by
  induction s with
  | nil => rfl
  | cons c s ih =>
    by_cases h : c = '{'
    · rw [h, List.cons_append, escape_brace, escape_brace, ih]
      rfl
    · rw [List.cons_append, escape_cons h, escape_cons h, ih]
      rfl

/-- What escaping writes is backslashes. -/
theorem mem_escape {c : Char} (hc : c ≠ '\\') {t : Text} : c ∈ escape t ↔ c ∈ t := by
  induction t with
  | nil => rfl
  | cons d t ih =>
    by_cases h : d = '{'
    · rw [h, escape_brace, List.mem_cons, List.mem_cons, List.mem_cons, ih, or_iff_right hc]
    · rw [escape_cons h, List.mem_cons, List.mem_cons, ih]

/-- No escaped text begins with an opening brace. -/
theorem head?_escape (t : Text) : (escape t).head? ≠ some '{' := by
  cases t with
  | nil => simp
  | cons c t => by_cases h : c = '{' <;> simp [escape, h]

/-- **Unescaping undoes escaping.** -/
theorem unescape_escape (t : Text) : unescape (escape t) = t := by
  induction t with
  | nil => rfl
  | cons c t ih =>
    by_cases h : c = '{'
    · subst h; simp [ih]
    · rw [escape_cons h, unescape_cons (fun _ => head?_escape t), ih]

/-! ## 2. Braces that wait to be closed -/

/-- Whether an unescaped opening brace waits for its closing brace after a text, when `pending` says
so before it and `escaped` says that a backslash stands directly before it. -/
def pendingAfter (pending escaped : Bool) : Text → Bool
  | [] => pending
  | c :: rest =>
    pendingAfter (if c = '{' ∧ escaped = false then true else if c = '}' then false else pending)
      (c == '\\') rest

/-- Whether the next character is escaped after a text. -/
def escapedAfter (escaped : Bool) (t : Text) : Bool :=
  match t.getLast? with
  | none => escaped
  | some c => c == '\\'

@[simp] theorem escapedAfter_nil (escaped : Bool) : escapedAfter escaped [] = escaped := rfl

@[simp] theorem escapedAfter_cons (escaped : Bool) (c : Char) (t : Text) :
    escapedAfter escaped (c :: t) = escapedAfter (c == '\\') t := by
  cases t with
  | nil => rfl
  | cons d t => simp [escapedAfter, List.getLast?_cons]

/-- **What is pending does not depend on how the text is cut.** -/
theorem pendingAfter_append (pending escaped : Bool) (s t : Text) :
    pendingAfter pending escaped (s ++ t) =
      pendingAfter (pendingAfter pending escaped s) (escapedAfter escaped s) t := by
  induction s generalizing pending escaped with
  | nil => rfl
  | cons c s ih => simp [pendingAfter, ih]

end Text
end TemplateExpansion
