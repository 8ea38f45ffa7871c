/-
# Values of a JSON document, read and passed over

Any value is passed over to its end, however its lists and objects are nested (`skipValue_phrase`).  A reader
that passes over a value skips the separators in front of it first, so where it starts counts only up to
separators.  With that, one induction on the phrase tells what each step does (`passed`): a value ends where its
bytes end, and what stands inside a bracket ends with the bracket.

A value that is asked for is read if it stands for a whole number of 64 bits or a text (`readValue_scalar`).
-/
import Mathlib.Data.List.DropRight
import TemplateExpansion.Proofs.Json.Numbers
import TemplateExpansion.Proofs.Json.Strings

namespace TemplateExpansion
namespace Json

/-! ## 1. Gaps -/

theorem skipSeparators_gap (g : Gap) (rest : Bytes) : skipSeparators (g.bytes ++ rest) = skipSeparators rest := by
  refine List.dropWhile_append_of_pos ?_
  intro b hb
  obtain ⟨x, -, rfl⟩ := List.mem_map.1 hb
  cases x <;> rfl

theorem skipSeparators_cons {b : UInt8} (hb : isSeparator b = false) (rest : Bytes) :
    skipSeparators (b :: rest) = b :: rest :=
  List.dropWhile_cons_of_neg (Bool.eq_false_iff.1 hb)

theorem skipSeparators_skipSeparators (rest : Bytes) :
    skipSeparators (skipSeparators rest) = skipSeparators rest :=
  List.dropWhile_idempotent isSeparator rest

/-- What follows a value inside a bracket or at the end does not go on with a number. -/
theorem ends_gap (g : Gap) {rest : Bytes} (h : Ends rest) : Ends (g.bytes ++ rest) := by
  cases g with
  | nil => exact h
  | cons x g =>
    intro b hb
    obtain rfl := Option.some.inj hb
    cases x <;> decide

theorem ends_close (bracket : Bracket) (rest : Bytes) : Ends (bracket.close :: rest) := by
  intro b hb
  obtain rfl := Option.some.inj hb
  cases bracket <;> decide

theorem ends_comma (rest : Bytes) : Ends (0x2C :: rest) := by
  intro b hb
  obtain rfl := Option.some.inj hb
  decide

theorem isSeparator_close (bracket : Bracket) : isSeparator bracket.close = false := by
  cases bracket <;> rfl

theorem isSeparator_opening (bracket : Bracket) : isSeparator bracket.opening = false := by
  cases bracket <;> rfl

/-! ## 2. The first byte of a value -/

/-- A value can start with the byte. -/
def IsStart (b : UInt8) : Prop := isSeparator b = false ∧ b ≠ 0x5D ∧ b ≠ 0x7D

instance (b : UInt8) : Decidable (IsStart b) := inferInstanceAs (Decidable (_ ∧ _))

theorem ne_of_isDigit {b x : UInt8} (hb : isDigit b = true) (hx : isDigit x = false) : b ≠ x := by
  rintro rfl
  exact absurd (hb.symm.trans hx) Bool.true_eq_false_eq_False

theorem isStart_of_isDigit {b : UInt8} (hb : isDigit b = true) : IsStart b := by
  refine ⟨?_, ne_of_isDigit hb rfl, ne_of_isDigit hb rfl⟩
  simp only [isSeparator, Bool.or_eq_false_iff, beq_eq_false_iff_ne]
  exact ⟨⟨⟨ne_of_isDigit hb rfl, ne_of_isDigit hb rfl⟩, ne_of_isDigit hb rfl⟩, ne_of_isDigit hb rfl⟩

/-- **A value that is no list and no object** is passed over after its first byte. -/
theorem Simple.exists_bytes (s : Simple) :
    ∃ b more, s.bytes = b :: more ∧ IsStart b ∧ b ≠ 0x5B ∧ b ≠ 0x7B ∧
      ∀ rest, Ends rest → skipSimple b (more ++ rest) = .ok rest := by
  cases s with
  | null => exact ⟨0x6E, _, rfl, by decide, by decide, by decide, fun _ _ => rfl⟩
  | boolean b =>
    cases b with
    | true => exact ⟨0x74, _, rfl, by decide, by decide, by decide, fun _ _ => rfl⟩
    | false => exact ⟨0x66, _, rfl, by decide, by decide, by decide, fun _ _ => rfl⟩
  | string s =>
    refine ⟨0x22, s.bytes ++ [0x22], rfl, by decide, by decide, by decide, fun rest _ => ?_⟩
    rw [List.append_assoc]
    exact skipString_spelling s rest
  | number n =>
    cases hn : n.isNegative with
    | true =>
      refine ⟨0x2D, n.unsigned, ?_, by decide, by decide, by decide, fun rest h => Number.skip_unsigned n h⟩
      rw [Simple.bytes, Numeral.bytes, hn]
      rfl
    | false =>
      obtain ⟨b, more, hbytes, hb, -, -⟩ := exists_encode_ofNat n.whole
      have hunsigned : n.unsigned = b :: (more ++ n.tail) := by
        rw [Numeral.unsigned, hbytes, List.cons_append]
      refine ⟨b, more ++ n.tail, ?_, isStart_of_isDigit hb, ne_of_isDigit hb rfl, ne_of_isDigit hb rfl, ?_⟩
      · rw [Simple.bytes, Numeral.bytes, hn]
        exact hunsigned
      · intro rest h
        have hskip := Number.skip_unsigned n h
        rw [hunsigned, List.cons_append] at hskip
        rw [skipSimple, if_neg (ne_of_isDigit hb rfl), if_neg (ne_of_isDigit hb rfl),
          if_neg (ne_of_isDigit hb rfl), if_neg (ne_of_isDigit hb rfl), if_pos hb, hskip]

theorem Phrase.exists_bytes (v : Phrase .value) : ∃ b more, v.bytes = b :: more ∧ IsStart b := by
  cases v with
  | simple s =>
    obtain ⟨b, more, hbytes, hb, -⟩ := s.exists_bytes
    exact ⟨b, more, hbytes, hb⟩
  | empty bracket g => exact ⟨_, _, rfl, isSeparator_opening bracket, by cases bracket <;> decide⟩
  | @nest bracket items => exact ⟨_, _, rfl, isSeparator_opening bracket, by cases bracket <;> decide⟩

/-! ## 3. Passing over a value -/

/-- **The value inside a bracket is found** after what stands before it. -/
theorem toNextValue_lead {bracket : Bracket} (lead : Lead bracket) {r x : Bytes}
    (h : skipSeparators r = skipSeparators (lead.bytes ++ x)) :
    ∃ y, toNextValue bracket r = .ok y ∧ skipSeparators y = skipSeparators x := by
  cases lead with
  | gap g => exact ⟨r, rfl, h.trans (skipSeparators_gap g x)⟩
  | key before name beforeColon afterColon =>
    rw [Lead.bytes, List.append_assoc, skipSeparators_gap, List.cons_append, skipSeparators_cons rfl] at h
    refine ⟨afterColon.bytes ++ x, ?_, skipSeparators_gap afterColon x⟩
    simp only [toNextValue, skipKey, h, List.append_assoc, List.cons_append, skipString_spelling,
      skipSeparators_gap, skipSeparators_cons (b := 0x3A) rfl, if_true]

/-- What stands inside a bracket does not start with the closing bracket. -/
theorem Lead.exists_skipSeparators {bracket : Bracket} (lead : Lead bracket) (v : Phrase .value) (rest : Bytes) :
    ∃ b more, skipSeparators (lead.bytes ++ (v.bytes ++ rest)) = b :: more ∧ b ≠ bracket.close := by
  cases lead with
  | gap g =>
    obtain ⟨b, more, hbytes, hseparator, hlist, hobject⟩ := v.exists_bytes
    rw [Lead.bytes, skipSeparators_gap, hbytes, List.cons_append, skipSeparators_cons hseparator]
    exact ⟨b, _, rfl, hlist⟩
  | key before name beforeColon afterColon =>
    rw [Lead.bytes, List.append_assoc, skipSeparators_gap, List.cons_append, skipSeparators_cons rfl]
    exact ⟨0x22, _, rfl, by decide⟩

theorem Phrase.exists_skipSeparators {bracket : Bracket} (items : Phrase (.inside bracket)) (rest : Bytes) :
    ∃ b more, skipSeparators (items.bytes ++ rest) = b :: more ∧ b ≠ bracket.close := by
  cases items with
  | last lead v after =>
    rw [bytes, List.append_assoc, List.append_assoc]
    exact lead.exists_skipSeparators v _
  | more lead v after items =>
    rw [bytes, List.append_assoc, List.append_assoc]
    exact lead.exists_skipSeparators v _

/-- The steps of a phrase that no byte of its own stands for: inside a bracket, the one at the closing
byte. -/
def Part.closing : Part → Nat
  | .value => 0
  | .inside _ => 1

namespace Phrase

/-- How many steps it takes to pass over a phrase: one at the start of each value, and one after it inside a
bracket. -/
def steps : {part : Part} → Phrase part → Nat
  | _, .simple _ => 1
  | _, .empty _ _ => 1
  | _, .nest items => items.steps + 1
  | _, .last _ value _ => value.steps + 1
  | _, .more _ value _ items => items.steps + 1 + value.steps

/-- A phrase is passed over, and the bracket it stands in with it, from any start `r` that differs from its first
byte by separators only. -/
def Passed : (part : Part) → Phrase part → Prop
  | .value, v => ∀ steps open_ r rest, Ends rest → skipSeparators r = skipSeparators (v.bytes ++ rest) →
      skipWithin (steps + v.steps) open_ (.value r) = skipWithin steps open_ (.ended rest)
  | .inside bracket, items => ∀ steps open_ r rest,
      skipSeparators r = skipSeparators (items.bytes ++ bracket.close :: rest) →
      ∃ y, toNextValue bracket r = .ok y ∧
        skipWithin (steps + items.steps) (bracket :: open_) (.value y) = skipWithin steps open_ (.ended rest)

theorem passed_simple (s : Simple) : Passed .value (.simple s) := by
  intro steps open_ r rest hrest h
  obtain ⟨b, more, hbytes, hstart, hlist, hobject, hskip⟩ := s.exists_bytes
  rw [bytes, hbytes, List.cons_append, skipSeparators_cons hstart.1] at h
  simp only [Phrase.steps, skipWithin, h, if_neg hlist, if_neg hobject, hskip rest hrest]

/-- A bracket is known by the byte that opens it. -/
theorem opened_opening (bracket : Bracket) :
    (if bracket.opening = 0x5B then some Bracket.list
      else if bracket.opening = 0x7B then some .object else none) = some bracket := by
  cases bracket <;> rfl

theorem passed_empty (bracket : Bracket) (g : Gap) : Passed .value (.empty bracket g) := by
  intro steps open_ r rest _ h
  rw [bytes, List.cons_append, skipSeparators_cons (isSeparator_opening bracket), List.append_assoc] at h
  simp only [Phrase.steps, skipWithin, h, opened_opening, skipSeparators_gap, List.singleton_append,
    skipSeparators_cons (isSeparator_close bracket), if_true]

theorem passed_nest {bracket : Bracket} {items : Phrase (.inside bracket)}
    (ih : Passed (.inside bracket) items) : Passed .value (.nest items) := by
  intro steps open_ r rest _ h
  rw [bytes, List.cons_append, skipSeparators_cons (isSeparator_opening bracket), List.append_assoc,
    List.singleton_append] at h
  obtain ⟨c, more, hc, hclose⟩ := items.exists_skipSeparators (bracket.close :: rest)
  obtain ⟨y, hy, hskip⟩ := ih steps open_ (c :: more) rest (by
    rw [← hc, skipSeparators_skipSeparators])
  rw [Phrase.steps, ← Nat.add_assoc]
  simp only [skipWithin, h, opened_opening, hc, if_neg hclose, hy]
  exact hskip

theorem passed_last {bracket : Bracket} (lead : Lead bracket) {v : Phrase .value} (after : Gap)
    (ih : Passed .value v) : Passed (.inside bracket) (.last lead v after) := by
  intro steps open_ r rest h
  rw [bytes, List.append_assoc, List.append_assoc] at h
  obtain ⟨y, hy, hstart⟩ := toNextValue_lead lead h
  refine ⟨y, hy, ?_⟩
  rw [Phrase.steps, Nat.add_comm v.steps, ← Nat.add_assoc,
    ih (steps + 1) _ y _ (ends_gap after (ends_close bracket rest)) hstart]
  simp only [skipWithin, skipSeparators_gap, skipSeparators_cons (isSeparator_close bracket), if_true]

theorem passed_more {bracket : Bracket} (lead : Lead bracket) {v : Phrase .value} (after : Gap)
    {items : Phrase (.inside bracket)} (ihv : Passed .value v) (ihitems : Passed (.inside bracket) items) :
    Passed (.inside bracket) (.more lead v after items) := by
  intro steps open_ r rest h
  rw [bytes, List.append_assoc, List.append_assoc, List.append_assoc, List.cons_append] at h
  obtain ⟨y, hy, hstart⟩ := toNextValue_lead lead h
  obtain ⟨z, hz, hskip⟩ := ihitems steps open_ (items.bytes ++ bracket.close :: rest) rest rfl
  have hcomma : ¬ (0x2C : UInt8) = bracket.close := by cases bracket <;> decide
  refine ⟨y, hy, ?_⟩
  rw [Phrase.steps, ← Nat.add_assoc, ← Nat.add_assoc, ihv _ _ y _ (ends_gap after (ends_comma _)) hstart]
  simp only [skipWithin, skipSeparators_gap, skipSeparators_cons (b := 0x2C) rfl, if_neg hcomma, if_true, hz]
  exact hskip

/-- **Every phrase is passed over** as far as its bytes go. -/
theorem passed {part : Part} (p : Phrase part) : Passed part p := by
  induction p with
  | simple s => exact passed_simple s
  | empty bracket g => exact passed_empty bracket g
  | nest items ih => exact passed_nest ih
  | last lead v after ih => exact passed_last lead after ih
  | more lead v after items ihv ihitems => exact passed_more lead after ihv ihitems

/-- No phrase takes more steps than it has bytes, apart from the one that closes its bracket. -/
theorem steps_le {part : Part} (p : Phrase part) : p.steps ≤ p.bytes.length + part.closing := by
  induction p with
  | simple s =>
    obtain ⟨b, more, hbytes, -⟩ := s.exists_bytes
    simp [Phrase.steps, bytes, hbytes, Part.closing]
  | empty bracket g => simp [Phrase.steps, bytes, Part.closing]
  | nest items ih =>
    simp only [Part.closing, Phrase.steps, bytes, List.length_cons, List.length_append] at ih ⊢
    omega
  | last lead v after ih =>
    simp only [Part.closing, Phrase.steps, bytes, List.length_append] at ih ⊢
    omega
  | more lead v after items ihv ihitems =>
    simp only [Part.closing, Phrase.steps, bytes, List.length_cons, List.length_append] at ihv ihitems ⊢
    omega

end Phrase

theorem skipWithin_ended (steps : Nat) (rest : Bytes) : skipWithin steps [] (.ended rest) = .ok rest := by
  cases steps <;> rfl

/-- **A value is passed over to its end**, with the separators in front of it. -/
theorem skipValue_phrase (g : Gap) (v : Phrase .value) {rest : Bytes} (hrest : Ends rest) :
    skipValue (g.bytes ++ (v.bytes ++ rest)) = .ok rest := by
  have hsteps : v.steps ≤ 2 * (g.bytes ++ (v.bytes ++ rest)).length + 2 := by
    have h := v.steps_le
    simp only [Part.closing, List.length_append] at h ⊢
    omega
  obtain ⟨k, hk⟩ := Nat.exists_eq_add_of_le' hsteps
  rw [skipValue, hk, v.passed k [] _ rest hrest (skipSeparators_gap g _), skipWithin_ended]

/-! ## 4. Reading a value -/

theorem readValue_whole {k : Nat} (hk : k ≤ Decimal.maxUnsigned) {r rest : Bytes} (hrest : Ends rest)
    (h : skipSeparators r = skipSeparators (Utf8.encode (Decimal.ofNat k) ++ rest)) :
    readValue r = .ok ⟨.number (.natural k), rest, true⟩ := by
  have hread := Number.read_whole hk hrest
  obtain ⟨b, more, hbytes, hb, -, -⟩ := exists_encode_ofNat k
  rw [hbytes, List.cons_append] at hread h
  rw [skipSeparators_cons (isStart_of_isDigit hb).1] at h
  simp only [readValue, h]
  rw [if_neg (ne_of_isDigit hb rfl), if_neg (ne_of_isDigit hb rfl), if_neg (ne_of_isDigit hb rfl),
    if_neg (ne_of_isDigit hb rfl), if_pos hb, hread]
  rfl

theorem readValue_string {s : Spelling} {t : Text} (ht : s.text? = some t) {r rest : Bytes}
    (h : skipSeparators r = skipSeparators (0x22 :: (s.bytes ++ 0x22 :: rest))) :
    readValue r = .ok ⟨.string t, rest, false⟩ := by
  rw [skipSeparators_cons rfl] at h
  have hdigit : isDigit 0x22 = false := rfl
  simp only [readValue, h, hdigit, readString_spelling ht]
  rfl

/-- **A value is read** that stands for a whole number of 64 bits or for a text. -/
theorem readValue_scalar {v : Phrase .value} {x : Value} (hx : v.scalar? = some x) {r rest : Bytes}
    (hrest : Ends rest) (h : skipSeparators r = skipSeparators (v.bytes ++ rest)) :
    ∃ ahead, readValue r = .ok ⟨x, rest, ahead⟩ := by
  unfold Phrase.scalar? at hx
  split at hx
  · obtain ⟨k, hk, rfl⟩ := Option.map_eq_some_iff.1 hx
    obtain ⟨rfl, hmax⟩ := Numeral.natural?_eq_some_iff.1 hk
    exact ⟨true, readValue_whole hmax hrest (h.trans (by rw [Phrase.bytes, Simple.bytes, Numeral.bytes_whole]))⟩
  · obtain ⟨t, ht, rfl⟩ := Option.map_eq_some_iff.1 hx
    refine ⟨false, readValue_string ht (h.trans ?_)⟩
    rw [Phrase.bytes, Simple.bytes, List.cons_append, List.append_assoc]
    rfl
  · cases hx

/-- **A whole number that is read has at most 64 bits.** -/
theorem le_maxUnsigned_of_readValue {r : Bytes} {seen : Seen} (h : readValue r = .ok seen) {n : Nat}
    (hn : seen.value = .number (.natural n)) : n ≤ Decimal.maxUnsigned := by
  -- the readers of numbers are the only ones that yield a number
  have hnumber : ∀ {positive : Bool} {after : Bytes},
      (Number.read positive after).map (fun parts => Seen.mk (.number parts.1) parts.2 true) = .ok seen →
        n ≤ Decimal.maxUnsigned := by
    intro positive after h
    obtain ⟨⟨x, left⟩, hread, rfl⟩ := Decimal.map_eq_ok_iff.1 h
    obtain rfl := Value.number.inj hn
    exact Number.le_maxUnsigned_of_read hread
  have hother : ∀ {α : Type} {f : α → Seen} {x : Except Fault α}, x.map f = .ok seen →
      (∀ a, (f a).value ≠ .number (.natural n)) → n ≤ Decimal.maxUnsigned := by
    intro α f x h hf
    obtain ⟨a, -, rfl⟩ := Decimal.map_eq_ok_iff.1 h
    exact absurd hn (hf a)
  unfold readValue at h
  split at h
  · cases h
  · split_ifs at h
    · exact hother h fun _ => by simp
    · exact hother h fun _ => by simp
    · exact hother h fun _ => by simp
    · exact hnumber h
    · exact hnumber h
    · exact hother h fun _ => by simp
    · obtain rfl := Except.ok.inj h
      cases hn
    · obtain rfl := Except.ok.inj h
      cases hn

end Json
end TemplateExpansion
