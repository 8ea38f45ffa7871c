/-
# Faults on one line

What is wrong with a document is told on one line, whatever stands in the document.  Faults of the notation have
fixed wordings.  Only a value that does not fit its place is itself told, and what names it has no line break: a
string is quoted, and a number is digits with a few signs (`newline_not_mem_describe`).

A reader fails as the readers do of which it is made, so there is one lemma for each of them, from the leaves up
(`oneLine_of_readValue`, `oneLine_of_skipValue`).
-/
import TemplateExpansion.Json.Value
import TemplateExpansion.Proofs.BuiltinEffects

namespace TemplateExpansion

/-! ## 1. Values in diagnostics -/

namespace Text

theorem IsNumeral.newline_not_mem {t : Text} (h : IsNumeral t) : '\n' ∉ t := by
  intro hmem
  exact absurd (h _ hmem) (by decide)

theorem newline_not_mem_hexDigits (n : Nat) : '\n' ∉ hexDigits n := by
  induction n using Nat.strongRecOn with
  | ind n ih =>
    have hdigit : ∀ d < 16, '\n' ≠ Nat.digitChar d := by decide
    by_cases hn : n < 16
    · rw [hexDigits, Nat.toDigits_of_lt_base hn, List.mem_singleton]
      exact hdigit n hn
    · rw [hexDigits, Nat.toDigits_of_base_le (by decide) (Nat.le_of_not_lt hn), List.mem_append, List.mem_singleton]
      rintro (hmem | heq)
      · exact ih (n / 16) (by omega) hmem
      · exact hdigit (n % 16) (Nat.mod_lt n (by decide)) heq

theorem newline_not_mem_codeEscape (c : Char) : '\n' ∉ codeEscape c := by
  simp only [codeEscape, List.mem_append, not_or]
  exact ⟨⟨by decide, newline_not_mem_hexDigits _⟩, by decide⟩

/-- A line break has an escape of its own, and other characters have none in theirs. -/
theorem newline_not_mem_quotedChar (c : Char) : '\n' ∉ quotedChar c := by
  have hescape := newline_not_mem_codeEscape c
  unfold quotedChar
  grind

/-- **A quoted text** is on one line, whatever was quoted. -/
theorem newline_not_mem_quoted (t : Text) : '\n' ∉ t.quoted := by
  have hchars : '\n' ∉ t.flatMap quotedChar := by
    rw [List.mem_flatMap]
    rintro ⟨c, -, hc⟩
    exact newline_not_mem_quotedChar c hc
  simp [quoted, hchars]

end Text

open Text

theorem Decimal.newline_not_mem_ofNat (n : Nat) : '\n' ∉ ofNat n :=
  (isNumeral_ofNat n).newline_not_mem

theorem Decimal.newline_not_mem_scientific {d : Decimal} (h : IsNumeral d.digits) : '\n' ∉ d.scientific := by
  have hfirst : '\n' ∉ d.digits.take 1 := (h.subset fun _ hc => List.mem_of_mem_take hc).newline_not_mem
  have htail : '\n' ∉ d.digits.tail := (h.subset fun _ hc => List.mem_of_mem_tail hc).newline_not_mem
  have hexponent := newline_not_mem_ofNat (d.point - 1).natAbs
  unfold scientific exponentPart
  grind

theorem Decimal.newline_not_mem_pointed {d : Decimal} (h : IsNumeral d.digits) : '\n' ∉ d.pointed := by
  unfold pointed
  split
  · exact ((isNumeral_wholePart h).append (isNumeral_of_all (by decide))).newline_not_mem
  · exact (isNumeral_plain h).newline_not_mem

theorem Binary64.newline_not_mem_withSign {t : Text} (h : '\n' ∉ t) (negative : Bool) :
    '\n' ∉ withSign negative t := by
  cases negative <;> simp [withSign, h]

/-- A number in a diagnostic is a numeral, or it has an exponent. -/
theorem Binary64.newline_not_mem_pointed (x : Binary64) : '\n' ∉ x.pointed := by
  cases x with
  | nan => decide
  | infinite negative => exact newline_not_mem_withSign (by decide) negative
  | finite negative significand exponent =>
    have hdigits := Decimal.isNumeral_digits_shortest .even significand exponent
    simp only [pointed]
    split
    · exact newline_not_mem_withSign (by decide) negative
    · refine newline_not_mem_withSign ?_ negative
      split
      · exact Decimal.newline_not_mem_pointed hdigits
      · exact Decimal.newline_not_mem_scientific hdigits

/-- **A value that does not fit** is named on one line. -/
theorem Json.Value.newline_not_mem_describe (x : Value) : '\n' ∉ x.describe := by
  unfold describe
  split
  · decide
  · decide
  · decide
  · simp [Decimal.newline_not_mem_ofNat]
  · simp [Decimal.newline_not_mem_ofNat]
  · simp [Binary64.newline_not_mem_pointed]
  · simp [newline_not_mem_quoted]
  · decide
  · decide

/-! ## 2. Faults of the notation -/

namespace Json

variable {α β : Type}

/-- A cause that is not about a value that does not fit has a fixed wording. -/
theorem Cause.newline_not_mem_message {cause : Cause} (h : cause.category ≠ .data) : '\n' ∉ cause.message := by
  cases cause with
  | unfit message => exact absurd rfl h
  | _ => decide

/-- The cause of a fault is told on one line. -/
def Fault.OneLine (fault : Fault) : Prop := '\n' ∉ fault.cause.message

theorem oneLine_of_before {fault : Fault} {cause : Cause} {rest : Bytes}
    (h : (.error (.before cause rest) : Except Fault α) = .error fault) (hcause : cause.category ≠ .data) :
    fault.OneLine := by
  cases h
  exact Cause.newline_not_mem_message hcause

theorem oneLine_of_looking {fault : Fault} {cause : Cause} {rest : Bytes}
    (h : (.error (.looking cause rest) : Except Fault α) = .error fault) (hcause : cause.category ≠ .data) :
    fault.OneLine := by
  cases h
  exact Cause.newline_not_mem_message hcause

theorem map_eq_error_iff {outcome : Except Fault α} {f : α → β} {fault : Fault} :
    outcome.map f = .error fault ↔ outcome = .error fault := by
  cases outcome <;> simp [Except.map]

variable {rest : Bytes} {fault : Fault}

theorem oneLine_of_readLiteral {expected : List UInt8} (h : readLiteral expected rest = .error fault) :
    fault.OneLine := by
  induction expected generalizing rest with
  | nil => cases h
  | cons b more ih =>
    cases rest with
    | nil => exact oneLine_of_before h (by decide)
    | cons c rest =>
      rw [readLiteral] at h
      split at h
      · exact ih h
      · exact oneLine_of_before h (by decide)

/-! ## 3. Strings -/

theorem oneLine_of_readHex (h : readHex rest = .error fault) : fault.OneLine := by
  unfold readHex at h
  split at h
  · split at h
    · cases h
    · exact oneLine_of_before h (by decide)
  · exact oneLine_of_before h (by decide)

theorem oneLine_of_readLowSurrogate {high : Nat} (h : readLowSurrogate high rest = .error fault) :
    fault.OneLine := by
  unfold readLowSurrogate at h
  split at h
  · exact oneLine_of_before h (by decide)
  · split at h
    · exact oneLine_of_before h (by decide)
    · exact oneLine_of_looking h (by decide)
  · split at h
    · exact oneLine_of_looking h (by decide)
    · split at h
      · exact oneLine_of_looking h (by decide)
      · split at h
        · rename_i hhex
          cases h
          exact oneLine_of_readHex hhex
        · split at h
          · cases h
          · exact oneLine_of_before h (by decide)

theorem oneLine_of_readCodePoint (h : readCodePoint rest = .error fault) : fault.OneLine := by
  unfold readCodePoint at h
  split at h
  · rename_i hhex
    cases h
    exact oneLine_of_readHex hhex
  · split at h
    · exact oneLine_of_before h (by decide)
    · split at h
      · exact oneLine_of_readLowSurrogate h
      · cases h

theorem oneLine_of_readEscape (h : readEscape rest = .error fault) : fault.OneLine := by
  unfold readEscape at h
  split at h
  · exact oneLine_of_before h (by decide)
  · split at h
    · cases h
    · split at h
      · exact oneLine_of_readCodePoint h
      · exact oneLine_of_before h (by decide)

theorem oneLine_of_skipEscape (h : skipEscape rest = .error fault) : fault.OneLine := by
  unfold skipEscape at h
  split at h
  · exact oneLine_of_before h (by decide)
  · split at h
    · cases h
    · split at h
      · exact oneLine_of_readHex (map_eq_error_iff.1 h)
      · exact oneLine_of_before h (by decide)

theorem oneLine_of_readStringBytes {read : Bytes} (h : readStringBytes read rest = .error fault) :
    fault.OneLine := by
  fun_induction readStringBytes read rest
  case case1 | case5 => exact oneLine_of_before h (by decide)
  case case2 => cases h
  case case3 hescape _ =>
    cases h
    exact oneLine_of_readEscape hescape
  case case4 ih | case6 ih => exact ih h

theorem oneLine_of_readString (h : readString rest = .error fault) : fault.OneLine := by
  unfold readString at h
  split at h
  · rename_i hbytes
    cases h
    exact oneLine_of_readStringBytes hbytes
  · split at h
    · cases h
    · have hcause : Cause.invalidCodePoint.category ≠ .data := by decide
      cases h
      exact Cause.newline_not_mem_message hcause

theorem oneLine_of_skipString (h : skipString rest = .error fault) : fault.OneLine := by
  fun_induction skipString rest
  case case1 | case5 => exact oneLine_of_before h (by decide)
  case case2 => cases h
  case case3 hescape _ =>
    cases h
    exact oneLine_of_skipEscape hescape
  case case4 ih | case6 ih => exact ih h

/-! ## 4. Numbers -/

namespace Number

theorem oneLine_of_ofParts {positive : Bool} {significand : Nat} {exponent : Int}
    (h : ofParts positive significand exponent rest = .error fault) : fault.OneLine := by
  unfold ofParts at h
  split at h
  · exact oneLine_of_looking h (by decide)
  · cases h

theorem oneLine_of_readExponent {positive : Bool} {significand : Nat} {start : Int}
    (h : readExponent positive significand start rest = .error fault) : fault.OneLine := by
  simp only [readExponent] at h
  split at h
  · exact oneLine_of_before h (by decide)
  · split at h
    · split at h
      · exact oneLine_of_ofParts h
      · split at h
        · exact oneLine_of_before h (by decide)
        · cases h
    · exact oneLine_of_before h (by decide)

theorem oneLine_of_readEnd {positive : Bool} {significand : Nat} {exponent : Int}
    (h : readEnd positive significand exponent rest = .error fault) : fault.OneLine := by
  unfold readEnd at h
  split at h
  · exact oneLine_of_ofParts h
  · split at h
    · exact oneLine_of_readExponent h
    · exact oneLine_of_ofParts h

theorem oneLine_of_readFraction {positive : Bool} {significand : Nat} {exponent : Int}
    (h : readFraction positive significand exponent rest = .error fault) : fault.OneLine := by
  unfold readFraction at h
  split at h
  · exact oneLine_of_before h (by decide)
  · split at h
    · exact oneLine_of_readEnd h
    · exact oneLine_of_looking h (by decide)

theorem oneLine_of_readAfterDigits {positive : Bool} {significand dropped : Nat}
    (h : readAfterDigits positive significand dropped rest = .error fault) : fault.OneLine := by
  unfold readAfterDigits at h
  split at h
  · split at h
    · cases h
    · exact oneLine_of_ofParts h
  · split at h
    · exact oneLine_of_readFraction h
    · split at h
      · exact oneLine_of_readExponent h
      · split at h
        · cases h
        · exact oneLine_of_ofParts h

theorem oneLine_of_read {positive : Bool} (h : read positive rest = .error fault) : fault.OneLine := by
  unfold read at h
  split at h
  · exact oneLine_of_before h (by decide)
  · split at h
    · split at h
      · exact oneLine_of_looking h (by decide)
      · exact oneLine_of_readAfterDigits h
    · split at h
      · exact oneLine_of_readAfterDigits h
      · exact oneLine_of_before h (by decide)

theorem oneLine_of_skipExponent (h : skipExponent rest = .error fault) : fault.OneLine := by
  unfold skipExponent at h
  split at h
  · exact oneLine_of_before h (by decide)
  · split at h
    · cases h
    · exact oneLine_of_before h (by decide)

theorem oneLine_of_skipFraction (h : skipFraction rest = .error fault) : fault.OneLine := by
  unfold skipFraction at h
  split at h
  · split at h
    · cases h
    · split at h
      · exact oneLine_of_skipExponent h
      · cases h
  · exact oneLine_of_looking h (by decide)

theorem oneLine_of_skip (h : skip rest = .error fault) : fault.OneLine := by
  unfold skip at h
  split at h
  · exact oneLine_of_before h (by decide)
  · split at h
    · exact oneLine_of_looking h (by decide)
    · split at h
      · split at h
        · cases h
        · split at h
          · exact oneLine_of_skipFraction h
          · split at h
            · exact oneLine_of_skipExponent h
            · cases h
      · exact oneLine_of_before h (by decide)

end Number

/-! ## 5. Values -/

theorem oneLine_of_readValue (h : readValue rest = .error fault) : fault.OneLine := by
  unfold readValue at h
  split at h
  · exact oneLine_of_before h (by decide)
  · split at h
    · exact oneLine_of_readLiteral (map_eq_error_iff.1 h)
    · split at h
      · exact oneLine_of_readLiteral (map_eq_error_iff.1 h)
      · split at h
        · exact oneLine_of_readLiteral (map_eq_error_iff.1 h)
        · split at h
          · exact Number.oneLine_of_read (map_eq_error_iff.1 h)
          · split at h
            · exact Number.oneLine_of_read (map_eq_error_iff.1 h)
            · split at h
              · exact oneLine_of_readString (map_eq_error_iff.1 h)
              · split at h
                · cases h
                · split at h
                  · cases h
                  · exact oneLine_of_looking h (by decide)

theorem oneLine_of_skipSimple {b : UInt8} (h : skipSimple b rest = .error fault) : fault.OneLine := by
  unfold skipSimple at h
  split at h
  · exact oneLine_of_readLiteral h
  · split at h
    · exact oneLine_of_readLiteral h
    · split at h
      · exact oneLine_of_readLiteral h
      · split at h
        · exact Number.oneLine_of_skip h
        · split at h
          · exact Number.oneLine_of_skip h
          · split at h
            · exact oneLine_of_skipString h
            · exact oneLine_of_looking h (by decide)

theorem oneLine_of_skipKey (h : skipKey rest = .error fault) : fault.OneLine := by
  unfold skipKey at h
  split at h
  · exact oneLine_of_before h (by decide)
  · split at h
    · split at h
      · rename_i hname
        cases h
        exact oneLine_of_skipString hname
      · split at h
        · exact oneLine_of_before h (by decide)
        · split at h
          · cases h
          · exact oneLine_of_looking h (by decide)
    · exact oneLine_of_looking h (by decide)

theorem oneLine_of_toNextValue {bracket : Bracket} (h : toNextValue bracket rest = .error fault) :
    fault.OneLine := by
  cases bracket with
  | list => cases h
  | object => exact oneLine_of_skipKey h

theorem Bracket.category_atEnd_ne (bracket : Bracket) : bracket.atEnd.category ≠ .data := by
  cases bracket <;> decide

theorem Bracket.category_expectedEnd_ne (bracket : Bracket) : bracket.expectedEnd.category ≠ .data := by
  cases bracket <;> decide

theorem oneLine_of_skipWithin {steps : Nat} {opened : List Bracket} {s : SkipState}
    (h : skipWithin steps opened s = .error fault) : fault.OneLine := by
  fun_induction skipWithin steps opened s
  case case1 => exact oneLine_of_looking h (by decide)
  case case2 | case10 => cases h
  case case3 => exact oneLine_of_before h (by decide)
  case case4 hsimple =>
    cases h
    exact oneLine_of_skipSimple hsimple
  case case6 | case11 => exact oneLine_of_before h (Bracket.category_atEnd_ne _)
  case case8 hnext | case13 hnext _ _ =>
    cases h
    exact oneLine_of_toNextValue hnext
  case case15 => exact oneLine_of_looking h (Bracket.category_expectedEnd_ne _)
  -- In the other cases what is passed over goes on.
  case case5 ih | case7 ih | case9 ih | case12 ih | case14 ih => exact ih h

theorem oneLine_of_skipValue (h : skipValue rest = .error fault) : fault.OneLine := oneLine_of_skipWithin h

end Json
end TemplateExpansion
