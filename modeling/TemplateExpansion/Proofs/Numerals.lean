/-
# Numerals of integers

An integer is denoted by an optional sign and at least one digit (`Decimal.Denotes`).  `Decimal.signed` reads
exactly the texts that denote an integer of 64 bits (`signed_eq_ok_iff`).  That it looks at the bound after
every digit does not matter, since one more digit never makes the value smaller (`boundedDigits_eq_ok_iff`).

The digits that are written have no zero in front (`head?_ofNat`), and a number times ten is written with one
more zero behind (`ofNat_mul_pow`).
-/
import Mathlib.Data.List.Induction
import Mathlib.Tactic.Ring
import TemplateExpansion.Decimal.Shortest
import TemplateExpansion.Text.Blank

namespace TemplateExpansion

open Text

namespace Decimal

/-! ## 1. The value of digits -/

theorem foldl_value (n : Nat) (t : Text) :
    t.foldl (fun n c => n * 10 + (digit? c).getD 0) n = n * 10 ^ t.length + value t := by
  induction t using List.reverseRecOn with
  | nil => simp [value]
  | append_singleton t c ih =>
    rw [List.foldl_append, List.foldl_cons, List.foldl_nil, ih, value_append_singleton, List.length_append,
      List.length_singleton, Nat.pow_succ]
    ring

/-- **The digit in front counts** as many times as its place says. -/
theorem value_cons (c : Char) (t : Text) :
    value (c :: t) = (digit? c).getD 0 * 10 ^ t.length + value t := by
  rw [value, List.foldl_cons, foldl_value, Nat.zero_mul, Nat.zero_add]

theorem isDigit_iff_digit? {c : Char} : c.isDigit = true ↔ ∃ d, digit? c = some d := by
  by_cases h : c.isDigit = true <;> simp [digit?, h]

/-! ## 2. Reading -/

/-- **Digits are read within a bound** exactly if their value is within it. -/
theorem boundedDigits_eq_ok_iff {bound : Nat} {overflow : IntegerError} {t : Text} {n v : Nat}
    (hn : n ≤ bound) :
    boundedDigits bound overflow n t = .ok v ↔
      (∀ c ∈ t, c.isDigit = true) ∧ v = n * 10 ^ t.length + value t ∧ v ≤ bound := by
  induction t generalizing n with
  | nil =>
    have hnil : n * 10 ^ ([] : Text).length + value [] = n := by simp [value]
    rw [boundedDigits, hnil]
    constructor
    · intro h
      obtain rfl := Except.ok.inj h
      exact ⟨fun c hc => absurd hc List.not_mem_nil, rfl, hn⟩
    · rintro ⟨-, rfl, -⟩
      rfl
  | cons c t ih =>
    rw [boundedDigits]
    cases hd : digit? c with
    | none =>
      have hc : ¬ c.isDigit = true := fun h => by
        obtain ⟨d, h⟩ := isDigit_iff_digit?.1 h
        exact absurd (hd.symm.trans h) (by simp)
      constructor
      · exact fun h => absurd h (by simp)
      · rintro ⟨h, -, -⟩
        exact absurd (h c List.mem_cons_self) hc
    | some d =>
      have hc : c.isDigit = true := isDigit_iff_digit?.2 ⟨d, hd⟩
      have hvalue : n * 10 ^ (c :: t).length + value (c :: t) = (n * 10 + d) * 10 ^ t.length + value t := by
        rw [value_cons, hd, List.length_cons, Nat.pow_succ, Option.getD_some]
        ring
      -- the value so far is at most the value in the end
      have hsofar : n * 10 + d ≤ (n * 10 + d) * 10 ^ t.length + value t :=
        (Nat.le_mul_of_pos_right _ (Nat.pow_pos (by decide))).trans (Nat.le_add_right _ _)
      simp only [hvalue, List.forall_mem_cons, hc, true_and]
      by_cases hb : n * 10 + d ≤ bound
      · rw [if_pos hb, ih hb]
      · rw [if_neg hb]
        constructor
        · exact fun h => absurd h (by simp)
        · rintro ⟨-, rfl, h⟩
          exact absurd (hsofar.trans h) hb

/-- The texts that denote an integer: digits with a sign or without one. -/
inductive Denotes : Text → Int → Prop where
  | unsigned {t : Text} : t ≠ [] → (∀ c ∈ t, c.isDigit = true) → Denotes t (value t)
  | plus {t : Text} : t ≠ [] → (∀ c ∈ t, c.isDigit = true) → Denotes ('+' :: t) (value t)
  | minus {t : Text} : t ≠ [] → (∀ c ∈ t, c.isDigit = true) → Denotes ('-' :: t) (-(value t : Int))

theorem signedDigits_eq_ok_iff {bound : Nat} {overflow : IntegerError} {t : Text} {v : Nat} :
    signedDigits bound overflow t = .ok v ↔
      t ≠ [] ∧ (∀ c ∈ t, c.isDigit = true) ∧ v = value t ∧ v ≤ bound := by
  cases t with
  | nil => simp [signedDigits]
  | cons c t =>
    rw [signedDigits, boundedDigits_eq_ok_iff (Nat.zero_le bound), Nat.zero_mul, Nat.zero_add]
    · simp
    · exact List.cons_ne_nil c t

theorem map_eq_ok_iff {α β ε : Type} {f : α → β} {x : Except ε α} {b : β} :
    x.map f = .ok b ↔ ∃ a, x = .ok a ∧ f a = b := by
  cases x <;> simp [Except.map]

/-- **The texts that are read as an integer** are those that denote it, if it has at most 64 bits. -/
theorem signed_eq_ok_iff {t : Text} {n : Int} :
    signed t = .ok n ↔ Denotes t n ∧ -(maxSigned + 1 : Int) ≤ n ∧ n ≤ maxSigned := by
  have hneg : -(maxSigned + 1 : Int) ≤ 0 := by omega
  constructor
  · intro h
    unfold signed at h
    split at h
    · exact absurd h (by simp)
    · obtain ⟨v, hv, rfl⟩ := map_eq_ok_iff.1 h
      obtain ⟨hne, hdigits, rfl, hbound⟩ := signedDigits_eq_ok_iff.1 hv
      exact ⟨.minus hne hdigits, by omega, by omega⟩
    · obtain ⟨v, hv, rfl⟩ := map_eq_ok_iff.1 h
      obtain ⟨hne, hdigits, rfl, hbound⟩ := signedDigits_eq_ok_iff.1 hv
      exact ⟨.plus hne hdigits, hneg.trans (Int.natCast_nonneg _), Int.ofNat_le.2 hbound⟩
    · rename_i hne _ _
      obtain ⟨v, hv, rfl⟩ := map_eq_ok_iff.1 h
      obtain ⟨hdigits, rfl, hbound⟩ := (boundedDigits_eq_ok_iff (Nat.zero_le _)).1 hv
      rw [Nat.zero_mul, Nat.zero_add] at hbound ⊢
      exact ⟨.unsigned hne hdigits, hneg.trans (Int.natCast_nonneg _), Int.ofNat_le.2 hbound⟩
  · rintro ⟨hn, hlow, hhigh⟩
    cases hn with
    | plus hne hdigits =>
      exact map_eq_ok_iff.2 ⟨_, signedDigits_eq_ok_iff.2 ⟨hne, hdigits, rfl, Int.ofNat_le.1 hhigh⟩, rfl⟩
    | minus hne hdigits =>
      exact map_eq_ok_iff.2 ⟨_, signedDigits_eq_ok_iff.2 ⟨hne, hdigits, rfl, by omega⟩, rfl⟩
    | unsigned hne hdigits =>
      obtain ⟨c, rest, rfl⟩ := List.exists_cons_of_ne_nil hne
      have hc : c.isDigit = true := hdigits c List.mem_cons_self
      rw [signed]
      · refine map_eq_ok_iff.2 ⟨_, (boundedDigits_eq_ok_iff (Nat.zero_le _)).2 ⟨hdigits, ?_, ?_⟩, rfl⟩
        · rw [Nat.zero_mul, Nat.zero_add]
        · exact Int.ofNat_le.1 hhigh
      · exact List.cons_ne_nil c rest
      · rintro _ ⟨⟩
        exact absurd hc (by decide)
      · rintro _ ⟨⟩
        exact absurd hc (by decide)

/-! ## 3. Writing -/

theorem ofNat_ne_nil (n : Nat) : ofNat n ≠ [] := Nat.toDigits_ne_nil

theorem isDigit_of_mem_ofNat {n : Nat} {c : Char} (h : c ∈ ofNat n) : c.isDigit = true :=
  Nat.isDigit_of_mem_toDigits (by decide) (by decide) h

/-- A digit is neither a blank nor a character that means something in a template. -/
theorem not_mem_ofNat {c : Char} (hc : c.isDigit = false) (n : Nat) : c ∉ ofNat n :=
  fun h => absurd (isDigit_of_mem_ofNat h) (by simp [hc])

theorem toNat_of_isDigit {c : Char} (h : c.isDigit = true) : 48 ≤ c.toNat ∧ c.toNat ≤ 57 := by
  simp only [Char.isDigit, ge_iff_le, Bool.and_eq_true, decide_eq_true_eq] at h
  exact h

theorem isBlank_of_isDigit {c : Char} (h : c.isDigit = true) : isBlank c = false := by
  obtain ⟨h0, h9⟩ := toNat_of_isDigit h
  simp only [isBlank, Bool.or_eq_false_iff, Bool.and_eq_false_iff, decide_eq_false_iff_not, beq_eq_false_iff_ne]
  omega

theorem trim_ofNat (n : Nat) : trim (ofNat n) = ofNat n :=
  trim_eq_self fun _ hc => isBlank_of_isDigit (isDigit_of_mem_ofNat hc)

/-- **No zero stands in front** of a number that is not zero. -/
theorem head?_ofNat {n : Nat} (hn : 0 < n) : (ofNat n).head? ≠ some '0' := by
  induction n using Nat.strongRecOn with
  | ind n ih =>
    by_cases h : n < 10
    · have hall : ∀ d ∈ List.range 10, 0 < d → (Nat.digitChar d) ≠ '0' := by decide
      rw [ofNat, Nat.toDigits_of_lt_base h, List.head?_cons]
      exact fun h0 => hall n (List.mem_range.2 h) hn (Option.some.inj h0)
    · obtain ⟨c, t, hct⟩ := List.exists_cons_of_ne_nil (ofNat_ne_nil (n / 10))
      have hrest := ih (n / 10) (by omega) (by omega)
      rw [hct] at hrest
      rw [ofNat, Nat.toDigits_of_base_le (by decide) (Nat.le_of_not_lt h), ← ofNat, hct]
      exact hrest

/-- **Ten times a number** is written with one more zero behind. -/
theorem ofNat_mul_pow {n : Nat} (hn : 0 < n) (k : Nat) : ofNat (n * 10 ^ k) = ofNat n ++ zeros k := by
  induction k with
  | zero => simp [zeros]
  | succ k ih =>
    have hpos : 0 < n * 10 ^ k := Nat.mul_pos hn (Nat.pow_pos (by decide))
    have hmul : n * 10 ^ (k + 1) = 10 * (n * 10 ^ k) + 0 := by ring
    have hzero : Nat.toDigits 10 0 = ['0'] := by decide
    rw [ofNat, hmul, ← Nat.toDigits_append_toDigits (by decide) hpos (by decide), ← ofNat, ih, hzero, zeros,
      zeros, List.replicate_succ', List.append_assoc]

/-- A numeral without a zero in front of its digits, and zero without a sign. -/
def IsCanonical (t : Text) : Prop :=
  t = ['0'] ∨ ∃ digits : Text, digits.head? ≠ some '0' ∧ digits ≠ [] ∧ (∀ c ∈ digits, c.isDigit = true) ∧
    (t = digits ∨ t = '-' :: digits)

/-- **Integers are written as canonical numerals.** -/
theorem isCanonical_ofInt (n : Int) : IsCanonical (ofInt n) := by
  rcases Nat.eq_zero_or_pos n.natAbs with hzero | hpos
  · rw [Int.natAbs_eq_zero.1 hzero]
    exact .inl (by decide)
  · refine .inr ⟨ofNat n.natAbs, head?_ofNat hpos, ofNat_ne_nil _, fun _ hc => isDigit_of_mem_ofNat hc, ?_⟩
    unfold ofInt
    split
    · exact .inr rfl
    · exact .inl rfl

/-- **A number that is written is read back**, if it has at most 63 bits. -/
theorem signed_ofNat {n : Nat} (h : n ≤ maxSigned) : signed (ofNat n) = .ok n := by
  have hn : Denotes (ofNat n) (value (ofNat n)) :=
    .unsigned (ofNat_ne_nil n) fun _ hc => isDigit_of_mem_ofNat hc
  rw [value_ofNat] at hn
  exact signed_eq_ok_iff.2 ⟨hn, by omega, Int.ofNat_le.2 h⟩

end Decimal
end TemplateExpansion
