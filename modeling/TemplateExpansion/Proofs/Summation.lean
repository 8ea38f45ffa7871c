/-
# Sums of integers

`add` checks that its operands are integers and then reads them as floating-point numbers.  What denotes an
integer denotes a number too (`Binary64.read_of_denotes`), so nothing fails after the check.  The sum is the
number nearest to an integer at every step (`sumFrom_eq`).  That is why it is written without a point, and no
list of operands is long enough to make it infinite.

While operands and sums stay within `2 ^ 53`, nothing is rounded (`foldl_sumStep_eq`), and what is written
is the sum itself (`add_exact`).
-/
import Mathlib.Data.List.Infix
import TemplateExpansion.Builtin.Arithmetic
import TemplateExpansion.Proofs.WholeDecimals

namespace TemplateExpansion

open Text

/-! ## 1. Reading -/

namespace Binary64

theorem toLower_of_isDigit {c : Char} (h : c.isDigit = true) : c.toLower = c := by
  simp only [Char.isDigit, ge_iff_le, Bool.and_eq_true, decide_eq_true_eq] at h
  have hupper : ¬ (c.val ≥ 'A'.val ∧ c.val ≤ 'Z'.val) := by
    rintro ⟨hA, -⟩
    exact absurd (UInt32.le_trans hA h.2) (by decide)
  exact dif_neg hupper

theorem ofDecimal_zero (negative : Bool) (digits : Nat) :
    ofDecimal negative digits 0 = ofFraction negative digits 1 := by
  rcases Nat.eq_zero_or_pos digits with rfl | hpos
  · rw [ofFraction_zero]
    rfl
  · have hne : digits ≠ 0 := Nat.ne_of_gt hpos
    have hsmall : ¬ ((digits.log2 : Int) + 3 * 0 < -1200) := by omega
    rw [ofDecimal, if_neg hne, if_neg (by decide), if_neg hsmall, if_pos (Int.le_refl 0), Int.toNat_zero,
      Nat.pow_eq, Nat.pow_zero, Nat.mul_one]

/-- **Digits are read as the number nearest to their value.** -/
theorem readMagnitude_of_digits {t : Text} (hne : t ≠ []) (hdigits : ∀ c ∈ t, c.isDigit = true)
    (negative : Bool) : readMagnitude negative t = .ok (ofFraction negative (Decimal.value t) 1) := by
  have hlower : t.toLower = t :=
    (List.map_congr_left fun c hc => toLower_of_isDigit (hdigits c hc)).trans (List.map_id t)
  have hname {name : Text} {c : Char} (hc : c ∈ name) (hletter : c.isDigit = false) : t ≠ name := by
    rintro rfl
    exact absurd (hdigits c hc) (by simp [hletter])
  have hinf : ¬ (t.toLower = "inf".toList ∨ t.toLower = "infinity".toList) := by
    rw [hlower, not_or]
    exact ⟨hname (List.mem_cons_self : 'i' ∈ _) rfl, hname (List.mem_cons_self : 'i' ∈ _) rfl⟩
  have hnan : ¬ t.toLower = "nan".toList := by
    rw [hlower]
    exact hname (List.mem_cons_self : 'n' ∈ _) rfl
  have hnumeral : readNumeral? negative t = some (ofFraction negative (Decimal.value t) 1) := by
    have hwhole : t.takeWhile Char.isDigit = t := List.takeWhile_eq_self_iff.2 hdigits
    have htail : t.dropWhile Char.isDigit = [] := List.dropWhile_eq_nil_iff.2 hdigits
    have hempty : t.isEmpty = false := List.isEmpty_eq_false_iff.2 hne
    simp only [readNumeral?, hwhole, htail, hempty]
    show some (ofDecimal negative (Decimal.value (t ++ [])) 0) = some (ofFraction negative (Decimal.value t) 1)
    rw [List.append_nil, ofDecimal_zero]
  rw [readMagnitude, if_neg hinf, if_neg hnan, hnumeral]

/-- **What denotes an integer denotes a number**: the one nearest to it. -/
theorem read_of_denotes {t : Text} {n : Int} (h : Decimal.Denotes t n) :
    ∃ (negative : Bool) (digits : Nat), read t = .ok (ofFraction negative digits 1) ∧
      n = signedUnits negative digits := by
  cases h with
  | plus hne hdigits => exact ⟨false, _, readMagnitude_of_digits hne hdigits false, rfl⟩
  | minus hne hdigits => exact ⟨true, _, readMagnitude_of_digits hne hdigits true, rfl⟩
  | unsigned hne hdigits =>
    refine ⟨false, _, ?_, rfl⟩
    rw [← readMagnitude_of_digits hne hdigits false]
    obtain ⟨c, rest, rfl⟩ := List.exists_cons_of_ne_nil hne
    have hc : c.isDigit = true := hdigits c List.mem_cons_self
    rw [read]
    · exact List.cons_ne_nil c rest
    · rintro _ ⟨⟩
      exact absurd hc (by decide)
    · rintro _ ⟨⟩
      exact absurd hc (by decide)

/-! ## 2. Writing -/

/-- **The number nearest to an integer is written as digits**, with a minus sign in front if the integer is
negative; up to `2 ^ 53` the digits are those of the integer. -/
theorem plain_ofInt {n : Int} (hl : n.natAbs.log2 ≤ 1022) :
    ∃ digits : Text, (ofInt n).plain = withSign (decide (n < 0)) digits ∧ digits ≠ [] ∧
      (∀ c ∈ digits, c.isDigit = true) ∧ (n.natAbs ≤ 2 ^ 53 → digits = Decimal.ofNat n.natAbs) := by
  rcases Nat.eq_zero_or_pos n.natAbs with hzero | hpos
  · rw [Int.natAbs_eq_zero.1 hzero]
    exact ⟨['0'], by decide, List.cons_ne_nil _ _, List.forall_mem_singleton.2 rfl, fun _ => rfl⟩
  · have hne : n.natAbs ≠ 0 := Nat.ne_of_gt hpos
    obtain ⟨significand, exponent, hfinite, hlow, -, hvalue⟩ := ofFraction_one (decide (n < 0)) hne hl
    obtain ⟨steps, grid, hsteps, hexact⟩ :=
      Decimal.plain_shortest hvalue hlow (nearest_ne_zero hne) Decimal.Tie.up
    have hsignificand : significand ≠ 0 := Nat.ne_of_gt (Nat.lt_of_lt_of_le (by decide) hlow)
    refine ⟨(Decimal.shortest .up significand exponent).plain, ?_, ?_, ?_, ?_⟩
    · rw [ofInt, hfinite, plain, if_neg hsignificand]
    · rw [hsteps]
      exact List.append_ne_nil_of_left_ne_nil (Decimal.ofNat_ne_nil steps) _
    · rw [hsteps]
      intro c hc
      rcases List.mem_append.1 hc with hc | hc
      · exact Decimal.isDigit_of_mem_ofNat hc
      · rw [(List.mem_replicate.1 hc).2]
        rfl
    · intro hle
      rw [nearest_of_le hle] at hexact
      exact hexact hle

end Binary64

/-! ## 3. Summing -/

namespace Operation

open Binary64 (nearest nearestInt)

/-- The largest magnitude that a sum of integers of 64 bits has before it is rounded. -/
def maxSum : Nat := 2 ^ 117 + 2 ^ 63

theorem log2_le_of_le_maxSum {n : Nat} (h : n ≤ maxSum) : n.log2 ≤ 1022 := by
  rcases Nat.eq_zero_or_pos n with rfl | hpos
  · decide
  · have hlt : n < 2 ^ 118 := Nat.lt_of_le_of_lt h (by decide)
    have hlog : n.log2 < 118 := (Nat.log2_lt (Nat.ne_of_gt hpos)).2 hlt
    omega

/-- A step of the sum: what was added up so far is rounded, the next term is rounded, and they are added. -/
def sumStep (total n : Int) : Int := nearestInt total + nearestInt n

/-- **No step goes beyond the largest magnitude.** -/
theorem natAbs_sumStep_le {total n : Int} (ht : total.natAbs ≤ maxSum) (hn : n.natAbs ≤ 2 ^ 63) :
    (sumStep total n).natAbs ≤ maxSum := by
  have hleft : (nearestInt total).natAbs ≤ 2 ^ 117 := by
    rw [Binary64.natAbs_nearestInt]
    exact Binary64.nearest_le_of_saturated ht
  have hright : (nearestInt n).natAbs ≤ 2 ^ 63 := by
    rw [Binary64.natAbs_nearestInt]
    exact Binary64.nearest_le hn
  exact Nat.le_trans (Int.natAbs_add_le _ _) (Nat.add_le_add hleft hright)

/-- The integers that operands denote, blanks around them aside. -/
def OperandsDenote (operands : List Text) (ns : List Int) : Prop :=
  List.Forall₂ (fun operand n => Decimal.signed operand.trim = .ok n) operands ns

/-- **The sum is the number nearest to an integer**, whatever the number of operands. -/
theorem sumFrom_eq {operands : List Text} {ns : List Int} (h : OperandsDenote operands ns) {total : Int}
    (ht : total.natAbs ≤ maxSum) :
    (ns.foldl sumStep total).natAbs ≤ maxSum ∧
      sumFrom (.ofInt total) operands = .ok (.ofInt (ns.foldl sumStep total)) := by
  induction h generalizing total with
  | nil => exact ⟨ht, rfl⟩
  | @cons operand n operands ns hn _ ih =>
    obtain ⟨hdenotes, hlow, hhigh⟩ := Decimal.signed_eq_ok_iff.1 hn
    obtain ⟨negative, digits, hread, hdigits⟩ := Binary64.read_of_denotes hdenotes
    have habs : n.natAbs = digits := by rw [hdigits, Binary64.natAbs_signedUnits]
    have hmax : (Decimal.maxSigned : Int) = 2 ^ 63 - 1 := rfl
    have hbound : n.natAbs ≤ 2 ^ 63 := by omega
    have hinteger : Binary64.IsInteger (.ofFraction negative digits 1) (nearestInt n) := by
      rw [hdigits]
      refine Binary64.isInteger_ofFraction negative (log2_le_of_le_maxSum ?_)
      exact Nat.le_trans (habs ▸ hbound) (Nat.le_add_left _ _)
    obtain ⟨hle, hsum⟩ := ih (natAbs_sumStep_le ht hbound)
    refine ⟨hle, ?_⟩
    rw [sumFrom, hread]
    simp only
    rw [Binary64.ofInt_add (log2_le_of_le_maxSum ht) hinteger]
    exact hsum

/-- **Nothing is rounded** while all terms and all sums on the way stay within `2 ^ 53`. -/
theorem foldl_sumStep_eq {ns : List Int} {total : Int} (hns : ∀ n ∈ ns, n.natAbs ≤ 2 ^ 53)
    (hsums : ∀ front, front <+: ns → (total + front.sum).natAbs ≤ 2 ^ 53) :
    ns.foldl sumStep total = total + ns.sum := by
  induction ns generalizing total with
  | nil => simp
  | cons n ns ih =>
    obtain ⟨hn, hns⟩ := List.forall_mem_cons.1 hns
    have htotal : total.natAbs ≤ 2 ^ 53 := by simpa using hsums [] List.nil_prefix
    have hsums' : ∀ front, front <+: ns → (total + n + front.sum).natAbs ≤ 2 ^ 53 := by
      intro front hfront
      have h := hsums (n :: front) (List.cons_prefix_cons.2 ⟨rfl, hfront⟩)
      rwa [List.sum_cons, ← Int.add_assoc] at h
    rw [List.foldl_cons, sumStep, Binary64.nearestInt_of_le htotal, Binary64.nearestInt_of_le hn, ih hns hsums',
      List.sum_cons, Int.add_assoc]

/-- Operands that the requirement accepts denote integers. -/
theorem exists_operandsDenote {e : Expression} {ctx : Context} (h : add.firstFailure e ctx = none) :
    ∃ ns, OperandsDenote e.operands ns := by
  have hall : e.operands.all Text.isInteger = true :=
    firstFailure_eq_none.1 h _ List.mem_cons_self
  generalize e.operands = operands at hall
  induction operands with
  | nil => exact ⟨[], .nil⟩
  | cons operand operands ih =>
    obtain ⟨hoperand, hoperands⟩ := Bool.and_eq_true_iff.1 hall
    obtain ⟨ns, hns⟩ := ih hoperands
    unfold Text.isInteger at hoperand
    cases hn : Decimal.signed operand.trim with
    | error cause =>
      rw [hn] at hoperand
      exact absurd hoperand Bool.false_ne_true
    | ok n => exact ⟨n :: ns, .cons hn hns⟩

/-- **Up to `2 ^ 53` a number is written as the integer that it is.** -/
theorem plain_ofInt_of_le {n : Int} (hle : n.natAbs ≤ 2 ^ 53) :
    (Binary64.ofInt n).plain = Decimal.ofInt n := by
  have hl : n.natAbs.log2 ≤ 1022 := log2_le_of_le_maxSum (Nat.le_trans hle (by decide))
  obtain ⟨digits, hplain, -, -, hdigits⟩ := Binary64.plain_ofInt hl
  rw [hplain, hdigits hle, Decimal.ofInt, Binary64.withSign]
  by_cases hneg : n < 0
  · rw [if_pos (decide_eq_true hneg), if_pos hneg]
  · rw [if_neg (by simpa using hneg), if_neg hneg]

/-- **`add` never fails after its check, and is exact in the safe range.**  If all operands are integers of 64
bits, however many there are, nothing is logged and the outcome is digits, with at most a minus sign in front.
If moreover all operands and all sums from the left stay within `2 ^ 53`, the outcome is the canonical numeral
of the exact sum. -/
theorem add_exact {e : Expression} {ctx : Context} (h : add.firstFailure e ctx = none) :
    ∃ text, add.run e ctx = (text, ctx) ∧
      (∃ digits : Text, digits ≠ [] ∧ (∀ c ∈ digits, c.isDigit = true) ∧
        (text = digits ∨ text = '-' :: digits)) ∧
      ∀ ns, OperandsDenote e.operands ns → (∀ n ∈ ns, n.natAbs ≤ 2 ^ 53) →
        (∀ front, front <+: ns → front.sum.natAbs ≤ 2 ^ 53) →
          text = Decimal.ofInt ns.sum ∧ Decimal.IsCanonical text := by
  have hzero : (0 : Int).natAbs ≤ maxSum := Nat.zero_le _
  obtain ⟨ns, hns⟩ := exists_operandsDenote h
  obtain ⟨hle, hsum⟩ := sumFrom_eq hns hzero
  have hrun : add.run e ctx = ((Binary64.ofInt (ns.foldl sumStep 0)).plain, ctx) := by
    have hsum' : sum e.operands = .ok (.ofInt (ns.foldl sumStep 0)) := hsum
    simp only [run, add, hsum']
    rfl
  refine ⟨_, hrun, ?_, ?_⟩
  · obtain ⟨digits, hplain, hne, hdigits, -⟩ := Binary64.plain_ofInt (log2_le_of_le_maxSum hle)
    refine ⟨digits, hne, hdigits, ?_⟩
    rw [hplain, Binary64.withSign]
    split
    · exact .inr rfl
    · exact .inl rfl
  · intro ns' hns' hsmall hsums
    obtain ⟨-, hsum'⟩ := sumFrom_eq hns' hzero
    have hsame : Binary64.ofInt (ns.foldl sumStep 0) = .ofInt (ns'.foldl sumStep 0) :=
      Except.ok.inj (hsum.symm.trans hsum')
    have hexact : ns'.foldl sumStep 0 = ns'.sum := by
      rw [foldl_sumStep_eq hsmall (by simpa using hsums), Int.zero_add]
    rw [hsame, hexact, plain_ofInt_of_le (hsums ns' List.prefix_rfl)]
    exact ⟨rfl, Decimal.isCanonical_ofInt _⟩

/-- A negative zero, blanks and signs, and a sum on the way of `2 ^ 53`. -/
theorem add_exact_cancelled :
    add.run (.parse "add:-0| +9007199254740992 |-9007199254740992|-07".toList) (.fresh []) =
      ("-7".toList, .fresh []) := by
  have hnone : add.firstFailure (.parse "add:-0| +9007199254740992 |-9007199254740992|-07".toList)
      (.fresh []) = none := rfl
  have hdenote : OperandsDenote ["-0".toList, " +9007199254740992 ".toList, "-9007199254740992".toList, "-07".toList]
      [0, 2 ^ 53, -2 ^ 53, -7] := .cons rfl (.cons rfl (.cons rfl (.cons rfl .nil)))
  have hsums : ∀ front ∈ List.inits [0, 2 ^ 53, -2 ^ 53, -7], (List.sum front : Int).natAbs ≤ 2 ^ 53 := by
    decide
  obtain ⟨text, hrun, -, hexact⟩ := add_exact hnone
  obtain ⟨htext, -⟩ := hexact _ hdenote (by decide) fun front hfront =>
    hsums front ((List.mem_inits _ _).2 hfront)
  rw [hrun, htext]
  decide

end Operation

end TemplateExpansion
