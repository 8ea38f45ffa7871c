/-
# Rounded integers

Around a natural number of `l + 1` binary digits the floating-point numbers are multiples of
`2 ^ (l - 52)`; the nearest of them is `Binary64.nearest`.  A fraction that is a natural number is rounded to it,
however it is expanded by a power of two (`ofFraction_mul_pow`, `ofFraction_one`).

A sum of two numbers that are integers is rounded once: it is the number nearest to the exact sum
(`ofInt_add`).  No bits are lost below `2 ^ 53` (`nearest_of_le`).  A term of 64 bits does not take a sum
beyond `2 ^ 117`, since the next number is too far away from there (`nearest_le_of_saturated`).
-/
import Mathlib.Tactic.Ring
import TemplateExpansion.Decimal.Binary64

namespace TemplateExpansion
namespace Binary64

/-! ## 1. Rounded quotients -/

theorem roundDiv_eq_or (numerator denominator : Nat) :
    roundDiv numerator denominator = numerator / denominator ∨
      roundDiv numerator denominator = numerator / denominator + 1 := by
  simp only [roundDiv]
  split
  · exact .inl rfl
  · split
    · exact .inr rfl
    · split
      · exact .inl rfl
      · exact .inr rfl

theorem roundDiv_of_lt {numerator denominator : Nat} (h : 2 * (numerator % denominator) < denominator) :
    roundDiv numerator denominator = numerator / denominator := if_pos h

/-- A quotient without a remainder is not rounded. -/
theorem roundDiv_mul_self (quotient : Nat) {denominator : Nat} (h : 0 < denominator) :
    roundDiv (quotient * denominator) denominator = quotient := by
  have hremainder : 2 * (quotient * denominator % denominator) < denominator := by
    rw [Nat.mul_mod_left]
    exact h
  rw [roundDiv_of_lt hremainder, Nat.mul_div_cancel _ h]

theorem roundDiv_one (n : Nat) : roundDiv n 1 = n := by
  have h := roundDiv_mul_self n Nat.one_pos
  rwa [Nat.mul_one] at h

/-- **A fraction may be expanded** before it is rounded. -/
theorem roundDiv_mul_right (numerator denominator : Nat) {k : Nat} (hk : 0 < k) :
    roundDiv (numerator * k) (denominator * k) = roundDiv numerator denominator := by
  have hbelow : 2 * (numerator % denominator * k) < denominator * k ↔
      2 * (numerator % denominator) < denominator := by
    rw [← Nat.mul_assoc, Nat.mul_lt_mul_right hk]
  have habove : denominator * k < 2 * (numerator % denominator * k) ↔
      denominator < 2 * (numerator % denominator) := by
    rw [← Nat.mul_assoc, Nat.mul_lt_mul_right hk]
  simp only [roundDiv, Nat.mul_div_mul_right _ _ hk, Nat.mul_mod_mul_right, hbelow, habove]

/-! ## 2. The nearest number -/

/-- The natural number with at most 53 significant bits that is nearest to a natural number, the even one of
two that are equally near. -/
def nearest (n : Nat) : Nat := roundDiv n (2 ^ (n.log2 - 52)) * 2 ^ (n.log2 - 52)

theorem nearest_of_log2_le {n : Nat} (h : n.log2 ≤ 52) : nearest n = n := by
  rw [nearest, Nat.sub_eq_zero_of_le h, Nat.pow_zero, Nat.mul_one, roundDiv_one]

/-- **A power of two** is not rounded. -/
theorem nearest_two_pow (k : Nat) : nearest (2 ^ k) = 2 ^ k := by
  have hpow : (2 ^ k : Nat) = 2 ^ (k - (k - 52)) * 2 ^ (k - 52) := by
    rw [← Nat.pow_add, Nat.sub_add_cancel (Nat.sub_le k 52)]
  have hround : roundDiv (2 ^ k) (2 ^ (k - 52)) = 2 ^ (k - (k - 52)) := by
    conv_lhs => rw [hpow]
    exact roundDiv_mul_self _ (Nat.two_pow_pos _)
  rw [nearest, Nat.log2_two_pow, hround, ← hpow]

/-- **Integers are exact** up to `2 ^ 53`. -/
theorem nearest_of_le {n : Nat} (h : n ≤ 2 ^ 53) : nearest n = n := by
  rcases Nat.lt_or_ge n (2 ^ 53) with hlt | hge
  · rcases Nat.eq_zero_or_pos n with rfl | hpos
    · rfl
    · exact nearest_of_log2_le (Nat.le_of_lt_succ ((Nat.log2_lt (Nat.ne_of_gt hpos)).2 hlt))
  · rw [Nat.le_antisymm h hge, nearest_two_pow]

theorem minNormal_mul_pow {l : Nat} (hl : 52 ≤ l) : minNormal * 2 ^ (l - 52) = 2 ^ l := by
  show 2 ^ 52 * 2 ^ (l - 52) = 2 ^ l
  rw [← Nat.pow_add, Nat.add_sub_cancel' hl]

theorem two_mul_minNormal_mul_pow {l : Nat} (hl : 52 ≤ l) : 2 * minNormal * 2 ^ (l - 52) = 2 ^ (l + 1) := by
  rw [Nat.mul_assoc, minNormal_mul_pow hl, Nat.pow_succ']

/-- The significand of a number with 53 bits or more has 53 bits, or is the next power of two. -/
theorem roundDiv_bounds {n : Nat} (hl : 52 ≤ n.log2) :
    minNormal ≤ roundDiv n (2 ^ (n.log2 - 52)) ∧ roundDiv n (2 ^ (n.log2 - 52)) ≤ 2 * minNormal := by
  have hne : n ≠ 0 := by
    rintro rfl
    exact absurd hl (by decide)
  have hpos : 0 < 2 ^ (n.log2 - 52) := Nat.two_pow_pos _
  have hlow : minNormal * 2 ^ (n.log2 - 52) ≤ n := minNormal_mul_pow hl ▸ Nat.log2_self_le hne
  have hhigh : n < 2 * minNormal * 2 ^ (n.log2 - 52) := two_mul_minNormal_mul_pow hl ▸ Nat.lt_log2_self
  have hquotient : minNormal ≤ n / 2 ^ (n.log2 - 52) := (Nat.le_div_iff_mul_le hpos).2 hlow
  have hquotient' : n / 2 ^ (n.log2 - 52) < 2 * minNormal := (Nat.div_lt_iff_lt_mul hpos).2 hhigh
  rcases roundDiv_eq_or n (2 ^ (n.log2 - 52)) with h | h <;> rw [h] <;> omega

/-- **Rounding does not pass a power of two.** -/
theorem nearest_le {n k : Nat} (h : n ≤ 2 ^ k) : nearest n ≤ 2 ^ k := by
  rcases Nat.lt_or_ge 52 n.log2 with hl | hl
  · have hne : n ≠ 0 := by
      rintro rfl
      exact absurd hl (by decide)
    rcases Nat.lt_or_ge n.log2 k with hk | hk
    · have hbound : nearest n ≤ 2 * minNormal * 2 ^ (n.log2 - 52) :=
        Nat.mul_le_mul_right _ (roundDiv_bounds (Nat.le_of_lt hl)).2
      rw [two_mul_minNormal_mul_pow (Nat.le_of_lt hl)] at hbound
      exact Nat.le_trans hbound (Nat.pow_le_pow_right (by decide) hk)
    · -- no room is left between the first bit and the bound
      have heq : n = 2 ^ k :=
        Nat.le_antisymm h (Nat.le_trans (Nat.pow_le_pow_right (by decide) hk) (Nat.log2_self_le hne))
      rw [heq, nearest_two_pow]
  · rw [nearest_of_log2_le hl]
    exact h

/-- **Sums are saturated** at `2 ^ 117`: from there the next number is farther away than any term of 64 bits. -/
theorem nearest_le_of_saturated {n : Nat} (h : n ≤ 2 ^ 117 + 2 ^ 63) : nearest n ≤ 2 ^ 117 := by
  rcases Nat.lt_or_ge (2 ^ 117) n with hlt | hle
  · have hlog : n.log2 = 117 := (Nat.log2_eq_iff (by omega)).2 ⟨Nat.le_of_lt hlt, by omega⟩
    have hquotient : n / 2 ^ 65 = 2 ^ 52 := by omega
    have hremainder : 2 * (n % 2 ^ 65) < 2 ^ 65 := by omega
    rw [nearest, hlog, roundDiv_of_lt hremainder, hquotient]
    decide
  · exact nearest_le hle

/-! ## 3. Fractions that are natural numbers -/

theorem log2_mul_pow {n : Nat} (hn : n ≠ 0) (k : Nat) : (n * 2 ^ k).log2 = n.log2 + k := by
  have hne : n * 2 ^ k ≠ 0 := Nat.mul_ne_zero hn (Nat.ne_of_gt (Nat.two_pow_pos k))
  refine (Nat.log2_eq_iff hne).2 ⟨?_, ?_⟩
  · rw [Nat.pow_add]
    exact Nat.mul_le_mul_right _ (Nat.log2_self_le hn)
  · rw [Nat.add_right_comm, Nat.pow_add]
    exact Nat.mul_lt_mul_of_pos_right Nat.lt_log2_self (Nat.two_pow_pos k)

theorem scaleDown_mul (numerator denominator k : Nat) (exponent : Int) :
    scaleDown (numerator * k) (denominator * k) exponent =
      ((scaleDown numerator denominator exponent).1 * k, (scaleDown numerator denominator exponent).2 * k) := by
  unfold scaleDown
  split
  · rw [Nat.mul_right_comm]
  · rw [Nat.mul_right_comm]

variable {numerator denominator : Nat}

theorem exponentFor_mul_pow (hn : numerator ≠ 0) (hd : denominator ≠ 0) (k : Nat) :
    exponentFor (numerator * 2 ^ k) (denominator * 2 ^ k) = exponentFor numerator denominator := by
  have hguess : (((numerator * 2 ^ k).log2 : Nat) : Int) - ((denominator * 2 ^ k).log2 : Nat) - 52 =
      (numerator.log2 : Int) - denominator.log2 - 52 := by
    rw [log2_mul_pow hn, log2_mul_pow hd]
    omega
  simp only [exponentFor, hguess, scaleDown_mul, Nat.mul_right_comm _ (2 ^ k) minNormal,
    Nat.mul_lt_mul_right (Nat.two_pow_pos k)]

theorem ofFraction_zero (negative : Bool) (denominator : Nat) :
    ofFraction negative 0 denominator = zero negative := if_pos rfl

/-- **A fraction may be expanded by a power of two** before the nearest number is found. -/
theorem ofFraction_mul_pow (negative : Bool) (numerator : Nat) (hd : denominator ≠ 0) (k : Nat) :
    ofFraction negative (numerator * 2 ^ k) (denominator * 2 ^ k) =
      ofFraction negative numerator denominator := by
  rcases Nat.eq_zero_or_pos numerator with rfl | hpos
  · rw [Nat.zero_mul, ofFraction_zero, ofFraction_zero]
  · have hn : numerator ≠ 0 := Nat.ne_of_gt hpos
    have hne : numerator * 2 ^ k ≠ 0 := Nat.mul_ne_zero hn (Nat.ne_of_gt (Nat.two_pow_pos k))
    simp only [ofFraction, if_neg hn, if_neg hne, exponentFor_mul_pow hn hd, scaleDown_mul,
      roundDiv_mul_right _ _ (Nat.two_pow_pos k)]

/-- A natural number in units of the exponent that leaves 53 bits. -/
theorem scaleDown_one (n l : Nat) :
    scaleDown n 1 ((l : Int) - 52) = (n * 2 ^ (52 - l), 2 ^ (l - 52)) := by
  unfold scaleDown
  rcases Nat.lt_or_ge l 52 with hl | hl
  · have hneg : ¬ (0 : Int) ≤ (l : Int) - 52 := by omega
    have htoNat : (-((l : Int) - 52)).toNat = 52 - l := by omega
    rw [if_neg hneg, htoNat, Nat.pow_eq, Nat.sub_eq_zero_of_le (Nat.le_of_lt hl), Nat.pow_zero]
  · have hnonneg : (0 : Int) ≤ (l : Int) - 52 := by omega
    have htoNat : ((l : Int) - 52).toNat = l - 52 := by omega
    rw [if_pos hnonneg, htoNat, Nat.pow_eq, Nat.sub_eq_zero_of_le hl, Nat.pow_zero, Nat.mul_one, Nat.one_mul]

theorem exponentFor_one {n : Nat} (hn : n ≠ 0) : exponentFor n 1 = (n.log2 : Int) - 52 := by
  have hlog : Nat.log2 1 = 0 := by decide
  have hguess : (n.log2 : Int) - (Nat.log2 1 : Nat) - 52 = (n.log2 : Int) - 52 := by rw [hlog]; omega
  have hle : 2 ^ (n.log2 - 52) * minNormal ≤ n * 2 ^ (52 - n.log2) := by
    rcases Nat.le_total 52 n.log2 with hl | hl
    · rw [Nat.mul_comm, minNormal_mul_pow hl, Nat.sub_eq_zero_of_le hl, Nat.pow_zero, Nat.mul_one]
      exact Nat.log2_self_le hn
    · have hpow : 2 ^ n.log2 * 2 ^ (52 - n.log2) = minNormal := by
        rw [← Nat.pow_add, Nat.add_sub_cancel' hl]
        rfl
      rw [Nat.sub_eq_zero_of_le hl, Nat.pow_zero, Nat.one_mul, ← hpow]
      exact Nat.mul_le_mul_right _ (Nat.log2_self_le hn)
  simp only [exponentFor, hguess, scaleDown_one, if_neg (Nat.not_lt.2 hle), minExponent]
  omega

/-! ## 4. Units -/

/-- A number of units `2 ^ exponent` amounts to an integer. -/
def Amounts (units exponent n : Int) : Prop := units * 2 ^ exponent.toNat = n * 2 ^ (-exponent).toNat

namespace Amounts

variable {units exponent n : Int}

/-- Half as many units of twice the size. -/
theorem halve (h : Amounts (2 * units) exponent n) : Amounts units (exponent + 1) n := by
  unfold Amounts at h ⊢
  rcases lt_or_ge exponent 0 with hneg | hnonneg
  · have hsub : (-exponent).toNat = (-(exponent + 1)).toNat + 1 := by omega
    have hzero : exponent.toNat = 0 := by omega
    have hzero' : (exponent + 1).toNat = 0 := by omega
    rw [hsub, hzero, pow_zero, mul_one] at h
    have htwice : 2 * units = 2 * (n * 2 ^ (-(exponent + 1)).toNat) := by
      rw [h]
      ring
    rw [hzero', pow_zero, mul_one]
    exact Int.eq_of_mul_eq_mul_left two_ne_zero htwice
  · have hsucc : (exponent + 1).toNat = exponent.toNat + 1 := by omega
    have hzero : (-exponent).toNat = 0 := by omega
    have hzero' : (-(exponent + 1)).toNat = 0 := by omega
    rw [hzero] at h
    rw [hzero', hsucc, ← h]
    ring

/-- **The same in smaller units.** -/
theorem rescale (h : Amounts units exponent n) {smaller : Int} (hle : smaller ≤ exponent) :
    Amounts (units * 2 ^ (exponent - smaller).toNat) smaller n := by
  unfold Amounts at h ⊢
  rcases lt_or_ge exponent 0 with hneg | hnonneg
  · have hsum : (-smaller).toNat = (-exponent).toNat + (exponent - smaller).toNat := by omega
    have hzero : exponent.toNat = 0 := by omega
    have hzero' : smaller.toNat = 0 := by omega
    rw [hzero, pow_zero, mul_one] at h
    rw [hzero', hsum, h]
    ring
  · have hsum : exponent.toNat + (-smaller).toNat = (exponent - smaller).toNat + smaller.toNat := by omega
    have hzero : (-exponent).toNat = 0 := by omega
    rw [hzero, pow_zero, mul_one] at h
    rw [← h, mul_assoc, mul_assoc, ← pow_add, ← pow_add, hsum]

theorem add {units' n' : Int} (h : Amounts units exponent n) (h' : Amounts units' exponent n') :
    Amounts (units + units') exponent (n + n') := by
  unfold Amounts at h h' ⊢
  rw [add_mul, add_mul, h, h']

theorem neg (h : Amounts units exponent n) : Amounts (-units) exponent (-n) := by
  unfold Amounts at h ⊢
  rw [neg_mul, neg_mul, h]

theorem signed {units n : Nat} (h : Amounts units exponent n) (negative : Bool) :
    Amounts (signedUnits negative units) exponent (signedUnits negative n) := by
  cases negative with
  | true => exact h.neg
  | false => exact h

/-- The units have the sign of what they amount to. -/
theorem sign_eq (h : Amounts units exponent n) : units.sign = n.sign := by
  have hpos : (0 : Int) < 2 ^ exponent.toNat := Int.pow_pos (by decide)
  have hpos' : (0 : Int) < 2 ^ (-exponent).toNat := Int.pow_pos (by decide)
  have hsign := congrArg Int.sign h
  rwa [Int.sign_mul, Int.sign_mul, Int.sign_eq_one_of_pos hpos, Int.sign_eq_one_of_pos hpos', mul_one,
    mul_one] at hsign

theorem neg_iff (h : Amounts units exponent n) : units < 0 ↔ n < 0 := by
  rw [← Int.sign_eq_neg_one_iff_neg, h.sign_eq, Int.sign_eq_neg_one_iff_neg]

theorem eq_zero_iff (h : Amounts units exponent n) : units = 0 ↔ n = 0 := by
  rw [← Int.sign_eq_zero_iff_zero, h.sign_eq, Int.sign_eq_zero_iff_zero]

theorem natAbs (h : Amounts units exponent n) : Amounts units.natAbs exponent n.natAbs := by
  unfold Amounts at h ⊢
  have habs := congrArg Int.natAbs h
  rw [Int.natAbs_mul, Int.natAbs_mul, Int.natAbs_pow, Int.natAbs_pow] at habs
  exact_mod_cast habs

end Amounts

/-- The number nearest to units that amount to a natural number is the one nearest to that. -/
theorem ofUnits_eq {units n : Nat} {exponent : Int} (h : Amounts units exponent n) (negative : Bool) :
    ofUnits negative units exponent = ofFraction negative n 1 := by
  unfold Amounts at h
  have hnat : units * 2 ^ exponent.toNat = n * 2 ^ (-exponent).toNat := by exact_mod_cast h
  unfold ofUnits
  split
  · have hzero : (-exponent).toNat = 0 := by omega
    rw [hzero, Nat.pow_zero, Nat.mul_one] at hnat
    rw [Nat.pow_eq, hnat]
  · have hzero : exponent.toNat = 0 := by omega
    rw [hzero, Nat.pow_zero, Nat.mul_one] at hnat
    have hexpand := ofFraction_mul_pow negative n Nat.one_ne_zero (-exponent).toNat
    rw [Nat.one_mul] at hexpand
    rw [Nat.pow_eq, hnat, hexpand]

/-! ## 5. The number nearest to an integer -/

/-- The significand before a carry: it has 53 bits or is the next power of two, and in its units it amounts to
the nearest number. -/
theorem significand_spec {n : Nat} (hn : n ≠ 0) :
    minNormal ≤ roundDiv (n * 2 ^ (52 - n.log2)) (2 ^ (n.log2 - 52)) ∧
      roundDiv (n * 2 ^ (52 - n.log2)) (2 ^ (n.log2 - 52)) ≤ 2 * minNormal ∧
      Amounts (roundDiv (n * 2 ^ (52 - n.log2)) (2 ^ (n.log2 - 52))) ((n.log2 : Int) - 52) (nearest n) := by
  have htoNat : ((n.log2 : Int) - 52).toNat = n.log2 - 52 := by omega
  have htoNat' : (-((n.log2 : Int) - 52)).toNat = 52 - n.log2 := by omega
  rw [Amounts, htoNat, htoNat']
  rcases Nat.le_total 52 n.log2 with hl | hl
  · rw [Nat.sub_eq_zero_of_le hl, Nat.pow_zero, Nat.mul_one]
    obtain ⟨hlow, hhigh⟩ := roundDiv_bounds hl
    exact ⟨hlow, hhigh, by rw [nearest]; push_cast; ring⟩
  · have hpow : 2 ^ n.log2 * 2 ^ (52 - n.log2) = minNormal := by
      rw [← Nat.pow_add, Nat.add_sub_cancel' hl]
      rfl
    have hpow' : 2 ^ (n.log2 + 1) * 2 ^ (52 - n.log2) = 2 * minNormal := by
      rw [Nat.pow_succ', Nat.mul_assoc, hpow]
    rw [Nat.sub_eq_zero_of_le hl, Nat.pow_zero, roundDiv_one, nearest_of_log2_le hl, ← hpow', ← hpow]
    exact ⟨Nat.mul_le_mul_right _ (Nat.log2_self_le hn),
      Nat.mul_le_mul_right _ (Nat.le_of_lt Nat.lt_log2_self), by push_cast; ring⟩

/-- **The number nearest to a natural number** has 53 significant bits, and it amounts to `nearest`. -/
theorem ofFraction_one (negative : Bool) {n : Nat} (hn : n ≠ 0) (hl : n.log2 ≤ 1022) :
    ∃ (significand : Nat) (exponent : Int), ofFraction negative n 1 = .finite negative significand exponent ∧
      minNormal ≤ significand ∧ significand < 2 * minNormal ∧ Amounts significand exponent (nearest n) := by
  obtain ⟨hlow, hhigh, hvalue⟩ := significand_spec hn
  have hfraction : ofFraction negative n 1 = _ := if_neg hn
  simp only [exponentFor_one hn, scaleDown_one] at hfraction
  have hmax : ¬ maxExponent < (n.log2 : Int) - 52 + 1 := by
    rw [maxExponent]
    omega
  by_cases hcarry : roundDiv (n * 2 ^ (52 - n.log2)) (2 ^ (n.log2 - 52)) = 2 * minNormal
  · rw [if_pos hcarry, if_pos hcarry, if_neg hmax] at hfraction
    rw [hcarry] at hvalue
    exact ⟨minNormal, _, hfraction, Nat.le_refl _, by decide, hvalue.halve⟩
  · have hmax' : ¬ maxExponent < (n.log2 : Int) - 52 := by omega
    rw [if_neg hcarry, if_neg hcarry, if_neg hmax'] at hfraction
    exact ⟨_, _, hfraction, hlow, Nat.lt_of_le_of_ne hhigh hcarry, hvalue⟩

/-- The number nearest to an integer. -/
def ofInt (n : Int) : Binary64 := ofFraction (decide (n < 0)) n.natAbs 1

/-- The value of the number nearest to an integer. -/
def nearestInt (n : Int) : Int := signedUnits (decide (n < 0)) (nearest n.natAbs)

theorem signedUnits_natAbs (n : Int) : signedUnits (decide (n < 0)) n.natAbs = n := by
  unfold signedUnits
  split
  · rename_i h
    have hneg : n < 0 := of_decide_eq_true h
    omega
  · rename_i h
    have hneg : ¬ n < 0 := fun hlt => h (decide_eq_true hlt)
    omega

theorem natAbs_signedUnits (negative : Bool) (n : Nat) : (signedUnits negative n).natAbs = n := by
  cases negative with
  | true => exact Int.natAbs_neg n
  | false => rfl

theorem natAbs_nearestInt (n : Int) : (nearestInt n).natAbs = nearest n.natAbs := natAbs_signedUnits _ _

/-- **Integers are exact** up to `2 ^ 53`, whatever their sign. -/
theorem nearestInt_of_le {n : Int} (h : n.natAbs ≤ 2 ^ 53) : nearestInt n = n := by
  rw [nearestInt, nearest_of_le h, signedUnits_natAbs]

theorem nearest_ne_zero {n : Nat} (hn : n ≠ 0) : nearest n ≠ 0 := by
  obtain ⟨hlow, -, hvalue⟩ := significand_spec hn
  intro hzero
  have hunits := Int.ofNat_eq_zero.1 (hvalue.eq_zero_iff.2 (Int.ofNat_eq_zero.2 hzero))
  have hpos : 0 < minNormal := by decide
  omega

theorem nearestInt_neg {n : Int} (h : n < 0) : nearestInt n < 0 := by
  have hne : nearest n.natAbs ≠ 0 := nearest_ne_zero (by omega)
  rw [nearestInt, decide_eq_true h, signedUnits, if_pos rfl]
  omega

/-- The value of a number with a minus sign is not positive. -/
theorem Amounts.nonpos {units : Nat} {exponent n : Int} (h : Amounts (signedUnits true units) exponent n) :
    n ≤ 0 := by
  have hneg := h.neg.neg_iff
  rw [signedUnits, if_pos rfl] at hneg
  omega

/-- A finite number whose value is an integer. -/
def IsInteger (x : Binary64) (n : Int) : Prop :=
  ∃ (negative : Bool) (significand : Nat) (exponent : Int), x = .finite negative significand exponent ∧
    Amounts (signedUnits negative significand) exponent n

theorem ofFraction_eq_finite (negative : Bool) {n : Nat} (hl : n.log2 ≤ 1022) :
    ∃ (significand : Nat) (exponent : Int), ofFraction negative n 1 = .finite negative significand exponent ∧
      Amounts (signedUnits negative significand) exponent (signedUnits negative (nearest n)) := by
  rcases Nat.eq_zero_or_pos n with rfl | hpos
  · have hzero : Amounts (0 : Nat) minExponent (nearest 0) := by
      rw [nearest_of_le (Nat.zero_le _), Amounts, Int.natCast_zero, Int.zero_mul, Int.zero_mul]
    exact ⟨0, minExponent, ofFraction_zero negative 1, hzero.signed negative⟩
  · obtain ⟨significand, exponent, hfinite, -, -, hvalue⟩ := ofFraction_one negative (Nat.ne_of_gt hpos) hl
    exact ⟨significand, exponent, hfinite, hvalue.signed negative⟩

theorem nearestInt_signedUnits (negative : Bool) (n : Nat) :
    nearestInt (signedUnits negative n) = signedUnits negative (nearest n) := by
  cases negative with
  | false =>
    have hnonneg : ¬ (n : Int) < 0 := Int.not_lt.2 (Int.natCast_nonneg n)
    rw [signedUnits, if_neg (by decide), nearestInt, decide_eq_false hnonneg, Int.natAbs_natCast]
  | true =>
    rcases Nat.eq_zero_or_pos n with rfl | hpos
    · decide
    · have hneg : -(n : Int) < 0 := by omega
      rw [signedUnits, if_pos rfl, nearestInt, decide_eq_true hneg, Int.natAbs_neg, Int.natAbs_natCast]

theorem isInteger_ofFraction (negative : Bool) {n : Nat} (hl : n.log2 ≤ 1022) :
    IsInteger (ofFraction negative n 1) (nearestInt (signedUnits negative n)) := by
  rw [nearestInt_signedUnits]
  exact ⟨negative, ofFraction_eq_finite negative hl⟩

/-- **A sum is rounded once.**  The number nearest to an integer and another number that is an integer add up
to the number nearest to the sum of their values; if they cancel, to the zero that is not negative. -/
theorem ofInt_add {t : Int} (hl : t.natAbs.log2 ≤ 1022) {y : Binary64} {n : Int} (hy : IsInteger y n) :
    (ofInt t).add y = ofInt (nearestInt t + n) := by
  obtain ⟨negative, units, exponent, rfl, hn⟩ := hy
  obtain ⟨significand, exponent', ht, hvalue⟩ := ofFraction_eq_finite (decide (t < 0)) hl
  have hunits (b : Bool) (k c : Nat) : signedUnits b (k * c) = signedUnits b k * c := by
    cases b with
    | true => simp [signedUnits]
    | false => simp [signedUnits]
  obtain ⟨e, he⟩ : ∃ e, e = min exponent' exponent := ⟨_, rfl⟩
  obtain ⟨total, htotal⟩ : ∃ total, total = signedUnits (decide (t < 0)) (significand * 2 ^ (exponent' - e).toNat) +
      signedUnits negative (units * 2 ^ (exponent - e).toNat) := ⟨_, rfl⟩
  have hadd : (ofInt t).add (.finite negative units exponent) =
      if total = 0 then zero (decide (t < 0) && negative) else ofUnits (decide (total < 0)) total.natAbs e := by
    rw [ofInt, ht, htotal, he]
    rfl
  have hamounts : Amounts total e (nearestInt t + n) := by
    rw [htotal, hunits, hunits]
    push_cast
    exact (hvalue.rescale (he ▸ min_le_left _ _)).add (hn.rescale (he ▸ min_le_right _ _))
  rw [hadd]
  by_cases hzero : total = 0
  · have hcancel : nearestInt t + n = 0 := hamounts.eq_zero_iff.1 hzero
    have hsigns : (decide (t < 0) && negative) = false := by
      cases negative with
      | false => exact Bool.and_false _
      | true =>
        have hnonneg : ¬ t < 0 := fun hneg => by
          have hvalue := nearestInt_neg hneg
          have hnonpos := hn.nonpos
          omega
        rw [decide_eq_false hnonneg]
        rfl
    rw [if_pos hzero, hcancel, hsigns]
    rfl
  · have hsign : decide (total < 0) = decide (nearestInt t + n < 0) := by
      rw [decide_eq_decide, hamounts.neg_iff]
    rw [if_neg hzero, ofUnits_eq hamounts.natAbs, hsign, ofInt]

end Binary64
end TemplateExpansion
