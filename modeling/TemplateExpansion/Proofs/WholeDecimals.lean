/-
# Whole numbers in digits

The shortest decimal of a floating-point number is found on the coarsest grid that has a decimal which rounds to
the number.  If the value is a natural number, the grid of the whole numbers is such a grid
(`RoundingRange.neighbour?_of_exact`).  So no finer one is chosen, and what is written has no point
(`exists_shortest`): it is the digits of a number of steps, with zeros behind (`plain_ofSteps`).

Up to `2 ^ 53` no other whole number rounds to the number, but for one that is no multiple of ten.  There the
digits are those of the value itself (`plain_shortest`).
-/
import Mathlib.Data.List.TakeWhile
import TemplateExpansion.Proofs.Numerals
import TemplateExpansion.Proofs.Rounding

namespace TemplateExpansion
namespace Decimal

open Binary64 (Amounts minNormal)

/-! ## 1. Ranges around whole numbers -/

namespace RoundingRange

variable {r : RoundingRange} {tie : Tie} {n : Nat}

/-- A whole grid only makes the denominator larger. -/
theorem scale_natCast (r : RoundingRange) (grid : Nat) :
    r.scale grid = { r with denominator := r.denominator * 10 ^ grid } := by
  have hzero : (-(grid : Int)).toNat = 0 := by omega
  simp only [scale, hzero, Int.toNat_natCast, Nat.pow_eq, Nat.pow_zero, Nat.mul_one]

theorem contains_of_between (hlow : r.low < n * r.denominator) (hhigh : n * r.denominator < r.high) :
    r.contains n = true := by
  simp only [contains]
  split
  · simp [Nat.le_of_lt hlow, Nat.le_of_lt hhigh]
  · simp [hlow, hhigh]

theorem between_of_contains (h : r.contains n = true) :
    r.low ≤ n * r.denominator ∧ n * r.denominator ≤ r.high := by
  simp only [contains] at h
  split at h
  · simpa using h
  · obtain ⟨hlow, hhigh⟩ : r.low < n * r.denominator ∧ n * r.denominator < r.high := by simpa using h
    exact ⟨Nat.le_of_lt hlow, Nat.le_of_lt hhigh⟩

/-- What is chosen lies in the range. -/
theorem contains_of_neighbour? (h : r.neighbour? tie = some n) : r.contains n = true := by
  unfold neighbour? at h
  extract_lets below above at h
  split at h
  · exact absurd h (by simp)
  · rename_i hbelow _
    exact Option.some.inj h ▸ hbelow
  · rename_i _ habove
    exact Option.some.inj h ▸ habove
  · rename_i hbelow habove
    split at h
    · exact Option.some.inj h ▸ hbelow
    · split at h
      · exact Option.some.inj h ▸ habove
      · rw [← Option.some.inj h]
        split
        · exact hbelow
        · exact habove

/-- **A value on the grid is its own neighbour.** -/
theorem neighbour?_of_exact (hvalue : r.value = n * r.denominator) (hd : 0 < r.denominator)
    (hlow : r.low < r.value) (hhigh : r.value < r.high) : r.neighbour? tie = some n := by
  have hdiv : r.value / r.denominator = n := by rw [hvalue, Nat.mul_div_cancel _ hd]
  have hcontains : r.contains n = true := contains_of_between (hvalue ▸ hlow) (hvalue ▸ hhigh)
  have hnear : 2 * r.value < (n + (n + 1)) * r.denominator := by
    have hsum : (n + (n + 1)) * r.denominator = 2 * r.value + r.denominator := by
      rw [hvalue]
      ring
    omega
  unfold neighbour?
  simp only [hdiv, hcontains]
  cases r.contains (n + 1) with
  | false => rfl
  | true => exact if_pos hnear

end RoundingRange

/-! ## 2. The range of a number that is whole -/

section

variable {significand : Nat} {exponent : Int} {n : Nat}

/-- A range strictly around a whole number, over a power of two. -/
structure Whole (r : RoundingRange) (n : Nat) : Prop where
  value_eq : r.value = n * r.denominator
  denominator_eq : ∃ k, r.denominator = 2 ^ k
  low_lt : r.low < r.value
  lt_high : r.value < r.high

theorem whole_ofFinite (h : Amounts significand exponent n) (hne : significand ≠ 0) :
    Whole (.ofFinite significand exponent) n where
  value_eq := by
    have hquarter := h.rescale (Int.sub_le_self exponent (by decide : (0 : Int) ≤ 2))
    have htwo : (exponent - (exponent - 2)).toNat = 2 := by omega
    have hneg : -(exponent - 2) = 2 - exponent := by omega
    rw [Amounts, htwo, hneg] at hquarter
    have hnat : significand * 2 ^ 2 * 2 ^ (exponent - 2).toNat = n * 2 ^ (2 - exponent).toNat := by
      exact_mod_cast hquarter
    show 4 * significand * Nat.pow 2 (exponent - 2).toNat = n * Nat.pow 2 (2 - exponent).toNat
    rw [Nat.pow_eq, Nat.pow_eq, ← hnat]
    ring
  denominator_eq := ⟨(2 - exponent).toNat, rfl⟩
  low_lt := by
    have hup : 0 < Nat.pow 2 (exponent - 2).toNat := Nat.pow_pos (by decide)
    refine Nat.mul_lt_mul_of_pos_right ?_ hup
    split <;> omega
  lt_high := by
    have hup : 0 < Nat.pow 2 (exponent - 2).toNat := Nat.pow_pos (by decide)
    exact Nat.mul_lt_mul_of_pos_right (by omega) hup

/-- If the last bit is worth at most two, the ends of the range are at most two units from its value. -/
theorem ofFinite_width (significand : Nat) (hle : exponent ≤ 1) :
    (RoundingRange.ofFinite significand exponent).value ≤ (RoundingRange.ofFinite significand exponent).low + 2 ∧
      (RoundingRange.ofFinite significand exponent).high ≤
        (RoundingRange.ofFinite significand exponent).value + 2 := by
  have hup : Nat.pow 2 (exponent - 2).toNat = 1 := by
    have hzero : (exponent - 2).toNat = 0 := by omega
    rw [hzero]
  simp only [RoundingRange.ofFinite, hup]
  split <;> omega

end

namespace Whole

variable {r : RoundingRange} {n : Nat} (h : Whole r n)

include h

theorem denominator_pos : 0 < r.denominator := by
  obtain ⟨k, hk⟩ := h.denominator_eq
  rw [hk]
  exact Nat.two_pow_pos k

/-- On the grid of the whole numbers it is the value that is chosen. -/
theorem neighbour?_zero (tie : Tie) : (r.scale 0).neighbour? tie = some n := by
  have hscale : r.scale 0 = r := by
    have hgrid := r.scale_natCast 0
    rw [Nat.pow_zero, Nat.mul_one] at hgrid
    exact hgrid
  rw [hscale]
  exact RoundingRange.neighbour?_of_exact h.value_eq h.denominator_pos h.low_lt h.lt_high

/-- The guess of the magnitude only looks at the number of bits. -/
theorem guess_eq (hn : n ≠ 0) :
    Int.fdiv (((r.value.log2 : Int) - r.denominator.log2) * 30103) 100000 = (n.log2 * 30103 / 100000 : Nat) := by
  obtain ⟨k, hk⟩ := h.denominator_eq
  have hlog : (r.value.log2 : Int) - r.denominator.log2 = n.log2 := by
    rw [h.value_eq, hk, Binary64.log2_mul_pow hn, Nat.log2_two_pow]
    omega
  rw [hlog, Int.fdiv_eq_ediv_of_nonneg _ (by decide)]
  omega

/-- **A whole number has digits before its point**, and up to `2 ^ 53` no more than 17 of them are looked for. -/
theorem magnitude_bounds (hn : n ≠ 0) : 1 ≤ r.magnitude ∧ (n ≤ 2 ^ 53 → r.magnitude ≤ 17) := by
  have hbelow : r.isBelow 0 = false := by
    have hle : r.denominator ≤ r.value := by
      rw [h.value_eq]
      exact Nat.le_mul_of_pos_left _ (Nat.pos_of_ne_zero hn)
    simp only [RoundingRange.isBelow, RoundingRange.scale]
    simpa using hle
  have hlog : n ≤ 2 ^ 53 → n.log2 ≤ 53 := fun hle =>
    Nat.le_of_lt_succ ((Nat.log2_lt hn).2 (Nat.lt_of_le_of_lt hle (by decide)))
  unfold RoundingRange.magnitude
  extract_lets guess
  have hguess : guess = (n.log2 * 30103 / 100000 : Nat) := h.guess_eq hn
  have hhigh : n ≤ 2 ^ 53 → guess ≤ 15 := by
    intro hle
    have hbits := hlog hle
    omega
  split
  · rename_i hg
    have hne : guess ≠ 0 := by
      intro hzero
      rw [hzero, hbelow] at hg
      exact absurd hg (by decide)
    exact ⟨by omega, fun hle => by have := hhigh hle; omega⟩
  · split
    · exact ⟨by omega, fun hle => by have := hhigh hle; omega⟩
    · exact ⟨by omega, fun hle => by have := hhigh hle; omega⟩

end Whole

/-! ## 3. The grid that is found -/

/-- A search in a range that succeeds at an index succeeds there or before. -/
theorem exists_findSome?_range {α : Type} {f : Nat → Option α} {k : Nat} {a : α} (ha : f k = some a) :
    ∀ {n : Nat}, k < n → ∃ j ≤ k, ∃ b, f j = some b ∧ (List.range n).findSome? f = some b := by
  intro n
  induction n with
  | zero => exact fun hk => absurd hk (Nat.not_lt_zero k)
  | succ n ih =>
    intro hk
    rw [List.range_succ, List.findSome?_append]
    rcases Nat.lt_or_ge k n with hlt | hge
    · obtain ⟨j, hj, b, hb, hfound⟩ := ih hlt
      exact ⟨j, hj, b, hb, by rw [hfound]; rfl⟩
    · obtain rfl : k = n := Nat.le_antisymm (Nat.le_of_lt_succ hk) hge
      cases hfound : (List.range k).findSome? f with
      | none => exact ⟨k, Nat.le_refl k, a, ha, by simp [ha]⟩
      | some b =>
        obtain ⟨j, hj, hb⟩ := List.exists_of_findSome?_eq_some hfound
        exact ⟨j, Nat.le_of_lt (List.mem_range.1 hj), b, hb, rfl⟩

/-- What the grid with one digit more than `count` yields. -/
def RoundingRange.attempt (tie : Tie) (r : RoundingRange) (count : Nat) : Option Decimal :=
  ((r.scale (r.magnitude - (count + 1 : Nat))).neighbour? tie).map
    (ofSteps · (r.magnitude - (count + 1 : Nat)))

theorem shortest_eq (tie : Tie) (significand : Nat) (exponent : Int) {r : RoundingRange}
    (hr : r = .ofFinite significand exponent) :
    shortest tie significand exponent = ((List.range 17).findSome? (r.attempt tie)).getD
      (ofSteps ((r.scale (r.magnitude - 17)).value / (r.scale (r.magnitude - 17)).denominator)
        (r.magnitude - 17)) := by
  rw [shortest, ← hr]
  rfl

section

variable {r : RoundingRange} {tie : Tie}

/-- Up to the grid of the whole numbers, what is found is a number of whole steps in the range. -/
theorem exists_steps_of_attempt {count : Nat} {d : Decimal} (hd : r.attempt tie count = some d)
    (hcount : ((count + 1 : Nat) : Int) ≤ r.magnitude) :
    ∃ steps grid : Nat, d = ofSteps steps grid ∧ (r.scale grid).neighbour? tie = some steps := by
  obtain ⟨grid, hgrid⟩ := Int.eq_ofNat_of_zero_le (Int.sub_nonneg.2 hcount)
  rw [RoundingRange.attempt, hgrid] at hd
  obtain ⟨steps, hsteps, rfl⟩ := Option.map_eq_some_iff.1 hd
  exact ⟨steps, grid, rfl, hsteps⟩

/-- The grid of the whole numbers yields the value. -/
theorem Whole.attempt_eq {n : Nat} (h : Whole r n) {count : Nat}
    (hcount : ((count + 1 : Nat) : Int) = r.magnitude) : r.attempt tie count = some (ofSteps n 0) := by
  rw [RoundingRange.attempt, hcount, Int.sub_self, h.neighbour?_zero tie]
  rfl

end

/-- **No finer grid than that of the whole numbers is chosen.**  What is written is a number of steps; where the
whole numbers are among the grids that are tried, the steps are in the range. -/
theorem exists_shortest {significand : Nat} {exponent : Int} {n : Nat} (h : Amounts significand exponent n)
    (hne : significand ≠ 0) (hn : n ≠ 0) (tie : Tie) :
    ∃ steps grid : Nat, shortest tie significand exponent = ofSteps steps grid ∧
      (n ≤ 2 ^ 53 →
        ((RoundingRange.ofFinite significand exponent).scale grid).neighbour? tie = some steps) := by
  obtain ⟨r, hr⟩ : ∃ r, r = RoundingRange.ofFinite significand exponent := ⟨_, rfl⟩
  have hw : Whole r n := hr ▸ whole_ofFinite h hne
  obtain ⟨hlow, hhigh⟩ := hw.magnitude_bounds hn
  rw [shortest_eq tie significand exponent hr, ← hr]
  rcases lt_or_ge (17 : Int) r.magnitude with hmany | hfew
  · -- no grid that is tried is finer than the whole numbers, and neither is the last resort
    cases hfound : (List.range 17).findSome? (r.attempt tie) with
    | none =>
      obtain ⟨grid, hgrid⟩ := Int.eq_ofNat_of_zero_le (Int.sub_nonneg.2 (Int.le_of_lt hmany))
      rw [hgrid]
      exact ⟨_, grid, rfl, fun hle => absurd (hhigh hle) (Int.not_le.2 hmany)⟩
    | some d =>
      obtain ⟨count, hcount, hd⟩ := List.exists_of_findSome?_eq_some hfound
      have hlt := List.mem_range.1 hcount
      obtain ⟨steps, grid, hsteps, hneighbour⟩ := exists_steps_of_attempt hd (by omega)
      exact ⟨steps, grid, hsteps, fun _ => hneighbour⟩
  · -- the search succeeds at the grid of the whole numbers or before
    obtain ⟨k, hk⟩ := Int.eq_ofNat_of_zero_le (Int.sub_nonneg.2 hlow)
    have hexact : r.attempt tie k = some (ofSteps n 0) := hw.attempt_eq (by omega)
    obtain ⟨count, hcount, d, hd, hfound⟩ := exists_findSome?_range hexact (by omega : k < 17)
    obtain ⟨steps, grid, hsteps, hneighbour⟩ := exists_steps_of_attempt hd (by omega)
    rw [hfound]
    exact ⟨steps, grid, hsteps, fun _ => hneighbour⟩

/-! ## 4. The digits that are written -/

/-- What is cut off at the end of digits is zeros. -/
theorem exists_strip_zeros (t : Text) : ∃ k, t = (t.reverse.dropWhile (· == '0')).reverse ++ zeros k := by
  have hzeros : ∀ c ∈ t.reverse.takeWhile (· == '0'), c = '0' := by
    intro c hc
    simpa using List.mem_takeWhile_imp hc
  refine ⟨(t.reverse.takeWhile (· == '0')).length, ?_⟩
  rw [zeros, ← List.reverse_replicate, ← List.eq_replicate_of_mem hzeros, ← List.reverse_append,
    List.takeWhile_append_dropWhile, List.reverse_reverse]

/-- **A number of whole steps** is written as its digits with zeros behind. -/
theorem plain_ofSteps (steps grid : Nat) : (ofSteps steps grid).plain = ofNat steps ++ zeros grid := by
  obtain ⟨k, hk⟩ := exists_strip_zeros (ofNat steps)
  obtain ⟨digits, hdigits⟩ : ∃ digits, digits = ((ofNat steps).reverse.dropWhile (· == '0')).reverse := ⟨_, rfl⟩
  rw [← hdigits] at hk
  have hlength : (ofNat steps).length = digits.length + k := by
    rw [hk, List.length_append, zeros, List.length_replicate]
  have hpos : 0 < (ofNat steps).length := List.length_pos_iff.2 (ofNat_ne_nil steps)
  have hsteps : ofSteps steps grid = ⟨digits, grid + (ofNat steps).length⟩ := by rw [ofSteps, hdigits]
  have hpoint : ¬ ((grid : Int) + (ofNat steps).length ≤ 0) := by omega
  have htoNat : ((grid : Int) + (ofNat steps).length).toNat = digits.length + (k + grid) := by omega
  have hfraction : (ofSteps steps grid).fractionPart = [] := by
    rw [hsteps, fractionPart, if_neg hpoint]
    simp only [htoNat]
    exact List.drop_of_length_le (Nat.le_add_right _ _)
  have hwhole : (ofSteps steps grid).wholePart = digits ++ zeros (k + grid) := by
    rw [hsteps, wholePart, if_neg hpoint]
    simp only [htoNat]
    rw [List.take_of_length_le (Nat.le_add_right _ _), Nat.add_sub_cancel_left]
  have hplain : (ofSteps steps grid).plain = digits ++ zeros (k + grid) := by
    rw [plain, hfraction, ← hwhole]
    rfl
  rw [hplain, hk, zeros, zeros, zeros, List.append_assoc, List.replicate_append_replicate]

/-- Multiples of a denominator above two that are at most two apart are the same. -/
theorem eq_of_mul_near {k n d : Nat} (hd : 2 < d) (hfrom : n * d ≤ k * d + 2) (hto : k * d ≤ n * d + 2) :
    k = n := by
  rcases Nat.lt_trichotomy k n with hlt | heq | hgt
  · have hmul := Nat.mul_le_mul_right d (Nat.succ_le_of_lt hlt)
    rw [Nat.succ_mul] at hmul
    omega
  · exact heq
  · have hmul := Nat.mul_le_mul_right d (Nat.succ_le_of_lt hgt)
    rw [Nat.succ_mul] at hmul
    omega

section

variable {significand : Nat} {exponent : Int} {n : Nat} (h : Amounts significand exponent n)

include h

/-- Up to `2 ^ 53` the last bit is worth at most one, but at `2 ^ 53` itself. -/
theorem exponent_bounds (hlow : minNormal ≤ significand) (hle : n ≤ 2 ^ 53) :
    exponent ≤ 0 ∨ exponent = 1 ∧ n = 2 ^ 53 := by
  have hnormal : minNormal = 2 ^ 52 := rfl
  rcases lt_or_ge 0 exponent with hpos | hnonpos
  · obtain ⟨k, rfl⟩ := Int.eq_ofNat_of_zero_le (Int.le_of_lt hpos)
    have hzero : (-(k : Int)).toNat = 0 := by omega
    have hvalue : significand * 2 ^ k = n := by
      rw [Amounts, hzero, Int.toNat_natCast, pow_zero, mul_one] at h
      exact_mod_cast h
    obtain ⟨j, rfl⟩ : ∃ j, k = j + 1 := Nat.exists_eq_succ_of_ne_zero (by omega)
    have hpow : 0 < 2 ^ j := Nat.two_pow_pos j
    have htwice : significand * 2 ^ j * 2 = n := by rw [← hvalue, Nat.pow_succ, Nat.mul_assoc]
    cases j with
    | zero =>
      rw [Nat.pow_zero] at htwice
      exact .inr ⟨rfl, by omega⟩
    | succ j =>
      have hmul : significand * 2 ≤ significand * 2 ^ (j + 1) :=
        Nat.mul_le_mul_left _ (Nat.pow_le_pow_right Nat.two_pos (by omega : 1 ≤ j + 1))
      omega
  · exact .inl hnonpos

/-- **Up to `2 ^ 53` the steps that are chosen make up the value.**  Whole numbers are at most as far apart there
as the numbers around the value; at `2 ^ 53` the whole numbers next to it may be in the range, but those are no
multiples of ten. -/
theorem steps_mul_pow_eq (hlow : minNormal ≤ significand) (hle : n ≤ 2 ^ 53) {tie : Tie} {steps grid : Nat}
    (hsteps : ((RoundingRange.ofFinite significand exponent).scale grid).neighbour? tie = some steps) :
    steps * 10 ^ grid = n := by
  have hne : significand ≠ 0 := Nat.ne_of_gt (Nat.lt_of_lt_of_le (by decide) hlow)
  have hw : Whole (.ofFinite significand exponent) n := whole_ofFinite h hne
  cases grid with
  | zero =>
    have hzero := hw.neighbour?_zero tie
    rw [Nat.pow_zero, Nat.mul_one]
    exact Option.some.inj (hsteps.symm.trans hzero)
  | succ grid =>
    obtain ⟨k, hk⟩ : ∃ k, k = steps * 10 ^ grid := ⟨_, rfl⟩
    obtain ⟨d, hd⟩ : ∃ d, d = (RoundingRange.ofFinite significand exponent).denominator := ⟨_, rfl⟩
    have hpow : steps * 10 ^ (grid + 1) = k * 10 := by rw [hk, Nat.pow_succ, Nat.mul_assoc]
    have hcount : steps * (d * 10 ^ (grid + 1)) = k * 10 * d := by
      rw [← hpow]
      ring
    rw [RoundingRange.scale_natCast, ← hd] at hsteps
    obtain ⟨hfrom, hto⟩ := RoundingRange.between_of_contains (RoundingRange.contains_of_neighbour? hsteps)
    simp only [hcount] at hfrom hto
    have hvalue := hw.value_eq
    rw [← hd] at hvalue
    have hexponent := exponent_bounds h hlow hle
    obtain ⟨hleft, hright⟩ := ofFinite_width significand (by omega : exponent ≤ 1)
    rw [hpow]
    rcases hexponent with hnonpos | ⟨rfl, rfl⟩
    · have hfour : 4 ≤ d := by
        have hbits : 2 ≤ (2 - exponent).toNat := by omega
        rw [hd]
        exact Nat.pow_le_pow_right Nat.two_pos hbits
      have hbelow : n * d ≤ k * 10 * d + 2 := by omega
      have habove : k * 10 * d ≤ n * d + 2 := by omega
      exact eq_of_mul_near (by omega : 2 < d) hbelow habove
    · have htwo : d = 2 := by rw [hd]; rfl
      rw [htwo] at hfrom hto hvalue
      omega

/-- **The number is written without a point**: as digits, and up to `2 ^ 53` as those of its value. -/
theorem plain_shortest (hlow : minNormal ≤ significand) (hn : n ≠ 0) (tie : Tie) :
    ∃ steps grid : Nat, (shortest tie significand exponent).plain = ofNat steps ++ zeros grid ∧
      (n ≤ 2 ^ 53 → (shortest tie significand exponent).plain = ofNat n) := by
  have hne : significand ≠ 0 := Nat.ne_of_gt (Nat.lt_of_lt_of_le (by decide) hlow)
  obtain ⟨steps, grid, hshortest, hneighbour⟩ := exists_shortest h hne hn tie
  refine ⟨steps, grid, by rw [hshortest, plain_ofSteps], fun hle => ?_⟩
  have hvalue := steps_mul_pow_eq h hlow hle (hneighbour hle)
  have hpos : 0 < steps := Nat.pos_of_ne_zero fun hzero => hn (by rw [← hvalue, hzero, Nat.zero_mul])
  rw [hshortest, plain_ofSteps, ← ofNat_mul_pow hpos, hvalue]

end

end Decimal
end TemplateExpansion
