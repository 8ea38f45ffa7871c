/-
# Repetition within its limits

`repeat` multiplies the size of a text by a count before it writes anything.  A product beyond 64 bits is
beyond every limit of 64 bits, so what the operation does is what exact integers say
(`Operation.repeatWithin_of_negative` and the lemmas after it): it asks for the text exactly if neither limit
is passed, and otherwise it gives one cause, the first one that holds.

A limit of 64 bits on the size may allow more than a text can have.  Between the two `repeat` is aborted
(`Operation.aborts_replicate_iff`), and nothing else among the built-in operations ever is: no run is aborted
under a limit that a text can reach (`expand?_builtins`).

The requirement of `repeat` and the operation itself read the count the same way.  So an operation that is run
never finds out that its count is no integer (`repeatText_ne_notInteger`).
-/
import TemplateExpansion.Proofs.OnePass

namespace TemplateExpansion

open Text

namespace Operation

variable {maxCount maxBytes : Nat}

/-! ## 1. The limits -/

section

variable {unit : Text} {count : Int}

/-- The cause that comes first: a negative count. -/
theorem repeatWithin_of_negative (h : count < 0) :
    repeatWithin maxCount maxBytes unit count = .error (.negative count) := if_pos h

/-- The cause that comes second: a count beyond its limit. -/
theorem repeatWithin_of_count (hnonneg : 0 ≤ count) (h : maxCount < count) :
    repeatWithin maxCount maxBytes unit count = .error (.countLimit count.toNat maxCount) := by
  have hneg : ¬ count < 0 := by omega
  have hmax : maxCount < count.toNat := by omega
  rw [repeatWithin, if_neg hneg, if_pos hmax]

/-- The cause that comes last: a size beyond its limit, whether or not it is beyond 64 bits too. -/
theorem repeatWithin_of_size (hnonneg : 0 ≤ count) (hcount : count ≤ maxCount)
    (h : maxBytes < unit.byteSize * count.toNat) :
    repeatWithin maxCount maxBytes unit count = .error (.sizeLimit maxBytes) := by
  have hneg : ¬ count < 0 := by omega
  have hmax : ¬ maxCount < count.toNat := by omega
  rw [repeatWithin, if_neg hneg, if_neg hmax]
  split
  · rfl
  · rename_i size hsize
    obtain ⟨-, rfl⟩ := checkedMul_eq_some_iff.1 hsize
    exact if_neg (Nat.not_le.2 h)

/-- A product that 64 bits cannot hold is beyond every limit of 64 bits. -/
theorem lt_mul_of_checkedMul_eq_none (hbytes : maxBytes ≤ Decimal.maxUnsigned) {size n : Nat}
    (h : checkedMul size n = none) : maxBytes < size * n := by
  refine Nat.lt_of_not_le fun hle => ?_
  have hsome := checkedMul_eq_some_iff.2 ⟨Nat.le_trans hle hbytes, rfl⟩
  exact absurd (h.symm.trans hsome) (by simp)

/-- **Within the limits** the text is asked for, since a limit of 64 bits excludes a larger size. -/
theorem repeatWithin_of_limits (hbytes : maxBytes ≤ Decimal.maxUnsigned) (hnonneg : 0 ≤ count)
    (hcount : count ≤ maxCount) (h : unit.byteSize * count.toNat ≤ maxBytes) :
    repeatWithin maxCount maxBytes unit count = .ok (replicateText? unit count.toNat) :=
  repeatWithin_eq_ok_iff.2 ⟨⟨hnonneg, hcount, Nat.le_trans h hbytes, h⟩, rfl⟩

/-- It is had, if a text can be so large. -/
theorem repeatWithin_of_fits (hbytes : maxBytes ≤ Decimal.maxUnsigned) (hnonneg : 0 ≤ count)
    (hcount : count ≤ maxCount) (h : unit.byteSize * count.toNat ≤ maxBytes)
    (hfits : unit.byteSize * count.toNat ≤ Text.maxByteSize) :
    repeatWithin maxCount maxBytes unit count = .ok (some (List.replicate count.toNat unit).flatten) := by
  rw [repeatWithin_of_limits hbytes hnonneg hcount h, replicateText?_eq_some hfits, replicateText_eq]

/-- A text that is had is the repeated one, and its size is within both bounds. -/
theorem of_repeatWithin_eq_some {t : Text} (h : repeatWithin maxCount maxBytes unit count = .ok (some t)) :
    (0 ≤ count ∧ count ≤ maxCount ∧ unit.byteSize * count.toNat ≤ maxBytes) ∧
      unit.byteSize * count.toNat ≤ Text.maxByteSize ∧ t = replicateText unit count.toNat := by
  obtain ⟨⟨hnonneg, hcount, -, hsize⟩, ht⟩ := repeatWithin_eq_ok_iff.1 h
  obtain ⟨hfits, ht⟩ := Option.ite_none_right_eq_some.1 ht.symm
  exact ⟨⟨hnonneg, hcount, hsize⟩, hfits, (Option.some.inj ht).symm⟩

/-- A text that is asked for and not had is within the limits and too large. -/
theorem of_repeatWithin_eq_none (h : repeatWithin maxCount maxBytes unit count = .ok none) :
    (0 ≤ count ∧ count ≤ maxCount ∧ unit.byteSize * count.toNat ≤ maxBytes) ∧
      Text.maxByteSize < unit.byteSize * count.toNat := by
  obtain ⟨⟨hnonneg, hcount, -, hsize⟩, ht⟩ := repeatWithin_eq_ok_iff.1 h
  refine ⟨⟨hnonneg, hcount, hsize⟩, Nat.lt_of_not_le fun hfits => ?_⟩
  rw [replicateText?_eq_some hfits] at ht
  exact absurd ht (by simp)

end

/-! ## 2. One reading of the count -/

section

variable (maxCount maxBytes)

/-- **An operation that is run** never finds out that its count is no integer. -/
theorem repeatText_ne_notInteger (unit : Text) {numeral : Text} (h : numeral.isInteger = true)
    (cause : Decimal.IntegerError) :
    repeatText maxCount maxBytes unit numeral ≠ .error (.notInteger cause) := by
  unfold repeatText repeatWithin
  unfold isInteger at h
  cases hread : Decimal.signed numeral.trim with
  | error _ =>
    rw [hread] at h
    exact absurd h Bool.false_ne_true
  | ok count =>
    simp only
    split
    · simp
    · split
      · simp
      · split
        · simp
        · split <;> simp

/-- It yields the text, or nothing and one cause. -/
theorem run_replicate (e : Expression) (ctx : Context) :
    (replicate maxCount maxBytes).run e ctx =
      match repeatText maxCount maxBytes (e.operand 0) (e.operand 1) with
      | .ok t? => (t?.getD [], ctx)
      | .error cause => ([], ctx.report (Builtin.opcode .replicate) cause.message) := by
  simp only [run, replicate]
  cases repeatText maxCount maxBytes (e.operand 0) (e.operand 1) <;> rfl

/-- **It is aborted** exactly if it asks for a text and there is none. -/
theorem aborts_replicate_iff (e : Expression) (ctx : Context) :
    (replicate maxCount maxBytes).aborts e ctx = true ↔
      repeatText maxCount maxBytes (e.operand 0) (e.operand 1) = .ok none := by
  simp only [replicate, isOverflow]
  split <;> simp_all

/-- Its requirement is about the count. -/
theorem firstFailure_replicate (e : Expression) (ctx : Context) :
    (replicate maxCount maxBytes).firstFailure e ctx =
      if (e.operand 1).isInteger then none
      else some ⟨"repeat count is not a valid number".toList, fun e _ => (e.operand 1).isInteger⟩ := by
  simp only [firstFailure, replicate, List.find?_cons, List.find?_nil]
  cases (e.operand 1).isInteger <;> rfl

variable {maxBytes}

/-- Under a limit that a text can reach it is never aborted. -/
theorem aborts_replicate_eq_false (h : maxBytes ≤ Text.maxByteSize) (e : Expression) (ctx : Context) :
    (replicate maxCount maxBytes).aborts e ctx = false := by
  refine Bool.eq_false_iff.2 fun haborts => ?_
  have hnone := (aborts_replicate_iff maxCount maxBytes e ctx).1 haborts
  unfold repeatText at hnone
  split at hnone
  · cases hnone
  · obtain ⟨⟨-, -, hsize⟩, hlarge⟩ := of_repeatWithin_eq_none hnone
    omega

end

end Operation

/-- **Among the built-in operations** only `repeat` is ever aborted. -/
theorem Registry.aborts_builtins {settings : Settings} {fetch? : Option Fetcher} {op : Operation}
    (hop : op ∈ (builtins settings fetch?).operations) :
    op = .replicate settings.maxRepeat settings.maxRepeatBytes ∨ ∀ e ctx, op.aborts e ctx = false := by
  obtain ⟨b, hb⟩ := Operation.mem_builtins.1 (mem_ofList hop)
  cases b with
  | replicate => exact .inl (Option.some.inj hb).symm
  | text =>
    obtain ⟨fetch, -, rfl⟩ := Option.map_eq_some_iff.1 hb
    exact .inr fun _ _ => rfl
  | _ =>
    obtain rfl := Option.some.inj hb
    exact .inr fun _ _ => rfl

/-- An expression of another operation is not aborted. -/
theorem Registry.aborts_builtins_eq_false (settings : Settings) (fetch? : Option Fetcher) {e : Expression}
    (he : e.opcode ≠ Builtin.opcode .replicate) (ctx : Context) :
    (builtins settings fetch?).aborts e ctx = false := by
  unfold aborts
  split
  · rfl
  · rename_i op hop
    obtain ⟨hmem, hname⟩ := get?_eq_some_iff.1 hop
    rcases aborts_builtins hmem with rfl | h
    · exact absurd hname.symm he
    · rw [h, Bool.and_false]

/-- No operation is aborted under a limit that a text can reach. -/
theorem Registry.neverAborts_builtins {settings : Settings} (h : settings.maxRepeatBytes ≤ Text.maxByteSize)
    (fetch? : Option Fetcher) : (builtins settings fetch?).NeverAborts := by
  intro op hop e ctx
  rcases aborts_builtins hop with rfl | hnever
  · exact Operation.aborts_replicate_eq_false settings.maxRepeat h e ctx
  · exact hnever e ctx

/-- **Under such a limit every expansion by the built-in operations has a result**, the one that `expand`
tells. -/
theorem expand?_builtins {settings : Settings} (h : settings.maxRepeatBytes ≤ Text.maxByteSize)
    (fetch? : Option Fetcher) (limit : Nat) (args : List Text) (input : Text) :
    expand? (.builtins settings fetch?) limit args input =
      some (expand (.builtins settings fetch?) limit args input) :=
  expand?_of_neverAborts (Registry.neverAborts_builtins h fetch?) limit args input

/-! ## 3. The operation -/

/-- A product with an integer that is not negative, as a product of natural numbers. -/
theorem natCast_mul_le_iff {size bound : Nat} {n : Int} (hnonneg : 0 ≤ n) :
    (size : Int) * n ≤ bound ↔ size * n.toNat ≤ bound := by
  obtain ⟨m, rfl⟩ := Int.eq_ofNat_of_zero_le hnonneg
  rw [Int.toNat_natCast]
  exact_mod_cast Iff.rfl

theorem natCast_lt_mul_iff {size bound : Nat} {n : Int} (hnonneg : 0 ≤ n) :
    (bound : Int) < size * n ↔ bound < size * n.toNat := by
  rw [← Int.not_le, natCast_mul_le_iff hnonneg, Nat.not_le]

/-- What a repetition comes to that is not made: nothing, and its cause in the log. -/
def RepetitionError.evaluation (ctx : Context) (cause : RepetitionError) : Evaluation :=
  ⟨[], ctx.report (Builtin.opcode .replicate) cause.message, .executed⟩

section

variable {registry : Registry} {maxCount maxBytes : Nat}
  (hop : registry.get? (Builtin.opcode .replicate) = some (.replicate maxCount maxBytes))
  {e : Expression} (he : e.opcode = Builtin.opcode .replicate) (ctx : Context)

include hop he

/-- With a count that is an integer, the operation is run. -/
theorem evaluate?_of_signed {n : Int} (hn : Decimal.signed (e.operand 1).trim = .ok n) :
    evaluate? registry e ctx =
      match Operation.repeatWithin maxCount maxBytes (e.operand 0) n with
      | .ok t? => t?.map (⟨·, ctx, .executed⟩)
      | .error cause => some (cause.evaluation ctx) := by
  have hinteger : (e.operand 1).isInteger = true := congrArg Except.isOk hn
  have hnone : (Operation.replicate maxCount maxBytes).firstFailure e ctx = none := by
    rw [Operation.firstFailure_replicate, if_pos hinteger]
  have haborts : registry.aborts e ctx = (Operation.replicate maxCount maxBytes).aborts e ctx := by
    rw [Registry.aborts, he, hop]
    simp only [hnone, Option.isNone_none, Bool.true_and]
  rw [evaluate?, haborts, evaluate_of_firstFailure_eq_none (he ▸ hop) hnone, Operation.run_replicate]
  simp only [Operation.replicate, Operation.repeatText, hn]
  cases Operation.repeatWithin maxCount maxBytes (e.operand 0) n with
  | error cause => rfl
  | ok t? => cases t? <;> rfl

/-- Otherwise it is rejected. -/
theorem evaluate?_of_not_signed {cause : Decimal.IntegerError}
    (hn : Decimal.signed (e.operand 1).trim = .error cause) :
    evaluate? registry e ctx =
      some ⟨e.source, ctx.reject e.source e.opcode "repeat count is not a valid number".toList,
        .rejected "repeat count is not a valid number".toList⟩ := by
  have hinteger : (e.operand 1).isInteger = false := congrArg Except.isOk hn
  rw [evaluate?, Registry.aborts, evaluate, he, hop]
  simp only [Operation.firstFailure_replicate, hinteger]
  rfl

variable {n : Int} (hn : Decimal.signed (e.operand 1).trim = .ok n)

include hn

/-- A cause is logged, and nothing comes back. -/
theorem evaluate?_of_repeatWithin_eq_error {cause : RepetitionError}
    (h : Operation.repeatWithin maxCount maxBytes (e.operand 0) n = .error cause) :
    evaluate? registry e ctx = some (cause.evaluation ctx) := by
  rw [evaluate?_of_signed hop he ctx hn, h]

/-- Within the limits the text comes back, if a text can be so large. -/
theorem evaluate?_of_fits (hbytes : maxBytes ≤ Decimal.maxUnsigned) (hnonneg : 0 ≤ n) (hcount : n ≤ maxCount)
    (hsize : (e.operand 0).byteSize * n ≤ maxBytes) (hfits : (e.operand 0).byteSize * n ≤ Text.maxByteSize) :
    evaluate? registry e ctx = some ⟨(List.replicate n.toNat (e.operand 0)).flatten, ctx, .executed⟩ := by
  rw [natCast_mul_le_iff hnonneg] at hsize hfits
  rw [evaluate?_of_signed hop he ctx hn, Operation.repeatWithin_of_fits hbytes hnonneg hcount hsize hfits]
  rfl

/-- Within the limits the operation is aborted, if no text can be so large. -/
theorem evaluate?_of_overflow (hbytes : maxBytes ≤ Decimal.maxUnsigned) (hnonneg : 0 ≤ n) (hcount : n ≤ maxCount)
    (hsize : (e.operand 0).byteSize * n ≤ maxBytes) (hlarge : Text.maxByteSize < (e.operand 0).byteSize * n) :
    evaluate? registry e ctx = none := by
  rw [natCast_mul_le_iff hnonneg] at hsize
  rw [natCast_lt_mul_iff hnonneg] at hlarge
  rw [evaluate?_of_signed hop he ctx hn, Operation.repeatWithin_of_limits hbytes hnonneg hcount hsize,
    Operation.replicateText?_eq_none hlarge]
  rfl

/-- An evaluation has made the text within the limits, or else it has logged one cause. -/
theorem of_evaluate?_eq_some {r : Evaluation} (h : evaluate? registry e ctx = some r) :
    ((0 ≤ n ∧ n ≤ maxCount ∧ (e.operand 0).byteSize * n ≤ maxBytes) ∧
        (e.operand 0).byteSize * n ≤ Text.maxByteSize ∧
        r = ⟨Operation.replicateText (e.operand 0) n.toNat, ctx, .executed⟩) ∨
      ∃ cause : RepetitionError, r = cause.evaluation ctx := by
  rw [evaluate?_of_signed hop he ctx hn] at h
  cases hw : Operation.repeatWithin maxCount maxBytes (e.operand 0) n with
  | error cause =>
    rw [hw] at h
    exact .inr ⟨cause, (Option.some.inj h).symm⟩
  | ok t? =>
    rw [hw] at h
    obtain ⟨t, rfl, rfl⟩ := Option.map_eq_some_iff.1 h
    obtain ⟨⟨hnonneg, hcount, hsize⟩, hfits, rfl⟩ := Operation.of_repeatWithin_eq_some hw
    rw [← natCast_mul_le_iff hnonneg] at hsize hfits
    exact .inl ⟨⟨hnonneg, hcount, hsize⟩, hfits, rfl⟩

/-- An operation that is aborted was within the limits, and no text can be so large. -/
theorem of_evaluate?_eq_none (h : evaluate? registry e ctx = none) :
    (0 ≤ n ∧ n ≤ maxCount ∧ (e.operand 0).byteSize * n ≤ maxBytes) ∧
      Text.maxByteSize < (e.operand 0).byteSize * n := by
  rw [evaluate?_of_signed hop he ctx hn] at h
  cases hw : Operation.repeatWithin maxCount maxBytes (e.operand 0) n with
  | error cause =>
    rw [hw] at h
    exact absurd h (by simp)
  | ok t? =>
    rw [hw] at h
    obtain rfl := Option.map_eq_none_iff.1 h
    obtain ⟨⟨hnonneg, hcount, hsize⟩, hlarge⟩ := Operation.of_repeatWithin_eq_none hw
    exact ⟨⟨hnonneg, hcount, (natCast_mul_le_iff hnonneg).2 hsize⟩, (natCast_lt_mul_iff hnonneg).2 hlarge⟩

end

/-- **Repetition is bounded, and total up to the size of a text.**  Let `repeat` be registered with a limit on the
count and a limit of 64 bits on the bytes of the outcome, and let the second operand, blanks around it aside, be an
integer.

* The first operand comes back as often as the integer says, and nothing is logged, exactly if neither limit is
  passed, where the size of the outcome is an exact product, and a text can be so large.
* Nothing at all comes back exactly if neither limit is passed and no text can be so large: then the operation is
  aborted.
* Otherwise the empty text comes back, and one entry is logged: for a negative count, for a count beyond its limit,
  or for a size beyond its limit, in this order.
* What comes back is never longer than its limit, the product that is computed is the exact one unless that is
  beyond the limit, and the count is never found to be no integer after all.

If the second operand is no integer, the expression comes back as it is written and is rejected once. -/
theorem evaluate_repetition {registry : Registry} {maxCount maxBytes : Nat}
    (hop : registry.get? (Builtin.opcode .replicate) = some (.replicate maxCount maxBytes))
    (hbytes : maxBytes ≤ Decimal.maxUnsigned) {e : Expression} (he : e.opcode = Builtin.opcode .replicate)
    (ctx : Context) :
    let unit := e.operand 0
    let r? := evaluate? registry e ctx
    (∀ n, Decimal.signed (e.operand 1).trim = .ok n →
        ((∃ r ∈ r?, r.text = (List.replicate n.toNat unit).flatten ∧ r.context.errors = ctx.errors) ↔
            (0 ≤ n ∧ n ≤ maxCount ∧ unit.byteSize * n ≤ maxBytes) ∧ unit.byteSize * n ≤ Text.maxByteSize) ∧
          ((0 ≤ n ∧ n ≤ maxCount ∧ unit.byteSize * n ≤ maxBytes) ∧ unit.byteSize * n ≤ Text.maxByteSize →
            r? = some ⟨(List.replicate n.toNat unit).flatten, ctx, .executed⟩) ∧
          (r? = none ↔
            (0 ≤ n ∧ n ≤ maxCount ∧ unit.byteSize * n ≤ maxBytes) ∧ Text.maxByteSize < unit.byteSize * n) ∧
          (n < 0 → r? = some ((RepetitionError.negative n).evaluation ctx)) ∧
          (maxCount < n → r? = some ((RepetitionError.countLimit n.toNat maxCount).evaluation ctx)) ∧
          (0 ≤ n ∧ n ≤ maxCount ∧ maxBytes < unit.byteSize * n →
            r? = some ((RepetitionError.sizeLimit maxBytes).evaluation ctx)) ∧
          (∀ r ∈ r?, r.text.byteSize ≤ maxBytes) ∧
          (∀ size, Operation.checkedMul unit.byteSize n.toNat = some size → size = unit.byteSize * n.toNat) ∧
          (Operation.checkedMul unit.byteSize n.toNat = none → maxBytes < unit.byteSize * n.toNat) ∧
          ∀ cause, Operation.repeatText maxCount maxBytes unit (e.operand 1) ≠ .error (.notInteger cause)) ∧
      ∀ cause, Decimal.signed (e.operand 1).trim = .error cause →
        r? = some ⟨e.source, ctx.reject e.source e.opcode "repeat count is not a valid number".toList,
          .rejected "repeat count is not a valid number".toList⟩ := by
  intro unit r?
  refine ⟨?_, fun cause hn => evaluate?_of_not_signed hop he ctx hn⟩
  intro n hn
  have hfits : (0 ≤ n ∧ n ≤ maxCount ∧ unit.byteSize * n ≤ maxBytes) ∧ unit.byteSize * n ≤ Text.maxByteSize →
      r? = some ⟨(List.replicate n.toNat unit).flatten, ctx, .executed⟩ := by
    rintro ⟨⟨hnonneg, hcount, hsize⟩, hfits⟩
    exact evaluate?_of_fits hop he ctx hn hbytes hnonneg hcount hsize hfits
  refine ⟨⟨?_, ?_⟩, hfits, ⟨?_, ?_⟩, ?_, ?_, ?_, ?_, ?_, ?_, ?_⟩
  · rintro ⟨r, hmem, -, herrors⟩
    rcases of_evaluate?_eq_some hop he ctx hn hmem with ⟨hlimits, hsize, -⟩ | ⟨cause, rfl⟩
    · exact ⟨hlimits, hsize⟩
    · exact absurd herrors (by simp [RepetitionError.evaluation, Context.report])
  · intro h
    exact ⟨_, hfits h, rfl, rfl⟩
  · exact of_evaluate?_eq_none hop he ctx hn
  · rintro ⟨⟨hnonneg, hcount, hsize⟩, hlarge⟩
    exact evaluate?_of_overflow hop he ctx hn hbytes hnonneg hcount hsize hlarge
  · intro hneg
    exact evaluate?_of_repeatWithin_eq_error hop he ctx hn (Operation.repeatWithin_of_negative hneg)
  · intro hcount
    have hnonneg : 0 ≤ n := by omega
    exact evaluate?_of_repeatWithin_eq_error hop he ctx hn (Operation.repeatWithin_of_count hnonneg hcount)
  · rintro ⟨hnonneg, hcount, hsize⟩
    rw [natCast_lt_mul_iff hnonneg] at hsize
    exact evaluate?_of_repeatWithin_eq_error hop he ctx hn (Operation.repeatWithin_of_size hnonneg hcount hsize)
  · intro r hmem
    rcases of_evaluate?_eq_some hop he ctx hn hmem with ⟨⟨hnonneg, -, hsize⟩, -, rfl⟩ | ⟨cause, rfl⟩
    · rw [natCast_mul_le_iff hnonneg] at hsize
      exact Nat.le_trans (Nat.le_of_eq (Operation.byteSize_replicateText unit n.toNat)) hsize
    · exact Nat.zero_le maxBytes
  · intro size hsize
    exact (Operation.checkedMul_eq_some_iff.1 hsize).2
  · exact Operation.lt_mul_of_checkedMul_eq_none hbytes
  · exact Operation.repeatText_ne_notInteger maxCount maxBytes unit (congrArg Except.isOk hn)

/-- A count of `2 ^ 62`, with a sign and blanks, under the largest limits: a product of `2 ^ 64` is beyond them, one
of `2 ^ 63` is within them and beyond every text.  A negative zero; and a count that is no integer. -/
theorem evaluate_repetition_wide :
    let registry := Registry.builtins
      { Settings.standard with maxRepeat := Decimal.maxUnsigned, maxRepeatBytes := Decimal.maxUnsigned } none
    evaluate? registry (.parse "repeat:abcd| +4611686018427387904 ".toList) (.fresh []) =
        some ⟨[], (Context.fresh []).report "repeat".toList
          "output would exceed 18446744073709551615 bytes".toList, .executed⟩ ∧
      evaluate? registry (.parse "repeat:ab|4611686018427387904".toList) (.fresh []) = none ∧
      evaluate? registry (.parse "repeat:abcd|-0".toList) (.fresh []) = some ⟨[], .fresh [], .executed⟩ ∧
      (evaluate? registry (.parse "repeat:abcd|1.5".toList) (.fresh [])).map Evaluation.text =
        some "\x7brepeat:abcd|1.5\x7d".toList := by
  intro registry
  have hop : registry.get? (Builtin.opcode .replicate) =
      some (.replicate Decimal.maxUnsigned Decimal.maxUnsigned) := rfl
  have hbytes : Decimal.maxUnsigned ≤ Decimal.maxUnsigned := Nat.le_refl _
  refine ⟨?_, ?_, ?_, ?_⟩
  · obtain ⟨h, -⟩ := evaluate_repetition hop hbytes
      (e := .parse "repeat:abcd| +4611686018427387904 ".toList) rfl (.fresh [])
    obtain ⟨-, -, -, -, -, hsize, -⟩ := h (2 ^ 62) rfl
    exact (hsize (by decide)).trans (by decide)
  · obtain ⟨h, -⟩ := evaluate_repetition hop hbytes
      (e := .parse "repeat:ab|4611686018427387904".toList) rfl (.fresh [])
    obtain ⟨-, -, hnone, -⟩ := h (2 ^ 62) rfl
    exact hnone.2 (by decide)
  · obtain ⟨h, -⟩ := evaluate_repetition hop hbytes (e := .parse "repeat:abcd|-0".toList) rfl (.fresh [])
    obtain ⟨-, hfits, -⟩ := h 0 rfl
    exact hfits (by decide)
  · obtain ⟨-, h⟩ := evaluate_repetition hop hbytes (e := .parse "repeat:abcd|1.5".toList) rfl (.fresh [])
    rw [h .invalidDigit rfl]
    decide

end TemplateExpansion
