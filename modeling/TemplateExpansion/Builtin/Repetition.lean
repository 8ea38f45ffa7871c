/-
# Repetition

`repeat` yields its first operand as often as its second one says, within a limit on the count and a
limit on the bytes of the outcome.  The causes of failure are looked at in the order of
`RepetitionError`.

The limit on the bytes may be set beyond what a text can have.  An outcome within that limit that no text
can hold is asked for all the same, and then `repeat` is aborted (`replicateText?`).
-/
import TemplateExpansion.Builtin.Arithmetic

namespace TemplateExpansion

/-- Why a text is not repeated. -/
inductive RepetitionError where
  | notInteger (cause : Decimal.IntegerError)
  | negative (count : Int)
  | countLimit (count limit : Nat)
  | sizeLimit (limit : Nat)
  deriving Repr, DecidableEq

/-- The wording of each cause. -/
def RepetitionError.message : RepetitionError → Text
  | .notInteger cause => cause.message
  | .negative count => "count must not be negative: ".toList ++ Decimal.ofInt count
  | .countLimit count limit =>
    "count ".toList ++ Decimal.ofNat count ++ " exceeds the limit of ".toList ++ Decimal.ofNat limit
  | .sizeLimit limit => "output would exceed ".toList ++ Decimal.ofNat limit ++ " bytes".toList

namespace Operation

/-- A text written `count` times; writing nothing takes no time, whatever the count. -/
def replicateText (unit : Text) (count : Nat) : Text :=
  if unit.isEmpty then [] else (List.replicate count unit).flatten

theorem replicateText_eq (unit : Text) (count : Nat) :
    replicateText unit count = (List.replicate count unit).flatten := by
  cases unit <;> simp [replicateText]

/-- **The size of a repeated text** is the size of the text times the count. -/
theorem byteSize_replicateText (unit : Text) (count : Nat) :
    (replicateText unit count).byteSize = unit.byteSize * count := by
  rw [replicateText_eq]
  induction count with
  | zero => simp
  | succ n ih => simp [List.replicate_succ, ih, Nat.mul_add, Nat.add_comm]

/-- A text written `count` times, or nothing when memory for so large a text cannot be asked for. -/
def replicateText? (unit : Text) (count : Nat) : Option Text :=
  if unit.byteSize * count ≤ Text.maxByteSize then some (replicateText unit count) else none

theorem replicateText?_eq_some {unit : Text} {count : Nat} (h : unit.byteSize * count ≤ Text.maxByteSize) :
    replicateText? unit count = some (replicateText unit count) := if_pos h

theorem replicateText?_eq_none {unit : Text} {count : Nat} (h : Text.maxByteSize < unit.byteSize * count) :
    replicateText? unit count = none := if_neg (Nat.not_le.2 h)

/-- The product of two sizes, unless it is beyond 64 bits. -/
def checkedMul (m n : Nat) : Option Nat := if m * n ≤ Decimal.maxUnsigned then some (m * n) else none

/-- Repeats a text as often as an integer says, within the limits.  A size beyond 64 bits is beyond every
limit; a size within the limits may still be more than a text can have. -/
def repeatWithin (maxCount maxBytes : Nat) (unit : Text) (count : Int) :
    Except RepetitionError (Option Text) :=
  if count < 0 then .error (.negative count)
  else if maxCount < count.toNat then .error (.countLimit count.toNat maxCount)
  else
    match checkedMul unit.byteSize count.toNat with
    | none => .error (.sizeLimit maxBytes)
    | some size =>
      if size ≤ maxBytes then .ok (replicateText? unit count.toNat) else .error (.sizeLimit maxBytes)

theorem checkedMul_eq_some_iff {m n size : Nat} :
    checkedMul m n = some size ↔ m * n ≤ Decimal.maxUnsigned ∧ size = m * n := by
  rw [checkedMul, Option.ite_none_right_eq_some, Option.some.injEq, eq_comm (a := size)]

/-- **A text is asked for** exactly if the count is within its limit and the size of the outcome within its own
and within 64 bits. -/
theorem repeatWithin_eq_ok_iff {maxCount maxBytes : Nat} {unit : Text} {t? : Option Text} {count : Int} :
    repeatWithin maxCount maxBytes unit count = .ok t? ↔
      (0 ≤ count ∧ count ≤ maxCount ∧ unit.byteSize * count.toNat ≤ Decimal.maxUnsigned ∧
          unit.byteSize * count.toNat ≤ maxBytes) ∧
        t? = replicateText? unit count.toNat := by
  unfold repeatWithin
  constructor
  · intro h
    split at h
    · exact absurd h (by simp)
    · split at h
      · exact absurd h (by simp)
      · split at h
        · exact absurd h (by simp)
        · rename_i hneg hcount size hsize
          obtain ⟨hmul, rfl⟩ := checkedMul_eq_some_iff.1 hsize
          split at h
          · rename_i hle
            exact ⟨⟨by omega, by omega, hmul, hle⟩, (Except.ok.inj h).symm⟩
          · exact absurd h (by simp)
  · rintro ⟨⟨hnonneg, hcount, hmul, hle⟩, rfl⟩
    have hneg : ¬ count < 0 := by omega
    have hmax : ¬ maxCount < count.toNat := by omega
    rw [if_neg hneg, if_neg hmax, checkedMul_eq_some_iff.2 ⟨hmul, rfl⟩]
    exact if_pos hle

/-- Repeats a text as often as a numeral says, blanks around it aside. -/
def repeatText (maxCount maxBytes : Nat) (unit numeral : Text) : Except RepetitionError (Option Text) :=
  match Decimal.signed numeral.trim with
  | .error cause => .error (.notInteger cause)
  | .ok count => repeatWithin maxCount maxBytes unit count

/-- A text was asked for and there is none. -/
def isOverflow : Except RepetitionError (Option Text) → Bool
  | .ok none => true
  | _ => false

/-- `{repeat:ab|3}` yields `ababab`. -/
def replicate (maxCount maxBytes : Nat) : Operation where
  name := Builtin.opcode .replicate
  requirements :=
    [⟨"repeat count is not a valid number".toList, fun e _ => (e.operand 1).isInteger⟩]
  execute e _ :=
    match repeatText maxCount maxBytes (e.operand 0) (e.operand 1) with
    | .ok t? => (t?.getD [], [])
    | .error cause => ([], [.report (Builtin.opcode .replicate) cause.message])
  aborts e _ := isOverflow (repeatText maxCount maxBytes (e.operand 0) (e.operand 1))

end Operation
end TemplateExpansion
