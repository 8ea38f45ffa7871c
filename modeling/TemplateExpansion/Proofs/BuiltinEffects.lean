/-
# What the built-in operations yield

A sum is written with letters, digits, a point and a sign (`isNumeral_plain`), and so are the
constants; `repeat` writes its operand again and again; `get` yields what `set` stored.  So whatever
property is had by numerals and handed on by writing texts one after the other, and is had by the
bodies that are fetched, the built-in operations preserve (`builtins_preserves`).  They look at
nothing but operands and stored values (`builtins_readsValues`).
-/
import TemplateExpansion.Builtin.Standard
import TemplateExpansion.Proofs.Effects
import TemplateExpansion.Proofs.Registration

namespace TemplateExpansion

/-! ## 1. Numerals -/

/-- The text is made of letters, digits, points and minus signs. -/
def Text.IsNumeral (t : Text) : Prop := ∀ c ∈ t, c.isAlphanum = true ∨ c = '-' ∨ c = '.'

namespace Text

theorem isNumeral_nil : IsNumeral [] := fun _ hc => absurd hc List.not_mem_nil

theorem IsNumeral.append {s t : Text} (hs : IsNumeral s) (ht : IsNumeral t) : IsNumeral (s ++ t) :=
  fun c hc => (List.mem_append.1 hc).elim (hs c) (ht c)

theorem IsNumeral.cons {c : Char} {t : Text} (hc : c.isAlphanum = true ∨ c = '-' ∨ c = '.')
    (ht : IsNumeral t) : IsNumeral (c :: t) := by
  intro d hd
  rcases List.mem_cons.1 hd with rfl | hd
  · exact hc
  · exact ht d hd

theorem IsNumeral.subset {s t : Text} (ht : IsNumeral t) (h : ∀ c ∈ s, c ∈ t) : IsNumeral s :=
  fun c hc => ht c (h c hc)

/-- A text that is written out is looked at character by character. -/
theorem isNumeral_of_all {t : Text}
    (h : t.all (fun c => c.isAlphanum || c == '-' || c == '.') = true) : IsNumeral t := by
  intro c hc
  have hchar := List.all_eq_true.1 h c hc
  simpa [or_assoc] using hchar

theorem isNumeral_of_digits {t : Text} (h : ∀ c ∈ t, c.isDigit = true) : IsNumeral t :=
  fun c hc => .inl (by simp [Char.isAlphanum, h c hc])

end Text

namespace Decimal

open Text

theorem isNumeral_ofNat (n : Nat) : IsNumeral (ofNat n) :=
  isNumeral_of_digits fun _ hc => Nat.isDigit_of_mem_toDigits (by decide) (by decide) hc

theorem isNumeral_zeros (n : Nat) : IsNumeral (zeros n) :=
  isNumeral_of_digits fun c hc => by rw [(List.mem_replicate.1 hc).2]; rfl

theorem isNumeral_digits_ofSteps (steps : Nat) (grid : Int) :
    IsNumeral (ofSteps steps grid).digits := by
  refine (isNumeral_ofNat steps).subset ?_
  intro c hc
  have h1 : c ∈ (ofNat steps).reverse.dropWhile (· == '0') := List.mem_reverse.1 hc
  exact List.mem_reverse.1 ((List.dropWhile_suffix _).subset h1)

theorem isNumeral_digits_shortest (tie : Tie) (significand : Nat) (exponent : Int) :
    IsNumeral (shortest tie significand exponent).digits := by
  unfold shortest
  extract_lets range magnitude found finest
  cases hf : found with
  | none => exact isNumeral_digits_ofSteps _ _
  | some d =>
    obtain ⟨count, -, h⟩ := List.exists_of_findSome?_eq_some hf
    obtain ⟨steps, -, rfl⟩ := Option.map_eq_some_iff.1 h
    exact isNumeral_digits_ofSteps _ _

theorem isNumeral_wholePart {d : Decimal} (h : IsNumeral d.digits) : IsNumeral d.wholePart := by
  unfold wholePart
  split
  · exact isNumeral_of_digits (by simp)
  · exact (h.subset fun _ hc => List.mem_of_mem_take hc).append (isNumeral_zeros _)

theorem isNumeral_fractionPart {d : Decimal} (h : IsNumeral d.digits) :
    IsNumeral d.fractionPart := by
  unfold fractionPart
  split
  · exact (isNumeral_zeros _).append h
  · exact h.subset fun _ hc => List.mem_of_mem_drop hc

theorem isNumeral_plain {d : Decimal} (h : IsNumeral d.digits) : IsNumeral d.plain := by
  unfold plain
  split
  · exact isNumeral_wholePart h
  · exact (isNumeral_wholePart h).append (.cons (.inr (.inr rfl)) (isNumeral_fractionPart h))

end Decimal

namespace Binary64

open Text

theorem isNumeral_withSign {t : Text} (h : IsNumeral t) (negative : Bool) :
    IsNumeral (withSign negative t) := by
  unfold withSign
  split
  · exact .cons (.inr (.inl rfl)) h
  · exact h

/-- **A number is written as a numeral.** -/
theorem isNumeral_plain (x : Binary64) : IsNumeral x.plain := by
  cases x with
  | nan => exact isNumeral_of_all (by decide)
  | infinite negative =>
    exact isNumeral_withSign (isNumeral_of_all (by decide)) negative
  | finite negative significand exponent =>
    refine isNumeral_withSign ?_ negative
    split
    · exact isNumeral_of_digits (by simp)
    · exact Decimal.isNumeral_plain (Decimal.isNumeral_digits_shortest _ _ _)

end Binary64

/-! ## 2. The operations -/

namespace Operation

variable {P : Text → Prop}

/-- Operands that are missing are empty. -/
theorem property_operand (hnil : P []) {e : Expression} (he : ∀ t ∈ e.operands, P t) (index : Nat) :
    P (e.operand index) := by
  rw [Expression.operand, List.getD]
  cases h : e.operands[index]? with
  | none => exact hnil
  | some t => exact he t (List.mem_of_getElem? h)

theorem preserves_constant (name : Text) {value : Text} (hv : P value) :
    (constant name value).Preserves P :=
  fun _ _ _ _ => ⟨hv, by simp [constant]⟩

theorem preserves_add (hnum : ∀ t, Text.IsNumeral t → P t) : Operation.add.Preserves P := by
  intro e ctx _ _
  simp only [add]
  cases sum e.operands with
  | ok total => exact ⟨hnum _ (Binary64.isNumeral_plain total), by simp⟩
  | error cause => exact ⟨hnum _ Text.isNumeral_nil, by simp [Change.Keeps]⟩

theorem preserves_get (hnil : P []) : Operation.get.Preserves P := by
  intro e ctx _ hs
  refine ⟨?_, by simp [get]⟩
  simp only [get, Context.get?]
  cases h : ctx.values.get? (e.operand 0) with
  | none => exact hnil
  | some value => exact hs.get? h

theorem preserves_set (hnil : P []) : Operation.set.Preserves P := by
  intro e ctx he _
  refine ⟨hnil, ?_⟩
  intro change hc
  rw [List.mem_singleton.1 hc]
  exact property_operand hnil he 1

theorem property_replicateText (hnil : P []) (happend : ∀ s t, P s → P t → P (s ++ t)) {unit : Text}
    (hu : P unit) (count : Nat) : P (replicateText unit count) := by
  rw [replicateText_eq]
  induction count with
  | zero => exact hnil
  | succ n ih =>
    rw [List.replicate_succ, List.flatten_cons]
    exact happend _ _ hu ih

theorem property_replicateText? (hnil : P []) (happend : ∀ s t, P s → P t → P (s ++ t)) {unit : Text}
    (hu : P unit) (count : Nat) : P ((replicateText? unit count).getD []) := by
  unfold replicateText?
  split
  · exact property_replicateText hnil happend hu count
  · exact hnil

theorem preserves_replicate (hnil : P []) (happend : ∀ s t, P s → P t → P (s ++ t))
    (maxCount maxBytes : Nat) : (replicate maxCount maxBytes).Preserves P := by
  intro e ctx he _
  simp only [replicate]
  cases h : repeatText maxCount maxBytes (e.operand 0) (e.operand 1) with
  | error cause => exact ⟨hnil, by simp [Change.Keeps]⟩
  | ok t? =>
    refine ⟨?_, by simp⟩
    unfold repeatText at h
    split at h
    · simp at h
    · obtain ⟨-, rfl⟩ := repeatWithin_eq_ok_iff.1 h
      exact property_replicateText? hnil happend (property_operand hnil he 0) _

theorem preserves_text (hnil : P []) {fetch : Fetcher}
    (hbody : ∀ url body, fetch url = .ok body → P body) : (text fetch).Preserves P := by
  intro e ctx _ _
  simp only [text]
  cases h : fetch (e.operand 0) with
  | ok body => exact ⟨hbody _ _ h, by simp⟩
  | error cause => exact ⟨hnil, by simp [Change.Keeps]⟩

end Operation

/-- **What the built-in operations preserve**: every property that numerals have, that is handed on
by writing texts one after the other, and that fetched bodies have. -/
theorem Registry.builtins_preserves {P : Text → Prop} (settings : Settings)
    {fetch? : Option Fetcher} (hnum : ∀ t, Text.IsNumeral t → P t)
    (happend : ∀ s t, P s → P t → P (s ++ t))
    (hbody : ∀ fetch ∈ fetch?, ∀ url body, fetch url = .ok body → P body) :
    (Registry.builtins settings fetch?).Preserves P := by
  have hnil : P [] := hnum [] Text.isNumeral_nil
  intro op hop
  obtain ⟨b, hb⟩ := Operation.mem_builtins.1 (mem_ofList hop)
  cases b with
  | text =>
    obtain ⟨fetch, hf, rfl⟩ := Option.map_eq_some_iff.1 hb
    exact Operation.preserves_text hnil (hbody fetch hf)
  | add => exact Option.some.inj hb ▸ Operation.preserves_add hnum
  | e => exact Option.some.inj hb ▸ Operation.preserves_constant _ (hnum _ (Binary64.isNumeral_plain _))
  | pi => exact Option.some.inj hb ▸ Operation.preserves_constant _ (hnum _ (Binary64.isNumeral_plain _))
  | get => exact Option.some.inj hb ▸ Operation.preserves_get hnil
  | set => exact Option.some.inj hb ▸ Operation.preserves_set hnil
  | note => exact Option.some.inj hb ▸ Operation.preserves_constant _ hnil
  | replicate => exact Option.some.inj hb ▸ Operation.preserves_replicate hnil happend _ _

/-- **The built-in operations look at nothing but operands and stored values.** -/
theorem Registry.builtins_readsValues (settings : Settings) (fetch? : Option Fetcher) :
    (Registry.builtins settings fetch?).ReadsValues := by
  intro op hop
  obtain ⟨b, hb⟩ := Operation.mem_builtins.1 (mem_ofList hop)
  cases b with
  | text =>
    obtain ⟨fetch, -, rfl⟩ := Option.map_eq_some_iff.1 hb
    exact ⟨by simp [Operation.text], fun _ _ _ _ => rfl⟩
  | get =>
    obtain rfl := Option.some.inj hb
    exact ⟨by simp [Operation.get], fun _ _ _ h => by simp [Operation.get, Context.get?, h]⟩
  | add =>
    obtain rfl := Option.some.inj hb
    exact ⟨by simp [Operation.add], fun _ _ _ _ => rfl⟩
  | e =>
    obtain rfl := Option.some.inj hb
    exact ⟨by simp [Operation.eulerNumber, Operation.constant], fun _ _ _ _ => rfl⟩
  | pi =>
    obtain rfl := Option.some.inj hb
    exact ⟨by simp [Operation.circleConstant, Operation.constant], fun _ _ _ _ => rfl⟩
  | set =>
    obtain rfl := Option.some.inj hb
    exact ⟨by simp [Operation.set], fun _ _ _ _ => rfl⟩
  | note =>
    obtain rfl := Option.some.inj hb
    exact ⟨by simp [Operation.note], fun _ _ _ _ => rfl⟩
  | replicate =>
    obtain rfl := Option.some.inj hb
    exact ⟨by simp [Operation.replicate], fun _ _ _ _ => rfl⟩

end TemplateExpansion
