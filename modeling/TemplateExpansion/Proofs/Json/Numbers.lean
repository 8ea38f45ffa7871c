/-
# Numbers of a JSON document, read and passed over

A number is passed over as far as it goes, provided that what follows does not go on with it (`Ends`,
`skip_unsigned`).  A whole number of 64 bits is read as that number (`read_whole`), and no number that is read as
a whole one has more than 64 bits (`le_maxUnsigned_of_read`).
-/
import TemplateExpansion.Proofs.Bytes
import TemplateExpansion.Proofs.Numerals
import TemplateExpansion.Proofs.Json.Notation

namespace TemplateExpansion
namespace Json

/-! ## 1. Digits -/

/-- What follows a number does not go on with it. -/
def Ends (rest : Bytes) : Prop :=
  ∀ b ∈ rest.head?, isDigit b = false ∧ b ≠ 0x2E ∧ Number.startsExponent b = false

theorem isDigit_digitByte (d : Fin 10) : isDigit (digitByte d) = true := by
  have hall : ∀ d : Fin 10, isDigit (digitByte d) = true := by decide
  exact hall d

theorem dropWhile_isDigit_of_head {rest : Bytes} (h : rest.head?.any isDigit = false) :
    rest.dropWhile isDigit = rest := by
  cases rest with
  | nil => rfl
  | cons b rest =>
    have hb : isDigit b = false := h
    rw [List.dropWhile_cons, hb]
    rfl

theorem dropWhile_isDigit_append {digits rest : Bytes} (hdigits : ∀ b ∈ digits, isDigit b = true)
    (hrest : rest.head?.any isDigit = false) : (digits ++ rest).dropWhile isDigit = rest := by
  rw [List.dropWhile_append_of_pos hdigits, dropWhile_isDigit_of_head hrest]

theorem Ends.any_isDigit {rest : Bytes} (h : Ends rest) : rest.head?.any isDigit = false := by
  cases rest with
  | nil => rfl
  | cons b rest => exact (h b rfl).1

section
variable {c : Char} (hc : c.isDigit = true)
include hc

theorem utf8EncodeChar_of_isDigit : String.utf8EncodeChar c = [c.toUInt8] := by
  have h := Decimal.toNat_of_isDigit hc
  exact Utf8.utf8EncodeChar_of_lt (by omega)

theorem toNat_toUInt8_of_isDigit : c.toUInt8.toNat = c.toNat := by
  have h := Decimal.toNat_of_isDigit hc
  exact Utf8.toNat_toUInt8_of_lt (by omega)

/-- The byte of a digit is a digit. -/
theorem isDigit_toUInt8 : isDigit c.toUInt8 = true := by
  obtain ⟨hlow, hhigh⟩ := Decimal.toNat_of_isDigit hc
  rw [isDigit, Bool.and_eq_true, decide_eq_true_eq, decide_eq_true_eq, UInt8.le_iff_toNat_le,
    UInt8.le_iff_toNat_le, toNat_toUInt8_of_isDigit hc]
  exact ⟨hlow, hhigh⟩

/-- The byte of a digit has its value. -/
theorem digitValue_toUInt8 : digitValue c.toUInt8 = (Decimal.digit? c).getD 0 := by
  rw [digitValue, toNat_toUInt8_of_isDigit hc, Decimal.digit?, if_pos hc]
  rfl

end

/-- The bytes of a whole number are digits, and zero stands in front only for zero. -/
theorem exists_encode_ofNat (n : Nat) :
    ∃ b more, Utf8.encode (Decimal.ofNat n) = b :: more ∧ isDigit b = true ∧
      (∀ x ∈ more, isDigit x = true) ∧ (b = 0x30 → n = 0 ∧ more = []) := by
  obtain ⟨c, t, hct⟩ := List.exists_cons_of_ne_nil (Decimal.ofNat_ne_nil n)
  have hdigit : ∀ x ∈ c :: t, x.isDigit = true := fun x hx =>
    Decimal.isDigit_of_mem_ofNat (hct ▸ hx)
  have hc : c.isDigit = true := hdigit c List.mem_cons_self
  refine ⟨c.toUInt8, Utf8.encode t, ?_, isDigit_toUInt8 hc, ?_, ?_⟩
  · rw [hct, Utf8.encode_cons, utf8EncodeChar_of_isDigit hc]
    rfl
  · intro x hx
    obtain ⟨d, hd, hx⟩ := List.mem_flatMap.1 hx
    have hd : d.isDigit = true := hdigit d (List.mem_cons_of_mem c hd)
    rw [utf8EncodeChar_of_isDigit hd, List.mem_singleton] at hx
    exact hx ▸ isDigit_toUInt8 hd
  · intro h
    have hzero : c = '0' := Char.toNat_inj.1 ((toNat_toUInt8_of_isDigit hc).symm.trans (congrArg UInt8.toNat h))
    have hn : n = 0 := by
      refine Nat.eq_zero_of_not_pos fun hpos => Decimal.head?_ofNat hpos ?_
      rw [hct, hzero]
      rfl
    subst hn
    obtain ⟨-, rfl⟩ := List.cons.inj ((show ['0'] = Decimal.ofNat 0 by decide).trans hct)
    exact ⟨rfl, rfl⟩

/-! ## 2. Passing over a number -/

theorem Digits.isDigit_of_mem {d : Digits} {b : UInt8} (hb : b ∈ d.bytes) : isDigit b = true := by
  rcases List.mem_cons.1 hb with rfl | hb
  · exact isDigit_digitByte d.first
  · obtain ⟨x, -, rfl⟩ := List.mem_map.1 hb
    exact isDigit_digitByte x

/-- A digit does not look like a sign, so a sign is taken off exactly where there is one. -/
theorem Exponent.unsigned_eq (s : Sign) (d : Digits) (rest : Bytes) :
    (if (s.bytes ++ (d.bytes ++ rest)).head? = some 0x2D ∨ (s.bytes ++ (d.bytes ++ rest)).head? = some 0x2B then
      (s.bytes ++ (d.bytes ++ rest)).tail else s.bytes ++ (d.bytes ++ rest)) = d.bytes ++ rest := by
  cases s with
  | none =>
    have hall : ∀ x : Fin 10, ¬ (some (digitByte x) = some 0x2D ∨ some (digitByte x) = some 0x2B) := by decide
    exact if_neg (hall d.first)
  | plus => rfl
  | minus => rfl

/-- **What comes after the digits of a number** is an exponent, or does not go on with the number. -/
theorem exponentBytes_cases (e : Option Exponent) (rest : Bytes) :
    (∃ b s d, Number.startsExponent b = true ∧ isDigit b = false ∧ b ≠ 0x2E ∧
      exponentBytes e ++ rest = b :: (Sign.bytes s ++ (Digits.bytes d ++ rest))) ∨
    exponentBytes e ++ rest = rest := by
  cases e with
  | none => exact .inr rfl
  | some e =>
    refine .inl ⟨if e.isLarge then 0x45 else 0x65, e.sign, e.digits, ?_, ?_, ?_, ?_⟩
    · cases e.isLarge <;> rfl
    · cases e.isLarge <;> rfl
    · cases e.isLarge <;> decide
    · rw [exponentBytes, Exponent.bytes, List.cons_append, List.append_assoc]

theorem any_isDigit_exponentBytes (e : Option Exponent) {rest : Bytes} (h : Ends rest) :
    (exponentBytes e ++ rest).head?.any isDigit = false := by
  rcases exponentBytes_cases e rest with ⟨b, s, d, -, hdigit, -, hbytes⟩ | hbytes
  · rw [hbytes]
    exact hdigit
  · rw [hbytes]
    exact h.any_isDigit

theorem Numeral.any_isDigit_tail (n : Numeral) {rest : Bytes} (h : Ends rest) :
    (n.tail ++ rest).head?.any isDigit = false := by
  unfold tail
  split
  · exact any_isDigit_exponentBytes n.exponent h
  · rfl

namespace Number

theorem skipExponent_bytes (s : Sign) (d : Digits) {rest : Bytes} (h : Ends rest) :
    skipExponent (s.bytes ++ (d.bytes ++ rest)) = .ok rest := by
  have hrest : (d.others.map digitByte ++ rest).dropWhile isDigit = rest :=
    dropWhile_isDigit_append (fun b hb => d.isDigit_of_mem (List.mem_cons_of_mem _ hb)) h.any_isDigit
  rw [skipExponent, Exponent.unsigned_eq, Digits.bytes, List.cons_append]
  dsimp only
  rw [if_pos (isDigit_digitByte d.first), hrest]

theorem skipFraction_bytes (d : Digits) (e : Option Exponent) {rest : Bytes} (h : Ends rest) :
    skipFraction (d.bytes ++ (exponentBytes e ++ rest)) = .ok rest := by
  have hdigit : (d.bytes ++ (exponentBytes e ++ rest)).head?.any isDigit = true := isDigit_digitByte d.first
  rw [skipFraction, if_pos hdigit,
    dropWhile_isDigit_append (fun _ hb => d.isDigit_of_mem hb) (any_isDigit_exponentBytes e h)]
  rcases exponentBytes_cases e rest with ⟨b, s, x, hb, -, -, hbytes⟩ | hbytes
  · rw [hbytes]
    dsimp only
    rw [if_pos hb, skipExponent_bytes s x h]
  · rw [hbytes]
    cases rest with
    | nil => rfl
    | cons b rest =>
      have hb := (h b rfl).2.2
      dsimp only
      rw [hb]
      rfl

/-- What comes after the digits before a point is passed over. -/
theorem skip_tail (n : Numeral) {rest : Bytes} (h : Ends rest) :
    (match n.tail ++ rest with
      | [] => .ok []
      | c :: after =>
        if c = 0x2E then skipFraction after
        else if startsExponent c then skipExponent after
        else .ok (c :: after) : Except Fault Bytes) = .ok rest := by
  unfold Numeral.tail
  cases n.fraction with
  | some d =>
    dsimp only [List.cons_append]
    rw [if_pos rfl, List.append_assoc, skipFraction_bytes d n.exponent h]
  | none =>
    dsimp only
    rcases exponentBytes_cases n.exponent rest with ⟨b, s, x, hb, -, hpoint, hbytes⟩ | hbytes
    · rw [hbytes]
      dsimp only
      rw [if_neg hpoint, if_pos hb, skipExponent_bytes s x h]
    · rw [hbytes]
      cases rest with
      | nil => rfl
      | cons b rest =>
        obtain ⟨-, hpoint, hb⟩ := h b rfl
        dsimp only
        rw [if_neg hpoint, hb]
        rfl

/-- **A number is passed over** after its sign. -/
theorem skip_unsigned (n : Numeral) {rest : Bytes} (h : Ends rest) :
    skip (n.unsigned ++ rest) = .ok rest := by
  obtain ⟨b, more, hbytes, hb, hmore, hzero⟩ := exists_encode_ofNat n.whole
  have htail := n.any_isDigit_tail h
  have hlone : ¬ (b = 0x30 ∧ (more ++ (n.tail ++ rest)).head?.any isDigit = true) := by
    rintro ⟨h0, hdigit⟩
    rw [(hzero h0).2, List.nil_append, htail] at hdigit
    exact Bool.noConfusion hdigit
  rw [Numeral.unsigned, hbytes, List.append_assoc, List.cons_append, skip, if_neg hlone, if_pos hb,
    dropWhile_isDigit_append hmore htail]
  exact skip_tail n h

end Number

/-! ## 3. Reading a whole number -/

namespace Numeral

/-- **A number is a whole number** if it has digits only and they are not too many. -/
theorem natural?_eq_some_iff {n : Numeral} {k : Nat} :
    n.natural? = some k ↔ n = ⟨false, k, none, none⟩ ∧ k ≤ Decimal.maxUnsigned := by
  constructor
  · intro h
    unfold natural? at h
    split at h
    · split at h
      · rename_i hmax
        obtain rfl := Option.some.inj h
        exact ⟨rfl, hmax⟩
      · cases h
    · cases h
  · rintro ⟨rfl, hmax⟩
    exact if_pos hmax

theorem bytes_whole (k : Nat) : bytes ⟨false, k, none, none⟩ = Utf8.encode (Decimal.ofNat k) :=
  List.append_nil _

end Numeral

namespace Number

/-- **Digits are taken one by one** up to what is no digit, if the bound is not passed. -/
theorem takeDigits_append {t : Text} (ht : ∀ c ∈ t, c.isDigit = true) {rest : Bytes}
    (hrest : rest.head?.any isDigit = false) {v count : Nat}
    (hbound : v * 10 ^ t.length + Decimal.value t ≤ Decimal.maxUnsigned) :
    takeDigits v count (Utf8.encode t ++ rest) =
      (v * 10 ^ t.length + Decimal.value t, count + t.length, rest) := by
  induction t generalizing v count with
  | nil =>
    have hv : v * 10 ^ ([] : Text).length + Decimal.value [] = v := by simp [Decimal.value]
    rw [hv, Utf8.encode_nil, List.nil_append, List.length_nil, Nat.add_zero]
    cases rest with
    | nil => rfl
    | cons b rest =>
      have hb : isDigit b = false := hrest
      rw [takeDigits, hb]
      rfl
  | cons c t ih =>
    have hc : c.isDigit = true := ht c List.mem_cons_self
    have hvalue : v * 10 ^ (c :: t).length + Decimal.value (c :: t) =
        (v * 10 + digitValue c.toUInt8) * 10 ^ t.length + Decimal.value t := by
      rw [Decimal.value_cons, digitValue_toUInt8 hc, List.length_cons, Nat.pow_succ]
      ring
    -- the value so far is at most the value in the end
    have hsofar : v * 10 + digitValue c.toUInt8 ≤
        (v * 10 + digitValue c.toUInt8) * 10 ^ t.length + Decimal.value t :=
      (Nat.le_mul_of_pos_right _ (Nat.pow_pos (by decide))).trans (Nat.le_add_right _ _)
    rw [hvalue] at hbound ⊢
    rw [Utf8.encode_cons, utf8EncodeChar_of_isDigit hc, List.append_assoc, List.singleton_append, takeDigits,
      isDigit_toUInt8 hc, Bool.true_and, if_pos (decide_eq_true (hsofar.trans hbound)),
      ih (fun x hx => ht x (List.mem_cons_of_mem c hx)) hbound, List.length_cons, Nat.add_assoc,
      Nat.add_comm 1]

theorem dropDigits_of_head {rest : Bytes} (h : rest.head?.any isDigit = false) :
    dropDigits rest = (0, rest) := by
  have htake : rest.takeWhile isDigit = [] := by
    cases rest with
    | nil => rfl
    | cons b rest => exact List.takeWhile_cons_of_neg (Bool.eq_false_iff.1 h)
  rw [dropDigits, htake, dropWhile_isDigit_of_head h]
  rfl

/-- Digits that nothing follows are a whole number. -/
theorem readAfterDigits_of_ends (n : Nat) {rest : Bytes} (h : Ends rest) :
    readAfterDigits true n 0 rest = .ok (.natural n, rest) := by
  cases rest with
  | nil => rfl
  | cons b rest =>
    obtain ⟨-, hpoint, hb⟩ := h b rfl
    rw [readAfterDigits, if_neg hpoint, hb]
    rfl

/-- **A whole number of 64 bits is read.** -/
theorem read_whole {n : Nat} (hn : n ≤ Decimal.maxUnsigned) {rest : Bytes} (h : Ends rest) :
    read true (Utf8.encode (Decimal.ofNat n) ++ rest) = .ok (.natural n, rest) := by
  obtain ⟨b, more, hbytes, hb, hmore, hzero⟩ := exists_encode_ofNat n
  by_cases h0 : b = 0x30
  · obtain ⟨rfl, rfl⟩ := hzero h0
    have hrest := h.any_isDigit
    rw [hbytes, List.cons_append, List.nil_append, read, if_pos h0, hrest]
    exact readAfterDigits_of_ends 0 h
  · have hvalue : 0 * 10 ^ (Decimal.ofNat n).length + Decimal.value (Decimal.ofNat n) = n := by
      rw [Nat.zero_mul, Nat.zero_add, Decimal.value_ofNat]
    have htake : takeDigits 0 0 (b :: (more ++ rest)) = (n, 0 + (Decimal.ofNat n).length, rest) := by
      rw [← List.cons_append, ← hbytes,
        takeDigits_append (fun _ hc => Decimal.isDigit_of_mem_ofNat hc) h.any_isDigit
          (hvalue.symm ▸ hn), hvalue]
    have hdrop : dropDigits rest = (0, rest) := dropDigits_of_head h.any_isDigit
    rw [hbytes, List.cons_append, read, if_neg h0, if_pos hb, htake]
    dsimp only
    rw [hdrop]
    exact readAfterDigits_of_ends n h

/-! ## 4. The range of whole numbers -/

theorem takeDigits_le {v : Nat} (hv : v ≤ Decimal.maxUnsigned) (count : Nat) (rest : Bytes) :
    (takeDigits v count rest).1 ≤ Decimal.maxUnsigned := by
  induction rest generalizing v count with
  | nil => exact hv
  | cons b rest ih =>
    rw [takeDigits]
    split
    · rename_i hb
      exact ih (of_decide_eq_true (Bool.and_eq_true_iff.1 hb).2) _
    · exact hv

variable {positive : Bool} {significand n : Nat} {exponent : Int} {rest left : Bytes}

theorem ofParts_ne_natural : ofParts positive significand exponent rest ≠ .ok (.natural n, left) := by
  intro h
  unfold ofParts at h
  split at h <;> cases h

theorem readExponent_ne_natural :
    readExponent positive significand exponent rest ≠ .ok (.natural n, left) := by
  intro h
  unfold readExponent at h
  dsimp only at h
  split at h
  · cases h
  · split at h
    · split at h
      · exact ofParts_ne_natural h
      · split at h <;> cases h
    · cases h

theorem readEnd_ne_natural : readEnd positive significand exponent rest ≠ .ok (.natural n, left) := by
  intro h
  unfold readEnd at h
  split at h
  · exact ofParts_ne_natural h
  · split at h
    · exact readExponent_ne_natural h
    · exact ofParts_ne_natural h

theorem readFraction_ne_natural :
    readFraction positive significand exponent rest ≠ .ok (.natural n, left) := by
  intro h
  unfold readFraction at h
  split at h
  · cases h
  · split at h
    · exact readEnd_ne_natural h
    · cases h

/-- A whole number is what its digits say. -/
theorem eq_of_ofSignificand (h : ofSignificand positive significand = .natural n) : n = significand := by
  unfold ofSignificand at h
  split at h
  · exact (Number.natural.inj h).symm
  · split at h <;> cases h

/-- **A number with a point or an exponent is no whole number**, so a whole one is what its digits say. -/
theorem eq_of_readAfterDigits {dropped : Nat}
    (h : readAfterDigits positive significand dropped rest = .ok (.natural n, left)) : n = significand := by
  unfold readAfterDigits at h
  split at h
  · split at h
    · exact eq_of_ofSignificand (congrArg Prod.fst (Except.ok.inj h))
    · exact absurd h ofParts_ne_natural
  · split at h
    · exact absurd h readFraction_ne_natural
    · split at h
      · exact absurd h readExponent_ne_natural
      · split at h
        · exact eq_of_ofSignificand (congrArg Prod.fst (Except.ok.inj h))
        · exact absurd h ofParts_ne_natural

/-- **No whole number is read that has more than 64 bits.** -/
theorem le_maxUnsigned_of_read (h : read positive rest = .ok (.natural n, left)) :
    n ≤ Decimal.maxUnsigned := by
  cases rest with
  | nil => cases h
  | cons b rest =>
    rw [read] at h
    split at h
    · split at h
      · cases h
      · rw [eq_of_readAfterDigits h]
        exact Nat.zero_le _
    · split at h
      · rw [eq_of_readAfterDigits h]
        exact takeDigits_le (Nat.zero_le _) 0 (b :: rest)
      · cases h

end Number

end Json
end TemplateExpansion
