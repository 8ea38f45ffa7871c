/-
# The order of bytes

A name is a text, and an ordered table of names may compare their characters or the bytes they are written
in.  Both orders are the same (`Utf8.encode_lt_encode_iff`).

* A character is written in base sixty-four: `following` says how many digits come after the first one, and
  the first one stands on top of a `mark` that tells this number (`utf8EncodeChar_eq_digits`).
* Of two characters with as many digits the smaller has the smaller digits (`digits_append_lt`), and a
  character with more digits has the greater first byte (`lead_lt_lead`).
-/
import Mathlib.Tactic.Ring
import TemplateExpansion.Text.Utf8

namespace TemplateExpansion
namespace Utf8

/-! ## 1. Digits in base sixty-four -/

/-- A number in base sixty-four: its first digit on top of a mark, and `more` further digits. -/
def digits (mark : Nat) : Nat → Nat → List UInt8
  | 0, n => [UInt8.ofNat (mark + n)]
  | more + 1, n => digits mark more (n / 64) ++ [UInt8.ofNat (0x80 + n % 64)]

theorem exists_digits_eq_cons (mark more n : Nat) :
    ∃ rest, digits mark more n = UInt8.ofNat (mark + n / 64 ^ more) :: rest := by
  induction more generalizing n with
  | zero => exact ⟨[], by simp [digits]⟩
  | succ more ih =>
    obtain ⟨rest, hrest⟩ := ih (n / 64)
    rw [Nat.div_div_eq_div_mul, ← Nat.pow_succ'] at hrest
    refine ⟨rest ++ [UInt8.ofNat (0x80 + n % 64)], ?_⟩
    rw [digits, hrest, List.cons_append]

theorem ofNat_lt_ofNat {m n : Nat} (h : m < n) (hn : n < 256) : UInt8.ofNat m < UInt8.ofNat n := by
  rw [UInt8.lt_iff_toNat_lt, UInt8.toNat_ofNat', UInt8.toNat_ofNat']
  omega

/-- **Of two numbers with as many digits, the smaller has the smaller digits**, whatever follows. -/
theorem digits_append_lt {mark more m n : Nat} (h : m < n) (hn : mark + n / 64 ^ more < 256)
    (s t : List UInt8) : digits mark more m ++ s < digits mark more n ++ t := by
  induction more generalizing m n s t with
  | zero =>
    rw [Nat.pow_zero, Nat.div_one] at hn
    exact List.cons_lt_cons_iff.2 (.inl (ofNat_lt_ofNat (Nat.add_lt_add_left h mark) hn))
  | succ more ih =>
    rw [Nat.pow_succ', ← Nat.div_div_eq_div_mul] at hn
    simp only [digits, List.append_assoc, List.singleton_append]
    rcases Nat.lt_or_ge (m / 64) (n / 64) with hlt | hge
    · exact ih hlt hn _ _
    · -- Only the last digits differ.
      have heq : m / 64 = n / 64 := by omega
      have hlast : UInt8.ofNat (0x80 + m % 64) < UInt8.ofNat (0x80 + n % 64) :=
        ofNat_lt_ofNat (by omega) (by omega)
      rw [heq]
      exact List.append_left_lt (List.cons_lt_cons_iff.2 (.inl hlast))

/-! ## 2. Characters -/

/-- How many bytes follow the first byte of a code point. -/
def following (n : Nat) : Nat :=
  if n < 0x80 then 0 else if n < 0x800 then 1 else if n < 0x10000 then 2 else 3

/-- What the first byte adds to its digit, to tell how many bytes follow. -/
def mark : Nat → Nat
  | 0 => 0
  | 1 => 0xC0
  | 2 => 0xE0
  | _ => 0xF0

/-- The first byte of a code point. -/
def lead (n : Nat) : Nat := mark (following n) + n / 64 ^ following n

theorem toNat_lt (c : Char) : c.toNat < 0x110000 := by
  rcases c.valid with h | h
  · exact Nat.lt_trans h (by decide)
  · exact h.2

theorem following_cases (n : Nat) :
    (n < 0x80 ∧ following n = 0) ∨ (0x80 ≤ n ∧ n < 0x800 ∧ following n = 1) ∨
      (0x800 ≤ n ∧ n < 0x10000 ∧ following n = 2) ∨ (0x10000 ≤ n ∧ following n = 3) := by
  grind [following]

/-- **A character is written as its code point** in base sixty-four. -/
theorem utf8EncodeChar_eq_digits (c : Char) :
    String.utf8EncodeChar c = digits (mark (following c.toNat)) (following c.toNat) c.toNat := by
  have hv : c.val.toNat = c.toNat := rfl
  have hmax := toNat_lt c
  rw [String.utf8EncodeChar, hv]
  rcases following_cases c.toNat with ⟨h, hf⟩ | ⟨h, h', hf⟩ | ⟨h, h', hf⟩ | ⟨h, hf⟩ <;> rw [hf]
  · rw [if_pos (by omega)]
    simp [digits, mark]
  · rw [if_neg (by omega), if_pos (by omega), Nat.mod_eq_of_lt (by omega : c.toNat / 64 < 32)]
    simp [digits, mark, Nat.add_comm]
  · rw [if_neg (by omega), if_neg (by omega), if_pos (by omega),
      Nat.mod_eq_of_lt (by omega : c.toNat / 4096 < 16)]
    simp [digits, mark, Nat.add_comm, Nat.div_div_eq_div_mul]
  · rw [if_neg (by omega), if_neg (by omega), if_neg (by omega),
      Nat.mod_eq_of_lt (by omega : c.toNat / 262144 < 8)]
    simp [digits, mark, Nat.add_comm, Nat.div_div_eq_div_mul]

theorem exists_utf8EncodeChar_eq_cons (c : Char) :
    ∃ rest, String.utf8EncodeChar c = UInt8.ofNat (lead c.toNat) :: rest := by
  rw [utf8EncodeChar_eq_digits]
  exact exists_digits_eq_cons _ _ _

theorem lead_lt {n : Nat} (h : n < 0x110000) : lead n < 256 := by
  rcases following_cases n with ⟨hn, hf⟩ | ⟨hn, hn', hf⟩ | ⟨hn, hn', hf⟩ | ⟨hn, hf⟩ <;>
    simp only [lead, hf, mark] <;> omega

/-- **More bytes, a greater first byte.** -/
theorem lead_lt_lead {m n : Nat} (h : following m < following n) : lead m < lead n := by
  rcases following_cases m with ⟨hm, fm⟩ | ⟨hm, hm', fm⟩ | ⟨hm, hm', fm⟩ | ⟨hm, fm⟩ <;>
    rcases following_cases n with ⟨hn, fn⟩ | ⟨hn, hn', fn⟩ | ⟨hn, hn', fn⟩ | ⟨hn, fn⟩ <;>
    simp only [lead, fm, fn, mark] at * <;> omega

theorem utf8EncodeChar_append_lt {c d : Char} (h : c.toNat < d.toNat) (s t : List UInt8) :
    String.utf8EncodeChar c ++ s < String.utf8EncodeChar d ++ t := by
  have hlead := lead_lt (toNat_lt d)
  have hle : following c.toNat ≤ following d.toNat := by grind [following]
  rcases Nat.lt_or_eq_of_le hle with hlt | heq
  · obtain ⟨p, hp⟩ := exists_utf8EncodeChar_eq_cons c
    obtain ⟨q, hq⟩ := exists_utf8EncodeChar_eq_cons d
    rw [hp, hq]
    exact List.cons_lt_cons_iff.2 (.inl (ofNat_lt_ofNat (lead_lt_lead hlt) hlead))
  · rw [utf8EncodeChar_eq_digits, utf8EncodeChar_eq_digits, heq]
    exact digits_append_lt h hlead s t

/-! ## 3. Texts -/

theorem encode_lt_encode {s t : Text} (h : s < t) : encode s < encode t := by
  induction h with
  | @nil c t =>
    obtain ⟨rest, hrest⟩ := exists_utf8EncodeChar_eq_cons c
    rw [encode_cons, hrest]
    exact .nil
  | rel h => exact utf8EncodeChar_append_lt h _ _
  | cons h ih => exact List.append_left_lt ih

/-- **Texts are ordered by their bytes as they are by their characters.** -/
theorem encode_lt_encode_iff {s t : Text} : encode s < encode t ↔ s < t := by
  constructor
  · intro h
    by_contra hnot
    have hle := List.not_lt.1 hnot
    by_cases heq : s = t
    · exact List.lt_irrefl _ (heq ▸ h)
    · have hlt : t < s := List.not_le.1 fun hge => heq (List.le_antisymm hge hle)
      exact List.lt_asymm h (encode_lt_encode hlt)
  · intro h
    exact encode_lt_encode h

end Utf8
end TemplateExpansion
