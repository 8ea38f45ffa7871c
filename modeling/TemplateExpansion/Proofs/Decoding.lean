/-
# What is encoded is decoded

The bytes of a text are decoded to the text (`decodeLossy_encode`, `decode?_encode`), since the decoder comes
back to the start of a character after each one (`decodeFrom_utf8EncodeChar`).  Its first byte tells how many
more bytes the character has, and which of them may come next (`begin_two`, `begin_three`, `begin_four`); every
further byte is six more bits (`step_more`, `step_last`).
-/
import TemplateExpansion.Proofs.ByteOrder

namespace TemplateExpansion
namespace Utf8

/-! ## 1. The bytes of a character -/

namespace Decoder

variable (us : List (Option Char))

theorem begin_two {n : Nat} (h : 0x80 ≤ n) (h' : n < 0x800) :
    begin us (0xC0 + n / 64) = ⟨.more 1 (n / 64) 0x80 0xBF, us⟩ := by
  rw [begin, if_neg (by omega), if_pos (by omega), Nat.add_sub_cancel_left]

/-- The first byte of three excludes what two bytes can write, and the surrogates. -/
theorem begin_three {n : Nat} (h : 0x800 ≤ n) (h' : n < 0x10000) (hs : n < 0xD800 ∨ 0xDFFF < n) :
    ∃ low high, begin us (0xE0 + n / 64 / 64) = ⟨.more 2 (n / 64 / 64) low high, us⟩ ∧
      low ≤ 0x80 + n / 64 % 64 ∧ 0x80 + n / 64 % 64 ≤ high := by
  by_cases hfirst : n / 64 / 64 = 0
  · refine ⟨0xA0, 0xBF, ?_, by omega, by omega⟩
    rw [hfirst]
    rfl
  · by_cases hsurrogate : n / 64 / 64 = 0xD
    · refine ⟨0x80, 0x9F, ?_, by omega, by omega⟩
      rw [hsurrogate]
      rfl
    · refine ⟨0x80, 0xBF, ?_, by omega, by omega⟩
      rw [begin, if_neg (by omega), if_neg (by omega), if_neg (by omega), if_neg (by omega),
        if_pos (by omega), Nat.add_sub_cancel_left]

/-- The first byte of four excludes what three bytes can write, and what no character has. -/
theorem begin_four {n : Nat} (h : 0x10000 ≤ n) (h' : n < 0x110000) :
    ∃ low high, begin us (0xF0 + n / 64 / 64 / 64) = ⟨.more 3 (n / 64 / 64 / 64) low high, us⟩ ∧
      low ≤ 0x80 + n / 64 / 64 % 64 ∧ 0x80 + n / 64 / 64 % 64 ≤ high := by
  by_cases hfirst : n / 64 / 64 / 64 = 0
  · refine ⟨0x90, 0xBF, ?_, by omega, by omega⟩
    rw [hfirst]
    rfl
  · by_cases hlast : n / 64 / 64 / 64 = 4
    · refine ⟨0x80, 0x8F, ?_, by omega, by omega⟩
      rw [hlast]
      rfl
    · refine ⟨0x80, 0xBF, ?_, by omega, by omega⟩
      rw [begin, if_neg (by omega), if_neg (by omega), if_neg (by omega), if_neg (by omega),
        if_neg (by omega), if_neg (by omega), if_pos (by omega), Nat.add_sub_cancel_left]

variable {us}

theorem step_start {b : Nat} (hb : b < 256) : step ⟨.start, us⟩ (UInt8.ofNat b) = begin us b := by
  have hbyte : (UInt8.ofNat b).toNat = b := by
    rw [UInt8.toNat_ofNat']
    omega
  simp only [step, hbyte]

variable {value low high n : Nat} (hlow : low ≤ 0x80 + n % 64) (hhigh : 0x80 + n % 64 ≤ high)

include hlow hhigh

theorem step_more {missing : Nat} :
    step ⟨.more (missing + 2) value low high, us⟩ (UInt8.ofNat (0x80 + n % 64)) =
      ⟨.more (missing + 1) (value * 64 + n % 64) 0x80 0xBF, us⟩ := by
  have hb : (UInt8.ofNat (0x80 + n % 64)).toNat = 0x80 + n % 64 := by
    rw [UInt8.toNat_ofNat']
    omega
  simp only [step, hb]
  rw [if_pos ⟨hlow, hhigh⟩, if_neg (by omega), Nat.add_sub_cancel_left]
  rfl

theorem step_last :
    step ⟨.more 1 value low high, us⟩ (UInt8.ofNat (0x80 + n % 64)) =
      ⟨.start, some (Char.ofNat (value * 64 + n % 64)) :: us⟩ := by
  have hb : (UInt8.ofNat (0x80 + n % 64)).toNat = 0x80 + n % 64 := by
    rw [UInt8.toNat_ofNat']
    omega
  simp only [step, hb]
  rw [if_pos ⟨hlow, hhigh⟩, if_pos (Nat.le_refl 1), Nat.add_sub_cancel_left]

end Decoder

open Decoder in
/-- **After the bytes of a character** the decoder has the character and is at the start of the next. -/
theorem decodeFrom_utf8EncodeChar (us : List (Option Char)) (c : Char) :
    decodeFrom ⟨.start, us⟩ (String.utf8EncodeChar c) = ⟨.start, some c :: us⟩ := by
  have hmax := toNat_lt c
  have hsurrogate : c.toNat < 0xD800 ∨ 0xDFFF < c.toNat := c.valid.imp_right And.left
  have hchar : ∀ n, n = c.toNat → Char.ofNat n = c := by
    rintro n rfl
    exact Char.ofNat_toNat c
  rw [utf8EncodeChar_eq_digits]
  rcases following_cases c.toNat with ⟨h, hf⟩ | ⟨h, h', hf⟩ | ⟨h, h', hf⟩ | ⟨h, hf⟩ <;>
    rw [hf] <;>
    simp only [digits, mark, List.cons_append, List.nil_append, decodeFrom, List.foldl_cons, List.foldl_nil]
  · rw [step_start (by omega), begin, if_pos (by omega), hchar _ (Nat.zero_add _)]
  · rw [step_start (by omega), begin_two us h h', step_last (by omega) (by omega), hchar _ (by omega)]
  · obtain ⟨low, high, hbegin, hlow, hhigh⟩ := begin_three us h h' hsurrogate
    rw [step_start (by omega), hbegin, step_more hlow hhigh, step_last (by omega) (by omega),
      hchar _ (by omega)]
  · obtain ⟨low, high, hbegin, hlow, hhigh⟩ := begin_four us h hmax
    rw [step_start (by omega), hbegin, step_more hlow hhigh, step_more (by omega) (by omega),
      step_last (by omega) (by omega), hchar _ (by omega)]

/-! ## 2. Texts -/

theorem decodeFrom_encode (us : List (Option Char)) (t : Text) :
    decodeFrom ⟨.start, us⟩ (encode t) = ⟨.start, (t.map some).reverse ++ us⟩ := by
  induction t generalizing us with
  | nil => rfl
  | cons c t ih =>
    rw [encode_cons, decodeFrom_append, decodeFrom_utf8EncodeChar, ih]
    simp

theorem units_encode (t : Text) : units (encode t) = t.map some := by
  rw [units, Decoder.initial, decodeFrom_encode, List.append_nil]
  exact List.reverse_reverse _

/-- **What is encoded is decoded**, and nothing of it is replaced. -/
theorem decodeLossy_encode (t : Text) : decodeLossy (encode t) = t := by
  rw [decodeLossy, units_encode, List.map_map]
  exact List.map_id t

/-- **The bytes of a text are accepted** and stand for the text. -/
theorem decode?_encode (t : Text) : decode? (encode t) = some t := by
  have hall : (t.map some).all Option.isSome = true := by simp
  rw [decode?, units_encode, if_pos hall]
  simp [List.filterMap_map]

end Utf8
end TemplateExpansion
