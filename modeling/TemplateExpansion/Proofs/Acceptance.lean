/-
# Only the bytes of texts are accepted

`Utf8.decode?` accepts the bytes of every text.  It accepts no others (`decode?_eq_some_iff`), so bytes are those
of a text or are refused, and of one text at most.

While no byte has been invalid, the bytes read so far are those of a text and then, perhaps, the first digits of a
code point (`Stands`).  The decoder bounds the next byte so that all numbers which begin with these digits are code
points of characters, and need as many bytes as the first byte has announced (`Leads`).
-/
import Mathlib.Tactic.SplitIfs
import TemplateExpansion.Proofs.Decoding

namespace TemplateExpansion
namespace Utf8

/-! ## 1. The first digits of code points -/

/-- Every number that begins with the digits of `value` and has `missing` more is the code point of a character
with `more` bytes behind its first. -/
def Leads (more : Nat) : Nat → Nat → Prop
  | 0, value => value.isValidChar ∧ following value = more
  | missing + 1, value => ∀ digit < 64, Leads more missing (value * 64 + digit)

theorem following_eq_one {n : Nat} (h : 0x80 ≤ n) (h' : n < 0x800) : following n = 1 := by
  rw [following, if_neg (by omega), if_pos h']

theorem following_eq_two {n : Nat} (h : 0x800 ≤ n) (h' : n < 0x10000) : following n = 2 := by
  rw [following, if_neg (by omega), if_neg (by omega), if_pos h']

theorem following_eq_three {n : Nat} (h : 0x10000 ≤ n) : following n = 3 := by
  rw [following, if_neg (by omega), if_neg (by omega), if_neg (by omega)]

/-- A code point with all its digits is that of a character, which is written with these digits. -/
theorem Leads.encode_ofNat {more value : Nat} (h : Leads more 0 value) :
    encode [Char.ofNat value] = digits (mark more) more value := by
  obtain ⟨hvalid, hmore⟩ := h
  have hnat : (Char.ofNat value).toNat = value := by
    rw [Char.ofNat, dif_pos hvalid]
    rfl
  rw [encode_cons, encode_nil, List.append_nil, utf8EncodeChar_eq_digits, hnat, hmore]

/-- One digit more, as the byte that carries it. -/
theorem digits_succ {marked sofar value digit : Nat} (h : digit < 64) :
    digits marked (sofar + 1) (value * 64 + digit) =
      digits marked sofar value ++ [UInt8.ofNat (0x80 + digit)] := by
  have hrest : (value * 64 + digit) / 64 = value := by omega
  have hdigit : (value * 64 + digit) % 64 = digit := by omega
  rw [digits, hrest, hdigit]

/-! ## 2. What the decoder stands for -/

/-- The decoder has read these bytes, none of which was invalid: those of a text, and then perhaps the first
digits of a code point. -/
inductive Stands (bytes : List UInt8) : Decoder → Prop
  | start (t : Text) (hbytes : bytes = encode t) : Stands bytes ⟨.start, (t.map some).reverse⟩
  | more (t : Text) (sofar : Nat) {missing value low high : Nat}
      (hbytes : bytes = encode t ++ digits (mark (sofar + missing + 1)) sofar value)
      (hlow : 0x80 ≤ low) (hhigh : high ≤ 0xBF)
      (hleads : ∀ digit, low ≤ 0x80 + digit → 0x80 + digit ≤ high →
        Leads (sofar + missing + 1) missing (value * 64 + digit)) :
      Stands bytes ⟨.more (missing + 1) value low high, (t.map some).reverse⟩

namespace Decoder

theorem none_mem_begin {us : List (Option Char)} (h : none ∈ us) (b : Nat) : none ∈ (begin us b).units := by
  unfold begin
  repeat' split
  all_goals simp [h]

theorem none_mem_step {d : Decoder} (h : none ∈ d.units) (byte : UInt8) : none ∈ (step d byte).units := by
  obtain ⟨expectation, us⟩ := d
  cases expectation with
  | start => exact none_mem_begin h _
  | more missing value low high =>
    simp only [step]
    split
    · split
      · exact List.mem_cons_of_mem _ h
      · exact h
    · exact none_mem_begin (List.mem_cons_of_mem _ h) _

end Decoder

theorem none_mem_decodeFrom {d : Decoder} (h : none ∈ d.units) (bytes : List UInt8) :
    none ∈ (decodeFrom d bytes).units := by
  induction bytes generalizing d with
  | nil => exact h
  | cons byte bytes ih => exact ih (Decoder.none_mem_step h byte)

/-- A byte that is a character of its own. -/
theorem Stands.single (t : Text) {byte : UInt8} (h : byte.toNat < 0x80) :
    Stands (encode t ++ [byte]) ⟨.start, some (Char.ofNat byte.toNat) :: (t.map some).reverse⟩ := by
  have hleads : Leads 0 0 byte.toNat := ⟨.inl (by omega), by rw [following, if_pos h]⟩
  have hunits : some (Char.ofNat byte.toNat) :: (t.map some).reverse =
      ((t ++ [Char.ofNat byte.toNat]).map some).reverse := by simp
  rw [hunits]
  refine .start _ ?_
  rw [encode_append, hleads.encode_ofNat]
  simp [digits, mark]

/-- A first byte that announces more of them. -/
theorem Stands.announce (t : Text) {byte : UInt8} {missing value low high : Nat}
    (hbyte : byte.toNat = mark (missing + 1) + value) (hlow : 0x80 ≤ low) (hhigh : high ≤ 0xBF)
    (hleads : ∀ digit, low ≤ 0x80 + digit → 0x80 + digit ≤ high →
      Leads (missing + 1) missing (value * 64 + digit)) :
    Stands (encode t ++ [byte]) ⟨.more (missing + 1) value low high, (t.map some).reverse⟩ := by
  refine .more t 0 ?_ hlow hhigh (by simpa using hleads)
  rw [digits, Nat.zero_add, ← hbyte, UInt8.ofNat_toNat]

/-- **The first byte of a character** is the character, or announces more bytes, or no character begins with it.
The second byte is bounded so that the number is neither too small for its bytes, nor a surrogate, nor too large. -/
theorem Stands.begin (t : Text) (byte : UInt8) :
    none ∈ (Decoder.begin (t.map some).reverse byte.toNat).units ∨
      Stands (encode t ++ [byte]) (Decoder.begin (t.map some).reverse byte.toNat) := by
  unfold Decoder.begin
  split_ifs with hascii htwo hsmallThree hsurrogate hthree hsmallFour hfour hlargeFour
  · exact .inr (.single t hascii)
  · refine .inr (.announce t (by simp only [mark]; omega) (by decide) (by decide) ?_)
    intro digit hlow hhigh
    exact ⟨.inl (by omega), following_eq_one (by omega) (by omega)⟩
  · refine .inr (.announce t (by simp only [mark]; omega) (by decide) (by decide) ?_)
    intro digit hlow hhigh second hsecond
    exact ⟨.inl (by omega), following_eq_two (by omega) (by omega)⟩
  · refine .inr (.announce t (by simp only [mark]; omega) (by decide) (by decide) ?_)
    intro digit hlow hhigh second hsecond
    exact ⟨.inl (by omega), following_eq_two (by omega) (by omega)⟩
  · refine .inr (.announce t (by simp only [mark]; omega) (by decide) (by decide) ?_)
    intro digit hlow hhigh second hsecond
    refine ⟨?_, following_eq_two (by omega) (by omega)⟩
    rw [Nat.isValidChar]
    omega
  · refine .inr (.announce t (by simp only [mark]; omega) (by decide) (by decide) ?_)
    intro digit hlow hhigh second hsecond third hthird
    exact ⟨.inr (by omega), following_eq_three (by omega)⟩
  · refine .inr (.announce t (by simp only [mark]; omega) (by decide) (by decide) ?_)
    intro digit hlow hhigh second hsecond third hthird
    exact ⟨.inr (by omega), following_eq_three (by omega)⟩
  · refine .inr (.announce t (by simp only [mark]; omega) (by decide) (by decide) ?_)
    intro digit hlow hhigh second hsecond third hthird
    exact ⟨.inr (by omega), following_eq_three (by omega)⟩
  · exact .inl List.mem_cons_self

/-- A further byte is one digit more; with the last one the character is complete. -/
theorem Stands.digit (t : Text) {byte : UInt8} {sofar missing value low high : Nat}
    (hlow : 0x80 ≤ low) (hhigh : high ≤ 0xBF)
    (hleads : ∀ digit, low ≤ 0x80 + digit → 0x80 + digit ≤ high →
      Leads (sofar + missing + 1) missing (value * 64 + digit))
    (hrange : low ≤ byte.toNat ∧ byte.toNat ≤ high) :
    Stands (encode t ++ digits (mark (sofar + missing + 1)) sofar value ++ [byte])
      (Decoder.step ⟨.more (missing + 1) value low high, (t.map some).reverse⟩ byte) := by
  obtain ⟨digit, hdigit⟩ : ∃ digit, byte.toNat = 0x80 + digit := ⟨byte.toNat - 0x80, by omega⟩
  have hnext := hleads digit (by omega) (by omega)
  have hbyte : [byte] = [UInt8.ofNat (0x80 + digit)] := by rw [← hdigit, UInt8.ofNat_toNat]
  have hsub : byte.toNat - 0x80 = digit := by omega
  rw [List.append_assoc, hbyte, ← digits_succ (by omega)]
  simp only [Decoder.step, if_pos hrange, hsub]
  cases missing with
  | zero =>
    have hunits : some (Char.ofNat (value * 64 + digit)) :: (t.map some).reverse =
        ((t ++ [Char.ofNat (value * 64 + digit)]).map some).reverse := by simp
    rw [if_pos (Nat.le_refl _), hunits]
    refine .start _ ?_
    rw [encode_append, hnext.encode_ofNat]
  | succ missing =>
    rw [if_neg (by omega)]
    refine .more t (sofar + 1) ?_ (Nat.le_refl _) (Nat.le_refl _) ?_
    · rw [Nat.add_right_comm sofar 1 missing]
      rfl
    · intro second hlow hhigh
      rw [Nat.add_right_comm sofar 1 missing]
      exact hnext second (by omega)

theorem Stands.step {bytes : List UInt8} {d : Decoder} (h : Stands bytes d) (byte : UInt8) :
    none ∈ (d.step byte).units ∨ Stands (bytes ++ [byte]) (d.step byte) := by
  cases h with
  | start t hbytes =>
    rw [hbytes]
    exact Stands.begin t byte
  | @more t sofar missing value low high hbytes hlow hhigh hleads =>
    rw [hbytes]
    by_cases hrange : low ≤ byte.toNat ∧ byte.toNat ≤ high
    · exact .inr (Stands.digit t hlow hhigh hleads hrange)
    · refine .inl ?_
      simp only [Decoder.step, if_neg hrange]
      exact Decoder.none_mem_begin List.mem_cons_self _

theorem Stands.decodeFrom {bytes : List UInt8} {d : Decoder} (h : Stands bytes d) (more : List UInt8) :
    none ∈ (decodeFrom d more).units ∨ Stands (bytes ++ more) (decodeFrom d more) := by
  induction more generalizing bytes d with
  | nil =>
    rw [List.append_nil]
    exact .inr h
  | cons byte more ih =>
    rcases h.step byte with hnone | hstands
    · exact .inl (none_mem_decodeFrom hnone more)
    · rw [List.append_cons]
      exact ih hstands

/-! ## 3. Texts -/

/-- Units none of which is invalid are those of a text whose bytes these are. -/
theorem exists_encode_of_none_not_mem {bytes : List UInt8} (h : none ∉ units bytes) :
    ∃ t, bytes = encode t ∧ units bytes = t.map some := by
  have hstart : Stands [] .initial := .start [] rfl
  rcases hstart.decodeFrom bytes with hnone | hstands
  · refine absurd ?_ h
    rw [units, Decoder.finish]
    split <;> simp [hnone]
  · rw [List.nil_append] at hstands
    generalize hd : Utf8.decodeFrom .initial bytes = d at hstands
    cases hstands with
    | start t hbytes => exact ⟨t, hbytes, by rw [units, hd, Decoder.finish, List.reverse_reverse]⟩
    | more t _ hbytes => exact absurd (by rw [units, hd]; simp [Decoder.finish]) h

/-- **Bytes are accepted exactly if they are those of a text**, and stand for that text. -/
theorem decode?_eq_some_iff {bytes : List UInt8} {t : Text} : decode? bytes = some t ↔ bytes = encode t := by
  constructor
  · intro h
    have hvalid : none ∉ units bytes := by
      intro hnone
      have hall : (units bytes).all Option.isSome = false :=
        List.all_eq_false.2 ⟨none, hnone, by simp⟩
      simp [decode?, hall] at h
    obtain ⟨t', rfl, -⟩ := exists_encode_of_none_not_mem hvalid
    rw [Option.some.inj ((decode?_encode t').symm.trans h)]
  · rintro rfl
    exact decode?_encode t

end Utf8
end TemplateExpansion
