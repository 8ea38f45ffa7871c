/-
# Bytes and characters

A place in a text is a byte offset, and a text is a list of characters.  Two facts take one to the other.

* A character below 128 is one byte, and its byte stands in no other character.  So where such a byte
  stands among the bytes of a text, its character stands in the text (`getElem?_encode_eq_some_iff`).
* Of two texts that begin one text, the one of fewer bytes begins the other (`isPrefix_of_byteSize_le`).
  So the text before a byte offset begins every part that reaches that far (`upTo_isPrefix`).
-/
import TemplateExpansion.Text.Utf8
import TemplateExpansion.Proofs.Position

namespace TemplateExpansion

/-! ## 1. Characters of one byte -/

namespace Utf8

/-- All bytes of a character from 128 on are from 128 on. -/
theorem le_of_mem_utf8EncodeChar {d : Char} (hd : 128 ≤ d.toNat) {b : UInt8}
    (hb : b ∈ String.utf8EncodeChar d) : 128 ≤ b.toNat := by
  have hv : ¬ d.val.toNat ≤ 127 := Nat.not_le.2 hd
  rw [String.utf8EncodeChar, if_neg hv] at hb
  split at hb
  · simp only [List.mem_cons, List.not_mem_nil, or_false] at hb
    rcases hb with rfl | rfl <;> rw [UInt8.toNat_ofNat'] <;> omega
  · split at hb
    · simp only [List.mem_cons, List.not_mem_nil, or_false] at hb
      rcases hb with rfl | rfl | rfl <;> rw [UInt8.toNat_ofNat'] <;> omega
    · simp only [List.mem_cons, List.not_mem_nil, or_false] at hb
      rcases hb with rfl | rfl | rfl | rfl <;> rw [UInt8.toNat_ofNat'] <;> omega

/-- The bytes between the ends of a part are those of the part. -/
theorem encode_extract (s t r : Text) :
    (encode (s ++ t ++ r)).extract s.byteSize (s ++ t).byteSize = encode t := by
  have hs : (encode s ++ (encode t ++ encode r)).drop s.byteSize = encode t ++ encode r := by
    rw [← length_encode, List.drop_left]
  have ht : (s ++ t).byteSize - s.byteSize = (encode t).length := by simp
  rw [encode_append, encode_append, List.append_assoc, List.extract_eq_take_drop, hs, ht, List.take_left]

variable {c : Char} (hc : c.toNat < 128)

include hc

theorem utf8EncodeChar_of_lt : String.utf8EncodeChar c = [c.toUInt8] := by
  have hv : c.val.toNat ≤ 127 := Nat.le_of_lt_succ hc
  rw [String.utf8EncodeChar, if_pos hv]
  rfl

theorem toNat_toUInt8_of_lt : c.toUInt8.toNat = c.toNat := by
  have hmod : c.toUInt8.toNat = c.toNat % 256 := UInt32.toNat_toUInt8 c.val
  omega

/-- The byte of such a character stands in no other. -/
theorem eq_of_mem_utf8EncodeChar {d : Char} (h : c.toUInt8 ∈ String.utf8EncodeChar d) : d = c := by
  have hbyte := toNat_toUInt8_of_lt hc
  by_cases hd : d.toNat < 128
  · rw [utf8EncodeChar_of_lt hd, List.mem_singleton] at h
    have hnat : d.toNat = c.toNat := by rw [← hbyte, h, toNat_toUInt8_of_lt hd]
    exact Char.ext (UInt32.toNat_inj.1 hnat)
  · have hle := le_of_mem_utf8EncodeChar (Nat.le_of_not_lt hd) h
    omega

/-- **Where its byte stands among the bytes of a text, the character stands in the text.** -/
theorem getElem?_encode_eq_some_iff {t : Text} {i : Nat} :
    (encode t)[i]? = some c.toUInt8 ↔ ∃ s r, t = s ++ c :: r ∧ s.byteSize = i := by
  constructor
  · intro h
    induction t generalizing i with
    | nil => simp at h
    | cons d t ih =>
      rw [encode_cons] at h
      by_cases hi : i < d.utf8Size
      · -- The byte is one of the first character, which has no other then.
        rw [List.getElem?_append_left (by simpa using hi)] at h
        obtain rfl := eq_of_mem_utf8EncodeChar hc (List.mem_of_getElem? h)
        have hsize : d.utf8Size = 1 := by
          rw [← String.length_utf8EncodeChar, utf8EncodeChar_of_lt hc, List.length_singleton]
        exact ⟨[], t, rfl, by simp; omega⟩
      · rw [List.getElem?_append_right (by simpa using hi), String.length_utf8EncodeChar] at h
        obtain ⟨s, r, rfl, hs⟩ := ih h
        exact ⟨d :: s, r, rfl, by rw [Text.byteSize_cons]; omega⟩
  · rintro ⟨s, r, rfl, rfl⟩
    rw [encode_append, List.getElem?_append_right (by simp)]
    simp [utf8EncodeChar_of_lt hc]

end Utf8

/-! ## 2. Parts from the beginning -/

namespace Text

@[simp] theorem utf8Size_openBrace : ('{' : Char).utf8Size = 1 := rfl

@[simp] theorem utf8Size_closeBrace : ('}' : Char).utf8Size = 1 := rfl

@[simp] theorem utf8Size_backslash : ('\\' : Char).utf8Size = 1 := rfl

/-- Between two characters of the text, or at one of its ends. -/
def IsBoundary (t : Text) (offset : Nat) : Prop := ∃ s r, t = s ++ r ∧ s.byteSize = offset

theorem IsBoundary.le {t : Text} {offset : Nat} (h : t.IsBoundary offset) : offset ≤ t.byteSize := by
  obtain ⟨s, r, rfl, rfl⟩ := h
  rw [byteSize_append]
  exact Nat.le_add_right _ _

theorem byteSize_eq_zero {t : Text} : t.byteSize = 0 ↔ t = [] := by
  constructor
  · intro h
    cases t with
    | nil => rfl
    | cons c t =>
      have := Char.utf8Size_pos c
      rw [byteSize_cons] at h
      omega
  · rintro rfl
    rfl

/-- **Of two beginnings of one text, that of fewer bytes begins the other.** -/
theorem isPrefix_of_byteSize_le {s r s' r' : Text} (h : s ++ r = s' ++ r')
    (hle : s.byteSize ≤ s'.byteSize) : s <+: s' := by
  rcases List.append_eq_append_iff.1 h with ⟨m, rfl, -⟩ | ⟨m, rfl, -⟩
  · exact List.prefix_append s m
  · have hm : m = [] := byteSize_eq_zero.1 (by rw [byteSize_append] at hle; omega)
    simp [hm]

theorem eq_of_byteSize_eq {s r s' r' : Text} (h : s ++ r = s' ++ r')
    (hsize : s.byteSize = s'.byteSize) : s = s' := by
  rw [← upTo_byteSize s r, h, hsize, upTo_byteSize]

theorem splitOffsetFrom_isPrefix (passed : Text) {n : Nat} {s : Text} (hn : n ≤ s.byteSize) (r : Text) :
    (splitOffsetFrom passed n (s ++ r)).1 <+: passed.reverse ++ s := by
  induction s generalizing passed n with
  | nil =>
    obtain rfl : n = 0 := Nat.le_zero.1 hn
    rw [splitOffsetFrom]
    exact List.prefix_append _ _
  | cons c s ih =>
    cases n with
    | zero => exact List.prefix_append _ _
    | succ n =>
      have hstep := ih (c :: passed) (n := n + 1 - c.utf8Size) (by rw [byteSize_cons] at hn; omega)
      simpa [splitOffsetFrom] using hstep

/-- **The text before an offset begins every part that reaches as far.** -/
theorem upTo_isPrefix {offset : Nat} {s : Text} (h : offset ≤ s.byteSize) (r : Text) :
    upTo offset (s ++ r) <+: s :=
  splitOffsetFrom_isPrefix [] h r

theorem le_byteSize_splitOffsetFrom (passed : Text) (n : Nat) (t : Text) :
    (splitOffsetFrom passed n t).2 = [] ∨ passed.byteSize + n ≤ (splitOffsetFrom passed n t).1.byteSize := by
  induction t generalizing passed n with
  | nil => cases n <;> exact .inl rfl
  | cons c t ih =>
    cases n with
    | zero => exact .inr (by simp [splitOffsetFrom])
    | succ n =>
      refine (ih (c :: passed) (n + 1 - c.utf8Size)).imp_right fun h => ?_
      rw [byteSize_cons] at h
      rw [splitOffsetFrom]
      omega

/-- It reaches that far itself, unless nothing stands behind it. -/
theorem le_byteSize_upTo {offset : Nat} {t : Text} (h : startingAt offset t ≠ []) :
    offset ≤ (upTo offset t).byteSize := by
  rcases le_byteSize_splitOffsetFrom [] offset t with hnil | hle
  · exact absurd hnil h
  · rwa [byteSize_nil, Nat.zero_add] at hle

end Text

end TemplateExpansion
