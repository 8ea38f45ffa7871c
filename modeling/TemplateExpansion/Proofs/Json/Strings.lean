/-
# Strings of a JSON document, read and passed over

A string is passed over whatever its escapes stand for (`skipString_spelling`), and is read if its pieces make
a text (`readString_spelling`).  The reader gathers bytes and looks at them once it has all, so what is shown
piece by piece is about bytes (`readStringBytes_spelling`).
-/
import TemplateExpansion.Proofs.Bytes
import TemplateExpansion.Proofs.Decoding
import TemplateExpansion.Proofs.Json.Notation

namespace TemplateExpansion
namespace Json

/-! ## 1. Pieces -/

/-- A byte that means nothing of its own in a string. -/
def IsPlainByte (b : UInt8) : Prop := b ≠ 0x22 ∧ b ≠ 0x5C ∧ ¬ b < 0x20

/-- **A character that stands for itself** has only bytes that do. -/
theorem IsPlain.isPlainByte {c : Char} (hc : IsPlain c) {b : UInt8} (hb : b ∈ String.utf8EncodeChar c) :
    IsPlainByte b := by
  obtain ⟨hcontrol, hquote, hbackslash⟩ := hc
  by_cases hascii : c.toNat < 128
  · rw [Utf8.utf8EncodeChar_of_lt hascii, List.mem_singleton] at hb
    subst hb
    have hnat := Utf8.toNat_toUInt8_of_lt hascii
    refine ⟨?_, ?_, ?_⟩
    · intro h
      exact hquote (Char.toNat_inj.1 (hnat.symm.trans (congrArg UInt8.toNat h)))
    · intro h
      exact hbackslash (Char.toNat_inj.1 (hnat.symm.trans (congrArg UInt8.toNat h)))
    · rw [UInt8.lt_iff_toNat_lt, hnat]
      exact Nat.not_lt.2 hcontrol
  · have hhigh := Utf8.le_of_mem_utf8EncodeChar (Nat.le_of_not_lt hascii) hb
    refine ⟨?_, ?_, ?_⟩
    · rintro rfl
      exact absurd hhigh (by decide)
    · rintro rfl
      exact absurd hhigh (by decide)
    · rw [UInt8.lt_iff_toNat_lt]
      exact Nat.not_lt.2 (Nat.le_trans (by decide) hhigh)

theorem hexValue?_byte (d : HexDigit) : hexValue? d.byte = some d.value.val := by
  have hall : ∀ (v : Fin 16) (isLarge : Bool), hexValue? (HexDigit.byte ⟨v, isLarge⟩) = some v.val := by
    decide
  exact hall d.value d.isLarge

/-- **Four digits are read** as their number. -/
theorem readHex_bytes (u : CodeUnit) (rest : Bytes) : readHex (u.bytes ++ rest) = .ok (u.value, rest) := by
  simp only [CodeUnit.bytes, List.cons_append, List.nil_append, readHex, hexValue?_byte]
  rfl

theorem simpleEscape?_byte (l : Letter) : simpleEscape? l.byte = some l.char := by
  cases l <;> rfl

/-! ## 2. Passing over a string -/

theorem skipString_plain {bytes : Bytes} (h : ∀ b ∈ bytes, IsPlainByte b) (rest : Bytes) :
    skipString (bytes ++ rest) = skipString rest := by
  induction bytes with
  | nil => rfl
  | cons b bytes ih =>
    obtain ⟨hquote, hbackslash, hcontrol⟩ := h b List.mem_cons_self
    rw [List.cons_append, skipString, if_neg hquote, if_neg hbackslash, if_neg hcontrol]
    exact ih fun x hx => h x (List.mem_cons_of_mem b hx)

theorem skipString_escape {rest left : Bytes} (h : skipEscape rest = .ok left) :
    skipString (0x5C :: rest) = skipString left := by
  rw [skipString, if_neg (by decide), if_pos rfl]
  split
  · rename_i fault hfault
    exact absurd (h.symm.trans hfault) (by simp)
  · rename_i left' hleft
    obtain rfl := Except.ok.inj (h.symm.trans hleft)
    rfl

theorem skipEscape_code (u : CodeUnit) (rest : Bytes) :
    skipEscape (0x75 :: (u.bytes ++ rest)) = .ok rest := by
  have hu : simpleEscape? 0x75 = none := rfl
  simp [skipEscape, hu, readHex_bytes, Except.map]

theorem skipString_piece (p : Piece) (rest : Bytes) : skipString (p.bytes ++ rest) = skipString rest := by
  cases p with
  | plain c hc => exact skipString_plain (fun _ hb => hc.isPlainByte hb) rest
  | letter l =>
    refine skipString_escape ?_
    simp [skipEscape, simpleEscape?_byte]
  | code u =>
    exact skipString_escape (skipEscape_code u rest)

/-- **A string is passed over**, whatever its escapes stand for. -/
theorem skipString_spelling (s : Spelling) (rest : Bytes) :
    skipString (s.bytes ++ 0x22 :: rest) = .ok rest := by
  induction s with
  | nil =>
    rw [Spelling.bytes, List.flatMap_nil, List.nil_append, skipString, if_pos rfl]
  | cons p s ih =>
    rw [Spelling.bytes, List.flatMap_cons, List.append_assoc, skipString_piece]
    exact ih

/-! ## 3. Reading a string -/

theorem readStringBytes_plain {bytes : Bytes} (h : ∀ b ∈ bytes, IsPlainByte b)
    (read rest : Bytes) :
    readStringBytes read (bytes ++ rest) = readStringBytes (bytes.reverse ++ read) rest := by
  induction bytes generalizing read with
  | nil => rfl
  | cons b bytes ih =>
    obtain ⟨hquote, hbackslash, hcontrol⟩ := h b List.mem_cons_self
    rw [List.cons_append, readStringBytes, if_neg hquote, if_neg hbackslash, if_neg hcontrol,
      ih fun x hx => h x (List.mem_cons_of_mem b hx), List.reverse_cons, List.append_assoc]
    rfl

theorem readStringBytes_escape {rest left : Bytes} {c : Char} (h : readEscape rest = .ok (c, left))
    (read : Bytes) :
    readStringBytes read (0x5C :: rest) =
      readStringBytes ((String.utf8EncodeChar c).reverse ++ read) left := by
  rw [readStringBytes, if_neg (by decide), if_pos rfl]
  split
  · rename_i fault hfault
    exact absurd (h.symm.trans hfault) (by simp)
  · rename_i c' left' hleft
    obtain ⟨rfl, rfl⟩ := Prod.mk.inj (Except.ok.inj (h.symm.trans hleft))
    rfl

theorem readEscape_code (u : CodeUnit) (rest : Bytes) :
    readEscape (0x75 :: (u.bytes ++ rest)) = readCodePoint (u.bytes ++ rest) := by
  have hu : simpleEscape? 0x75 = none := rfl
  simp only [readEscape, hu, if_true]

/-- An escape by number that is no half of a character. -/
theorem readCodePoint_whole {u : CodeUnit} (hlow : ¬ (0xDC00 ≤ u.value ∧ u.value ≤ 0xDFFF))
    (hhigh : ¬ (0xD800 ≤ u.value ∧ u.value ≤ 0xDBFF)) (rest : Bytes) :
    readCodePoint (u.bytes ++ rest) = .ok (Char.ofNat u.value, rest) := by
  simp only [readCodePoint, readHex_bytes, if_neg hlow, if_neg hhigh]

/-- Two escapes by number that are the halves of a character. -/
theorem readCodePoint_halves {u v : CodeUnit} (hu : 0xD800 ≤ u.value ∧ u.value ≤ 0xDBFF)
    (hv : 0xDC00 ≤ v.value ∧ v.value ≤ 0xDFFF) (rest : Bytes) :
    readCodePoint (u.bytes ++ 0x5C :: 0x75 :: (v.bytes ++ rest)) =
      .ok (Char.ofNat (0x10000 + (u.value - 0xD800) * 0x400 + (v.value - 0xDC00)), rest) := by
  have hlow : ¬ (0xDC00 ≤ u.value ∧ u.value ≤ 0xDFFF) := fun h => by omega
  simp [readCodePoint, readHex_bytes, hlow, hu, readLowSurrogate, hv]

/-- **The bytes of a string** are those of the text it stands for. -/
theorem readStringBytes_spelling {s : Spelling} {t : Text} (h : s.text? = some t) (read rest : Bytes) :
    readStringBytes read (s.bytes ++ 0x22 :: rest) = .ok (read.reverse ++ Utf8.encode t, rest) := by
  induction s using Spelling.text?.induct generalizing t read with
  | case1 =>
    obtain rfl := Option.some.inj h
    rw [Spelling.bytes, List.flatMap_nil, List.nil_append, readStringBytes, if_pos rfl, Utf8.encode_nil,
      List.append_nil]
  | case2 c hc s ih =>
    rw [Spelling.text?, Option.map_eq_some_iff] at h
    obtain ⟨t, ht, rfl⟩ := h
    rw [Spelling.bytes, List.flatMap_cons, List.append_assoc, Piece.bytes,
      readStringBytes_plain fun _ hb => hc.isPlainByte hb]
    exact (ih ht _).trans (by simp)
  | case3 l s ih =>
    rw [Spelling.text?, Option.map_eq_some_iff] at h
    obtain ⟨t, ht, rfl⟩ := h
    have hl : ∀ left, readEscape (l.byte :: left) = .ok (l.char, left) := fun left => by
      simp only [readEscape, simpleEscape?_byte]
    rw [Spelling.bytes, List.flatMap_cons, List.append_assoc, Piece.bytes]
    refine (readStringBytes_escape (hl _) read).trans ?_
    exact (ih ht _).trans (by simp)
  | case4 u s hlow =>
    unfold Spelling.text? at h
    rw [if_pos hlow] at h
    cases h
  | case5 u hlow hhigh v s hv ih =>
    rw [Spelling.text?, if_neg hlow, if_pos hhigh] at h
    rw [if_pos hv, Option.map_eq_some_iff] at h
    obtain ⟨t, ht, rfl⟩ := h
    have hescape : ∀ left, readEscape (0x75 :: (u.bytes ++ 0x5C :: 0x75 :: (v.bytes ++ left))) =
        .ok (Char.ofNat (0x10000 + (u.value - 0xD800) * 0x400 + (v.value - 0xDC00)), left) := fun left =>
      (readEscape_code u _).trans (readCodePoint_halves hhigh hv left)
    rw [Spelling.bytes, List.flatMap_cons, List.flatMap_cons, List.append_assoc, List.append_assoc, Piece.bytes,
      Piece.bytes]
    refine (readStringBytes_escape (hescape _) read).trans ?_
    exact (ih ht _).trans (by simp)
  | case6 u hlow hhigh v s hv =>
    rw [Spelling.text?, if_neg hlow, if_pos hhigh] at h
    rw [if_neg hv] at h
    cases h
  | case7 u s hlow hhigh hcode =>
    rw [Spelling.text?, if_neg hlow, if_pos hhigh] at h
    · cases h
    · exact hcode
  | case8 u s hlow hhigh ih =>
    unfold Spelling.text? at h
    rw [if_neg hlow, if_neg hhigh, Option.map_eq_some_iff] at h
    obtain ⟨t, ht, rfl⟩ := h
    have hescape : ∀ left, readEscape (0x75 :: (u.bytes ++ left)) = .ok (Char.ofNat u.value, left) :=
      fun left => (readEscape_code u left).trans (readCodePoint_whole hlow hhigh left)
    rw [Spelling.bytes, List.flatMap_cons, List.append_assoc, Piece.bytes]
    refine (readStringBytes_escape (hescape _) read).trans ?_
    exact (ih ht _).trans (by simp)

/-- **A string is read** as the text it stands for. -/
theorem readString_spelling {s : Spelling} {t : Text} (h : s.text? = some t) (rest : Bytes) :
    readString (s.bytes ++ 0x22 :: rest) = .ok (t, rest) := by
  simp only [readString, readStringBytes_spelling h, List.reverse_nil, List.nil_append, Utf8.decode?_encode]

end Json
end TemplateExpansion
