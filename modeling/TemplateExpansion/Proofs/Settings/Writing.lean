/-
# Settings that are written

What is written is a document of the grammar.  A text is written as a string whose pieces stand for the text
(`text?_spell`, `encode_writeString`), and settings as an object whose members say the six values
(`given_written`, `encode_write`).
-/
import TemplateExpansion.Settings.Writer
import TemplateExpansion.Proofs.Settings.Documents

namespace TemplateExpansion

namespace Json

/-! ## 1. Strings -/

/-- The escape of one letter that a character is written with. -/
def letterOf? (c : Char) : Option Letter :=
  if c = '\"' then some .quote
  else if c = '\\' then some .backslash
  else if c = '\x08' then some .backspace
  else if c = '\x0c' then some .formFeed
  else if c = '\n' then some .lineFeed
  else if c = '\r' then some .carriageReturn
  else if c = '\t' then some .tab
  else none

/-- The small digit of base sixteen. -/
def smallDigit (n : Nat) : HexDigit := ⟨Fin.ofNat 16 n, false⟩

/-- The piece that a character is written as. -/
def pieceOf (c : Char) : Piece :=
  match letterOf? c with
  | some l => .letter l
  | none =>
    if h : IsPlain c then .plain c h
    else .code ⟨smallDigit 0, smallDigit 0, smallDigit (c.toNat / 16), smallDigit (c.toNat % 16)⟩

theorem of_letterOf? {c : Char} {l : Letter} (h : letterOf? c = some l) :
    l.char = c ∧ Utf8.encode (writeChar c) = [0x5C, l.byte] := by
  unfold letterOf? at h
  split_ifs at h with hc hc hc hc hc hc hc
  all_goals
    subst hc
    cases h
    exact ⟨rfl, by decide⟩

/-- A character that has no escape of one letter is written by its number, or stands for itself. -/
theorem writeChar_of_letterOf? {c : Char} (h : letterOf? c = none) :
    writeChar c =
        (if c.toNat < 0x20 then
          ['\\', 'u', '0', '0', Nat.digitChar (c.toNat / 16), Nat.digitChar (c.toNat % 16)]
        else [c]) ∧
      (IsPlain c ↔ ¬ c.toNat < 0x20) := by
  unfold letterOf? at h
  split_ifs at h with hquote hbackslash h1 h2 h3 h4 h5
  refine ⟨?_, ?_⟩
  · rw [writeChar, if_neg hquote, if_neg hbackslash, if_neg h1, if_neg h2, if_neg h3, if_neg h4, if_neg h5]
  · exact ⟨fun hplain => Nat.not_lt.2 hplain.1, fun hlow => ⟨Nat.le_of_not_lt hlow, hquote, hbackslash⟩⟩

theorem byte_smallDigit (n : Nat) (h : n < 16) :
    String.utf8EncodeChar (Nat.digitChar n) = [(smallDigit n).byte] := by
  have hall : ∀ n < 16, String.utf8EncodeChar (Nat.digitChar n) = [(smallDigit n).byte] := by decide
  exact hall n h

/-- **A character is written as its piece.** -/
theorem encode_writeChar (c : Char) : Utf8.encode (writeChar c) = (pieceOf c).bytes := by
  unfold pieceOf
  split
  · rename_i l hl
    exact (of_letterOf? hl).2
  · rename_i hl
    obtain ⟨hwrite, hplain⟩ := writeChar_of_letterOf? hl
    split
    · rename_i h
      rw [hwrite, if_neg (hplain.1 h), Utf8.encode_cons, Utf8.encode_nil, List.append_nil]
      rfl
    · rename_i h
      have hlow : c.toNat < 0x20 := Classical.not_not.1 fun hlow => h (hplain.2 hlow)
      simp only [hwrite, if_pos hlow, Utf8.encode_cons, Utf8.encode_nil,
        byte_smallDigit (c.toNat / 16) (by omega), byte_smallDigit (c.toNat % 16) (by omega)]
      rfl

/-- The string that a text is written as, between its quotes. -/
def spell (t : Text) : Spelling := t.map pieceOf

/-- The number that a control character is written by. -/
theorem value_smallDigits {n : Nat} (h : n < 0x20) :
    CodeUnit.value ⟨smallDigit 0, smallDigit 0, smallDigit (n / 16), smallDigit (n % 16)⟩ = n := by
  have hall : ∀ n < 0x20,
      CodeUnit.value ⟨smallDigit 0, smallDigit 0, smallDigit (n / 16), smallDigit (n % 16)⟩ = n := by decide
  exact hall n h

theorem text?_pieceOf (c : Char) (s : Spelling) :
    Spelling.text? (pieceOf c :: s) = s.text?.map (c :: ·) := by
  unfold pieceOf
  split
  · rename_i l hl
    rw [Spelling.text?, (of_letterOf? hl).1]
  · rename_i hl
    split
    · rfl
    · rename_i h
      have hlow : c.toNat < 0x20 :=
        Classical.not_not.1 fun hlow => h ((writeChar_of_letterOf? hl).2.2 hlow)
      conv_lhs => unfold Spelling.text?
      rw [value_smallDigits hlow, if_neg (by omega), if_neg (by omega), Char.ofNat_toNat]

/-- **What is written for a text stands for the text.** -/
theorem text?_spell (t : Text) : (spell t).text? = some t := by
  induction t with
  | nil => rfl
  | cons c t ih =>
    rw [spell, List.map_cons, text?_pieceOf, ← spell, ih]
    rfl

theorem encode_flatMap_writeChar (t : Text) : Utf8.encode (t.flatMap writeChar) = (spell t).bytes := by
  induction t with
  | nil => rfl
  | cons c t ih =>
    rw [List.flatMap_cons, Utf8.encode_append, encode_writeChar, ih]
    rfl

theorem encode_writeString (t : Text) :
    Utf8.encode (writeString t) = 0x22 :: ((spell t).bytes ++ [0x22]) := by
  rw [writeString, Utf8.encode_cons, Utf8.encode_append, encode_flatMap_writeChar]
  rfl

example : writeString "a\"\x01\n".toList = "\"a\\\"\\u0001\\n\"".toList := by decide +kernel

end Json

namespace Settings

open Json

/-! ## 2. Objects -/

/-- What is written for a value that a field can hold. -/
def phraseOf : Value → Phrase .value
  | .number (.natural n) => .simple (.number ⟨false, n, none, none⟩)
  | .string t => .simple (.string (spell t))
  | _ => .simple .null

/-- A member without gaps. -/
def memberOf (field : Field) (v : Phrase .value) : Entry .object := ⟨.key [] (spell field.name) [] [], v, []⟩

theorem ofName?_name (field : Field) : Field.ofName? field.name = some field := by
  cases field <;> decide

theorem memberField?_memberOf (field : Field) (v : Phrase .value) :
    memberField? (memberOf field v) = some field := by
  have hname : (memberName (memberOf field v).lead).text? = some field.name := text?_spell field.name
  rw [memberField?, hname, Option.bind_some, ofName?_name]

theorem memberSays?_memberOf (field : Field) (v : Phrase .value) :
    memberSays? (memberOf field v) = (field.given? v).map (field, ·) := by
  rw [memberSays?, memberField?_memberOf]
  rfl

theorem fits_memberOf {field : Field} {v : Phrase .value} (hv : (field.given? v).isSome) :
    Fits (memberOf field v) := by
  have hname : (memberName (memberOf field v).lead).text? = some field.name := text?_spell field.name
  refine ⟨?_, ?_⟩
  · rw [hname]
    rfl
  · intro other hother
    obtain rfl := Option.some.inj ((memberField?_memberOf field v).symm.trans hother)
    exact hv

/-- The object without gaps that gives fields their values. -/
def objectOf (ps : List (Field × Phrase .value)) (hfit : ∀ p ∈ ps, (p.1.given? p.2).isSome)
    (honce : (ps.map Prod.fst).Nodup) : ObjectDocument where
  before := []
  inside := []
  entries := ps.map fun p => memberOf p.1 p.2
  after := []
  fits := by
    intro m hm
    obtain ⟨p, hp, rfl⟩ := List.mem_map.1 hm
    exact fits_memberOf (hfit p hp)
  once := by
    have hfields : (memberField? ∘ fun p : Field × Phrase .value => memberOf p.1 p.2) = some ∘ Prod.fst :=
      funext fun p => memberField?_memberOf p.1 p.2
    rw [List.filterMap_map, hfields, List.filterMap_eq_map]
    exact honce

theorem said_objectOf {ps : List (Field × Phrase .value)} (hfit : ∀ p ∈ ps, (p.1.given? p.2).isSome)
    (honce : (ps.map Prod.fst).Nodup) :
    (objectOf ps hfit honce).said = ps.filterMap fun p => (p.1.given? p.2).map (p.1, ·) := by
  have hsaid : (memberSays? ∘ fun p : Field × Phrase .value => memberOf p.1 p.2) =
      fun p => (p.1.given? p.2).map (p.1, ·) := funext fun p => memberSays?_memberOf p.1 p.2
  exact (List.filterMap_map ..).trans (congrArg (ps.filterMap ·) hsaid)

/-! ## 3. What is written -/

/-- **A value is given by what is written for it**, if its numbers have at most 64 bits. -/
theorem given?_phraseOf {s : Settings} (h : s.InRange) (field : Field) :
    field.given? (phraseOf (s.value field)) = some (s.value field) := by
  refine Field.given?_eq_some_iff.2 ⟨?_, holds_value s field⟩
  have hnumber : ∀ n, s.value field = .number (.natural n) →
      (phraseOf (.number (.natural n))).scalar? = some (.number (.natural n)) := by
    intro n hn
    rw [phraseOf, Phrase.scalar?, Numeral.natural?_eq_some_iff.2 ⟨rfl, h field n hn⟩]
    rfl
  have hstring : ∀ t, (phraseOf (.string t)).scalar? = some (.string t) := by
    intro t
    rw [phraseOf, Phrase.scalar?, text?_spell]
    rfl
  cases field with
  | userAgent => exact hstring s.userAgent
  | maxIterations => exact hnumber _ rfl
  | fetchTimeout => exact hnumber _ rfl
  | maxFetchBytes => exact hnumber _ rfl
  | maxRepeat => exact hnumber _ rfl
  | maxRepeatBytes => exact hnumber _ rfl

/-- The object that is written for settings. -/
def written (s : Settings) (h : s.InRange) : ObjectDocument :=
  objectOf (Field.all.map fun field => (field, phraseOf (s.value field)))
    (by
      intro p hp
      obtain ⟨field, -, rfl⟩ := List.mem_map.1 hp
      rw [given?_phraseOf h field]
      rfl)
    (by
      rw [List.map_map]
      exact Field.nodup_all)

/-- **What is written says the value of every field.** -/
theorem given_written (s : Settings) (h : s.InRange) (field : Field) :
    (s.written h).given field = some (s.value field) := by
  refine (s.written h).consistent.lookup_eq_some_iff.2 ?_
  rw [written, said_objectOf]
  refine List.mem_filterMap.2 ⟨_, List.mem_map_of_mem field.mem_all, ?_⟩
  rw [given?_phraseOf h field]
  rfl

theorem encode_intercalate (ts : List Text) :
    Utf8.encode ([','].intercalate ts) = [0x2C].intercalate (ts.map Utf8.encode) := by
  induction ts with
  | nil => rfl
  | cons t ts ih =>
    cases ts with
    | nil => simp
    | cons u ts =>
      rw [List.intercalate_cons_cons, Utf8.encode_append, Utf8.encode_append, ih]
      exact List.intercalate_cons_cons.symm

theorem encode_writeValue (s : Settings) (field : Field) :
    Utf8.encode (s.writeValue field) = (phraseOf (s.value field)).bytes := by
  cases field with
  | userAgent => exact encode_writeString s.userAgent
  | maxIterations => exact (Numeral.bytes_whole _).symm
  | fetchTimeout => exact (Numeral.bytes_whole _).symm
  | maxFetchBytes => exact (Numeral.bytes_whole _).symm
  | maxRepeat => exact (Numeral.bytes_whole _).symm
  | maxRepeatBytes => exact (Numeral.bytes_whole _).symm

theorem encode_writeMember (s : Settings) (field : Field) :
    Utf8.encode (s.writeMember field) = (memberOf field (phraseOf (s.value field))).bytes := by
  rw [writeMember, Utf8.encode_append, Utf8.encode_cons, encode_writeString, encode_writeValue]
  simp only [memberOf, Entry.bytes, Lead.bytes, Gap.bytes, List.map_nil, List.nil_append, List.append_nil,
    List.cons_append, List.append_assoc]
  rfl

/-- **What is written is the object of the six values.** -/
theorem encode_write (s : Settings) (h : s.InRange) : Utf8.encode s.write = (s.written h).bytes := by
  have hmembers : Field.all.map (Utf8.encode ∘ s.writeMember) =
      Field.all.map (Entry.bytes ∘ fun field => memberOf field (phraseOf (s.value field))) :=
    List.map_congr_left fun field _ => encode_writeMember s field
  rw [write, Utf8.encode_cons, Utf8.encode_append, encode_intercalate, List.map_map, hmembers]
  simp only [Document.bytes, written, objectOf, Gap.bytes, List.map_nil, List.nil_append, List.map_map]
  rfl

end Settings

end TemplateExpansion
