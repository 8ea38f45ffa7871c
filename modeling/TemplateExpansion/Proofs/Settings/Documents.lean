/-
# What a document says

An object says for some of the fields what their value is: by its members that are named for a field.  A list
says it of the first fields in their order.  In both the values are those of `said`, and reading the document
tells them to a draft one after the other (`readDraft_object`, `readDraft_list`).

A reader skips the separators in front of what it reads, so each statement about a reader is about bytes up to
separators, as it is for the values of a document.
-/
import TemplateExpansion.Proofs.Settings.Drafts

namespace TemplateExpansion

open Json

namespace Settings

/-! ## 1. Values and members -/

/-- The value that a field is given by what stands in its place: one that it can hold. -/
def Field.given? (field : Field) (v : Phrase .value) : Option Value := v.scalar?.filter field.holds

/-- The name of a member. -/
def memberName : Lead .object → Spelling
  | .key _ name _ _ => name

/-- The field that a member is named for. -/
def memberField? (m : Entry .object) : Option Field := (memberName m.lead).text?.bind Field.ofName?

/-- The field that a member is named for, with the value that the field is given. -/
def memberSays? (m : Entry .object) : Option (Field × Value) :=
  (memberField? m).bind fun field => (field.given? m.value).map (field, ·)

/-- The name of a member is a text, and if it is that of a field, the field can hold the value. -/
def Fits (m : Entry .object) : Prop :=
  (memberName m.lead).text?.isSome ∧ ∀ field, memberField? m = some field → (field.given? m.value).isSome

/-- The field in a place of a list, with the value that the field is given. -/
def elementSays? (p : Field × Entry .list) : Option (Field × Value) := (p.1.given? p.2.value).map (p.1, ·)

theorem Field.given?_eq_some_iff {field : Field} {v : Phrase .value} {x : Value} :
    field.given? v = some x ↔ v.scalar? = some x ∧ field.holds x = true := Option.filter_eq_some_iff

/-- **A field is read** if it is given a value. -/
theorem readField_given {field : Field} {v : Phrase .value} {x : Value} (hx : field.given? v = some x)
    (d : Draft) {r rest : Bytes} (hrest : Ends rest) (h : skipSeparators r = skipSeparators (v.bytes ++ rest)) :
    readField d field r = .ok (d.tell (field, x), rest) := by
  obtain ⟨hscalar, hholds⟩ := Field.given?_eq_some_iff.1 hx
  obtain ⟨ahead, hread⟩ := readValue_scalar hscalar hrest h
  simp only [readField, hread, d.put_eq_tell (p := (field, x)) hholds]

theorem readColon_gap (g : Gap) (rest : Bytes) : readColon (g.bytes ++ 0x3A :: rest) = .ok rest := by
  simp only [readColon, skipSeparators_gap, skipSeparators_cons (b := 0x3A) rfl, if_true]

/-- **A member is read**, from its opening quote on: what it says is told to the draft. -/
theorem readMember_entry {m : Entry .object} (hfits : Fits m) {d : Draft}
    (hfresh : ∀ field, memberField? m = some field → d.value? field = none) {rest : Bytes} (hrest : Ends rest) :
    ∃ tail, skipSeparators (m.bytes ++ rest) = 0x22 :: tail ∧
      readMember d tail = .ok ((memberSays? m).toList.foldl Draft.tell d, m.after.bytes ++ rest) := by
  obtain ⟨lead, v, after⟩ := m
  obtain ⟨t, ht⟩ := Option.isSome_iff_exists.1 hfits.1
  have hfield : memberField? ⟨lead, v, after⟩ = Field.ofName? t := by
    rw [memberField?, ht]
    rfl
  have hend : Ends (after.bytes ++ rest) := ends_gap after hrest
  cases lead with | key before name beforeColon afterColon =>
  refine ⟨name.bytes ++ 0x22 :: (beforeColon.bytes ++ 0x3A :: (afterColon.bytes ++ (v.bytes ++
    (after.bytes ++ rest)))), ?_, ?_⟩
  · simp only [Entry.bytes, Lead.bytes, List.append_assoc, skipSeparators_gap, List.cons_append,
      skipSeparators_cons (b := 0x22) rfl]
  · have hname : name.text? = some t := ht
    simp only [readMember, readString_spelling hname, bind, Except.bind, pure, Except.pure, memberSays?, hfield]
    cases hof : Field.ofName? t with
    | none =>
      simp only [readColon_gap, skipValue_phrase afterColon v hend]
      rfl
    | some field =>
      rw [hof] at hfield
      obtain ⟨x, hx⟩ := Option.isSome_iff_exists.1 (hfits.2 field hfield)
      have hhas : d.has field = false := by
        rw [Draft.has_eq, hfresh field hfield]
        rfl
      have hread := readField_given hx d hend (skipSeparators_gap afterColon (v.bytes ++ (after.bytes ++ rest)))
      have hsaid : (field.given? v).map (field, ·) = some (field, x) := by rw [hx]; rfl
      simp only [hhas, readColon_gap, hread, Option.bind_some, hsaid]
      rfl

/-! ## 2. Entries with commas between them -/

/-- The bytes of entries with commas between them, and before the first unless it is the first inside its
bracket. -/
def listed {bracket : Bracket} : Bool → List (Entry bracket) → Bytes
  | true, entries => [0x2C].intercalate (entries.map Entry.bytes)
  | false, entries => entries.flatMap fun entry => 0x2C :: entry.bytes

section
variable {bracket : Bracket}

theorem listed_nil (isFirst : Bool) (rest : Bytes) : listed isFirst ([] : List (Entry bracket)) ++ rest = rest := by
  cases isFirst <;> rfl

theorem listed_false_cons (entry : Entry bracket) (entries : List (Entry bracket)) (rest : Bytes) :
    listed false (entry :: entries) ++ rest = 0x2C :: (entry.bytes ++ (listed false entries ++ rest)) := by
  rw [listed, List.flatMap_cons, List.append_assoc]
  rfl

theorem listed_true_cons (entry : Entry bracket) (entries : List (Entry bracket)) (rest : Bytes) :
    listed true (entry :: entries) ++ rest = entry.bytes ++ (listed false entries ++ rest) := by
  induction entries generalizing entry with
  | nil =>
    rw [listed, List.map_cons, List.map_nil, List.intercalate_singleton]
    rfl
  | cons next entries ih =>
    have hnext := ih next
    rw [listed, List.map_cons] at hnext
    rw [listed, List.map_cons, List.map_cons, List.intercalate_cons_cons, List.append_assoc, hnext,
      listed_false_cons, List.append_assoc]
    rfl

/-- Among entries what follows does not go on with a number. -/
theorem ends_listed (entries : List (Entry bracket)) (left : Bytes) :
    Ends (listed false entries ++ bracket.close :: left) := by
  cases entries with
  | nil => exact ends_close bracket left
  | cons entry entries =>
    rw [listed_false_cons]
    exact ends_comma _

theorem length_le_listed_false (entries : List (Entry bracket)) :
    entries.length ≤ (listed false entries).length := by
  induction entries with
  | nil => exact Nat.le_refl 0
  | cons entry entries ih =>
    have h := congrArg List.length (listed_false_cons entry entries [])
    simp only [List.append_nil, List.length_cons, List.length_append] at h ⊢
    omega

/-- There are no more entries than bytes up to the closing bracket. -/
theorem length_le_listed_true (entries : List (Entry bracket)) (left : Bytes) :
    entries.length ≤ (listed true entries ++ bracket.close :: left).length := by
  cases entries with
  | nil => exact Nat.zero_le _
  | cons entry entries =>
    have h := length_le_listed_false entries
    rw [listed_true_cons]
    simp only [List.length_append, List.length_cons]
    omega

end

/-! ## 3. Objects -/

/-- What members say. -/
def membersSay (ms : List (Entry .object)) : List (Field × Value) := ms.filterMap memberSays?

/-- A member that fits is named for no field and says nothing, or gives its field a value. -/
theorem Fits.cases {m : Entry .object} (h : Fits m) :
    (memberField? m = none ∧ memberSays? m = none) ∨
      ∃ field x, memberField? m = some field ∧ field.holds x = true ∧ memberSays? m = some (field, x) := by
  cases hfield : memberField? m with
  | none =>
    refine .inl ⟨rfl, ?_⟩
    rw [memberSays?, hfield]
    rfl
  | some field =>
    obtain ⟨x, hx⟩ := Option.isSome_iff_exists.1 (h.2 field hfield)
    refine .inr ⟨field, x, rfl, (Field.given?_eq_some_iff.1 hx).2, ?_⟩
    rw [memberSays?, hfield, Option.bind_some, hx]
    rfl

theorem map_fst_membersSay {ms : List (Entry .object)} (h : ∀ m ∈ ms, Fits m) :
    (membersSay ms).map Prod.fst = ms.filterMap memberField? := by
  rw [membersSay, List.map_filterMap]
  refine List.filterMap_congr ?_
  intro m hm
  rcases (h m hm).cases with ⟨hfield, hsaid⟩ | ⟨field, x, hfield, -, hsaid⟩
  · rw [hfield, hsaid]
    rfl
  · rw [hfield, hsaid]
    rfl

theorem consistent_membersSay {ms : List (Entry .object)} (h : ∀ m ∈ ms, Fits m)
    (honce : (ms.filterMap memberField?).Nodup) : Draft.Consistent (membersSay ms) := by
  refine ⟨?_, (map_fst_membersSay h).symm ▸ honce⟩
  intro p hp
  obtain ⟨m, hm, hp⟩ := List.mem_filterMap.1 hp
  rcases (h m hm).cases with ⟨-, hsaid⟩ | ⟨field, x, -, hholds, hsaid⟩
  · exact absurd (hsaid.symm.trans hp) (by simp)
  · obtain rfl := Option.some.inj (hsaid.symm.trans hp)
    exact hholds

/-- Passing from one member to the next. -/
theorem readMembers_entry (isFirst : Bool) {m : Entry .object} (hfits : Fits m) {d : Draft}
    (hfresh : ∀ field, memberField? m = some field → d.value? field = none) (ms : List (Entry .object))
    (steps : Nat) {r left : Bytes}
    (hr : skipSeparators r = skipSeparators (listed isFirst (m :: ms) ++ 0x7D :: left)) :
    readMembers (steps + 1) isFirst d r = readMembers steps false ((memberSays? m).toList.foldl Draft.tell d)
      (m.after.bytes ++ (listed false ms ++ 0x7D :: left)) := by
  obtain ⟨tail, htail, hread⟩ : ∃ tail,
      skipSeparators (m.bytes ++ (listed false ms ++ 0x7D :: left)) = 0x22 :: tail ∧
      readMember d tail = .ok ((memberSays? m).toList.foldl Draft.tell d,
        m.after.bytes ++ (listed false ms ++ 0x7D :: left)) := readMember_entry hfits hfresh (ends_listed ms left)
  cases isFirst with
  | true =>
    rw [listed_true_cons, htail] at hr
    simp [readMembers, hr, hread]
  | false =>
    rw [listed_false_cons, skipSeparators_cons rfl] at hr
    simp [readMembers, hr, htail, hread]

/-- **Members are read one after the other** up to the closing brace.  The draft has no value yet in any field
that they are named for; that is what a second member for a field would break. -/
theorem readMembers_listed {ms : List (Entry .object)} (hfits : ∀ m ∈ ms, Fits m)
    (honce : (ms.filterMap memberField?).Nodup) {d : Draft}
    (hfresh : ∀ field ∈ ms.filterMap memberField?, d.value? field = none) {steps : Nat}
    (hsteps : ms.length < steps) (isFirst : Bool) {r left : Bytes}
    (hr : skipSeparators r = skipSeparators (listed isFirst ms ++ 0x7D :: left)) :
    readMembers steps isFirst d r = .ok ((membersSay ms).foldl Draft.tell d, left) := by
  obtain ⟨k, rfl⟩ := Nat.exists_eq_add_one_of_ne_zero (Nat.ne_zero_of_lt hsteps)
  induction ms generalizing d k isFirst r with
  | nil =>
    rw [listed_nil, skipSeparators_cons rfl] at hr
    simp only [readMembers, hr, if_true]
    rfl
  | cons m ms ih =>
    have hm := hfits m List.mem_cons_self
    have hms : ∀ x ∈ ms, Fits x := fun x hx => hfits x (List.mem_cons_of_mem m hx)
    obtain ⟨k, rfl⟩ := Nat.exists_eq_add_one_of_ne_zero (Nat.ne_zero_of_lt (Nat.lt_of_succ_lt_succ hsteps))
    rw [readMembers_entry isFirst hm (fun field hfield =>
      hfresh field (List.mem_filterMap.2 ⟨m, List.mem_cons_self, hfield⟩)) ms (k + 1) hr]
    rcases hm.cases with ⟨hfield, hsaid⟩ | ⟨field, x, hfield, hholds, hsaid⟩
    · rw [List.filterMap_cons_none hfield] at honce hfresh
      rw [membersSay, List.filterMap_cons_none hsaid, hsaid]
      exact ih hms honce hfresh false (skipSeparators_gap m.after _) k (Nat.lt_of_succ_lt_succ hsteps)
    · rw [List.filterMap_cons_some hfield] at honce hfresh
      rw [membersSay, List.filterMap_cons_some hsaid, hsaid]
      obtain ⟨hnew, honce⟩ := List.nodup_cons.1 honce
      -- the fields of the further members are other fields, so they are as fresh as before
      have hfurther : ∀ other ∈ ms.filterMap memberField?, (d.tell (field, x)).value? other = none := by
        intro other hother
        have hne : other ≠ field := fun h => hnew (h ▸ hother)
        rw [Draft.value?_tell d hholds, if_neg hne]
        exact hfresh other (List.mem_cons_of_mem field hother)
      exact ih hms honce hfurther false (skipSeparators_gap m.after _) k (Nat.lt_of_succ_lt_succ hsteps)

/-- **An object is read**: what its members say is told to a draft. -/
theorem readDraft_object {d : Document .object} (hfits : ∀ m ∈ d.entries, Fits m)
    (honce : (d.entries.filterMap memberField?).Nodup) :
    readDraft d.bytes = .ok ((membersSay d.entries).foldl Draft.tell .empty, d.after.bytes) := by
  have hopen : skipSeparators d.bytes =
      0x7B :: (d.inside.bytes ++ (listed true d.entries ++ 0x7D :: d.after.bytes)) := by
    rw [Document.bytes, skipSeparators_gap]
    exact skipSeparators_cons rfl _
  have hsteps : d.entries.length <
      (d.inside.bytes ++ (listed true d.entries ++ 0x7D :: d.after.bytes)).length + 1 := by
    have h : d.entries.length ≤ (listed true d.entries ++ 0x7D :: d.after.bytes).length :=
      length_le_listed_true d.entries d.after.bytes
    rw [List.length_append]
    omega
  simp only [readDraft, hopen, if_true]
  exact readMembers_listed hfits honce (fun field _ => Draft.value?_empty field) hsteps true
    (skipSeparators_gap d.inside _)

/-! ## 4. Lists -/

/-- What the elements of a list say, each of the field in its place. -/
def elementsSay (fields : List Field) (es : List (Entry .list)) : List (Field × Value) :=
  (fields.zip es).filterMap elementSays?

/-- **An element is read**, from its first byte on: what it says is told to the draft. -/
theorem readField_entry {field : Field} {e : Entry .list} {x : Value}
    (hx : field.given? e.value = some x) (d : Draft) {rest : Bytes} (hrest : Ends rest) :
    ∃ c more, skipSeparators (e.bytes ++ rest) = c :: more ∧ c ≠ 0x5D ∧
      readField d field (c :: more) = .ok (d.tell (field, x), e.after.bytes ++ rest) := by
  obtain ⟨lead, v, after⟩ := e
  have hbytes : Entry.bytes ⟨lead, v, after⟩ ++ rest = lead.bytes ++ (v.bytes ++ (after.bytes ++ rest)) := by
    rw [Entry.bytes, List.append_assoc, List.append_assoc]
  obtain ⟨c, more, hc, hclose⟩ := lead.exists_skipSeparators v (after.bytes ++ rest)
  refine ⟨c, more, hbytes ▸ hc, hclose, readField_given hx d (ends_gap after hrest) ?_⟩
  cases lead with | gap g =>
  rw [← hc, skipSeparators_skipSeparators]
  exact skipSeparators_gap g _

/-- Passing from one element to the next. -/
theorem readElements_entry (isFirst : Bool) {field : Field} {e : Entry .list} {x : Value}
    (hx : field.given? e.value = some x) (d : Draft) (fields : List Field) (es : List (Entry .list))
    {r left : Bytes} (hr : skipSeparators r = skipSeparators (listed isFirst (e :: es) ++ 0x5D :: left)) :
    readElements (field :: fields) isFirst d r = readElements fields false (d.tell (field, x))
      (e.after.bytes ++ (listed false es ++ 0x5D :: left)) := by
  obtain ⟨c, more, hc, hclose, hread⟩ : ∃ c more,
      skipSeparators (e.bytes ++ (listed false es ++ 0x5D :: left)) = c :: more ∧ c ≠ 0x5D ∧
      readField d field (c :: more) = .ok (d.tell (field, x), e.after.bytes ++ (listed false es ++ 0x5D :: left)) :=
    readField_entry hx d (ends_listed es left)
  cases isFirst with
  | true =>
    rw [listed_true_cons, hc] at hr
    simp [readElements, hr, hclose, hread]
  | false =>
    rw [listed_false_cons, skipSeparators_cons rfl] at hr
    simp [readElements, hr, hc, hclose, hread]

/-- **Elements are read one after the other** up to the closing bracket. -/
theorem readElements_listed {fields : List Field} {es : List (Entry .list)} (hfew : es.length ≤ fields.length)
    (hfit : ∀ p ∈ fields.zip es, (p.1.given? p.2.value).isSome) {d : Draft} (isFirst : Bool) {r left : Bytes}
    (hr : skipSeparators r = skipSeparators (listed isFirst es ++ 0x5D :: left)) :
    readElements fields isFirst d r = .ok ((elementsSay fields es).foldl Draft.tell d, left) := by
  induction es generalizing fields d isFirst r with
  | nil =>
    rw [listed_nil, skipSeparators_cons rfl] at hr
    rw [elementsSay, List.zip_nil_right]
    cases fields with
    | nil =>
      simp only [readElements, readListEnd, hr, if_true]
      rfl
    | cons field fields =>
      simp only [readElements, hr, if_true]
      rfl
  | cons e es ih =>
    cases fields with
    | nil => exact absurd hfew (Nat.not_succ_le_zero _)
    | cons field fields =>
      rw [List.zip_cons_cons] at hfit
      obtain ⟨x, hx⟩ := Option.isSome_iff_exists.1 (hfit (field, e) List.mem_cons_self)
      have hsaid : elementSays? (field, e) = some (field, x) := by
        rw [elementSays?, hx]
        rfl
      rw [readElements_entry isFirst hx d fields es hr, elementsSay, List.zip_cons_cons,
        List.filterMap_cons_some hsaid]
      exact ih (Nat.le_of_succ_le_succ hfew) (fun p hp => hfit p (List.mem_cons_of_mem _ hp)) false
        (skipSeparators_gap e.after _)

/-- **A list is read**: what its elements say is told to a draft. -/
theorem readDraft_list {d : Document .list} (hfew : d.entries.length ≤ Field.all.length)
    (hfit : ∀ p ∈ Field.all.zip d.entries, (p.1.given? p.2.value).isSome) :
    readDraft d.bytes = .ok ((elementsSay Field.all d.entries).foldl Draft.tell .empty, d.after.bytes) := by
  have hopen : skipSeparators d.bytes =
      0x5B :: (d.inside.bytes ++ (listed true d.entries ++ 0x5D :: d.after.bytes)) := by
    rw [Document.bytes, skipSeparators_gap]
    exact skipSeparators_cons rfl _
  simp only [readDraft, hopen, if_true]
  exact readElements_listed hfew hfit true (skipSeparators_gap d.inside _)

theorem map_fst_zip_sublist (fields : List Field) (es : List (Entry .list)) :
    ((fields.zip es).map Prod.fst).Sublist fields := by
  induction fields generalizing es with
  | nil => exact List.Sublist.refl _
  | cons field fields ih =>
    cases es with
    | nil => exact List.nil_sublist _
    | cons e es => exact (ih es).cons_cons field

/-- No two elements of a list are in the place of one field. -/
theorem nodup_map_fst_zip (es : List (Entry .list)) : ((Field.all.zip es).map Prod.fst).Nodup :=
  Field.nodup_all.sublist (map_fst_zip_sublist Field.all es)

theorem map_fst_elementsSay {fields : List Field} {es : List (Entry .list)}
    (hfit : ∀ p ∈ fields.zip es, (p.1.given? p.2.value).isSome) :
    (elementsSay fields es).map Prod.fst = (fields.zip es).map Prod.fst := by
  rw [elementsSay, List.map_filterMap, ← List.filterMap_eq_map]
  refine List.filterMap_congr ?_
  intro p hp
  obtain ⟨x, hx⟩ := Option.isSome_iff_exists.1 (hfit p hp)
  rw [elementSays?, hx]
  rfl

theorem consistent_elementsSay {es : List (Entry .list)}
    (hfit : ∀ p ∈ Field.all.zip es, (p.1.given? p.2.value).isSome) :
    Draft.Consistent (elementsSay Field.all es) := by
  refine ⟨?_, (map_fst_elementsSay hfit).symm ▸ nodup_map_fst_zip es⟩
  intro p hp
  obtain ⟨q, -, hq⟩ := List.mem_filterMap.1 hp
  obtain ⟨x, hx, rfl⟩ := Option.map_eq_some_iff.1 hq
  exact (Field.given?_eq_some_iff.1 hx).2

/-! ## 5. Documents of settings -/

/-- An object of settings: each field at most once and with a value that it can hold, and any members of other
names between them. -/
structure ObjectDocument extends Document .object where
  fits : ∀ m ∈ entries, Fits m
  once : (entries.filterMap memberField?).Nodup

/-- A list of settings: a value for each of the first fields, and one that the field can hold. -/
structure ListDocument extends Document .list where
  few : entries.length ≤ Field.all.length
  fit : ∀ p ∈ Field.all.zip entries, (p.1.given? p.2.value).isSome

/-- What an object says. -/
def ObjectDocument.said (d : ObjectDocument) : List (Field × Value) := membersSay d.entries

/-- What a list says. -/
def ListDocument.said (d : ListDocument) : List (Field × Value) := elementsSay Field.all d.entries

/-- The value that an object gives a field. -/
def ObjectDocument.given (d : ObjectDocument) (field : Field) : Option Value := d.said.lookup field

/-- The value that a list gives a field. -/
def ListDocument.given (d : ListDocument) (field : Field) : Option Value := d.said.lookup field

theorem ObjectDocument.consistent (d : ObjectDocument) : Draft.Consistent d.said :=
  consistent_membersSay d.fits d.once

theorem ListDocument.consistent (d : ListDocument) : Draft.Consistent d.said := consistent_elementsSay d.fit

/-- The settings that values for the fields amount to. -/
def ofSaid (said : List (Field × Value)) : Settings := (said.foldl Draft.tell .empty).complete

theorem readEnd_gap (g : Gap) : readEnd g.bytes = .ok () := by
  have h := skipSeparators_gap g []
  rw [List.append_nil] at h
  rw [readEnd, h]
  rfl

/-- **A document that ends after its value** is what its draft completes to, if that is valid. -/
theorem read_of_readDraft {document : Bytes} {d : Draft} {g : Gap} (h : readDraft document = .ok (d, g.bytes)) :
    read document = validate d.complete := by
  simp only [read, h, readEnd_gap]

theorem ObjectDocument.read_eq (d : ObjectDocument) : read d.bytes = validate (ofSaid d.said) :=
  read_of_readDraft (readDraft_object d.fits d.once)

theorem ListDocument.read_eq (d : ListDocument) : read d.bytes = validate (ofSaid d.said) :=
  read_of_readDraft (readDraft_list d.few d.fit)

end Settings

end TemplateExpansion
