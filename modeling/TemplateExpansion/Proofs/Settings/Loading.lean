/-
# Loading settings

What becomes of a document is up to the values that it gives the fields, and not up to how it gives them: the
order of the members, what stands between them, and whether it is an object or a list make no difference
(`read_eq_of_given`).  A field that is given no value has its standard one, and of the two fields that must not
be zero the first that is decides.

Settings that are loaded can be written and loaded again, since a document that gives every field its value in
the settings is loaded as the settings (`read_of_given_all`).
-/
import TemplateExpansion.Proofs.Settings.Writing

namespace TemplateExpansion

open Json

namespace Settings

/-! ## 1. What is given -/

/-- The value of a field that is zero. -/
def zero : Value := .number (.natural 0)

/-- **Settings are known by their fields.** -/
theorem ext_value {s s' : Settings} (h : ∀ field, s.value field = s'.value field) : s = s' := by
  have hnumber : ∀ {m n : Nat}, Value.number (.natural m) = .number (.natural n) → m = n := by
    intro m n hmn
    exact Number.natural.inj (Value.number.inj hmn)
  obtain ⟨a, b, c, t, e, f⟩ := s
  obtain ⟨a', b', c', t', e', f'⟩ := s'
  obtain rfl : a = a' := hnumber (h .maxIterations)
  obtain rfl : b = b' := hnumber (h .fetchTimeout)
  obtain rfl : c = c' := hnumber (h .maxFetchBytes)
  obtain rfl : t = t' := Value.string.inj (h .userAgent)
  obtain rfl : e = e' := hnumber (h .maxRepeat)
  obtain rfl : f = f' := hnumber (h .maxRepeatBytes)
  rfl

/-- **Each field has the value that was said of it**, or its standard value. -/
theorem value_ofSaid {said : List (Field × Value)} (h : Draft.Consistent said) (field : Field) :
    (ofSaid said).value field = (said.lookup field).getD (standard.value field) := by
  rw [ofSaid, Draft.value_complete, Draft.value?_foldl_tell h, Draft.value?_empty, Option.or_none]

theorem value_ofSaid_eq_zero_iff {said : List (Field × Value)} (h : Draft.Consistent said) (field : Field)
    (hfield : standard.value field ≠ zero) :
    (ofSaid said).value field = zero ↔ said.lookup field = some zero := by
  rw [value_ofSaid h]
  cases said.lookup field with
  | none => simp [hfield]
  | some x => simp

/-- What is said of the fields is all that counts. -/
theorem ofSaid_eq {said said' : List (Field × Value)} (h : Draft.Consistent said) (h' : Draft.Consistent said')
    (heq : ∀ field, said.lookup field = said'.lookup field) : ofSaid said = ofSaid said' := by
  refine ext_value ?_
  intro field
  rw [value_ofSaid h, value_ofSaid h', heq]

/-! ## 2. What is valid -/

/-- **The first of the two fields that is zero decides.** -/
theorem validate_eq (s : Settings) :
    validate s =
      if s.value .maxIterations = zero then .error (.zero .maxIterations)
      else if s.value .fetchTimeout = zero then .error (.zero .fetchTimeout)
      else .ok s := by
  have hiterations : s.maxIterations = 0 ↔ s.value .maxIterations = zero := by simp [value, zero]
  have htimeout : s.fetchTimeout = 0 ↔ s.value .fetchTimeout = zero := by simp [value, zero]
  exact if_congr hiterations rfl (if_congr htimeout rfl rfl)

/-- Since the standard values are not zero, a field is zero exactly if that is said of it. -/
theorem validate_ofSaid {said : List (Field × Value)} (h : Draft.Consistent said) :
    validate (ofSaid said) =
      if said.lookup .maxIterations = some zero then .error (.zero .maxIterations)
      else if said.lookup .fetchTimeout = some zero then .error (.zero .fetchTimeout)
      else .ok (ofSaid said) := by
  have hiterations := value_ofSaid_eq_zero_iff h .maxIterations (by decide)
  have htimeout := value_ofSaid_eq_zero_iff h .fetchTimeout (by decide)
  rw [validate_eq]
  exact if_congr hiterations rfl (if_congr htimeout rfl rfl)

theorem validate_of_read {document : Bytes} {s : Settings} (h : read document = .ok s) : validate s = .ok s := by
  obtain ⟨-, -, -, -, hiterations, htimeout⟩ := exists_readDraft_of_read h
  rw [validate, if_neg hiterations, if_neg htimeout]

/-! ## 3. Documents -/

/-- **An object is refused** for the first of the two fields that it gives zero, or it is loaded. -/
theorem ObjectDocument.read_eq_given (d : ObjectDocument) :
    read d.bytes =
      if d.given .maxIterations = some zero then .error (.zero .maxIterations)
      else if d.given .fetchTimeout = some zero then .error (.zero .fetchTimeout)
      else .ok (ofSaid d.said) :=
  d.read_eq.trans (validate_ofSaid d.consistent)

/-- **A list is loaded like an object** that gives every field the same value. -/
theorem read_eq_of_given {d : ObjectDocument} {l : ListDocument} (h : ∀ field, d.given field = l.given field) :
    read d.bytes = read l.bytes := by
  rw [d.read_eq, l.read_eq, ofSaid_eq d.consistent l.consistent h]

/-- **An object that gives every field its value in some settings** is loaded as these settings. -/
theorem read_of_given_all {s : Settings} (hs : validate s = .ok s) {d : ObjectDocument}
    (h : ∀ field, d.given field = some (s.value field)) : read d.bytes = .ok s := by
  have hsaid : ofSaid d.said = s := by
    refine ext_value ?_
    intro field
    rw [value_ofSaid d.consistent]
    exact congrArg (Option.getD · (standard.value field)) (h field)
  rw [d.read_eq, hsaid, hs]

/-- The object with the members of another one in any order, and any gaps. -/
def ObjectDocument.reordered (d : ObjectDocument) (e : Document .object) (h : e.entries.Perm d.entries) :
    ObjectDocument where
  toDocument := e
  fits := fun m hm => d.fits m (h.mem_iff.1 hm)
  once := (h.filterMap memberField?).nodup_iff.2 d.once

/-- **The order of the members** makes no difference. -/
theorem read_perm (d : ObjectDocument) (e : Document .object) (h : e.entries.Perm d.entries) :
    read e.bytes = read d.bytes := by
  have hsaid : (d.reordered e h).said.Perm d.said := h.filterMap memberSays?
  have hread : read e.bytes = validate (ofSaid (d.reordered e h).said) := (d.reordered e h).read_eq
  rw [hread, d.read_eq,
    ofSaid_eq (d.reordered e h).consistent d.consistent (d.consistent.lookup_perm hsaid)]

/-- The object with the first fields in their order, and with the values of a list. -/
def ListDocument.named (l : ListDocument) : ObjectDocument :=
  objectOf ((Field.all.zip l.entries).map fun p => (p.1, p.2.value))
    (by
      intro p hp
      obtain ⟨q, hq, rfl⟩ := List.mem_map.1 hp
      exact l.fit q hq)
    (by
      rw [List.map_map]
      exact nodup_map_fst_zip l.entries)

theorem ListDocument.said_named (l : ListDocument) : l.named.said = l.said := by
  rw [named, said_objectOf, List.filterMap_map]
  rfl

/-! ## 4. Loading -/

/-- **Loading settings**: what a document gives the fields decides, and nothing else.

* An object that gives zero to one of the two fields that must not be zero is refused for that field, and for the
  first of them if it gives zero to both.  Any other object is loaded, and each field has the value that it is
  given or else its standard value.
* The order of the members makes no difference.
* A list is loaded as the object of the first fields in their order with the same values is, and as every object is
  that gives each field the same.
* Settings that are loaded, from whatever document, allow at least one pass and one millisecond.  They are loaded
  again from what is written for them, and from every object that gives each field its value in them. -/
theorem read_given_or_standard :
    (∀ d : ObjectDocument,
      (read d.bytes = .error (.zero .maxIterations) ↔ d.given .maxIterations = some zero) ∧
      (read d.bytes = .error (.zero .fetchTimeout) ↔
        d.given .maxIterations ≠ some zero ∧ d.given .fetchTimeout = some zero) ∧
      (d.given .maxIterations ≠ some zero → d.given .fetchTimeout ≠ some zero →
        ∃ s, read d.bytes = .ok s ∧ ∀ field, s.value field = (d.given field).getD (standard.value field))) ∧
    (∀ (d : ObjectDocument) (e : Document .object), e.entries.Perm d.entries → read e.bytes = read d.bytes) ∧
    (∀ l : ListDocument, read l.bytes = read l.named.bytes ∧
      ∀ d : ObjectDocument, (∀ field, d.given field = l.given field) → read d.bytes = read l.bytes) ∧
    (∀ document s, read document = .ok s →
      1 ≤ s.maxIterations ∧ 1 ≤ s.fetchTimeout ∧ read (Utf8.encode s.write) = .ok s ∧
      ∀ d : ObjectDocument, (∀ field, d.given field = some (s.value field)) → read d.bytes = .ok s) := by
  refine ⟨?_, read_perm, ?_, ?_⟩
  · intro d
    rw [d.read_eq_given]
    by_cases hiterations : d.given .maxIterations = some zero
    · simp [hiterations]
    · by_cases htimeout : d.given .fetchTimeout = some zero
      · simp [hiterations, htimeout]
      · rw [if_neg hiterations, if_neg htimeout]
        exact ⟨by simp [hiterations], by simp [htimeout], fun _ _ => ⟨_, rfl, value_ofSaid d.consistent⟩⟩
  · intro l
    refine ⟨?_, fun d hd => read_eq_of_given hd⟩
    rw [l.read_eq, l.named.read_eq, l.said_named]
  · intro document s h
    obtain ⟨d, left, -, -, hiterations, htimeout⟩ := exists_readDraft_of_read h
    have hvalid : validate s = .ok s := validate_of_read h
    have hrange : s.InRange := inRange_of_read h
    refine ⟨Nat.one_le_iff_ne_zero.2 hiterations, Nat.one_le_iff_ne_zero.2 htimeout, ?_, ?_⟩
    · rw [encode_write s hrange]
      exact read_of_given_all hvalid (given_written s hrange)
    · intro d hd
      exact read_of_given_all hvalid hd

example : read (Utf8.encode "\x7b\"fetch_timeout\": 250, \"x\": [1, null], \"max_iterations\": 5\x7d".toList) =
    .ok { standard with maxIterations := 5, fetchTimeout := 250 } := by
  decide +kernel

end Settings

end TemplateExpansion
