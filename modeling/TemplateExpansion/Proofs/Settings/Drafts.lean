/-
# Drafts by their fields

Settings are six fields, and so is a draft of them.  What is true of all six is said once here, of the value of
a field (`Settings.value`, `Draft.value?`): putting a value into a field changes that field and no other
(`value?_put`), and completing a draft fills in the standard value of each field that has none
(`value_complete`).  With each field at most once, a draft that was told some values has for each field the value
that was told for it (`value?_foldl_tell`), so the order does not matter (`Consistent.lookup_perm`).

Numbers that are read have at most 64 bits.  That is so for every draft on the way and hence for all settings
that come out of a document (`inRange_of_read`).
-/
import TemplateExpansion.Settings.Reader
import TemplateExpansion.Proofs.Json.Values

namespace TemplateExpansion

open Json

namespace Settings

/-! ## 1. The value of a field -/

/-- The value that settings have in a field. -/
def value (s : Settings) : Field → Value
  | .maxIterations => .number (.natural s.maxIterations)
  | .fetchTimeout => .number (.natural s.fetchTimeout)
  | .maxFetchBytes => .number (.natural s.maxFetchBytes)
  | .userAgent => .string s.userAgent
  | .maxRepeat => .number (.natural s.maxRepeat)
  | .maxRepeatBytes => .number (.natural s.maxRepeatBytes)

/-- A field can hold the value: a text for the user agent, and a whole number for every other field. -/
def Field.holds : Field → Value → Bool
  | .userAgent, .string _ => true
  | .userAgent, _ => false
  | _, .number (.natural _) => true
  | _, _ => false

theorem Field.mem_all (field : Field) : field ∈ Field.all := by
  cases field <;> decide

theorem Field.nodup_all : Field.all.Nodup := by decide

theorem holds_value (s : Settings) (field : Field) : field.holds (s.value field) = true := by
  cases field <;> rfl

namespace Draft

/-- The value that a draft has in a field. -/
def value? (d : Draft) : Field → Option Value
  | .maxIterations => d.maxIterations.map (.number ∘ .natural)
  | .fetchTimeout => d.fetchTimeout.map (.number ∘ .natural)
  | .maxFetchBytes => d.maxFetchBytes.map (.number ∘ .natural)
  | .userAgent => d.userAgent.map .string
  | .maxRepeat => d.maxRepeat.map (.number ∘ .natural)
  | .maxRepeatBytes => d.maxRepeatBytes.map (.number ∘ .natural)

theorem has_eq (d : Draft) (field : Field) : d.has field = (d.value? field).isSome := by
  cases field <;> simp [has, value?]

theorem value?_empty (field : Field) : empty.value? field = none := by
  cases field <;> rfl

/-- **Putting a value into a field changes that field** and no other. -/
theorem value?_put {d d' : Draft} {field : Field} {x : Value} (h : d.put field x = .ok d') (other : Field) :
    d'.value? other = if other = field then some x else d.value? other := by
  unfold put at h
  split at h
  · rename_i hfield
    subst hfield
    split at h
    · cases h
      cases other <;> rfl
    · cases h
  · split at h
    · cases h
      cases field <;> cases other <;> first | rfl | contradiction
    · cases h
    · cases h

theorem exists_put (d : Draft) {field : Field} {x : Value} (h : field.holds x = true) :
    ∃ d', d.put field x = .ok d' := by
  unfold Field.holds at h
  split at h
  · exact ⟨_, rfl⟩
  · cases h
  · rename_i n hfield
    exact ⟨d.putNumber n field, by rw [put, if_neg hfield]⟩
  · cases h

/-- **Completing a draft** fills in the standard value of each field that has none. -/
theorem value_complete (d : Draft) (field : Field) :
    d.complete.value field = (d.value? field).getD (standard.value field) := by
  obtain ⟨a, b, c, t, e, f⟩ := d
  cases field
  · cases a <;> rfl
  · cases b <;> rfl
  · cases c <;> rfl
  · cases t <;> rfl
  · cases e <;> rfl
  · cases f <;> rfl

/-! ## 2. What a draft was told -/

/-- A draft that was told a value for a field; one that does not fit is not heard. -/
def tell (d : Draft) (p : Field × Value) : Draft :=
  match d.put p.1 p.2 with
  | .ok d' => d'
  | .error _ => d

theorem put_eq_tell (d : Draft) {p : Field × Value} (h : p.1.holds p.2 = true) :
    d.put p.1 p.2 = .ok (d.tell p) := by
  obtain ⟨d', hd'⟩ := d.exists_put h
  rw [tell, hd']

theorem value?_tell (d : Draft) {p : Field × Value} (h : p.1.holds p.2 = true) (other : Field) :
    (d.tell p).value? other = if other = p.1 then some p.2 else d.value? other :=
  value?_put (d.put_eq_tell h) other

/-- A value for each field at most, and one that the field can hold. -/
structure Consistent (said : List (Field × Value)) : Prop where
  holds : ∀ p ∈ said, p.1.holds p.2 = true
  once : (said.map Prod.fst).Nodup

theorem Consistent.tail {p : Field × Value} {said : List (Field × Value)} (h : Consistent (p :: said)) :
    Consistent said :=
  ⟨fun q hq => h.holds q (List.mem_cons_of_mem p hq), (List.nodup_cons.1 h.once).2⟩

/-- **A draft that was told some values** has for each field the value that was told for it. -/
theorem value?_foldl_tell {said : List (Field × Value)} (h : Consistent said) (d : Draft) (field : Field) :
    (said.foldl tell d).value? field = (said.lookup field).or (d.value? field) := by
  induction said generalizing d with
  | nil => rfl
  | cons p said ih =>
    have hp := h.holds p List.mem_cons_self
    rw [List.foldl_cons, ih h.tail, value?_tell d hp, List.lookup_cons]
    by_cases hfield : field = p.1
    · have hnone : said.lookup field = none := by
        refine List.lookup_eq_none_iff.2 ?_
        intro q hq
        have hne : field ≠ q.1 := by
          rintro rfl
          exact (List.nodup_cons.1 h.once).1 (hfield ▸ List.mem_map_of_mem hq)
        simpa using hne
      rw [if_pos hfield, hnone, beq_iff_eq.2 hfield]
      rfl
    · rw [if_neg hfield, beq_eq_false_iff_ne.2 hfield]

/-- With each field at most once, a value is found exactly if it was told. -/
theorem Consistent.lookup_eq_some_iff {said : List (Field × Value)} (h : Consistent said) {field : Field}
    {x : Value} : said.lookup field = some x ↔ (field, x) ∈ said := by
  induction said with
  | nil => simp
  | cons p said ih =>
    obtain ⟨f, y⟩ := p
    have hfresh : f ∉ said.map Prod.fst := (List.nodup_cons.1 h.once).1
    rw [List.lookup_cons, List.mem_cons]
    by_cases hfield : field = f
    · subst hfield
      rw [beq_self_eq_true]
      constructor
      · intro hx
        exact .inl (by rw [Option.some.inj hx])
      · rintro (hx | hx)
        · rw [(Prod.mk.inj hx).2]
        · exact absurd (List.mem_map_of_mem hx) hfresh
    · rw [beq_eq_false_iff_ne.2 hfield, ih h.tail]
      exact ⟨.inr, fun hx => hx.resolve_left fun heq => hfield (Prod.mk.inj heq).1⟩

/-- **The order in which values are told** does not matter. -/
theorem Consistent.lookup_perm {said said' : List (Field × Value)} (h : Consistent said)
    (hperm : said'.Perm said) (field : Field) : said'.lookup field = said.lookup field := by
  have h' : Consistent said' :=
    ⟨fun p hp => h.holds p (hperm.mem_iff.1 hp), (hperm.map Prod.fst).nodup_iff.2 h.once⟩
  refine Option.ext ?_
  intro x
  rw [h'.lookup_eq_some_iff, h.lookup_eq_some_iff, hperm.mem_iff]

end Draft

/-! ## 3. The range of numbers -/

/-- The numbers of a draft have at most 64 bits. -/
def Draft.InRange (d : Draft) : Prop :=
  ∀ field n, d.value? field = some (.number (.natural n)) → n ≤ Decimal.maxUnsigned

/-- The numbers of settings have at most 64 bits. -/
def InRange (s : Settings) : Prop :=
  ∀ field n, s.value field = .number (.natural n) → n ≤ Decimal.maxUnsigned

theorem inRange_empty : Draft.empty.InRange := by
  intro field n h
  rw [Draft.value?_empty] at h
  cases h

theorem inRange_standard : standard.InRange := by
  intro field n h
  cases field <;> cases h <;> decide

theorem Draft.InRange.complete {d : Draft} (h : d.InRange) : d.complete.InRange := by
  intro field n hn
  rw [Draft.value_complete] at hn
  cases hd : d.value? field with
  | none =>
    rw [hd] at hn
    exact inRange_standard field n hn
  | some x =>
    rw [hd] at hn
    exact h field n (hd.trans (congrArg some hn))

section
variable {d d' : Draft} {rest left : Bytes} (hd : d.InRange)
include hd

theorem inRange_of_readField {field : Field} (h : readField d field rest = .ok (d', left)) : d'.InRange := by
  unfold readField at h
  split at h
  · cases h
  · rename_i seen hseen
    split at h
    · cases h
    · rename_i d'' hput
      obtain ⟨rfl, -⟩ := Prod.mk.inj (Except.ok.inj h)
      intro other n hn
      rw [Draft.value?_put hput] at hn
      split at hn
      · exact le_maxUnsigned_of_readValue hseen (Option.some.inj hn)
      · exact hd other n hn

omit hd in
/-- A member leaves a draft alone, or is read into one of its fields. -/
theorem readMember_cases (h : readMember d rest = .ok (d', left)) :
    d' = d ∨ ∃ field after, readField d field after = .ok (d', left) := by
  unfold readMember at h
  cases hname : readString rest with
  | error fault =>
    rw [hname] at h
    cases h
  | ok parts =>
    rw [hname] at h
    simp only [bind, Except.bind, pure, Except.pure] at h
    split at h
    · split at h
      · cases h
      · split at h
        · cases h
        · exact .inl (Prod.mk.inj (Except.ok.inj h)).1.symm
    · split at h
      · cases h
      · split at h
        · cases h
        · exact .inr ⟨_, _, h⟩

theorem inRange_of_readMember (h : readMember d rest = .ok (d', left)) : d'.InRange := by
  rcases readMember_cases h with rfl | ⟨field, after, h⟩
  · exact hd
  · exact inRange_of_readField hd h

theorem inRange_of_readMembers {steps : Nat} {isFirst : Bool}
    (h : readMembers steps isFirst d rest = .ok (d', left)) : d'.InRange := by
  induction steps generalizing d isFirst rest with
  | zero => cases h
  | succ steps ih =>
    rw [readMembers] at h
    split at h
    · cases h
    · split at h
      · obtain ⟨rfl, -⟩ := Prod.mk.inj (Except.ok.inj h)
        exact hd
      · split at h
        · cases h
        · split at h
          · cases h
          · split at h
            · split at h
              · cases h
              · rename_i hmember
                exact ih (inRange_of_readMember hd hmember) h
            · split at h <;> cases h

theorem inRange_of_readElements {fields : List Field} {isFirst : Bool}
    (h : readElements fields isFirst d rest = .ok (d', left)) : d'.InRange := by
  induction fields generalizing d isFirst rest with
  | nil =>
    obtain ⟨_, -, heq⟩ := Decimal.map_eq_ok_iff.1 h
    obtain ⟨rfl, -⟩ := Prod.mk.inj heq
    exact hd
  | cons field fields ih =>
    rw [readElements] at h
    split at h
    · cases h
    · split at h
      · obtain ⟨rfl, -⟩ := Prod.mk.inj (Except.ok.inj h)
        exact hd
      · split at h
        · cases h
        · split at h
          · cases h
          · split at h
            · cases h
            · split at h
              · cases h
              · rename_i hfield
                exact ih (inRange_of_readField hd hfield) h

end

/-- What a document says has only numbers of at most 64 bits. -/
theorem inRange_of_readDraft {document left : Bytes} {d : Draft} (h : readDraft document = .ok (d, left)) :
    d.InRange := by
  unfold readDraft at h
  split at h
  · cases h
  · split at h
    · exact inRange_of_readMembers inRange_empty h
    · split at h
      · exact inRange_of_readElements inRange_empty h
      · split at h <;> cases h

/-- **The settings of a document** are a completed draft of it that is valid. -/
theorem exists_readDraft_of_read {document : Bytes} {s : Settings} (h : read document = .ok s) :
    ∃ d left, readDraft document = .ok (d, left) ∧ s = d.complete ∧ s.maxIterations ≠ 0 ∧
      s.fetchTimeout ≠ 0 := by
  unfold read at h
  split at h
  · cases h
  · rename_i d left hdraft
    split at h
    · cases h
    · unfold validate at h
      split at h
      · cases h
      · split at h
        · cases h
        · rename_i hiterations htimeout
          obtain rfl := Except.ok.inj h
          exact ⟨d, left, hdraft, rfl, hiterations, htimeout⟩

/-- **The numbers of all settings that are read** have at most 64 bits. -/
theorem inRange_of_read {document : Bytes} {s : Settings} (h : read document = .ok s) : s.InRange := by
  obtain ⟨d, left, hdraft, rfl, -, -⟩ := exists_readDraft_of_read h
  exact (inRange_of_readDraft hdraft).complete

end Settings

end TemplateExpansion
