/-
# Diagnostics about settings

What keeps a document from being settings is told on one line, with the place of the fault in the document
(`newline_not_mem_message_of_read`).  A value that does not fit its field is the only thing in it that comes from
the document, and it is named on one line.
-/
import TemplateExpansion.Settings.Reader
import TemplateExpansion.Proofs.Json.Faults

namespace TemplateExpansion
namespace Settings

open Json

/-! ## 1. Fields -/

theorem Field.newline_not_mem_name (field : Field) : '\n' ∉ field.name := by
  cases field <;> decide

theorem Field.newline_not_mem_expected (field : Field) : '\n' ∉ field.expected := by
  cases field <;> decide

theorem Draft.newline_not_mem_mismatch (kind : String) (hkind : '\n' ∉ kind.toList) (x : Value) {asked : Text}
    (hasked : '\n' ∉ asked) : '\n' ∉ mismatch kind x asked := by
  have hvalue := x.newline_not_mem_describe
  simp [mismatch, hkind, hvalue, hasked]

/-- **A value that does not fit its field** is refused on one line. -/
theorem Draft.newline_not_mem_of_put {d : Draft} {field : Field} {x : Value} {message : Text}
    (h : d.put field x = .error message) : '\n' ∉ message := by
  have hexpected := field.newline_not_mem_expected
  unfold put at h
  split at h
  · split at h
    · cases h
    · cases h
      exact newline_not_mem_mismatch "invalid type" (by decide) _ hexpected
  · split at h
    · cases h
    · cases h
      exact newline_not_mem_mismatch "invalid value" (by decide) _ hexpected
    · cases h
      exact newline_not_mem_mismatch "invalid type" (by decide) _ hexpected

theorem oneLine_unfit {message : Text} (h : '\n' ∉ message) (seen : Seen) : (seen.unfit message).OneLine := by
  unfold Seen.unfit
  split <;> exact h

theorem oneLine_duplicateFault (field : Field) (rest : Bytes) : (duplicateFault field rest).OneLine := by
  have hname := field.newline_not_mem_name
  have hmessage : '\n' ∉ "duplicate field `".toList ++ field.name ++ ['\x60'] := by simp [hname]
  exact hmessage

/-! ## 2. The readers of settings -/

variable {d : Draft} {rest : Bytes} {fault : Fault}

theorem oneLine_of_readColon (h : readColon rest = .error fault) : fault.OneLine := by
  unfold readColon at h
  split at h
  · exact oneLine_of_before h (by decide)
  · split at h
    · cases h
    · exact oneLine_of_looking h (by decide)

theorem oneLine_of_readField {field : Field} (h : readField d field rest = .error fault) : fault.OneLine := by
  unfold readField at h
  split at h
  · rename_i hvalue
    cases h
    exact oneLine_of_readValue hvalue
  · split at h
    · rename_i hput
      cases h
      exact oneLine_unfit (Draft.newline_not_mem_of_put hput) _
    · cases h

theorem oneLine_of_readMember (h : readMember d rest = .error fault) : fault.OneLine := by
  simp only [readMember, bind, Except.bind, pure, Except.pure, throw, throwThe, MonadExceptOf.throw] at h
  split at h
  · rename_i hname
    cases h
    exact oneLine_of_readString hname
  · split at h
    · split at h
      · rename_i hcolon
        cases h
        exact oneLine_of_readColon hcolon
      · split at h
        · rename_i hvalue
          cases h
          exact oneLine_of_skipValue hvalue
        · cases h
    · split at h
      · cases h
        exact oneLine_duplicateFault _ _
      · split at h
        · rename_i hcolon
          cases h
          exact oneLine_of_readColon hcolon
        · exact oneLine_of_readField h

theorem oneLine_of_readMembers {steps : Nat} {isFirst : Bool} (h : readMembers steps isFirst d rest = .error fault) :
    fault.OneLine := by
  induction steps generalizing isFirst d rest with
  | zero => exact oneLine_of_looking h (by decide)
  | succ steps ih =>
    unfold readMembers at h
    split at h
    · exact oneLine_of_before h (by decide)
    · split at h
      · cases h
      · split at h
        · exact oneLine_of_looking h (by decide)
        · split at h
          · exact oneLine_of_before h (by decide)
          · split at h
            · split at h
              · rename_i hmember
                cases h
                exact oneLine_of_readMember hmember
              · exact ih h
            · split at h
              · exact oneLine_of_looking h (by decide)
              · exact oneLine_of_looking h (by decide)

theorem oneLine_of_readListEnd (h : readListEnd rest = .error fault) : fault.OneLine := by
  unfold readListEnd at h
  split at h
  · exact oneLine_of_before h (by decide)
  · split at h
    · cases h
    · split at h
      · refine oneLine_of_looking h ?_
        split <;> decide
      · exact oneLine_of_looking h (by decide)

theorem oneLine_of_readElements {fields : List Field} {isFirst : Bool}
    (h : readElements fields isFirst d rest = .error fault) : fault.OneLine := by
  induction fields generalizing isFirst d rest with
  | nil => exact oneLine_of_readListEnd (map_eq_error_iff.1 h)
  | cons field fields ih =>
    unfold readElements at h
    split at h
    · exact oneLine_of_before h (by decide)
    · split at h
      · cases h
      · split at h
        · exact oneLine_of_looking h (by decide)
        · split at h
          · exact oneLine_of_before h (by decide)
          · split at h
            · exact oneLine_of_looking h (by decide)
            · split at h
              · rename_i hfield
                cases h
                exact oneLine_of_readField hfield
              · exact ih h

theorem oneLine_of_readDraft {document : Bytes} (h : readDraft document = .error fault) :
    fault.OneLine := by
  unfold readDraft at h
  split at h
  · cases h
    exact Cause.newline_not_mem_message (by decide)
  · split at h
    · exact oneLine_of_readMembers h
    · split at h
      · exact oneLine_of_readElements h
      · split at h
        · rename_i hvalue
          cases h
          exact oneLine_of_readValue hvalue
        · cases h
          exact oneLine_unfit (Draft.newline_not_mem_mismatch "invalid type" (by decide) _ (by decide)) _

theorem oneLine_of_readEnd (h : readEnd rest = .error fault) : fault.OneLine := by
  unfold readEnd at h
  split at h
  · cases h
  · exact oneLine_of_looking h (by decide)

/-! ## 3. Documents -/

theorem newline_not_mem_fault (h : fault.OneLine) (document : Bytes) :
    '\n' ∉ fault.message document := by
  have hplace := Decimal.newline_not_mem_ofNat
  have hcause : '\n' ∉ fault.cause.message := h
  simp [Fault.message, hcause, hplace]

theorem newline_not_mem_faulty (h : fault.OneLine) (document : Bytes) :
    '\n' ∉ (Error.faulty document fault).message := by
  have hmessage : '\n' ∉ "Failed to parse config: ".toList ++ fault.message document := by
    simp [newline_not_mem_fault h document]
  exact hmessage

theorem newline_not_mem_zero (field : Field) : '\n' ∉ (Error.zero field).message := by
  have hmessage : '\n' ∉ "Invalid config: ".toList ++ field.name ++ " must be greater than 0".toList := by
    simp [field.newline_not_mem_name]
  exact hmessage

/-- **A document that is no settings** is refused on one line. -/
theorem newline_not_mem_message_of_read {document : Bytes} {cause : Error} (h : read document = .error cause) :
    '\n' ∉ cause.message := by
  unfold read at h
  split at h
  · rename_i hdraft
    cases h
    exact newline_not_mem_faulty (oneLine_of_readDraft hdraft) document
  · split at h
    · rename_i hend
      cases h
      exact newline_not_mem_faulty (oneLine_of_readEnd hend) document
    · unfold validate at h
      split at h
      · cases h
        exact newline_not_mem_zero _
      · split at h
        · cases h
          exact newline_not_mem_zero _
        · cases h

end Settings
end TemplateExpansion
