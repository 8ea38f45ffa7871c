/-
# From a registered name to its operation

An operation is called by writing its name and its operands between braces.  Four parts of the library
meet there: the rule for names (`Registry.isOpcode`), writing and reading expressions, the search for
spans, and looking names up.  This file says that they fit.

* What is written from a name and operands holds no brace that opens or closes anything, if the operands
  hold none (`Expression.inert_inner_make`): neither the colon nor a bar is a backslash, so a backslash at
  the end of the name or of an operand escapes nothing.
* So with its braces it is one span from end to end (`Span.all_braced`), and what stands between them is
  read back as the expression (`Expression.parse_inner_eq_self_iff`).
* The name is the opcode that was read, and it finds the operation that was registered under it
  (`Registry.dispatch_written`).
-/
import TemplateExpansion.Builtin.Standard
import TemplateExpansion.Proofs.Position
import TemplateExpansion.Proofs.Registration
import TemplateExpansion.Proofs.RoundTrip

namespace TemplateExpansion

open Text

/-! ## 1. Inert expressions -/

namespace Text

/-- A character in front of an inert text leaves it inert if it is no brace. -/
theorem Inert.cons {c : Char} (ho : c ≠ '{') (hc : c ≠ '}') {t : Text} (ht : Inert t) : Inert (c :: t) := by
  have hsingle : Inert [c] := inert_of_not_mem (by simp [Ne.symm ho]) (by simp [Ne.symm hc])
  exact hsingle.append ht

/-- Inert pieces stay inert when they are joined. -/
theorem Inert.join {separator : Char} (ho : separator ≠ '{') (hc : separator ≠ '}') {pieces : List Text}
    (h : ∀ piece ∈ pieces, Inert piece) : Inert (Text.join separator pieces) := by
  induction pieces with
  | nil => exact inert_nil
  | cons piece pieces ih =>
    obtain ⟨hpiece, hpieces⟩ := List.forall_mem_cons.1 h
    cases pieces with
    | nil =>
      rw [join_singleton]
      exact hpiece
    | cons next pieces =>
      rw [join_cons_cons]
      exact hpiece.append ((ih hpieces).cons ho hc)

end Text

/-- An expression of an inert opcode and inert operands is inert between its braces. -/
theorem Expression.inert_inner_make {opcode : Text} (hopcode : Inert opcode) {operands : List Text}
    (h : ∀ operand ∈ operands, Inert operand) : Inert (make opcode operands).inner := by
  cases operands with
  | nil => exact hopcode
  | cons operand operands =>
    have hinner : (make opcode (operand :: operands)).inner =
        opcode ++ ':' :: Text.join '|' (operand :: operands) := if_pos ⟨rfl, List.cons_ne_nil _ _⟩
    have hjoined : Inert (Text.join '|' (operand :: operands)) := Inert.join (by decide) (by decide) h
    rw [hinner]
    exact hopcode.append (hjoined.cons (by decide) (by decide))

/-! ## 2. One span from end to end -/

namespace Span

/-- The span of a pair of braces at the start of a text. -/
theorem ofCut_braced (inner : Text) :
    ofCut 0 ⟨[], inner, []⟩ = ⟨0, (Cut.braced inner).byteSize, inner⟩ := by
  rw [ofCut, Cut.byteSize_braced, Cut.width]
  simp

variable {inner : Text} (h : Inert inner)

include h

/-- An inert text in braces is a match by itself. -/
theorem first?_braced : Cut.first? false (Cut.braced inner) = some ⟨[], inner, []⟩ :=
  Cut.first?_eq_some_iff.2 ⟨rfl, rfl, rfl, h⟩

/-- A search from its start finds it. -/
theorem find_braced : find (Cut.braced inner) = some ⟨0, (Cut.braced inner).byteSize, inner⟩ := by
  have hfind : find (Cut.braced inner) = (Cut.first? false (Cut.braced inner)).map (ofCut 0) :=
    findFrom_append [] (Cut.braced inner)
  rw [hfind, first?_braced h, Option.map_some, ofCut_braced]

/-- **An inert text in braces is one span**, which covers all of it. -/
theorem all_braced : all (Cut.braced inner) = [⟨0, (Cut.braced inner).byteSize, inner⟩] := by
  have hend : Cut.first? false [] = none := rfl
  rw [all, chain_of_some (first?_braced h), chain_of_none hend, ofCut_braced]

end Span

/-! ## 3. Registered names -/

namespace Registry

/-- The built-in operations have names that can be written as opcodes. -/
theorem isOpcode_of_mem_standard {settings : Settings} {fetch : Fetcher} {op : Operation}
    (h : op ∈ (standard settings fetch).operations) : isOpcode op.name = true := by
  obtain ⟨b, -, rfl⟩ := List.mem_map.1 (mem_ofList h)
  rw [Builtin.name_operation]
  cases b <;> decide

/-- An operation that is there from the start or that a call registers has a name that can be written as
an opcode, and after all calls it is found under this name. -/
theorem isOpcode_and_get? {start : Registry} {ops : List Operation} {op : Operation}
    (hstart : start = empty ∨ ∃ settings fetch, start = standard settings fetch)
    (h : op ∈ start.operations ∨ start.Accepts ops op) :
    isOpcode op.name = true ∧ (start.registerEach ops).get? op.name = some op := by
  rcases h with h | h
  · refine ⟨?_, get?_registerEach (get?_of_mem h) ops⟩
    rcases hstart with rfl | ⟨settings, fetch, rfl⟩
    · exact absurd h List.not_mem_nil
    · exact isOpcode_of_mem_standard h
  · exact ⟨h.isOpcode, get?_of_accepts h⟩

/-- **What is registered can be written, found, read and looked up.**  Take an empty registry or that of
the built-in operations, and calls that register operations one after the other, some of which may be
refused.  Take an operation that is registered in the end, and operands, at least one, without bars and
closing braces and with a backslash directly before each opening brace.  Then what is written from the
operation's name and the operands is one span from end to end, what stands between its braces is read back
as the same expression, and its opcode finds the operation. -/
theorem dispatch_written {start : Registry}
    (hstart : start = empty ∨ ∃ settings fetch, start = standard settings fetch) {ops : List Operation}
    {op : Operation} (hop : op ∈ start.operations ∨ start.Accepts ops op) {operands : List Text}
    (hne : operands ≠ [])
    (h : ∀ operand ∈ operands, '}' ∉ operand ∧ '|' ∉ operand ∧
      ∀ s r, operand = s ++ '{' :: r → s.getLast? = some '\\') :
    let e := Expression.make op.name operands
    ∃ inner, Span.find e.source = some ⟨0, e.source.byteSize, inner⟩ ∧
      Span.all e.source = [⟨0, e.source.byteSize, inner⟩] ∧
      Expression.parse inner = e ∧
      (start.registerEach ops).get? (Expression.parse inner).opcode = some op := by
  intro e
  obtain ⟨hname, hget⟩ := isOpcode_and_get? hstart hop
  obtain ⟨-, hopen, hclose, hcolon, -⟩ := isOpcode_iff.1 hname
  have hoperands : ∀ operand ∈ operands, Inert operand := fun operand ho =>
    ⟨flat_iff_getLast?.2 (h operand ho).2.2, (h operand ho).1⟩
  have hinert : Inert e.inner := Expression.inert_inner_make (inert_of_not_mem hopen hclose) hoperands
  have hlegible : e.Legible :=
    Expression.legible_make_iff.2 ⟨hne, hcolon, fun operand ho => (h operand ho).2.1⟩
  have hparse : Expression.parse e.inner = e := hlegible.parse_inner
  refine ⟨e.inner, Span.find_braced hinert, Span.all_braced hinert, hparse, ?_⟩
  rw [hparse]
  exact hget

/-- A name and operands that end in backslashes, a colon and an escaped brace in an operand; a refused call
comes before, and one for the same name after. -/
theorem dispatch_written_backslashes :
    let note : Operation := .constant "né\\".toList []
    let ops := [.constant "a:b".toList [], .constant "add".toList [], note, .constant "né\\".toList ['x']]
    let start := standard .standard fun _ => .error .missingUrl
    (start = empty ∨ ∃ settings fetch, start = standard settings fetch) ∧ start.Accepts ops note ∧
      ["\\\x7bx:".toList, "y\\".toList] ≠ [] ∧
      ∃ inner, Span.find "\x7bné\\:\\\x7bx:|y\\\x7d".toList = some ⟨0, 14, inner⟩ ∧
        Span.all "\x7bné\\:\\\x7bx:|y\\\x7d".toList = [⟨0, 14, inner⟩] ∧
        Expression.parse inner = .make note.name ["\\\x7bx:".toList, "y\\".toList] ∧
        (start.registerEach ops).get? (Expression.parse inner).opcode = some note := by
  intro note ops start
  have hstart : start = empty ∨ ∃ settings fetch, start = standard settings fetch := .inr ⟨_, _, rfl⟩
  have haccepts : start.Accepts ops note :=
    ⟨[.constant "a:b".toList [], .constant "add".toList []], _, _, rfl,
      register_eq_ok_iff.2 ⟨by decide, by decide, rfl⟩⟩
  have hoperands : ∀ operand ∈ ["\\\x7bx:".toList, "y\\".toList], '}' ∉ operand ∧ '|' ∉ operand ∧
      ∀ s r, operand = s ++ '{' :: r → s.getLast? = some '\\' := by
    simp only [List.forall_mem_cons, ← flat_iff_getLast?]
    exact ⟨⟨by decide, by decide, by simp [Flat]⟩, ⟨by decide, by decide, by simp [Flat]⟩, by simp⟩
  obtain ⟨inner, hfind, hall, hparse, hget⟩ :=
    dispatch_written hstart (.inr haccepts) (List.cons_ne_nil _ _) hoperands
  exact ⟨hstart, haccepts, List.cons_ne_nil _ _, inner, hfind, hall, hparse, hget⟩

end Registry

end TemplateExpansion
