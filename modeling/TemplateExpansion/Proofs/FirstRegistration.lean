/-
# The first registration of a name is kept

Take any calls that register operations, one after the other, some of which are refused.  `accepted` lists the
operations that they register, and what a registry holds in the end is what it held before and these
(`operations_registerEach`).  So the next call is decided by what was held before and registered since, and a
name finds the operation of the first call for it that could be accepted (`get?_registerEach_eq`).  A call that
is refused plays no part in this, whatever its name.

The main statement puts this together for the two registries that one may start from, the empty one and the
one with the built-in operations (`register_history`).
-/
import TemplateExpansion.Proofs.ByteOrder
import TemplateExpansion.Proofs.Dispatch

namespace TemplateExpansion
namespace Registry

open scoped List

variable {registry : Registry} {op : Operation}

/-! ## 1. Inserting -/

/-- Inserting an operation of a new name takes nothing away. -/
theorem insertOperation_perm {ops : List Operation} (hfree : op.name ∉ ops.map Operation.name) :
    (insertOperation op ops).Perm (op :: ops) := by
  induction ops with
  | nil => exact .refl _
  | cons other rest ih =>
    rw [List.map_cons, List.mem_cons, not_or] at hfree
    obtain ⟨hne, hrest⟩ := hfree
    rw [insertOperation]
    split
    · exact .refl _
    · exact ((ih hrest).cons other).trans (.swap op other rest)

/-! ## 2. One call -/

theorem register_eq_invalid_iff :
    registry.register op = .error (.invalidOpcode op.name) ↔ isOpcode op.name = false := by
  unfold register
  cases isOpcode op.name with
  | false => simp
  | true => cases registry.contains op.name <;> simp

theorem register_eq_duplicate_iff :
    registry.register op = .error (.duplicateOpcode op.name) ↔
      isOpcode op.name = true ∧ registry.contains op.name = true := by
  unfold register
  cases isOpcode op.name with
  | false => simp
  | true => cases registry.contains op.name <;> simp

theorem exists_register_eq_ok_iff :
    (∃ next, registry.register op = .ok next) ↔
      isOpcode op.name = true ∧ registry.contains op.name = false := by
  simp only [register_eq_ok_iff, exists_and_left, exists_eq', and_true]

/-- **A call either puts the operation into the registry or leaves the registry as it was.** -/
theorem afterCall_eq (registry : Registry) (op : Operation) :
    registry.afterCall op =
      if isOpcode op.name = true ∧ registry.contains op.name = false then registry.insert op
      else registry := by
  unfold afterCall register
  cases isOpcode op.name with
  | false => simp
  | true => cases registry.contains op.name <;> simp

/-! ## 3. Calls one after the other -/

/-- The operations that the calls register, in the order of the calls. -/
def accepted (registry : Registry) : List Operation → List Operation
  | [] => []
  | op :: ops =>
    match registry.register op with
    | .ok next => op :: next.accepted ops
    | .error _ => registry.accepted ops

theorem registerEach_concat (registry : Registry) (ops : List Operation) (op : Operation) :
    registry.registerEach (ops ++ [op]) = (registry.registerEach ops).afterCall op := by
  rw [registerEach, List.foldl_append]
  rfl

/-- **What is held in the end** is what was held before and what the calls register. -/
theorem operations_registerEach (registry : Registry) (ops : List Operation) :
    (registry.registerEach ops).operations.Perm (registry.operations ++ registry.accepted ops) := by
  induction ops generalizing registry with
  | nil =>
    rw [accepted, List.append_nil]
    exact .refl _
  | cons op ops ih =>
    have hcall : registry.registerEach (op :: ops) = (registry.afterCall op).registerEach ops := rfl
    rw [hcall, accepted]
    cases h : registry.register op with
    | error cause =>
      have hsame : registry.afterCall op = registry := by rw [afterCall, h]
      rw [hsame]
      exact ih registry
    | ok next =>
      obtain ⟨-, hfree, hnext⟩ := register_eq_ok_iff.1 h
      have hnew : op.name ∉ registry.operations.map Operation.name := by
        intro hmem
        rw [contains_iff.2 hmem] at hfree
        exact absurd hfree.symm Bool.false_ne_true
      have hinsert : next.operations.Perm (op :: registry.operations) :=
        hnext ▸ insertOperation_perm hnew
      rw [afterCall_of_ok h]
      calc
        (next.registerEach ops).operations ~ next.operations ++ next.accepted ops := ih next
        _ ~ op :: (registry.operations ++ next.accepted ops) := hinsert.append_right _
        _ ~ registry.operations ++ op :: next.accepted ops := List.perm_middle.symm

/-- The registry's names can all be written as opcodes. -/
def Writable (registry : Registry) : Prop := ∀ op ∈ registry.operations, isOpcode op.name = true

theorem Writable.afterCall (h : registry.Writable) (op : Operation) : (registry.afterCall op).Writable := by
  rw [afterCall_eq]
  split
  · rename_i hcall
    intro other hother
    rcases mem_insertOperation hother with rfl | hmem
    · exact hcall.1
    · exact h other hmem
  · exact h

theorem get?_afterCall_eq {name : Text} (hname : isOpcode name = true) :
    (registry.afterCall op).get? name = (registry.get? name).or (findOperation name [op]) := by
  rw [findOperation_cons, findOperation_nil, afterCall_eq]
  by_cases heq : op.name = name
  · subst heq
    rw [if_pos rfl]
    cases hget : registry.get? op.name with
    | none =>
      have hfree : registry.contains op.name = false := by rw [contains, hget]; rfl
      rw [if_pos ⟨hname, hfree⟩, get?_insert, if_pos rfl]
      rfl
    | some other =>
      have htaken : registry.contains op.name = true := by rw [contains, hget]; rfl
      rw [if_neg (by simp [htaken]), hget]
      rfl
  · rw [if_neg heq, Option.or_none]
    split
    · rw [get?_insert, if_neg (Ne.symm heq)]
    · rfl

/-- **The first registration is kept.**  A name that can be written as an opcode finds the operation that the
registry had under it, and else that of the first call for it. -/
theorem get?_registerEach_eq (h : registry.Writable) (ops : List Operation) (name : Text) :
    (registry.registerEach ops).get? name =
      if isOpcode name = true then findOperation name (registry.operations ++ ops) else none := by
  induction ops generalizing registry with
  | nil =>
    rw [List.append_nil]
    split
    · rfl
    · rename_i hname
      refine Option.eq_none_iff_forall_ne_some.2 fun op hop => ?_
      obtain ⟨hmem, rfl⟩ := get?_eq_some_iff.1 hop
      exact hname (h op hmem)
  | cons op ops ih =>
    have hcall : registry.registerEach (op :: ops) = (registry.afterCall op).registerEach ops := rfl
    rw [hcall, ih (h.afterCall op)]
    split
    · rename_i hname
      have hfind : ∀ s t : List Operation,
          findOperation name (s ++ t) = (findOperation name s).or (findOperation name t) :=
        fun s t => List.find?_append
      have hafter : findOperation name (registry.afterCall op).operations =
          (findOperation name registry.operations).or (findOperation name [op]) := get?_afterCall_eq hname
      rw [hfind, hafter, Option.or_assoc, ← hfind, ← hfind]
      rfl
    · rfl

/-! ## 4. From the empty registry or the built-in operations -/

/-- A registry of operations of different names holds all of them. -/
theorem operations_ofList {ops : List Operation} (h : (ops.map Operation.name).Nodup) :
    (ofList ops).operations ~ ops := by
  suffices hs : ∀ (ops : List Operation) (registry : Registry),
      ((registry.operations ++ ops).map Operation.name).Nodup →
        (ops.foldl insert registry).operations ~ registry.operations ++ ops from hs ops empty h
  intro ops
  induction ops with
  | nil =>
    intro registry _
    rw [List.append_nil]
    exact .refl _
  | cons op ops ih =>
    intro registry h
    have hfree : op.name ∉ registry.operations.map Operation.name := by
      rw [List.map_append, List.map_cons, List.nodup_append] at h
      intro hmem
      exact h.2.2 _ hmem _ List.mem_cons_self rfl
    have hinsert : (registry.insert op).operations ++ ops ~ registry.operations ++ op :: ops :=
      ((insertOperation_perm hfree).append_right ops).trans List.perm_middle.symm
    exact (ih (registry.insert op) ((hinsert.map Operation.name).nodup_iff.2 h)).trans hinsert

/-- The operations that one starts from: the built-in ones, or none. -/
def preloaded : Option (Settings × Fetcher) → List Operation
  | none => []
  | some (settings, fetch) => Builtin.all.map (Builtin.operation settings fetch)

theorem writable_preloaded (source : Option (Settings × Fetcher)) : (ofList (preloaded source)).Writable := by
  intro op hop
  have hmem := mem_ofList hop
  cases source with
  | none => exact absurd hmem List.not_mem_nil
  | some parts => exact isOpcode_of_mem_standard hop

theorem operations_preloaded (source : Option (Settings × Fetcher)) :
    (ofList (preloaded source)).operations ~ preloaded source := by
  cases source with
  | none => exact .refl _
  | some parts =>
    obtain ⟨settings, fetch⟩ := parts
    refine operations_ofList ?_
    have hnames : (preloaded (some (settings, fetch))).map Operation.name = Builtin.all.map Builtin.opcode := by
      simp [preloaded]
    rw [hnames]
    decide

/-- **A registry is its history.**  Start from the empty registry or from the built-in operations, and register
operations one after the other; a call that is refused does not end the calls.  What is `held` after them are
the operations from the start and those that a call registered.  Then the next call

* is refused as invalid exactly if its name is empty or has one of the four marks;
* is refused as a duplicate exactly if its name has none and is that of an operation that is held;
* is accepted exactly in all other cases, and only then the registry changes, by this operation.

And a name is in the registry exactly if one of the operations that are held has it, and finds this
operation with its requirements.  If the name can be written, that is the operation from the start, or else that
of the first call for it.  The names are listed in the strict order of their bytes, each of them once, and
there are as many as operations that are held. -/
theorem register_history (source : Option (Settings × Fetcher)) (calls : List Operation) :
    let start := ofList (preloaded source)
    let built := start.registerEach calls
    let held := preloaded source ++ start.accepted calls
    (∀ op : Operation,
      let unwritable := op.name = [] ∨ '{' ∈ op.name ∨ '}' ∈ op.name ∨ ':' ∈ op.name ∨ '|' ∈ op.name
      let taken := op.name ∈ held.map Operation.name
      (built.register op = .error (.invalidOpcode op.name) ↔ unwritable) ∧
        (built.register op = .error (.duplicateOpcode op.name) ↔ ¬unwritable ∧ taken) ∧
        ((∃ next, built.register op = .ok next) ↔ ¬unwritable ∧ ¬taken) ∧
        start.registerEach (calls ++ [op]) = if unwritable ∨ taken then built else built.insert op) ∧
      (∀ name, built.contains name = true ↔ name ∈ held.map Operation.name) ∧
      (∀ name op, built.get? name = some op ↔ op ∈ held ∧ op.name = name) ∧
      (∀ name, built.get? name =
        if isOpcode name = true then findOperation name (start.operations ++ calls) else none) ∧
      built.names.Pairwise (fun a b => Utf8.encode a < Utf8.encode b) ∧
      built.names ~ held.map Operation.name ∧
      built.size = held.length := by
  intro start built held
  have hheld : built.operations ~ held :=
    (operations_registerEach start calls).trans ((operations_preloaded source).append_right _)
  have hcontains : ∀ name, built.contains name = true ↔ name ∈ held.map Operation.name := by
    intro name
    rw [contains_iff]
    exact (hheld.map Operation.name).mem_iff
  have hget : ∀ name op, built.get? name = some op ↔ op ∈ held ∧ op.name = name := by
    intro name op
    rw [get?_eq_some_iff, hheld.mem_iff]
  refine ⟨?_, hcontains, hget, ?_, ?_, hheld.map Operation.name, hheld.length_eq⟩
  · intro op unwritable taken
    have hname : isOpcode op.name = true ↔ ¬unwritable := by
      rw [isOpcode_iff]
      tauto
    have hinvalid : isOpcode op.name = false ↔ unwritable := by
      rw [← Bool.not_eq_true, hname, not_not]
    have htaken : built.contains op.name = true ↔ taken := hcontains op.name
    have hfree : built.contains op.name = false ↔ ¬taken := by
      rw [← Bool.not_eq_true, htaken]
    refine ⟨?_, ?_, ?_, ?_⟩
    · rw [register_eq_invalid_iff, hinvalid]
    · rw [register_eq_duplicate_iff, hname, htaken]
    · rw [exists_register_eq_ok_iff, hname, hfree]
    · have hcall : isOpcode op.name = true ∧ built.contains op.name = false ↔ ¬(unwritable ∨ taken) := by
        rw [hname, hfree]
        exact not_or.symm
      rw [registerEach_concat, afterCall_eq]
      by_cases hrefused : unwritable ∨ taken
      · rw [if_neg fun h => hcall.1 h hrefused, if_pos hrefused]
      · rw [if_pos (hcall.2 hrefused), if_neg hrefused]
  · intro name
    exact get?_registerEach_eq (writable_preloaded source) calls name
  · refine List.pairwise_map.2 (built.sorted.imp ?_)
    intro a b hlt
    exact Utf8.encode_lt_encode_iff.2 hlt

/-- A name with a colon and a second `b` are refused, and what is left is in the order of the bytes. -/
example :
    let calls : List Operation :=
      [.constant "é".toList [], .constant "a:".toList [], .constant "b".toList ['1'], .constant "b".toList ['2']]
    (empty.registerEach calls).names = ["b".toList, "é".toList] := by decide

end Registry
end TemplateExpansion
