/-
# Registering one operation after the other

A call of `Registry.register` yields a new registry or the cause why the operation is refused; after a
refused call one goes on with the registry as it was.  This file says what a registry holds after any
number of such calls.

* Within a registry a name belongs to one operation, since the names are strictly increasing
  (`get?_of_mem`).
* A call that is accepted puts the operation under its name (`register_eq_ok_iff`), and no call takes
  an operation away or puts another in its place (`get?_registerEach`).  So an operation that some call
  registered is found under its name after all calls (`get?_of_accepts`).
-/
import TemplateExpansion.Registry

namespace TemplateExpansion
namespace Registry

/-! ## 1. What is in a registry -/

/-- Only what was put into a registry is in it. -/
theorem mem_ofList {ops : List Operation} {op : Operation} (h : op ∈ (ofList ops).operations) :
    op ∈ ops := by
  suffices hs : ∀ (ops : List Operation) (registry : Registry),
      op ∈ (ops.foldl insert registry).operations → op ∈ registry.operations ∨ op ∈ ops from
    (hs ops empty h).elim (fun h => absurd h List.not_mem_nil) id
  intro ops
  induction ops with
  | nil => exact fun registry h => .inl h
  | cons o ops ih =>
    intro registry h
    rcases ih (registry.insert o) h with h | h
    · rcases mem_insertOperation h with rfl | h
      · exact .inr List.mem_cons_self
      · exact .inl h
    · exact .inr (List.mem_cons_of_mem _ h)

theorem findOperation_of_mem {ops : List Operation} (hs : ops.Pairwise fun a b => a.name < b.name)
    {op : Operation} (h : op ∈ ops) : findOperation op.name ops = some op := by
  induction ops with
  | nil => exact absurd h List.not_mem_nil
  | cons first rest ih =>
    obtain ⟨hfirst, hrest⟩ := List.pairwise_cons.1 hs
    rw [findOperation_cons]
    rcases List.mem_cons.1 h with rfl | h
    · exact if_pos rfl
    · have hne : first.name ≠ op.name := fun heq => List.lt_irrefl op.name (heq ▸ hfirst op h)
      rw [if_neg hne]
      exact ih hrest h

/-- **An operation of a registry is found under its name.** -/
theorem get?_of_mem {registry : Registry} {op : Operation} (h : op ∈ registry.operations) :
    registry.get? op.name = some op :=
  findOperation_of_mem registry.sorted h

/-- A name is taken exactly if one of the operations has it. -/
theorem contains_iff {registry : Registry} {name : Text} :
    registry.contains name = true ↔ name ∈ registry.operations.map Operation.name := by
  rw [contains, get?, findOperation, List.find?_isSome, List.mem_map]
  simp only [beq_iff_eq]

/-- A name finds the operation that has it. -/
theorem get?_eq_some_iff {registry : Registry} {name : Text} {op : Operation} :
    registry.get? name = some op ↔ op ∈ registry.operations ∧ op.name = name := by
  constructor
  · intro h
    have hname := List.find?_some (p := fun other : Operation => other.name == name) h
    exact ⟨List.mem_of_find?_eq_some h, eq_of_beq hname⟩
  · rintro ⟨hmem, rfl⟩
    exact get?_of_mem hmem

/-! ## 2. One call -/

/-- A name can be written as an opcode exactly when it is not empty and holds none of the characters that
divide expressions. -/
theorem isOpcode_iff {name : Text} :
    isOpcode name = true ↔ name ≠ [] ∧ '{' ∉ name ∧ '}' ∉ name ∧ ':' ∉ name ∧ '|' ∉ name := by
  have hmarks (c : Char) : (!"\x7b\x7d:|".toList.contains c) = true ↔
      c ≠ '{' ∧ c ≠ '}' ∧ c ≠ ':' ∧ c ≠ '|' := by simp
  simp only [isOpcode, Bool.and_eq_true, List.all_eq_true, hmarks, Bool.not_eq_true',
    List.isEmpty_eq_false_iff]
  constructor
  · rintro ⟨hne, h⟩
    exact ⟨hne, fun hm => (h _ hm).1 rfl, fun hm => (h _ hm).2.1 rfl, fun hm => (h _ hm).2.2.1 rfl,
      fun hm => (h _ hm).2.2.2 rfl⟩
  · rintro ⟨hne, ho, hc, hcolon, hbar⟩
    refine ⟨hne, fun c hm => ⟨?_, ?_, ?_, ?_⟩⟩
    · exact fun h => ho (h ▸ hm)
    · exact fun h => hc (h ▸ hm)
    · exact fun h => hcolon (h ▸ hm)
    · exact fun h => hbar (h ▸ hm)

/-- **A call is accepted** exactly when the name can be written as an opcode and is not taken, and then
the operation is put into the registry. -/
theorem register_eq_ok_iff {registry next : Registry} {op : Operation} :
    registry.register op = .ok next ↔
      isOpcode op.name = true ∧ registry.contains op.name = false ∧ registry.insert op = next := by
  unfold register
  cases hname : isOpcode op.name with
  | false => simp
  | true => cases htaken : registry.contains op.name <;> simp

/-- The registry to go on with after a call. -/
def afterCall (registry : Registry) (op : Operation) : Registry :=
  match registry.register op with
  | .ok next => next
  | .error _ => registry

theorem afterCall_of_ok {registry next : Registry} {op : Operation}
    (h : registry.register op = .ok next) : registry.afterCall op = next := by
  rw [afterCall, h]

/-- A call leaves what is registered in its place. -/
theorem get?_afterCall {registry : Registry} {name : Text} {op : Operation}
    (h : registry.get? name = some op) (other : Operation) :
    (registry.afterCall other).get? name = some op := by
  unfold afterCall
  cases hcall : registry.register other with
  | error cause => exact h
  | ok next =>
    obtain ⟨-, hfree, rfl⟩ := register_eq_ok_iff.1 hcall
    have hne : name ≠ other.name := by
      rintro rfl
      rw [contains, h] at hfree
      exact absurd hfree.symm Bool.false_ne_true
    exact (get?_insert registry other name).trans ((if_neg hne).trans h)

/-! ## 3. Calls one after the other -/

/-- Registers operations one after the other; those that are refused are passed over. -/
def registerEach (registry : Registry) (ops : List Operation) : Registry := ops.foldl afterCall registry

/-- **Calls leave what is registered in its place.** -/
theorem get?_registerEach {registry : Registry} {name : Text} {op : Operation}
    (h : registry.get? name = some op) (ops : List Operation) :
    (registry.registerEach ops).get? name = some op := by
  induction ops generalizing registry with
  | nil => exact h
  | cons other ops ih => exact ih (get?_afterCall h other)

/-- One of the calls registers the operation. -/
def Accepts (registry : Registry) (ops : List Operation) (op : Operation) : Prop :=
  ∃ earlier later next, ops = earlier ++ op :: later ∧
    (registry.registerEach earlier).register op = .ok next

variable {registry : Registry} {ops : List Operation} {op : Operation}

/-- What a call registers has a name that can be written as an opcode. -/
theorem Accepts.isOpcode (h : registry.Accepts ops op) : isOpcode op.name = true := by
  obtain ⟨earlier, later, next, -, hcall⟩ := h
  exact (register_eq_ok_iff.1 hcall).1

/-- **What one of the calls registers is found under its name after all of them.** -/
theorem get?_of_accepts (h : registry.Accepts ops op) :
    (registry.registerEach ops).get? op.name = some op := by
  obtain ⟨earlier, later, next, rfl, hcall⟩ := h
  obtain ⟨-, -, hnext⟩ := register_eq_ok_iff.1 hcall
  have hfound : next.get? op.name = some op := by
    rw [← hnext, get?_insert, if_pos rfl]
  have hsplit : registry.registerEach (earlier ++ op :: later) = next.registerEach later := by
    rw [registerEach, List.foldl_append, List.foldl_cons]
    exact congrArg (registerEach · later) (afterCall_of_ok hcall)
  rw [hsplit]
  exact get?_registerEach hfound later

end Registry
end TemplateExpansion
