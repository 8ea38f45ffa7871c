/-
# The registry of operations

A registry holds operations under their names, in the order of the names.  Names are ordered by
their characters, which is also the order of their bytes in UTF-8.  A name that could not be written
as the opcode of an expression is refused, and so is a name that is taken.

The main statement says that looking a name up after an insertion finds the inserted operation under
its own name and what was there before under every other (`get?_insert`).
-/
import TemplateExpansion.Operation
import TemplateExpansion.Text.Quoted

namespace TemplateExpansion

/-- Why an operation cannot be registered. -/
inductive RegistryError where
  | duplicateOpcode (name : Text)
  | invalidOpcode (name : Text)
  deriving Repr, DecidableEq

/-- The wording of each cause. -/
def RegistryError.message : RegistryError → Text
  | .duplicateOpcode name => "opcode already registered: ".toList ++ name
  | .invalidOpcode name => "invalid opcode name: ".toList ++ name.quoted

/-- Operations under their names, in strictly increasing order of the names. -/
structure Registry where
  operations : List Operation
  sorted : operations.Pairwise fun a b => a.name < b.name

namespace Registry

/-! ## 1. Inserting in order -/

/-- Puts an operation at its place in an ordered list, instead of one of the same name. -/
def insertOperation (op : Operation) : List Operation → List Operation
  | [] => [op]
  | other :: rest =>
    if op.name < other.name then op :: other :: rest
    else if op.name = other.name then op :: rest
    else other :: insertOperation op rest

theorem mem_insertOperation {op other : Operation} {ops : List Operation}
    (h : other ∈ insertOperation op ops) : other = op ∨ other ∈ ops := by
  induction ops with
  | nil => simpa [insertOperation] using h
  | cons o rest ih => grind [insertOperation]

theorem sorted_insertOperation {op : Operation} {ops : List Operation}
    (h : ops.Pairwise fun a b => a.name < b.name) :
    (insertOperation op ops).Pairwise fun a b => a.name < b.name := by
  induction ops with
  | nil => simp [insertOperation]
  | cons o rest ih =>
    obtain ⟨ho, hr⟩ := List.pairwise_cons.1 h
    simp only [insertOperation]
    split
    case isTrue hlt =>
      refine List.pairwise_cons.2 ⟨fun b hb => ?_, h⟩
      rcases List.mem_cons.1 hb with rfl | hb
      · exact hlt
      · exact List.lt_trans hlt (ho b hb)
    case isFalse hlt =>
      split
      case isTrue heq => exact List.pairwise_cons.2 ⟨fun b hb => heq ▸ ho b hb, hr⟩
      case isFalse hne =>
        refine List.pairwise_cons.2 ⟨fun b hb => ?_, ih hr⟩
        rcases mem_insertOperation hb with rfl | hb
        · exact List.not_le.1 fun hle => hne (List.le_antisymm hle (List.not_lt.1 hlt))
        · exact ho b hb

/-- Puts an operation into the registry, instead of one of the same name. -/
def insert (registry : Registry) (op : Operation) : Registry :=
  ⟨insertOperation op registry.operations, sorted_insertOperation registry.sorted⟩

/-- The registry without operations. -/
def empty : Registry := ⟨[], .nil⟩

/-- The registry of a list of operations; of two with one name the later is kept. -/
def ofList (ops : List Operation) : Registry := ops.foldl insert empty

/-! ## 2. Reading -/

/-- The first operation of a name in a list. -/
def findOperation (name : Text) (ops : List Operation) : Option Operation :=
  ops.find? (·.name == name)

@[simp] theorem findOperation_nil (name : Text) : findOperation name [] = none := rfl

theorem findOperation_cons (name : Text) (op : Operation) (ops : List Operation) :
    findOperation name (op :: ops) = if op.name = name then some op else findOperation name ops := by
  by_cases h : op.name = name <;> simp [findOperation, h]

/-- The operation registered under a name. -/
def get? (registry : Registry) (name : Text) : Option Operation :=
  findOperation name registry.operations

/-- An operation is registered under the name. -/
def contains (registry : Registry) (name : Text) : Bool := (registry.get? name).isSome

/-- The registered names, in order. -/
def names (registry : Registry) : List Text := registry.operations.map Operation.name

/-- The number of registered operations. -/
def size (registry : Registry) : Nat := registry.operations.length

/-- Nothing is registered. -/
def isEmpty (registry : Registry) : Bool := registry.operations.isEmpty

theorem findOperation_insertOperation (op : Operation) (name : Text) (ops : List Operation) :
    findOperation name (insertOperation op ops) =
      if name = op.name then some op else findOperation name ops := by
  induction ops with
  | nil => simp [insertOperation, findOperation_cons, eq_comm]
  | cons o rest ih =>
    simp only [insertOperation]
    split
    · simp [findOperation_cons, eq_comm]
    · split
      · simp_all [findOperation_cons, eq_comm]
      · simp only [findOperation_cons, ih]
        grind

/-- **Looking up after an insertion**: the inserted operation under its own name, and what was there
before under every other. -/
theorem get?_insert (registry : Registry) (op : Operation) (name : Text) :
    (registry.insert op).get? name = if name = op.name then some op else registry.get? name :=
  findOperation_insertOperation op name registry.operations

/-! ## 3. Registering -/

/-- A name can be written as an opcode: it is not empty and holds no brace, colon or bar. -/
def isOpcode (name : Text) : Bool :=
  !name.isEmpty && name.all fun c => !"\x7b\x7d:|".toList.contains c

/-- Registers an operation under its own name.  The name is looked at first, then whether it is
taken. -/
def register (registry : Registry) (op : Operation) : Except RegistryError Registry :=
  if isOpcode op.name = false then .error (.invalidOpcode op.name)
  else if registry.contains op.name then .error (.duplicateOpcode op.name)
  else .ok (registry.insert op)

end Registry

end TemplateExpansion
