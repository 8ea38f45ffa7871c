/-
# The standard registry

The built-in operations under the given settings, and the registries that hold them: all of them, or
all but `text` where there is no fetcher.
-/
import TemplateExpansion.Registry
import TemplateExpansion.Settings
import TemplateExpansion.Builtin.Values
import TemplateExpansion.Builtin.Repetition
import TemplateExpansion.Builtin.Inclusion

namespace TemplateExpansion

namespace Builtin

/-- A built-in operation under settings; bodies come from the fetcher, and there is no `text` without
one. -/
def operation? (settings : Settings) (fetch? : Option Fetcher) : Builtin → Option Operation
  | .add => some .add
  | .e => some .eulerNumber
  | .pi => some .circleConstant
  | .get => some .get
  | .set => some .set
  | .note => some .note
  | .replicate => some (.replicate settings.maxRepeat settings.maxRepeatBytes)
  | .text => fetch?.map .text

theorem isSome_operation? (settings : Settings) (fetch : Fetcher) (b : Builtin) :
    (b.operation? settings (some fetch)).isSome = true := by
  cases b <;> rfl

/-- A built-in operation under settings, where there is a fetcher. -/
def operation (settings : Settings) (fetch : Fetcher) (b : Builtin) : Operation :=
  (b.operation? settings (some fetch)).get (isSome_operation? settings fetch b)

/-- Every built-in operation goes by its opcode. -/
@[simp] theorem name_operation (settings : Settings) (fetch : Fetcher) (b : Builtin) :
    (b.operation settings fetch).name = b.opcode := by
  cases b <;> rfl

end Builtin

/-- The built-in operations, `text` among them only where there is a fetcher. -/
def Operation.builtins (settings : Settings) (fetch? : Option Fetcher) : List Operation :=
  Builtin.all.filterMap (Builtin.operation? settings fetch?)

theorem Operation.mem_builtins {settings : Settings} {fetch? : Option Fetcher} {op : Operation} :
    op ∈ builtins settings fetch? ↔ ∃ b : Builtin, b.operation? settings fetch? = some op := by
  simp [builtins, Builtin.mem_all]

/-- The registry of the built-in operations, without `text` where there is no fetcher. -/
def Registry.builtins (settings : Settings) (fetch? : Option Fetcher) : Registry :=
  .ofList (Operation.builtins settings fetch?)

/-- The registry of all built-in operations. -/
def Registry.standard (settings : Settings) (fetch : Fetcher) : Registry :=
  .ofList (Builtin.all.map (Builtin.operation settings fetch))

/-- With a fetcher no built-in operation is left out. -/
theorem Registry.builtins_some (settings : Settings) (fetch : Fetcher) :
    Registry.builtins settings (some fetch) = .standard settings fetch := rfl

end TemplateExpansion
