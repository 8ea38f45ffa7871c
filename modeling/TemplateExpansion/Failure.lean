/-
# Failures of the program

What can keep the program from doing its work, with the part of the program it comes from in front of
the wording.
-/
import TemplateExpansion.Expansion
import TemplateExpansion.Settings.Reader

namespace TemplateExpansion

/-- A failure of a part of the program. -/
inductive Failure where
  | settings (cause : Settings.Error)
  | registry (cause : RegistryError)
  | expansion (cause : ExpansionError)
  | internal (message : Text)
  deriving Repr, DecidableEq

/-- The wording of each failure. -/
def Failure.message : Failure → Text
  | .settings cause => "Config error: ".toList ++ cause.message
  | .registry cause => "Registry error: ".toList ++ cause.message
  | .expansion cause => "Parse error: ".toList ++ cause.message
  | .internal message => "Internal error: ".toList ++ message

end TemplateExpansion
