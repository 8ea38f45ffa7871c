/-
# Settings

What a run can be set to: how many passes it may take, how far `repeat` may go, and how a body is
fetched.
-/
import TemplateExpansion.Text

namespace TemplateExpansion

/-- The settings of an expansion.  Times are in milliseconds, sizes in bytes. -/
structure Settings where
  maxIterations : Nat
  fetchTimeout : Nat
  maxFetchBytes : Nat
  userAgent : Text
  maxRepeat : Nat
  maxRepeatBytes : Nat
  deriving Repr, DecidableEq

namespace Settings

/-- The settings that hold where nothing else is said. -/
def standard : Settings where
  maxIterations := 10000
  fetchTimeout := 10000
  maxFetchBytes := 1024 * 1024
  userAgent := "kakko/0.1.0".toList
  maxRepeat := 100000
  maxRepeatBytes := 4 * 1024 * 1024

end Settings

end TemplateExpansion
