/-
# Inclusion

`text` yields the body behind a URL.  What goes wrong is logged, and then it yields nothing.
-/
import TemplateExpansion.Operation
import TemplateExpansion.Builtin
import TemplateExpansion.Fetch

namespace TemplateExpansion
namespace Operation

/-- `{text:http://example.com/a.txt}` yields the body that the fetcher has for the URL. -/
def text (fetch : Fetcher) : Operation where
  name := Builtin.opcode .text
  requirements := []
  execute e _ :=
    match fetch (e.operand 0) with
    | .ok body => (body, [])
    | .error cause => ([], [.report (Builtin.opcode .text) cause.message])

end Operation
end TemplateExpansion
