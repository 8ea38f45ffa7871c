/-
# Responses

A response announces the length of its body or does not, and delivers the body in chunks that end
cleanly or break off.  The body is refused as soon as it is known to be longer than the limit: by the
announced length before the first chunk, or by the chunks received.
-/
import TemplateExpansion.Fetch
import TemplateExpansion.Text.Utf8

namespace TemplateExpansion
namespace Http

/-- What comes back for a request.  `fault` says how the body breaks off after its chunks; a body that
ends cleanly has none. -/
structure Response where
  announced : Option Nat
  chunks : List (List UInt8)
  fault : Option Text
  deriving Repr, DecidableEq

namespace Response

/-- Receives chunks after `received` bytes, which are kept chunk by chunk, last chunk first. -/
def receive (limit : Nat) (fault : Option Text) (received : Nat) (kept : List (List UInt8)) :
    List (List UInt8) → Except FetchError Text
  | [] =>
    match fault with
    | some message => .error (.body message)
    | none => .ok (Utf8.decodeLossy kept.reverse.flatten)
  | chunk :: chunks =>
    if limit < received + chunk.length then .error (.tooLarge limit)
    else receive limit fault (received + chunk.length) (chunk :: kept) chunks

/-- The body as a text, or why there is none. -/
def body (limit : Nat) (response : Response) : Except FetchError Text :=
  if response.announced.any (limit < ·) then .error (.tooLarge limit)
  else receive limit response.fault 0 [] response.chunks

end Response
end Http
end TemplateExpansion
