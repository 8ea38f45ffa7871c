/-
# Fetching by HTTP

A body is fetched by one request.  The URL is looked at first, and whether it has a host; then what the
request says about its sender, then the scheme, then whether the URL can be sent as it is written; only
then is the request handed to a transport, which answers it or says why it cannot.
-/
import TemplateExpansion.Http.Url
import TemplateExpansion.Http.Response
import TemplateExpansion.Settings

namespace TemplateExpansion
namespace Http

/-- One request for a body. -/
structure Request where
  url : Url
  userAgent : Text
  timeout : Nat
  deriving Repr, DecidableEq

/-- What becomes of a request: a response, or the reason why it could not be sent or answered. -/
abbrev Transport := Request → Except Text Response

/-- A text can be sent as the value of a header: it holds no controls except tabs. -/
def isHeaderValue (t : Text) : Bool :=
  t.all fun c => c == '\t' || (0x20 ≤ c.toNat && c.toNat != 0x7F)

/-- The scheme is one that a request can be sent by. -/
def isRequestScheme (scheme : Text) : Bool := ["http", "https"].any (·.toList == scheme)

/-- The most characters of a URL that is sent. -/
def maxTargetLength : Nat := 65534

/-- A URL can be sent as it is written: it is not too long, and its host holds no character that only
other parts may hold. -/
def isTarget (url : Url) : Bool :=
  url.text.length ≤ maxTargetLength &&
    url.host?.all fun host => host.all fun c => !"\"`\x7b\x7d".toList.contains c

/-- A cause with the URL it concerns. -/
def forUrl (cause : String) (url : Url) : Text :=
  cause.toList ++ " for url (".toList ++ url.text ++ [')']

/-- The transport of a machine without a network. -/
def Transport.unreachable : Transport := fun r => .error (forUrl "error sending request" r.url)

/-- The request for an address under settings, or why there is none. -/
def request (settings : Settings) (address : Text) : Except FetchError Request :=
  if address.isEmpty then .error .missingUrl
  else match Url.read address with
    | .error cause => .error (.invalidUrl address cause.message)
    | .ok url =>
      let unusable := FetchError.request (forUrl "builder error" url.withoutUser)
      if url.host?.isNone then .error unusable
      else if isHeaderValue settings.userAgent = false then
        .error (.request "builder error".toList)
      else if isRequestScheme url.scheme = false ∨ isTarget url.withoutUser = false then
        .error unusable
      else .ok ⟨url.withoutUser, settings.userAgent, settings.fetchTimeout⟩

/-- Fetches the body behind a URL under settings. -/
def fetch (settings : Settings) (transport : Transport) : Fetcher := fun address =>
  match request settings address with
  | .error cause => .error cause
  | .ok r =>
    match transport r with
    | .error reason => .error (.request reason)
    | .ok response => response.body settings.maxFetchBytes

end Http
end TemplateExpansion
