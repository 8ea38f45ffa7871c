/-
# Fetching a body

This module names the causes for which there may be no body behind a URL, and what is assumed of where
bodies come from: that the URL alone decides on the body.
-/
import TemplateExpansion.Decimal.Integer
import TemplateExpansion.Text.Quoted

namespace TemplateExpansion

/-- Why no body could be fetched. -/
inductive FetchError where
  | missingUrl
  | invalidUrl (url message : Text)
  | request (message : Text)
  | body (message : Text)
  | tooLarge (limit : Nat)
  deriving Repr, DecidableEq

/-- The wording of each cause. -/
def FetchError.message : FetchError → Text
  | .missingUrl => "no URL given".toList
  | .invalidUrl url message => "invalid URL ".toList ++ url.quoted ++ ':' :: ' ' :: message
  | .request message => "request failed: ".toList ++ message
  | .body message => "failed to read response body: ".toList ++ message
  | .tooLarge limit => "response body exceeds ".toList ++ Decimal.ofNat limit ++ " bytes".toList

/-- The body behind a URL, or why there is none.

That it is a function is an assumption about the servers: while a text is expanded, and in all the runs
that a statement compares, a URL that is fetched again yields what it yielded before. -/
abbrev Fetcher := Text → Except FetchError Text

end TemplateExpansion
