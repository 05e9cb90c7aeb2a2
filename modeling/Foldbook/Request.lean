/-!
# Requests

A request as a fold describes it.  Every text in it is still a template; selectors are replaced
only when the request is sent.
-/

namespace Foldbook

/-- A described request. -/
structure Request where
  method : String := "GET"
  url : String := ""
  headers : List String := []
  /-- The body, if the description has one. -/
  body : Option String := none
  /-- Parts of a multipart form. -/
  forms : List String := []
  /-- Further arguments for the client program, used as they are. -/
  options : List String := []
  deriving DecidableEq, Repr

end Foldbook
