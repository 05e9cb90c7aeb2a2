import Foldbook.Document.Services
import Foldbook.Json.Printer
import Foldbook.Text.Lines

/-!
# Responses

What the client program writes is split at the first blank line into headers and body.  A body
that is JSON is shown indented and becomes the value of the response; any other body is kept as
text.  A verbose response takes its headers from the diagnostics.
-/

namespace Foldbook.Http

open Text

/-- Headers and body of a response, the body shown indented if it is JSON. -/
def replyOf (headers body : String) : Reply :=
  match Json.read? body with
  | none => { text := headers ++ "\n\n" ++ body, value := .str body }
  | some value => { text := headers ++ "\n\n" ++ Json.render Json.pretty value, value }

/-- The reply in what the client program wrote and reported. -/
def classify (output diagnostics : String) (verbose : Bool) : Reply :=
  if verbose then replyOf diagnostics output
  else
    match cutAt? ['\n', '\n'] output.toList with
    | none => { text := output, value := .str "" }
    | some (headers, body) => replyOf (String.ofList headers) (String.ofList body)

end Foldbook.Http
