import Foldbook.Document.Services
import Foldbook.Fold.Flags
import Foldbook.Fold.Rendering
import Foldbook.Text.Upper

/-!
# Reading the lines of a fold

An own line of a fold is an assignment (it begins with an at sign), a comment with flags (`#`), or
part of the request: the request line, headers up to a blank line, and the body behind it.  Blank
lines before the request line go into the results.

`interpret` carries out one line, and `issuePending` sends the request if one is described.  A
failure is reported in the results and marks the fold.
-/

namespace Foldbook

open Text

namespace Fold

/-- Reads the request line: a method, a space, and the address. -/
def readRequestLine (f : Fold) (line : String) : Fold :=
  match cutAt? [' '] line.toList with
  | none =>
    { f.reportLine ("Could not parse line: " ++ line) with failed := true, requestStarted := true }
  | some (method, url) =>
    { f with
      sent := false
      method := upper (String.ofList method)
      url := String.ofList url
      requestStarted := true }

/-- Reads a line that is no assignment. -/
def readLine (f : Fold) (line : String) : Fold :=
  if startsWith line "#" then f.readFlags line
  else if !f.requestStarted then
    if line.isEmpty then { f with output := f.output ++ "\n" } else f.readRequestLine line
  else if f.bodyStarted then { f with body := f.body ++ line }
  else if line.isEmpty then { f with bodyStarted := true }
  else { f with headers := f.headers ++ [line] }

variable {m : Type → Type} [Monad m] (s : Services m)

/-- Carries out one line of the fold. -/
def interpret (f : Fold) (line : String) : m Fold :=
  if startsWith line "@" then do
    match ← s.assign line with
    | .ok text => pure (f.reportLine text)
    | .error e => pure { f.reportLine e.message with failed := true }
  else pure (f.readLine line)

/-- Adds the failure of the request to the results. -/
def reportRequestFailure (f : Fold) (e : Failure) : Fold :=
  { f with failed := true, output := f.output ++ e.message ++ "\n" }

/-- Sends the request and keeps the response where the fold asks for it. -/
def issue (f : Fold) : m Fold := do
  let f := { f with sent := true }
  match ← s.send f.request f.debug f.verbose with
  | .error e => pure (f.reportRequestFailure e)
  | .ok reply =>
    if f.captureName.isEmpty then pure { f with output := f.output ++ reply.text }
    else
      match ← s.capture f.captureName reply.value with
      | .error e => pure (f.reportRequestFailure e)
      | .ok () => pure { f with output := f.output ++ reply.text }

/-- Sends the request if it is still to be sent. -/
def issuePending (f : Fold) : m Fold :=
  if f.pending then f.issue s else pure f

end Fold

end Foldbook
