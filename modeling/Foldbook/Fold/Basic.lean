import Foldbook.Fold.Marker
import Foldbook.Request

/-!
# Folds

A fold is the block between a start line and its end line.  While it is open it collects its own
lines (`echo`), the text of its results (`output`), and the request that its lines describe.
-/

namespace Foldbook

open Text

/-- The state of a fold that is being read. -/
structure Fold where
  /-- The lines of the fold as they are written back. -/
  echo : String := ""
  /-- The results so far. -/
  output : String := ""
  /-- The title with a blank behind it, or nothing. -/
  title : String := ""
  startMarker : String := ""
  /-- The end line, or nothing for the usual one. -/
  endMarker : String := ""
  /-- Whether anything in the fold failed. -/
  failed : Bool := false
  /-- Whether no start line has been read for it. -/
  unopened : Bool := true
  /-- Whether the divider has been passed, so the rest is an old result. -/
  stale : Bool := false
  /-- Whether it has been rendered, which happens once. -/
  rendered : Bool := false
  /-- How many folds it lies in. -/
  depth : Nat := 0
  /-- Whether the request line has been read. -/
  requestStarted : Bool := false
  /-- Whether the blank line behind the headers has been read. -/
  bodyStarted : Bool := false
  /-- The variable that keeps the response, or nothing. -/
  captureName : String := ""
  /-- Whether the request has been sent. -/
  sent : Bool := false
  method : String := "GET"
  url : String := ""
  headers : List String := []
  forms : List String := []
  options : List String := []
  body : String := ""
  debug : Bool := false
  verbose : Bool := false
  deriving DecidableEq, Repr

namespace Fold

/-- A fold for a start line with the given marker and title.  A status at the end of either is
dropped. -/
def opened (marker : Option String) (title : Option String) (depth : Nat := 0) : Fold :=
  let plainTitle := Marker.withoutStatus (title.getD "")
  { title := if plainTitle.isEmpty then "" else plainTitle ++ " "
    startMarker := match marker with
      | some marker => Marker.withoutStatus marker
      | none => Marker.start
    unopened := false
    depth }

/-- A fold for a start line. -/
def ofStart (s : Marker.Start) (depth : Nat) : Fold :=
  opened (some s.marker) (some s.title) depth

/-- Keeps a line of the fold. -/
def keepLine (f : Fold) (line : String) : Fold :=
  { f with echo := closeLine f.echo ++ line ++ "\n" }

/-- Adds a line of its own to the results. -/
def reportLine (f : Fold) (line : String) : Fold :=
  { f with output := closeLine f.output ++ line ++ "\n" }

/-- The request that the lines of the fold describe. -/
def request (f : Fold) : Request :=
  { method := f.method
    url := f.url
    headers := f.headers
    body := if f.bodyStarted then some f.body else none
    forms := f.forms
    options := f.options }

/-- The word for how the fold went. -/
def status (f : Fold) : String := if f.failed then "ERROR" else "SUCCESS"

/-- The word above its results. -/
def resultLabel (f : Fold) : String := if f.failed then "ERROR" else "RESULT"

/-- The line that ends the fold. -/
def closingMarker (f : Fold) : String :=
  if f.endMarker.isEmpty then Marker.finish else f.endMarker

/-- Whether a request is described, not yet sent, and not stopped by a failure. -/
def pending (f : Fold) : Bool := f.requestStarted && !f.sent && !f.failed

end Fold

end Foldbook
