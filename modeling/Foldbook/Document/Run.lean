import Foldbook.Document.Item
import Foldbook.Fold.Reading
import Foldbook.Loop.Running

/-!
# Running a document

The items of a document are taken in order.  `Progress` holds the text written so far and the open
folds, the innermost first.  A start line opens a fold, an end line closes the innermost one, text
outside of folds passes through, and every other line belongs to the innermost fold.  The request
of a fold is sent before a fold inside it opens, and at the latest when the fold closes.

`Document.runText` answers the whole document with the results of this run.
-/

namespace Foldbook

open Text

/-- The text written so far and the open folds. -/
structure Progress where
  out : String := ""
  /-- Innermost first. -/
  stack : List Fold := []
  deriving DecidableEq, Repr

namespace Progress

variable {m : Type → Type} [Monad m] (s : Services m)

/-- Ends the last line of the text unless there is none yet. -/
def newSegment (p : Progress) : String := if p.out.isEmpty then "" else p.out ++ "\n"

/-- A line outside of all folds. -/
def passThrough (p : Progress) (line : String) : Progress :=
  { p with out := p.newSegment ++ line }

/-- Opens a fold inside the innermost one, whose request is sent first. -/
def openFold (p : Progress) (start : Marker.Start) : m Progress := do
  let fold := Fold.ofStart start p.stack.length
  let p ← match p.stack with
    | [] => pure { p with out := p.newSegment }
    | around :: outer => do
      let around ← around.issuePending s
      pure { p with stack := around :: outer }
  s.note {
    level := .debug
    event := "interpreter.fold.opened"
    fields := [("title", .str (trim fold.title)), ("depth", .int fold.depth)] }
  pure { p with stack := fold :: p.stack }

/-- Closes the innermost fold: into the fold around it, or into the text. -/
def closeFold (p : Progress) : m Progress :=
  match p.stack with
  | [] => pure p
  | fold :: outer => do
    let fold ← fold.issuePending s
    s.note {
      level := .debug
      event := "interpreter.fold.closed"
      fields := [("title", .str (trim fold.title)), ("depth", .int fold.depth),
        ("error", .bool fold.failed)] }
    match outer with
    | [] => pure { out := p.out ++ fold.render.1, stack := [] }
    | around :: outer =>
      let part := (fold.renderNested around.output).1
      pure { p with stack := around.absorb part fold.failed :: outer }

/-- Closes the innermost folds, as many as asked for. -/
def closeFolds : Nat → Progress → m Progress
  | 0, p => pure p
  | n + 1, p => do closeFolds n (← p.closeFold s)

/-- A line that does not open a fold, inside of one. -/
def readOwnLine (p : Progress) (fold : Fold) (outer : List Fold) (line : String) : m Progress :=
  if Marker.isDivider line then
    pure { p with stack := { fold with stale := true } :: outer }
  else if Marker.isEnd line then
    ({ p with stack := { fold with endMarker := line } :: outer } : Progress).closeFold s
  else if fold.stale then pure p
  else
    let fold := fold.keepLine line
    if fold.failed then pure { p with stack := fold :: outer }
    else do
      let fold ← fold.interpret s line
      pure { p with stack := fold :: outer }

/-- Any line. -/
def readLine (p : Progress) (line : String) : m Progress :=
  match Marker.start? line with
  | some start => p.openFold s start
  | none =>
    match p.stack with
    | [] => pure (p.passThrough line)
    | fold :: outer => p.readOwnLine s fold outer line

/-- A loop that has been run. -/
def takeLoop (p : Progress) (r : LoopRun) : m Progress :=
  match p.stack with
  | [] => pure { p with out := p.newSegment ++ r.output }
  | fold :: outer => do
    let fold ← fold.issuePending s
    pure { p with stack := fold.absorb (nest r.output fold.output) r.failed :: outer }

/-- The text when the input ends: folds that are still open are closed. -/
def finish (p : Progress) : m String := do
  let p ← closeFolds s p.stack.length p
  pure p.out

end Progress

variable {m : Type → Type} [Monad m] (s : Services m)

mutual

/-- Runs one item. -/
def Item.run (p : Progress) : Item → m Progress
  | .line text => p.readLine s text
  | .loop block items => do
    let r ← block.run s (do (← Item.runAll {} items).finish s) s.rounds {}
    p.takeLoop s r

/-- Runs items in order. -/
def Item.runAll (p : Progress) : List Item → m Progress
  | [] => pure p
  | item :: items => do Item.runAll (← item.run p) items

end

namespace Document

/-- Runs a list of items as a whole document. -/
def runItems (items : List Item) : m String := do
  (← Item.runAll s {} items).finish s

/-- Runs a list of lines.  With `plainFirst` the first loop start opens a plain fold. -/
def runLines (lines : List String) (plainFirst : Bool := false) : m String :=
  runItems s (Item.ofLines plainFirst lines)

/-- Runs a document and answers it with the results of the run. -/
def runText (source : String) : m String :=
  runLines s (documentLines source)

end Document

/-- Runs a loop on its own. -/
def LoopBlock.runAlone (b : LoopBlock) (r : LoopRun) : m LoopRun :=
  b.run s (Document.runLines s b.lines true) s.rounds r

end Foldbook
