import Foldbook.Fold.Rendering

/-!
# Loop blocks

A loop is kept as text: its start line, the lines up to the matching end line, and that end line.
`collect` cuts it out of the lines that follow the start, counting loops inside.  `body` and
`synthetic` are for a loop whose block never ran, and `nest` reshapes the rendering of a loop for
the fold around it.
-/

namespace Foldbook

open Text

/-- The lines of a loop, the start line first, all trimmed on the right. -/
structure LoopBlock where
  condition : String
  first : String
  /-- The lines behind the first one. -/
  rest : List String
  deriving DecidableEq, Repr

namespace LoopBlock

/-- All lines of the block. -/
def lines (b : LoopBlock) : List String := b.first :: b.rest

/-- The lines up to the one that ends the loop, trimmed, and the lines behind it.  `depth` more
ends than starts close the loop; without such an end everything belongs to it. -/
def cut (depth : Nat) : List String → List String × List String
  | [] => ([], [])
  | raw :: more =>
    let line := trimEnd raw
    let depth :=
      if Marker.isLoopStart line then depth + 1
      else if Marker.isLoopEnd line then depth - 1
      else depth
    if depth = 0 then ([line], more)
    else
      let (inside, behind) := cut depth more
      (line :: inside, behind)

/-- Collects the loop that the start line opens, and the lines left behind it. -/
def collect (first : String) (more : List String) : LoopBlock × List String :=
  let (inside, behind) := cut 1 more
  ({ condition := (Marker.loopStart? first).getD "", first, rest := inside }, behind)

/-- The end line of the block, if it has one. -/
def endLine? (b : LoopBlock) : Option String :=
  match b.rest.getLast? with
  | some line => if Marker.isLoopEnd line then some line else none
  | none => none

/-- Lines up to a divider that lies outside of all folds among them.  `depth` counts start lines
less end lines. -/
def freshLines (depth : Int) : List String → List String
  | [] => []
  | line :: more =>
    if (Marker.start? line).isSome then line :: freshLines (depth + 1) more
    else if Marker.isEnd line then line :: freshLines (depth - 1) more
    else if depth = 0 && Marker.isDivider line then []
    else line :: freshLines depth more

/-- The lines between the markers, without the loop's own old result. -/
def body (b : LoopBlock) : List String :=
  freshLines 0 (if b.endLine?.isSome then b.rest.dropLast else b.rest)

/-- The rendering of a loop that did not run its block, with the given results. -/
def synthetic (b : LoopBlock) (failed : Bool) (output : String) : String :=
  let opened := match Marker.start? b.first with
    | some start => Fold.ofStart start 0
    | none => Fold.opened none none
  let fold := b.body.foldl Fold.keepLine opened
  ({ fold with endMarker := b.endLine?.getD "", output, failed }).render.1

end LoopBlock

/-- Splits the rendering of a top-level block into the parts for a fold around it with the given
results so far: the first divider separates lines from results, and the last line is the end
line. -/
def nest (rendering before : String) : Nested :=
  let lines := splitLines rendering
  let ending := lines.getLast?.getD ""
  let echoed := lines.takeWhile fun line => !Marker.isDivider line
  match lines.drop echoed.length with
  | [] => { echo := closeLine rendering, output := "" }
  | divider :: results =>
    let label := String.ofList (divider.toList.drop Marker.divider.length)
    { echo := unlines echoed ++ ending ++ "\n"
      output :=
        Fold.sectionGap before ++ "###" ++ label ++ "\n" ++ unlines results.dropLast ++ "###\n" }

end Foldbook
