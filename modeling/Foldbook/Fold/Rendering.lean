import Foldbook.Fold.Basic

/-!
# Rendering a fold

A top-level fold is written back as its start line with the status, its lines, a divider with the
result label, the results, and the end line.  A nested fold is split: its lines go into the lines
of the fold around it, and its results become a section of that fold's results.
-/

namespace Foldbook

open Text

/-- What a nested block adds to the fold around it. -/
structure Nested where
  /-- For the lines. -/
  echo : String
  /-- For the results. -/
  output : String
  deriving DecidableEq, Repr

namespace Fold

/-- The start line with the status of the fold. -/
def header (f : Fold) : String := f.startMarker ++ " executed (" ++ f.status ++ ")\n"

/-- The line feed that a section needs in front when the results before it end in an open line. -/
def sectionGap (before : String) : String := if endsOpen before then "\n" else ""

/-- The text of a top-level fold and the fold after rendering.  A fold is rendered once; a second
time gives nothing. -/
def render (f : Fold) : String × Fold :=
  if f.rendered then ("", f)
  else
    let output := closeLine f.output ++ f.closingMarker
    (f.header ++ closeLine f.echo ++ Marker.divider ++ " " ++ f.title ++ f.resultLabel ++ "\n" ++
        output,
      { f with rendered := true, output })

/-- The two parts of a nested fold, for a fold around it with the given results so far, and the
fold after rendering. -/
def renderNested (f : Fold) (before : String) : Nested × Fold :=
  if f.rendered then (⟨"", ""⟩, f)
  else
    let output := closeLine f.output
    ({ echo := f.header ++ f.echo ++ f.closingMarker ++ "\n"
       output :=
        sectionGap before ++ "### " ++ f.title ++ f.resultLabel ++ "\n" ++ output ++ "###\n" },
      { f with rendered := true, output })

/-- Takes a nested block into the fold. -/
def absorb (f : Fold) (part : Nested) (failed : Bool) : Fold :=
  { f with
    echo := f.echo ++ part.echo
    output := f.output ++ part.output
    failed := f.failed || failed }

end Fold

end Foldbook
