import Foldbook.Text.Blank
import Foldbook.Text.Lines
import Foldbook.Text.Word

/-!
# Marker lines

The lines that give a document its structure:

* a start line begins with `###{` and opens a fold; the rest of the line is its title;
* a loop start is a start line whose title begins with the word `while` and goes on with the
  condition;
* an end line begins with `###}`, and ends a loop if the word `endwhile` follows;
* a divider begins with ten `#`; everything between it and the end line is an old result.

A rendered start line ends in `executed (SUCCESS)` or `executed (ERROR)`.  `withoutStatus` takes
that off, so a rendered document is read like the one it came from.
-/

namespace Foldbook.Marker

open Text

/-- Begins every start line. -/
def start : String := "###\x7b"

/-- Begins every end line. -/
def finish : String := "###\x7d"

/-- Begins every divider. -/
def divider : String := "##########"

/-- The endings that a rendered start line can have, longest first. -/
def statusEndings : List String :=
  [" executed (SUCCESS)", "executed (SUCCESS)", " executed (ERROR)", "executed (ERROR)",
    " executed", "executed"]

/-- The characters before the mark, if they end with it. -/
def dropEnding? (mark cs : List Char) : Option (List Char) :=
  (dropPrefix? mark.reverse cs.reverse).map List.reverse

/-- Takes the status off the end, if there is one. -/
def dropStatus (cs : List Char) : List Char :=
  (statusEndings.findSome? fun ending => dropEnding? ending.toList cs).getD cs

/-- Takes one line feed off the end and answers it apart. -/
def splitFinalNewline (cs : List Char) : List Char × List Char :=
  match dropEnding? ['\n'] cs with
  | some front => (front, ['\n'])
  | none => (cs, [])

/-- The text without a status at its end.  A line feed behind the status stays. -/
def withoutStatus (s : String) : String :=
  let (front, newline) := splitFinalNewline s.toList
  String.ofList (dropStatus front ++ newline)

/-- The title of a start line: what follows the marker and the blanks behind it, which must not
run over a line end.  The marker part is the whole line. -/
structure Start where
  marker : String
  title : String
  deriving DecidableEq, Repr

/-- Reads a start line. -/
def start? (line : String) : Option Start := do
  let rest ← dropPrefix? start.toList line.toList
  let title := rest.dropWhile isBlank
  let (front, newline) := splitFinalNewline title
  if front.contains '\n' then none
  else
    let marker := line.toList.take (line.toList.length - newline.length)
    some { marker := String.ofList marker, title := String.ofList front }

/-- Reads a loop start and answers its condition, without a status behind it. -/
def loopStart? (line : String) : Option String := do
  let rest ← dropPrefix? start.toList line.toList
  let rest ← dropPrefix? "while".toList (rest.dropWhile isBlank)
  let c :: rest := rest | none
  if isBlank c then
    let (front, _) := splitFinalNewline (rest.dropWhile isBlank)
    if front.contains '\n' then none else some (String.ofList (dropStatus front))
  else none

/-- Whether the line opens a loop. -/
def isLoopStart (line : String) : Bool := (loopStart? line).isSome

/-- Whether the line ends a fold. -/
def isEnd (line : String) : Bool := startsWith line finish

/-- Whether the line ends a loop: the word `endwhile` stands behind the end marker. -/
def isLoopEnd (line : String) : Bool :=
  match dropPrefix? finish.toList line.toList with
  | none => false
  | some rest =>
    match dropPrefix? "endwhile".toList (rest.dropWhile isBlank) with
    | none => false
    | some rest => endsWord rest

/-- Whether the line is a divider. -/
def isDivider (line : String) : Bool := startsWith line divider

end Foldbook.Marker
