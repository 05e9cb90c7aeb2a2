import Foldbook.Text.Blank

/-!
# Assignments

An assignment is an at sign, a name without spaces, an equals sign and a value.  The name reaches
as far as it can, so of several equals signs in it the last one that leaves a value divides it
from the value.  Blanks around the equals sign belong to neither side.
-/

namespace Foldbook.Template

open Text

/-- A name and the template of its value. -/
structure Assignment where
  name : String
  value : String
  deriving DecidableEq, Repr

/-- The value behind the name: blanks, an equals sign, blanks, and the rest of the line, which
must not be empty. -/
def valueBehind? : List Char → Option (List Char) :=
  afterBlanks fun
    | '=' :: cs =>
      afterBlanks (fun cs =>
        let value := cs.takeWhile (· ≠ '\n')
        if value.isEmpty then none else some value) cs
    | _ => none

/-- Splits a text without a leading at sign into the longest name and its value.  `name` holds the
characters taken so far, last first. -/
def splitName? (name : List Char) : List Char → Option (List Char × List Char)
  | [] => none
  | c :: cs =>
    if c = ' ' then none
    else
      (splitName? (c :: name) cs).or
        ((valueBehind? cs).map fun value => ((c :: name).reverse, value))

/-- The leftmost assignment in a line. -/
def findAssignment? : List Char → Option (List Char × List Char)
  | [] => none
  | c :: cs =>
    if c = '@' then (splitName? [] cs).or (findAssignment? cs) else findAssignment? cs

/-- Reads an assignment line. -/
def assignment? (line : String) : Option Assignment :=
  (findAssignment? line.toList).map fun (name, value) =>
    { name := String.ofList name, value := String.ofList value }

end Foldbook.Template
