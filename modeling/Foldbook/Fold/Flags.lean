import Foldbook.Fold.Basic

/-!
# Flag lines

A comment line can carry a flag for its fold: `@name` keeps the response in a variable, `@form`
adds a part of a multipart form, `@options` adds arguments for the client program, and `@debug` and
`@verbose` change how the request is made.
-/

namespace Foldbook

open Text

namespace Flag

/-- What follows `#`, blanks, and the given word. -/
def behind? (word : String) (line : String) : Option (List Char) :=
  match line.toList with
  | '#' :: rest => dropPrefix? word.toList (rest.dropWhile isBlank)
  | _ => none

/-- The variable of a `@name` flag: the characters up to the next space. -/
def name? (line : String) : Option String := do
  let rest ← behind? "@name" line
  afterBlanks (fun cs =>
    let name := cs.takeWhile (· ≠ ' ')
    if name.isEmpty then none else some (String.ofList name)) rest

/-- The part of a `@form` flag: a line rest with an equals sign that has something on either
side. -/
def form? (line : String) : Option String := do
  let rest ← behind? "@form" line
  afterBlanks (fun cs =>
    let part := cs.takeWhile (· ≠ '\n')
    if (part.drop 1).dropLast.contains '=' then some (String.ofList part) else none) rest

/-- The arguments of an `@options` flag. -/
def options? (line : String) : Option (List String) := do
  let rest ← behind? "@options" line
  let part ← afterSomeBlanks (fun cs =>
    let part := cs.takeWhile (· ≠ '\n')
    if part.isEmpty then none else some (String.ofList part)) rest
  some (blankSeparated part)

end Flag

/-- Takes the flags of a comment line into the fold. -/
def Fold.readFlags (f : Fold) (line : String) : Fold :=
  { f with
    captureName := (Flag.name? line).getD f.captureName
    forms := f.forms ++ (Flag.form? line).toList
    debug := f.debug || (Flag.behind? "@debug" line).isSome
    verbose := f.verbose || (Flag.behind? "@verbose" line).isSome
    options := f.options ++ (Flag.options? line).getD [] }

end Foldbook
