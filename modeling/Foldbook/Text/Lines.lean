/-!
# Lines of a text

Splitting at line feeds, joining with line feeds, closing an open last line, and cutting a text
at the first place where a mark occurs.  Only U+000A ends a line; a carriage return is ordinary
text here, and `unifyNewlines` is for the places that read it as a line end.
-/

namespace Foldbook.Text

/-- The pieces between the occurrences of `sep`; one more piece than occurrences. -/
def pieces (sep : Char) : List Char → List (List Char)
  | [] => [[]]
  | c :: cs =>
    if c = sep then [] :: pieces sep cs
    else
      match pieces sep cs with
      | [] => [[c]]
      | p :: ps => (c :: p) :: ps

/-- The pieces of a text between line feeds. -/
def splitLines (s : String) : List String :=
  (pieces '\n' s.toList).map String.ofList

/-- The lines of a document.  A final line feed ends the last line and starts no empty one. -/
def documentLines (s : String) : List String :=
  let cs := s.toList
  if cs.getLast? = some '\n' then (pieces '\n' cs.dropLast).map String.ofList else splitLines s

/-- Each line followed by a line feed. -/
def unlines (lines : List String) : String :=
  lines.foldr (fun line rest => line ++ "\n" ++ rest) ""

/-- Whether the text ends in the middle of a line: it is not empty and its last character is not a
line feed. -/
def endsOpen (s : String) : Bool :=
  match s.toList.getLast? with
  | none => false
  | some c => c != '\n'

/-- Ends the last line if it is still open. -/
def closeLine (s : String) : String :=
  if endsOpen s then s ++ "\n" else s

/-- The rest of the text behind `mark`, if the text begins with it. -/
def dropPrefix? : List Char → List Char → Option (List Char)
  | [], cs => some cs
  | _ :: _, [] => none
  | m :: ms, c :: cs => if m = c then dropPrefix? ms cs else none

/-- Whether the text begins with the mark. -/
def startsWith (s mark : String) : Bool :=
  (dropPrefix? mark.toList s.toList).isSome

/-- Whether the text ends with the mark. -/
def endsWith (s mark : String) : Bool :=
  (dropPrefix? mark.toList.reverse s.toList.reverse).isSome

/-- What stands before and behind the first occurrence of `mark`. -/
def cutAt? (mark : List Char) : List Char → Option (List Char × List Char)
  | [] => if mark.isEmpty then some ([], []) else none
  | c :: cs =>
    match dropPrefix? mark (c :: cs) with
    | some rest => some ([], rest)
    | none => (cutAt? mark cs).map fun (before, rest) => (c :: before, rest)

/-- Every line end of the three usual kinds as one line feed: `\r\n`, a lone `\r`, and `\n`. -/
def unifyNewlines : List Char → List Char
  | [] => []
  | '\r' :: '\n' :: cs => '\n' :: unifyNewlines cs
  | '\r' :: cs => '\n' :: unifyNewlines cs
  | c :: cs => c :: unifyNewlines cs

/-- The text without the given character. -/
def without (unwanted : Char) (s : String) : String :=
  String.ofList (s.toList.filter (· != unwanted))

/-! ## Facts about lines -/

theorem pieces_ne_nil (sep : Char) (cs : List Char) : pieces sep cs ≠ [] := by
  cases cs with
  | nil => simp [pieces]
  | cons c cs =>
    unfold pieces
    split
    · simp
    · split <;> simp

theorem endsOpen_append_newline (s : String) : endsOpen (s ++ "\n") = false := by
  simp [endsOpen]

theorem endsOpen_closeLine (s : String) : endsOpen (closeLine s) = false := by
  unfold closeLine
  split
  · exact endsOpen_append_newline s
  · simpa using ‹¬endsOpen s = true›

end Foldbook.Text
