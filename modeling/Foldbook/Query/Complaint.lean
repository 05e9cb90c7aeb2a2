import Foldbook.Query.Lexeme

/-!
# Complaints about a query text

What can be wrong with the text of a query before it is evaluated, and the wording of it: the line
the complaint is about stands below the message, and carets under the lexeme.
-/

namespace Foldbook.Query

/-- What is wrong with a query text. -/
inductive Complaint where
  /-- The token cannot stand where it does.  If they are few, the tokens that could are listed. -/
  | unexpected (token : Token) (expecting : List String)
  | unterminated (keyword : String)
  | unknownFunction (name : String) (arity : Nat)
  | unknownVariable (name : String)
  | unknownLabel (name : String)
  deriving DecidableEq, Repr

/-- A complaint and the stretch of text it is about. -/
structure Report where
  complaint : Complaint
  extent : Extent
  deriving DecidableEq, Repr

/-- The words of a complaint. -/
def Complaint.message : Complaint → String
  | .unexpected token expecting =>
    let list := match expecting with
      | [] => ""
      | first :: more => ", expecting " ++ more.foldl (fun s t => s ++ " or " ++ t) first
    "syntax error, unexpected " ++ token.label ++ list
  | .unterminated keyword => "Possibly unterminated '" ++ keyword ++ "' statement"
  | .unknownFunction name arity => s!"{name}/{arity} is not defined"
  | .unknownVariable name => "$" ++ name ++ " is not defined"
  | .unknownLabel name => "$*label-" ++ name ++ " is not defined"

/-- The line that an octet belongs to: its number, the octet it begins at, and its characters. -/
def lineAt (octet : Nat) : Nat → Nat → List (List Char) → Nat × Nat × List Char
  | number, start, [] => (number, start, [])
  | number, start, [line] => (number, start, line)
  | number, start, line :: rest =>
    let next := start + Lexeme.octets line + 1
    if octet < next then (number, start, line) else lineAt octet (number + 1) next rest

/-- The lines of a text. -/
def textLines (s : String) : List (List Char) := s.toList.splitOn '\n'

/-- A report on a text, without the mark of its kind.  Carets end with the line, but there is at
least one. -/
def Report.render (text : String) (r : Report) : String :=
  let (number, start, line) := lineAt r.extent.start 1 0 (textLines text)
  let lineEnd := start + Lexeme.octets line
  let stop := min r.extent.stop (max lineEnd (r.extent.start + 1))
  let column := r.extent.start - start
  s!"{r.complaint.message} at <top-level>, line {number}, column {column + 1}:\n    " ++
    String.ofList line ++ "\n    " ++ String.ofList (List.replicate column ' ') ++
    String.ofList (List.replicate (stop - r.extent.start) '^')

/-- All reports on a text, and how many they are. -/
def renderReports (text : String) (reports : List Report) : String :=
  let count := reports.length
  String.join (reports.map fun r => "jq: error: " ++ r.render text ++ "\n") ++
    s!"jq: {count} compile " ++ (if count = 1 then "error" else "errors")

/-- The wording for a text that holds no query. -/
def noProgramMessage : String :=
  "jq: error: Top-level program not given (try \".\")\njq: 1 compile error"

end Foldbook.Query
