import Foldbook.Json.Reader
import Foldbook.Query.Expr

/-!
# Lexemes of a query

The text of a query falls into lexemes; blanks and comments separate them.  Inside a text between
quotes a hole opens with a backslash and a parenthesis, and the brackets that are open say whether
a parenthesis closes the hole.  A closing bracket that fits no open one is no lexeme of the
language, nor is a character that begins none.
-/

namespace Foldbook.Query

/-- What a lexeme is. -/
inductive Token where
  | name (s : String)
  | keyword (s : String)
  | field (s : String)
  | binding (s : String)
  | number (d : Decimal)
  | format (s : String)
  | symbol (s : String)
  | quote
  | text (s : String)
  | openHole
  | closeHole
  | unquote
  | invalid
  | finish
  deriving DecidableEq, Repr, Inhabited

/-- A token and where it stands. -/
structure Lexeme where
  token : Token
  extent : Extent
  deriving DecidableEq, Repr, Inhabited

namespace Token

/-- What a token is called in messages. -/
def label : Token → String
  | .name _ => "IDENT"
  | .keyword s => s
  | .field _ => "FIELD"
  | .binding _ => "BINDING"
  | .number _ => "LITERAL"
  | .format _ => "FORMAT"
  | .symbol s => if s.length = 1 then "'" ++ s ++ "'" else s
  | .quote => "QQSTRING_START"
  | .text _ => "QQSTRING_TEXT"
  | .openHole => "QQSTRING_INTERP_START"
  | .closeHole => "QQSTRING_INTERP_END"
  | .unquote => "QQSTRING_END"
  | .invalid => "INVALID_CHARACTER"
  | .finish => "end of file"

end Token

namespace Lexeme

/-- Words with a meaning of their own. -/
def keywords : List String := [
  "as", "import", "include", "module", "def", "if", "then", "else", "elif", "and", "or", "end",
  "reduce", "foreach", "try", "catch", "label", "break", "__loc__"
]

/-- Signs, longer ones before their beginnings. -/
def symbols : List String := [
  "?//", "//=", "!=", "==", "//", "|=", "+=", "-=", "*=", "/=", "%=", "<=", ">=", "..",
  ".", "?", "=", ";", ",", ":", "|", "+", "-", "*", "/", "%", "$", "<", ">"
]

/-- What is open: a bracket, or a hole in a text. -/
inductive Open where
  | bracket (c : Char)
  | hole
  deriving DecidableEq, Repr

/-- What separates lexemes. -/
def isBlank (c : Char) : Bool := c == ' ' || c == '\t' || c == '\n' || c == '\r'

/-- What a name begins with. -/
def isNameStart (c : Char) : Bool := c.isAlpha || c == '_'

/-- What a name goes on with. -/
def isNameChar (c : Char) : Bool := c.isAlphanum || c == '_'

/-- Octets of a list of characters. -/
def octets (cs : List Char) : Nat := cs.foldl (fun n c => n + c.utf8Size) 0

/-- Names, several of which may be joined by two colons each. -/
def spanName : Nat → List Char → List Char × List Char
  | 0, cs => ([], cs)
  | fuel + 1, cs =>
    let part := cs.takeWhile isNameChar
    match cs.drop part.length with
    | ':' :: ':' :: c :: rest =>
      if isNameStart c then
        let (more, left) := spanName fuel (c :: rest)
        (part ++ ':' :: ':' :: more, left)
      else (part, ':' :: ':' :: c :: rest)
    | left => (part, left)

/-- A comment goes on to the end of its line; a backslash keeps the next line in it. -/
def dropComment : List Char → List Char
  | [] => []
  | '\\' :: '\\' :: cs => dropComment cs
  | '\\' :: '\r' :: '\n' :: cs => dropComment cs
  | '\\' :: '\n' :: cs => dropComment cs
  | '\n' :: cs => '\n' :: cs
  | _ :: cs => dropComment cs

/-- The number at the head: digits with an optional point, or a point and digits, and an optional
exponent. -/
def number? (cs : List Char) : Option (Decimal × List Char) :=
  let (whole, rest) := Json.spanDigits cs
  let (fraction, rest, ok) := match rest with
    | '.' :: more =>
      let (ds, left) := Json.spanDigits more
      if whole.isEmpty && ds.isEmpty then ([], rest, false) else (ds, left, true)
    | rest => ([], rest, !whole.isEmpty)
  if !ok then none
  else
    let (power, rest) := Json.exponentPart rest
    some (Json.Numeral.toDecimal { negative := false, whole, fraction, power }, rest)

/-- A lexeme of a program text that opens or closes nothing, and what is left. -/
def plain (cs : List Char) : Token × List Char :=
  match cs with
  | [] => (.finish, [])
  | c :: rest =>
    let word := fun (made : String → Token) (cs : List Char) =>
      let (w, left) := spanName (cs.length + 1) cs
      (made (String.ofList w), left)
    let simple := fun (made : String → Token) (cs : List Char) =>
      let w := cs.takeWhile isNameChar
      (made (String.ofList w), cs.drop w.length)
    let symbol :=
      match symbols.find? fun s => s.toList.isPrefixOf cs with
      | some s => (.symbol s, cs.drop s.length)
      | none => (.invalid, rest)
    match number? cs with
    | some (d, left) => (.number d, left)
    | none =>
      if isNameStart c then
        word (fun s => if keywords.contains s then .keyword s else .name s) cs
      else
        match c, rest with
        | '.', d :: _ => if isNameStart d then simple .field rest else symbol
        | '$', d :: _ => if isNameStart d then word .binding rest else symbol
        | '@', d :: _ => if isNameChar d then simple .format rest else (.invalid, rest)
        | _, _ => symbol

/-- The escapes at the head of a text between quotes, and what is left. -/
def spanEscapes : Nat → List Char → List Char × List Char
  | 0, cs => ([], cs)
  | fuel + 1, cs =>
    match cs with
    | '\\' :: 'u' :: rest =>
      let digits := (rest.take 4).takeWhile Char.isAlphanum
      let (more, left) := spanEscapes fuel (rest.drop digits.length)
      ('\\' :: 'u' :: (digits ++ more), left)
    | '\\' :: '(' :: _ => ([], cs)
    | '\\' :: c :: rest =>
      let (more, left) := spanEscapes fuel rest
      ('\\' :: c :: more, left)
    | cs => ([], cs)

/-- The text that escapes stand for. -/
def unescape (cs : List Char) : Option String :=
  match Json.read (String.ofList ('"' :: (cs ++ ['"']))) with
  | .ok (.str s) => some s
  | _ => none

/-- The lexemes of the rest of a text from octet `pos` on, up to the one that ends it.  Its extent
is that of the last stretch read, be it a blank.  `last` is the extent of the stretch before. -/
def scan : Nat → List Open → (inText : Bool) → Nat → Extent → List Char → List Lexeme
  | 0, _, _, _, last, _ => [⟨.finish, last⟩]
  | _ + 1, _, _, _, last, [] => [⟨.finish, last⟩]
  | fuel + 1, opened, true, pos, _, cs =>
    let emit := fun (t : Token) (opened : List Open) (inText : Bool) (left : List Char) =>
      let stop := pos + (octets cs - octets left)
      ⟨t, ⟨pos, stop⟩⟩ :: scan fuel opened inText stop ⟨pos, stop⟩ left
    match cs with
    | '"' :: left => emit .unquote opened false left
    | '\\' :: '(' :: left => emit .openHole (.hole :: opened) false left
    | '\\' :: _ =>
      match spanEscapes cs.length cs with
      | ([], _) => emit .invalid opened true (cs.drop 1)
      | (escapes, left) =>
        emit ((unescape escapes).elim .invalid .text) opened true left
    | cs =>
      let run := cs.takeWhile fun c => c != '"' && c != '\\'
      emit (.text (String.ofList run)) opened true (cs.drop run.length)
  | fuel + 1, opened, false, pos, last, c :: rest =>
    let stopAt := fun (left : List Char) => pos + (octets (c :: rest) - octets left)
    let skip := fun (left : List Char) =>
      scan fuel opened false (stopAt left) ⟨pos, stopAt left⟩ left
    let emit := fun (t : Token) (opened : List Open) (inText : Bool) (left : List Char) =>
      ⟨t, ⟨pos, stopAt left⟩⟩ :: scan fuel opened inText (stopAt left) ⟨pos, stopAt left⟩ left
    let close := fun (opener : Char) =>
      match opened with
      | .bracket o :: outer =>
        if o = opener then emit (.symbol c.toString) outer false rest
        else emit .invalid opened false rest
      | .hole :: outer =>
        if opener = '(' then emit .closeHole outer true rest
        else emit .invalid opened false rest
      | [] => emit .invalid opened false rest
    if isBlank c then skip (rest.dropWhile isBlank)
    else if c = '#' then skip (dropComment rest)
    else if c = '"' then emit .quote opened true rest
    else if c = '(' || c = '[' || c = '\x7b' then
      emit (.symbol c.toString) (.bracket c :: opened) false rest
    else if c = ')' then close '('
    else if c = ']' then close '['
    else if c = '\x7d' then close '\x7b'
    else
      let (t, left) := plain (c :: rest)
      let _ := last
      emit t opened false left

/-- The lexemes of a text, ended by `Token.finish`. -/
def ofText (s : String) : List Lexeme :=
  let cs := s.toList
  scan (cs.length + 1) [] false 0 ⟨0, 0⟩ cs

end Lexeme

end Foldbook.Query
