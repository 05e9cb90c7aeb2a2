import Foldbook.Json.Reader
import Foldbook.Query.Fault

/-!
# Values from texts

What a query makes of a text that holds a number or a JSON value.  This reader is laxer than that
of scripts: numbers may have a sign, leading zeros and a bare point, and texts may hold any
character.  It takes one character after the other, and a fault names line and column.
-/

namespace Foldbook.Query.ValueText

/-- A word without regard to the case of its letters. -/
def sameWord (cs : List Char) (word : String) : Bool :=
  cs.map Char.toLower == word.toList

/-- The number that a whole text spells. -/
def number? (cs : List Char) : Option Number :=
  let (negative, rest) := match cs with
    | '-' :: rest => (true, rest)
    | '+' :: rest => (false, rest)
    | rest => (false, rest)
  let signed := fun (x : Float) => some (Number.ofFloat (if negative then -x else x))
  if sameWord rest "infinity" || sameWord rest "inf" then signed (1.0 / 0.0)
  else if sameWord rest "nan" then some (.ofFloat (0.0 / 0.0))
  else
    let (whole, rest) := Json.spanDigits rest
    let (fraction, rest) := match rest with
      | '.' :: more => Json.spanDigits more
      | rest => ([], rest)
    if whole.isEmpty && fraction.isEmpty then none
    else
      match Json.exponentPart rest with
      | (power, []) =>
        some (.ofDecimal (Json.Numeral.toDecimal { negative, whole, fraction, power }))
      | _ => none

/-- Why a text is no value. -/
inductive Cause where
  | separator
  | keyBeforeColon
  | colonOutside
  | keyNotText
  | valueBeforeComma
  | commaOutside
  | pairs
  | unmatchedSquare
  | unmatchedCurly
  | anotherItem
  | anotherPair
  | quoteMark
  | word
  | numeral
  | escape
  | shortUnicode
  | unicodeDigits
  | surrogatePair
  deriving DecidableEq, Repr

/-- The words of a cause. -/
def Cause.words : Cause → String
  | .separator => "Expected separator between values"
  | .keyBeforeColon => "Expected string key before ':'"
  | .colonOutside => "':' not as part of an object"
  | .keyNotText => "Object keys must be strings"
  | .valueBeforeComma => "Expected value before ','"
  | .commaOutside => "',' not as part of an object"
  | .pairs => "Objects must consist of key:value pairs"
  | .unmatchedSquare => "Unmatched ']'"
  | .unmatchedCurly => "Unmatched '\x7d'"
  | .anotherItem => "Expected another array element"
  | .anotherPair => "Expected another key-value pair"
  | .quoteMark => "Invalid string literal; expected \", but got '"
  | .word => "Invalid literal"
  | .numeral => "Invalid numeric literal"
  | .escape => "Invalid escape"
  | .shortUnicode => "Invalid \\uXXXX escape"
  | .unicodeDigits => "Invalid characters in \\uXXXX escape"
  | .surrogatePair => "Invalid \\uXXXX\\uXXXX surrogate pair escape"

/-- What is open around the place that is read. -/
inductive Frame where
  /-- An array with its items, last first. -/
  | items (found : List Value)
  /-- An object before a key. -/
  | members (found : List (String × Value))
  /-- An object behind a key. -/
  | key (name : String) (found : List (String × Value))

/-- What kind of text is being read. -/
inductive Mode where
  | plain
  | quoted
  | escaped
  deriving DecidableEq

/-- How far the reader is. -/
structure State where
  frames : List Frame := []
  /-- A value that has not been put anywhere yet. -/
  value : Option Value := none
  /-- The characters of a word or a quoted text, last first. -/
  token : List Char := []
  mode : Mode := .plain
  /-- The value of the whole text. -/
  result : Option Value := none

/-- The hexadecimal number that four digits spell. -/
def hexFour? (cs : List Char) : Option Nat :=
  cs.foldlM (fun n c => (Json.hexValue? c).map (n * 16 + ·)) 0

/-- The characters that a quoted text stands for. -/
def unescape : Nat → List Char → Except Cause (List Char)
  | 0, _ => .ok []
  | _ + 1, [] => .ok []
  | fuel + 1, '\\' :: 'u' :: rest =>
    if rest.length < 4 then .error .shortUnicode
    else
      match hexFour? (rest.take 4) with
      | none => .error .unicodeDigits
      | some high =>
        let rest := rest.drop 4
        if Json.isHighSurrogate high then
          match rest with
          | '\\' :: 'u' :: more =>
            match hexFour? (more.take 4) with
            | some low =>
              if more.length ≥ 4 && Json.isLowSurrogate low then do
                let c := Char.ofNat (0x10000 + (high - 0xD800) * 0x400 + (low - 0xDC00))
                return c :: (← unescape fuel (more.drop 4))
              else .error .surrogatePair
            | none => .error .surrogatePair
          | _ => .error .surrogatePair
        else do return Json.unitChar high :: (← unescape fuel rest)
  | fuel + 1, '\\' :: c :: rest => do
    let d ← match c with
      | '"' | '\\' | '/' => .ok c
      | 'b' => .ok '\x08'
      | 'f' => .ok '\x0c'
      | 'n' => .ok '\n'
      | 'r' => .ok '\r'
      | 't' => .ok '\t'
      | _ => .error .escape
    return d :: (← unescape fuel rest)
  | fuel + 1, c :: rest => do return c :: (← unescape fuel rest)

/-- Takes up a value that has been read. -/
def State.put (s : State) (v : Value) : Except Cause State :=
  if s.value.isSome then .error .separator else .ok { s with value := some v }

/-- Ends the word that is being read. -/
def State.endWord (s : State) : Except Cause State :=
  let word (w : String) (v : Value) : Except Cause State :=
    if s.token.reverse == w.toList then { s with token := [] }.put v else .error .word
  let numeral : Except Cause State :=
    match number? s.token.reverse with
    | some n => { s with token := [] }.put (.num n)
    | none => .error .numeral
  match s.token.reverse with
  | [] => .ok s
  | 't' :: _ => word "true" (.bool true)
  | 'f' :: _ => word "false" (.bool false)
  | '\'' :: _ => .error .quoteMark
  | 'n' :: _ => if s.token.length = 3 then numeral else word "null" .null
  | _ => numeral

/-- Takes a bracket, comma or colon. -/
def State.mark (s : State) (c : Char) : Except Cause State :=
  match c with
  | '[' => if s.value.isSome then .error .separator
    else .ok { s with frames := .items [] :: s.frames }
  | '\x7b' => if s.value.isSome then .error .separator
    else .ok { s with frames := .members [] :: s.frames }
  | ':' =>
    match s.frames, s.value with
    | .members found :: outer, some (.str name) =>
      .ok { s with frames := .key name found :: outer, value := none }
    | .members _ :: _, some _ => .error .keyNotText
    | .members _ :: _, none => .error .keyBeforeColon
    | _, _ => .error .colonOutside
  | ',' =>
    match s.frames, s.value with
    | _, none => .error .valueBeforeComma
    | .items found :: outer, some v =>
      .ok { s with frames := .items (v :: found) :: outer, value := none }
    | .key name found :: outer, some v =>
      .ok { s with frames := .members (Value.insert name v found) :: outer, value := none }
    | .members _ :: _, some _ => .error .pairs
    | [], some _ => .error .commaOutside
  | ']' =>
    match s.frames, s.value with
    | .items found :: outer, some v =>
      .ok { s with frames := outer, value := some (.arr (v :: found).reverse) }
    | .items [] :: outer, none => .ok { s with frames := outer, value := some (.arr []) }
    | .items _ :: _, none => .error .anotherItem
    | _, _ => .error .unmatchedSquare
  | _ =>
    match s.frames, s.value with
    | .key name found :: outer, some v =>
      .ok { s with frames := outer, value := some (.obj (Value.insert name v found)) }
    | [], _ => .error .unmatchedCurly
    | _ :: _, some _ => .error .pairs
    | .members [] :: outer, none => .ok { s with frames := outer, value := some (.obj []) }
    | .members _ :: _, none => .error .anotherPair
    | _ :: _, none => .error .unmatchedCurly

/-- Why the reader stops. -/
inductive Stop where
  | cause (c : Cause)
  | extra

/-- Hands over a value that nothing is open around. -/
def State.settle (s : State) : Except Stop State :=
  match s.frames, s.value, s.result with
  | [], some v, none => .ok { s with value := none, result := some v }
  | [], some _, some _ => .error .extra
  | _, _, _ => .ok s

/-- Stops for a cause, wherever it arose. -/
def cause {α : Type} (r : Except Cause α) : Except Stop α := r.mapError .cause

/-- Takes one character. -/
def State.step (s : State) (c : Char) : Except Stop State :=
  match s.mode with
  | .plain =>
    if c = '"' then do
      let s ← cause s.endWord
      let s ← s.settle
      return { s with mode := .quoted }
    else if Json.isSpace c then do
      let s ← cause s.endWord
      s.settle
    else if ['[', ']', '\x7b', '\x7d', ':', ','].contains c then do
      let s ← cause s.endWord
      let s ← cause (s.mark c)
      s.settle
    else .ok { s with token := c :: s.token }
  | .quoted =>
    if c = '"' then do
      let cs ← cause (unescape (s.token.length + 1) s.token.reverse)
      let s ← cause ({ s with token := [], mode := .plain }.put (.str (String.ofList cs)))
      s.settle
    else .ok { s with token := c :: s.token, mode := if c = '\\' then .escaped else .quoted }
  | .escaped => .ok { s with token := c :: s.token, mode := .quoted }

/-- Line and column, in octets, of the character just read. -/
structure Position where
  line : Nat := 1
  column : Nat := 0

/-- The position behind a character. -/
def Position.after (p : Position) (c : Char) : Position :=
  if c = '\n' then ⟨p.line + 1, 0⟩ else ⟨p.line, p.column + c.utf8Size⟩

/-- Reads the characters behind a position. -/
def readFrom (s : State) (p : Position) : List Char → Except String Value
  | [] =>
    let place := s!" at EOF at line {p.line}, column {p.column}"
    if s.mode ≠ .plain then .error ("Unfinished string" ++ place)
    else
      match s.endWord with
      | .error c => .error (c.words ++ place)
      | .ok s =>
        if !s.frames.isEmpty then .error ("Unfinished JSON term" ++ place)
        else
          match s.result, s.value with
          | none, some v | some v, none => .ok v
          | some _, some _ => .error "Unexpected extra JSON values"
          | none, none => .error "Expected JSON value"
  | c :: cs =>
    let p := p.after c
    match s.step c with
    | .ok s => readFrom s p cs
    | .error (.cause c) => .error s!"{c.words} at line {p.line}, column {p.column}"
    | .error .extra => .error "Unexpected extra JSON values"

/-- The value that a text holds. -/
def read (text : String) : Except Fault Value :=
  (readFrom {} {} text.toList).mapError fun reason => .unreadable reason text

end Foldbook.Query.ValueText
