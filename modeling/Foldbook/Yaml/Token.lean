import Foldbook.Yaml.ScalarText

/-!
# Tokens of a configuration text

Brackets, marks and scalars, together with the starts and ends of block collections, which follow
from indentation.  A simple key shows only at the colon behind it, so the places where one may have
begun are kept open (`OpenKey`), and its tokens are put in where it began.

`Token.ofText?` answers the tokens of a whole text, or nothing if it breaks the rules.
-/

namespace Foldbook.Yaml

/-- A tag as written: a handle, if it has one, and what follows. -/
structure TagMark where
  handle : Option String
  suffix : String
  deriving DecidableEq, Repr

/-- How a scalar is written. -/
inductive Style where
  | plain
  | quoted
  deriving DecidableEq, Repr

/-- The tokens of a text. -/
inductive Token where
  | finish
  | version (major : Nat)
  | tagShorthand (handle replacement : String)
  | otherDirective
  | documentStart
  | documentEnd
  | blockSequenceStart
  | blockMappingStart
  | blockEnd
  | flowSequenceStart
  | flowSequenceEnd
  | flowMappingStart
  | flowMappingEnd
  | flowEntry
  | blockEntry
  | key
  | value
  | anchor (name : String)
  | alias (name : String)
  | tag (mark : TagMark)
  | scalar (style : Style) (text : String)
  deriving DecidableEq, Repr

/-! ## Names, tags and directives -/

/-- What the name of an anchor or a tag handle is made of. -/
def isNameChar (c : Char) : Bool := c.isAlphanum || c == '-' || c == '_'

/-- The name behind an anchor or alias mark, which comes next. -/
def nameBehind? (c : Cursor) : Option (String × Cursor) :=
  let (name, c) := c.advance.spanWhile isNameChar
  let ends := c.isAhead 0 fun ch =>
    isGap ch || ['?', ':', ',', ']', '\x7d', '%', '@', Char.ofNat 96].contains ch
  if name.isEmpty || !ends then none else some (String.ofList name, c)

/-- What a tag is made of besides escapes. -/
def isLinkChar (c : Char) : Bool :=
  c.isAlphanum || "-;/?:@&=+$,_.!~*'()[]".toList.contains c

/-- Octets written with percent signs, as the text they spell. -/
def percentOctets : Nat → Cursor → Option (List UInt8 × Cursor)
  | 0, _ => none
  | fuel + 1, c =>
    match c.rest with
    | '%' :: a :: b :: _ => do
      let x ← Json.hexValue? a
      let y ← Json.hexValue? b
      let (more, c) ← percentOctets fuel (c.advanceBy 3)
      some (UInt8.ofNat (x * 16 + y) :: more, c)
    | '%' :: _ => none
    | _ => some ([], c)

/-- The part of a link that comes next. -/
def linkPart : Nat → Cursor → Option (String × Cursor)
  | 0, _ => none
  | fuel + 1, c =>
    match c.peek with
    | some '%' => do
      let (octets, c) ← percentOctets c.bound c
      let text ← (Text.Utf8.decode octets).toOption
      let (more, c) ← linkPart fuel c
      some (text ++ more, c)
    | _ =>
      let (run, c) := c.spanWhile isLinkChar
      if run.isEmpty then some ("", c)
      else do
        let (more, c) ← linkPart fuel c
        some (String.ofList run ++ more, c)

/-- A link that is not empty. -/
def link? (c : Cursor) : Option (String × Cursor) := do
  let (text, behind) ← linkPart c.bound c
  if behind.index = c.index then none else some (text, behind)

/-- A handle: an exclamation mark, or a name between two. -/
def handle? (c : Cursor) : Option (String × Cursor) :=
  if c.peek != some '!' then none
  else if c.ahead 1 == some ' ' then some ("!", c.advance)
  else
    let (name, behind) := c.advance.spanWhile isNameChar
    if behind.peek == some '!' then
      some (String.ofList ('!' :: (name ++ ['!'])), behind.advance)
    else none

/-- The tag whose exclamation mark comes next. -/
def tagMark? (c : Cursor) : Option (TagMark × Cursor) := do
  let (mark, c) ←
    if c.ahead 1 == some '<' then do
      let (suffix, c) ← link? (c.advanceBy 2)
      if c.peek == some '>' then some (({ handle := none, suffix } : TagMark), c.advance) else none
    else if c.gapAhead 1 then some ({ handle := none, suffix := "!" }, c.advance)
    else do
      let word := c.advance.rest.takeWhile fun ch => !(ch == ' ' || isBreak ch)
      let (handle, c) ← if word.contains '!' then handle? c else some ("!", c.advance)
      let (suffix, c) ← link? c
      some ({ handle := some handle, suffix }, c)
  if c.atSpaceOrEnd then some (mark, c) else none

/-- A number. -/
def number? (c : Cursor) : Option (Nat × Cursor) :=
  let (digits, c) := c.spanWhile Char.isDigit
  if digits.isEmpty then none else some (Decimal.ofDigits digits, c)

/-- The directive whose percent sign comes next. -/
def directive? (c : Cursor) : Option (Token × Cursor) := do
  let (name, c) := c.advance.spanWhile isNameChar
  if name.isEmpty || !c.atSpaceOrEnd then none
  let (token, c) ← match String.ofList name with
    | "YAML" => do
      let (major, c) ← number? c.skipSpaces
      if c.peek != some '.' then none
      let (_, c) ← number? c.advance
      if c.atSpaceOrEnd then some (Token.version major, c) else none
    | "TAG" => do
      let (handle, c) ← handle? c.skipSpaces
      if c.peek != some ' ' then none
      let (replacement, c) ← link? c.skipSpaces
      if c.atSpaceOrEnd then some (Token.tagShorthand handle replacement, c) else none
    | _ => some (.otherDirective, (c.spanWhile fun ch => !isBreak ch).2)
  return (token, ← c.skipIgnoredLine?)

/-! ## The state of the scanner -/

/-- A place where a simple key may have begun. -/
structure OpenKey where
  /-- The number of flow collections around it. -/
  level : Nat
  /-- The number of tokens before it. -/
  position : Nat
  /-- Whether only a key can stand there. -/
  required : Bool
  index : Nat
  line : Nat
  column : Nat
  deriving Repr

/-- What scanning has found so far. -/
structure Scan where
  cursor : Cursor
  /-- The tokens so far. -/
  tokens : Array Token := #[]
  /-- The number of flow collections around the place. -/
  level : Nat := 0
  /-- The column of the block collection around the place, or -1. -/
  indent : Int := -1
  /-- Those of the block collections around that one, innermost first. -/
  outer : List Int := []
  /-- Whether a simple key may begin here. -/
  keyAllowed : Bool := true
  openKeys : List OpenKey := []

namespace Scan

/-- Adds a token. -/
def push (s : Scan) (t : Token) : Scan := { s with tokens := s.tokens.push t }

/-- Puts a token before the token with the given number. -/
def insertAt (s : Scan) (position : Nat) (t : Token) : Scan :=
  { s with tokens := s.tokens.take position ++ #[t] ++ s.tokens.drop position }

/-- Spaces, comments and line ends before the next token.  A key may begin on a new line. -/
def skipGaps : Nat → Scan → Scan
  | 0, s => s
  | fuel + 1, s =>
    let c := s.cursor.skipComment
    match c.lineBreak? with
    | some (_, c) =>
      skipGaps fuel { s with cursor := c, keyAllowed := s.keyAllowed || s.level == 0 }
    | none => { s with cursor := c }

/-- The most characters a simple key may have. -/
def keyLimit : Nat := 1024

/-- Gives up the open keys that are on another line or too long. -/
def dropStale (s : Scan) : Option Scan :=
  let stale := fun (k : OpenKey) =>
    k.line != s.cursor.line || s.cursor.index - k.index > keyLimit
  if s.openKeys.any fun k => stale k && k.required then none
  else some { s with openKeys := s.openKeys.filter fun k => !stale k }

/-- Gives up the open key at this level. -/
def dropKey (s : Scan) : Option Scan :=
  if s.openKeys.any fun k => k.level == s.level && k.required then none
  else some { s with openKeys := s.openKeys.filter fun k => k.level != s.level }

/-- Keeps this place as one where a simple key may begin. -/
def openKey (s : Scan) : Option Scan := do
  if !s.keyAllowed then return s
  let s ← s.dropKey
  let k : OpenKey := {
    level := s.level
    position := s.tokens.size
    required := s.level == 0 && s.indent == s.cursor.column
    index := s.cursor.index
    line := s.cursor.line
    column := s.cursor.column }
  return { s with openKeys := k :: s.openKeys }

/-- Ends the block collections that are indented more than the column. -/
def unwind (column : Int) : List Int → Scan → Scan
  | outer, s =>
    if s.level != 0 || s.indent ≤ column then { s with outer }
    else
      match outer with
      | [] => { s.push .blockEnd with indent := -1, outer := [] }
      | around :: outer => unwind column outer { s.push .blockEnd with indent := around }

/-- Closes the blocks that are indented more than a column. -/
def unwindTo (s : Scan) (column : Int) : Scan := unwind column s.outer s

/-- Begins a block collection at the column, unless one is there already. -/
def indentTo (s : Scan) (column : Nat) (position : Nat) (t : Token) : Scan :=
  if s.indent < column then
    { s.insertAt position t with indent := column, outer := s.indent :: s.outer }
  else s

/-- Before marks that end everything open: directives and document markers. -/
def closeAll (s : Scan) : Option Scan := do
  let s ← (s.unwindTo (-1)).dropKey
  return { s with keyAllowed := false }

/-- A token of `width` characters that begins a block item, if the place allows one. -/
def blockItem (s : Scan) (collection item : Token) (keyBehind : Bool) : Option Scan := do
  let s ←
    if s.level == 0 then
      if s.keyAllowed then some (s.indentTo s.cursor.column s.tokens.size collection) else none
    else some s
  let s ← { s with keyAllowed := keyBehind }.dropKey
  return { s.push item with cursor := s.cursor.advance }

/-- The colon behind a key: it turns the open key into one, or stands behind a longer key. -/
def colon (s : Scan) : Option Scan := do
  match s.openKeys.find? fun k => k.level == s.level with
  | some k =>
    let s := { s with openKeys := s.openKeys.filter fun k => k.level != s.level }
    let s := s.insertAt k.position .key
    let s := if s.level == 0 then s.indentTo k.column k.position .blockMappingStart else s
    return { s.push .value with keyAllowed := false, cursor := s.cursor.advance }
  | none => s.blockItem .blockMappingStart .value (s.level == 0)

/-- A token with the given text behind it, which may begin a key. -/
def keyable (s : Scan) (read : Cursor → Option (Token × Cursor)) : Option Scan := do
  let s ← s.openKey
  let (t, c) ← read s.cursor
  return { s.push t with keyAllowed := false, cursor := c }

/-- Opens a collection between brackets. -/
def openFlow (s : Scan) (t : Token) : Option Scan := do
  let s ← s.openKey
  return { s.push t with level := s.level + 1, keyAllowed := true, cursor := s.cursor.advance }

/-- Closes a collection between brackets. -/
def closeFlow (s : Scan) (t : Token) : Option Scan := do
  if s.level = 0 then none
  let s ← s.dropKey
  return { s.push t with level := s.level - 1, keyAllowed := false, cursor := s.cursor.advance }

/-- Whether a plain scalar can begin at the next character. -/
def plainAhead (s : Scan) : Bool :=
  match s.cursor.peek with
  | none => false
  | some ch =>
    !(isGap ch || ("-?:,[]\x7b\x7d#&*!|>'\"%@".toList ++ [Char.ofNat 96]).contains ch) ||
      (!s.cursor.gapAhead 1 && (ch == '-' || (s.level == 0 && (ch == '?' || ch == ':'))))

/-- Reads the next token. -/
def next (s : Scan) (ch : Char) : Option Scan :=
  let c := s.cursor
  let marker := fun (t : Token) => do
    let s ← s.closeAll
    return { s.push t with cursor := c.advanceBy 3 }
  if ch == '%' && c.column == 0 then do
    let s ← s.closeAll
    let (t, c) ← directive? c
    return { s.push t with cursor := c }
  else if c.column == 0 && c.atMarker '-' then marker .documentStart
  else if c.column == 0 && c.atMarker '.' then marker .documentEnd
  else if ch == '[' then s.openFlow .flowSequenceStart
  else if ch == '\x7b' then s.openFlow .flowMappingStart
  else if ch == ']' then s.closeFlow .flowSequenceEnd
  else if ch == '\x7d' then s.closeFlow .flowMappingEnd
  else if ch == ',' then do
    let s ← { s with keyAllowed := true }.dropKey
    return { s.push .flowEntry with cursor := c.advance }
  else if ch == '-' && c.gapAhead 1 then s.blockItem .blockSequenceStart .blockEntry true
  else if ch == '?' && (s.level != 0 || c.gapAhead 1) then
    s.blockItem .blockMappingStart .key (s.level == 0)
  else if ch == ':' && (s.level != 0 || c.gapAhead 1) then s.colon
  else if ch == '*' then
    s.keyable fun c => (nameBehind? c).map fun (name, c) => (.alias name, c)
  else if ch == '&' then
    s.keyable fun c => (nameBehind? c).map fun (name, c) => (.anchor name, c)
  else if ch == '!' then s.keyable fun c => (tagMark? c).map fun (mark, c) => (.tag mark, c)
  else if (ch == '|' || ch == '>') && s.level == 0 then do
    let s ← { s with keyAllowed := true }.dropKey
    let (text, c) ← blockScalar (ch == '>') s.indent c
    return { s.push (.scalar .quoted text) with cursor := c }
  else if ch == '\'' || ch == '"' then
    s.keyable fun c =>
      (quotedScalar (ch == '"') c).map fun (text, c) => (.scalar .quoted text, c)
  else if s.plainAhead then do
    let s ← s.openKey
    let (text, passed, c) := plainScalar (s.level != 0) s.indent s.cursor
    return { s.push (.scalar .plain text) with keyAllowed := passed, cursor := c }
  else none

/-- Reads all tokens. -/
def run : Nat → Scan → Option (List Token)
  | 0, _ => none
  | fuel + 1, s => do
    let s ← (s.skipGaps s.cursor.bound).dropStale
    let s := s.unwindTo s.cursor.column
    match s.cursor.peek with
    | none =>
      let s ← (s.unwindTo (-1)).dropKey
      return (s.push .finish).tokens.toList
    | some ch => run fuel (← s.next ch)

end Scan

/-- The tokens of a text. -/
def Token.ofText? (text : String) : Option (List Token) :=
  let cs := text.toList
  if cs.all isPermitted then
    let cs := if cs.head? == some '\uFEFF' then cs.tail else cs
    Scan.run (cs.length + 2) { cursor := { rest := cs } }
  else none

end Foldbook.Yaml
