/-!
# Places in a configuration text

A cursor is a place in a text: the characters left, how many have been passed, and the line and
column they stand at.  Line ends are `\r\n`, `\r`, `\n`, U+0085, U+2028 and U+2029.
-/

namespace Foldbook.Yaml

/-- Whether a character may occur in a text at all. -/
def isPermitted (c : Char) : Bool :=
  let n := c.toNat
  n == 0x9 || n == 0xA || n == 0xD || (0x20 ≤ n && n ≤ 0x7E) || n == 0x85 ||
    (0xA0 ≤ n && n ≤ 0xD7FF) || (0xE000 ≤ n && n ≤ 0xFFFD) || 0x10000 ≤ n

/-- Whether a character ends a line. -/
def isBreak (c : Char) : Bool :=
  c == '\n' || c == '\r' || c == '\u0085' || c == '\u2028' || c == '\u2029'

/-- Whether a character is a space, a tabulator, or ends a line. -/
def isGap (c : Char) : Bool := c == ' ' || c == '\t' || isBreak c

/-- A place in a text. -/
structure Cursor where
  rest : List Char
  index : Nat := 0
  line : Nat := 0
  column : Nat := 0
  deriving Repr

namespace Cursor

/-- The character that is `n` characters ahead. -/
def ahead (c : Cursor) (n : Nat) : Option Char := c.rest[n]?

/-- The next character. -/
def peek (c : Cursor) : Option Char := c.rest.head?

/-- Whether the character `n` ahead satisfies the test; the end of the text does. -/
def isAhead (c : Cursor) (n : Nat) (p : Char → Bool) : Bool :=
  match c.ahead n with
  | some ch => p ch
  | none => true

/-- Whether a gap or the end is `n` characters ahead. -/
def gapAhead (c : Cursor) (n : Nat) : Bool := c.isAhead n isGap

/-- Whether a line end, or the end, comes next. -/
def atLineEnd (c : Cursor) : Bool := c.isAhead 0 isBreak

/-- Whether a space, a line end or the end comes next. -/
def atSpaceOrEnd (c : Cursor) : Bool := c.isAhead 0 fun ch => ch == ' ' || isBreak ch

/-- The place behind the next character. -/
def advance (c : Cursor) : Cursor :=
  match c.rest with
  | [] => c
  | ch :: rest =>
    let endsLine := ch == '\n' || ch == '\u0085' || ch == '\u2028' || ch == '\u2029' ||
      (ch == '\r' && rest.head? != some '\n')
    if endsLine then ⟨rest, c.index + 1, c.line + 1, 0⟩
    else ⟨rest, c.index + 1, c.line, if ch == '\uFEFF' then c.column else c.column + 1⟩

/-- The place `n` characters further on. -/
def advanceBy (c : Cursor) : Nat → Cursor
  | 0 => c
  | n + 1 => c.advance.advanceBy n

/-- The characters as long as the test holds, and the place behind them. -/
def spanWhile (c : Cursor) (p : Char → Bool) : List Char × Cursor :=
  let found := c.rest.takeWhile p
  (found, c.advanceBy found.length)

/-- The place behind spaces. -/
def skipSpaces (c : Cursor) : Cursor := (c.spanWhile (· == ' ')).2

/-- The line end that comes next, as it counts in a text, and the place behind it. -/
def lineBreak? (c : Cursor) : Option (Char × Cursor) :=
  match c.rest with
  | '\r' :: '\n' :: _ => some ('\n', c.advanceBy 2)
  | ch :: _ =>
    if ch == '\u2028' || ch == '\u2029' then some (ch, c.advance)
    else if isBreak ch then some ('\n', c.advance)
    else none
  | [] => none

/-- The place behind the line end, if one comes next. -/
def skipBreak (c : Cursor) : Cursor :=
  match c.lineBreak? with
  | some (_, c) => c
  | none => c

/-- Whether a document marker comes next: three of the character and a gap behind them. -/
def atMarker (c : Cursor) (mark : Char) : Bool :=
  c.rest.take 3 == [mark, mark, mark] && c.gapAhead 3

/-- Whether a marker of either kind comes next. -/
def atAnyMarker (c : Cursor) : Bool := c.atMarker '-' || c.atMarker '.'

/-- The place behind blanks and a comment. -/
def skipComment (c : Cursor) : Cursor :=
  let c := c.skipSpaces
  if c.peek == some '#' then (c.spanWhile fun ch => !isBreak ch).2 else c

/-- The place behind the rest of a line that holds nothing but a comment. -/
def skipIgnoredLine? (c : Cursor) : Option Cursor :=
  let c := c.skipComment
  if c.atLineEnd then some c.skipBreak else none

end Cursor

end Foldbook.Yaml
