import Foldbook.Text.Utf8
import Foldbook.Json.Reader
import Foldbook.Yaml.Cursor

/-!
# Scalars in a configuration text

Reading scalars: plain ones, those between quotes, and blocks.  Each reader answers the text of the
scalar and the place behind it, or nothing if the text breaks the rules.  Loops are bounded by the
characters that are left.
-/

namespace Foldbook.Yaml

namespace Cursor

/-- The bound for loops from here on. -/
def bound (c : Cursor) : Nat := c.rest.length + 1

end Cursor

/-! ## Quoted scalars -/

/-- What an escape of one character stands for. -/
def shortEscape? : Char → Option Char
  | '0' => some (Char.ofNat 0)
  | 'a' => some '\x07'
  | 'b' => some '\x08'
  | 't' | '\t' => some '\t'
  | 'n' => some '\n'
  | 'v' => some '\x0b'
  | 'f' => some '\x0c'
  | 'r' => some '\r'
  | 'e' => some '\x1b'
  | ' ' => some ' '
  | '"' => some '"'
  | '\\' => some '\\'
  | '/' => some '/'
  | 'N' => some '\u0085'
  | '_' => some '\u00a0'
  | 'L' => some '\u2028'
  | 'P' => some '\u2029'
  | _ => none

/-- How many hexadecimal digits follow an escape. -/
def escapeLength? : Char → Option Nat
  | 'x' => some 2
  | 'u' => some 4
  | 'U' => some 8
  | _ => none

/-- The number that hexadecimal digits spell. -/
def hexNumber? (cs : List Char) : Option Nat :=
  cs.foldlM (fun n c => (Json.hexValue? c).map (n * 16 + ·)) 0

/-- The character of a code point, if it is one. -/
def charOf? (n : Nat) : Option Char := if n.isValidChar then some (Char.ofNat n) else none

/-- Line ends and the blanks at the beginnings of lines between them; no marker may stand there. -/
def quotedBreaks : Nat → Cursor → Option (List Char × Cursor)
  | 0, _ => none
  | fuel + 1, c =>
    if c.atAnyMarker then none
    else
      let (_, c) := c.spanWhile fun ch => ch == ' ' || ch == '\t'
      match c.lineBreak? with
      | some (b, c) => do
        let (more, c) ← quotedBreaks fuel c
        some (b :: more, c)
      | none => some ([], c)

/-- How line ends inside a scalar read: a single line feed is a space, and of several the first
does not count. -/
def foldBreaks (first : Char) (more : List Char) : List Char :=
  if first ≠ '\n' then first :: more else if more.isEmpty then [' '] else more

/-- Blanks or line ends inside quotes. -/
def quotedGap (c : Cursor) : Option (List Char × Cursor) :=
  let (blanks, c) := c.spanWhile fun ch => ch == ' ' || ch == '\t'
  match c.peek, c.lineBreak? with
  | none, _ => none
  | _, some (first, c) => do
    let (more, c) ← quotedBreaks c.bound c
    some (foldBreaks first more, c)
  | _, none => some (blanks, c)

/-- The escape behind a backslash. -/
def quotedEscape (c : Cursor) : Option (List Char × Cursor) := do
  let ch ← c.peek
  match shortEscape? ch, escapeLength? ch with
  | some d, _ => some ([d], c.advance)
  | none, some n =>
    let digits := c.advance.rest.take n
    if digits.length < n then none
    else
      let d ← charOf? (← hexNumber? digits)
      some ([d], c.advance.advanceBy n)
  | none, none =>
    let (_, c) ← c.lineBreak?
    quotedBreaks c.bound c

/-- Everything up to the closing quote, which is passed.  Inside double quotes a backslash escapes;
inside single quotes a quote is written twice. -/
def quotedRest (double : Bool) : Nat → Cursor → Option (List Char × Cursor)
  | 0, _ => none
  | fuel + 1, c => do
    let quote := if double then '"' else '\''
    let ch ← c.peek
    if ch = quote then
      if !double && c.ahead 1 == some '\'' then
        let (more, c) ← quotedRest double fuel (c.advanceBy 2)
        some ('\'' :: more, c)
      else some ([], c.advance)
    else
      let (part, c) ←
        if isGap ch then quotedGap c
        else if double && ch = '\\' then quotedEscape c.advance
        else some ([ch], c.advance)
      let (more, c) ← quotedRest double fuel c
      some (part ++ more, c)

/-- A scalar between quotes, of which the first comes next. -/
def quotedScalar (double : Bool) (c : Cursor) : Option (String × Cursor) := do
  let (cs, c) ← quotedRest double c.bound c.advance
  some (String.ofList cs, c)

/-! ## Block scalars -/

/-- What happens to the line ends at the end of a block. -/
inductive Chomping where
  | strip
  | clip
  | keep
  deriving DecidableEq, Repr

/-- The head of a block: how it ends, and its indentation if it is given. -/
structure BlockHead where
  chomping : Chomping := .clip
  indentation : Option Nat := none
  deriving Repr

/-- What an indicator says about the line ends behind a block. -/
def chomping? : Char → Option Chomping
  | '+' => some .keep
  | '-' => some .strip
  | _ => none

/-- An indentation of one to nine; zero is refused. -/
def indentation? (c : Char) : Option (Option Nat) :=
  if c == '0' then some none
  else if '1' ≤ c && c ≤ '9' then some (some (c.toNat - 48))
  else none

/-- The head of a block, its two marks in either order, up to the end of its line. -/
def blockHead (c : Cursor) : Option (BlockHead × Cursor) := do
  let chomp := fun (c : Cursor) => c.peek.bind chomping?
  let size := fun (c : Cursor) => c.peek.bind indentation?
  let (head, c) ← match chomp c, size c with
    | some ch, _ =>
      match size c.advance with
      | some none => none
      | some n => some (({ chomping := ch, indentation := n } : BlockHead), c.advanceBy 2)
      | none => some ({ chomping := ch }, c.advance)
    | none, some none => none
    | none, some n =>
      match chomp c.advance with
      | some ch => some ({ chomping := ch, indentation := n }, c.advanceBy 2)
      | none => some ({ indentation := n }, c.advance)
    | none, none => some ({}, c)
  if c.atSpaceOrEnd then some (head, ← c.skipIgnoredLine?) else none

/-- Blank lines at the beginning of a block, and the widest column reached in them. -/
def blockLead : Nat → Nat → Cursor → List Char × Nat × Cursor
  | 0, widest, c => ([], widest, c)
  | fuel + 1, widest, c =>
    match c.peek, c.lineBreak? with
    | some ' ', _ =>
      let c := c.advance
      blockLead fuel (max widest c.column) c
    | _, some (b, c) =>
      let (more, widest, c) := blockLead fuel widest c
      (b :: more, widest, c)
    | _, none => ([], widest, c)

/-- At most as many spaces as lead to the column. -/
def toColumn (column : Nat) (c : Cursor) : Cursor :=
  let spaces := (c.rest.takeWhile (· == ' ')).length
  c.advanceBy (min spaces (column - c.column))

/-- Blank lines inside a block. -/
def blockBreaks (column : Nat) : Nat → Cursor → List Char × Cursor
  | 0, c => ([], c)
  | fuel + 1, c =>
    let c := toColumn column c
    match c.lineBreak? with
    | some (b, c) =>
      let (more, c) := blockBreaks column fuel c
      (b :: more, c)
    | none => ([], c)

/-- The lines of a block, up to one that is indented less.  Answers their text without the last
line end, that line end, and the blank lines behind it. -/
def blockLines (folded : Bool) (column : Nat) :
    Nat → Cursor → List Char × Option Char × List Char × Cursor
  | 0, c => ([], none, [], c)
  | fuel + 1, c =>
    let startsBlank := c.isAhead 0 fun ch => ch == ' ' || ch == '\t'
    let (line, c) := c.spanWhile fun ch => !isBreak ch
    match c.lineBreak? with
    | none => (line, none, [], c)
    | some (b, c) =>
      let (breaks, c) := blockBreaks column c.bound c
      if c.column == column && c.peek.isSome then
        let nextBlank := c.isAhead 0 fun ch => ch == ' ' || ch == '\t'
        let gap :=
          if folded && b == '\n' && !startsBlank && !nextBlank then
            (if breaks.isEmpty then [' '] else [])
          else [b]
        let (more, last, trailing, c) := blockLines folded column fuel c
        (line ++ gap ++ breaks ++ more, last, trailing, c)
      else (line, some b, breaks, c)

/-- A block scalar whose mark comes next, in a collection at the given indentation. -/
def blockScalar (folded : Bool) (indent : Int) (c : Cursor) : Option (String × Cursor) := do
  let (head, c) ← blockHead c.advance
  let least := (max (indent + 1) 1).toNat
  let (breaks, column, c) := match head.indentation with
    | none =>
      let (breaks, widest, c) := blockLead c.bound 0 c
      (breaks, max least widest, c)
    | some n =>
      let column := least + n - 1
      let (breaks, c) := blockBreaks column c.bound c
      (breaks, column, c)
  let (text, last, trailing, c) :=
    if c.column == column && c.peek.isSome then
      let (text, last, trailing, c) := blockLines folded column c.bound c
      (breaks ++ text, last, trailing, c)
    else ([], none, breaks, c)
  let ending := match head.chomping with
    | .strip => []
    | .clip => last.toList
    | .keep => last.toList ++ trailing
  some (String.ofList (text ++ ending), c)

/-! ## Plain scalars -/

/-- Blank lines inside a plain scalar.  Nothing follows if a document marker comes first. -/
def plainBreaks : Nat → Cursor → Option (List Char) × Cursor
  | 0, c => (some [], c)
  | fuel + 1, c =>
    match c.peek, c.lineBreak? with
    | some ' ', _ => plainBreaks fuel c.advance
    | _, some (b, c) =>
      if c.atAnyMarker then (none, c)
      else
        let (more, c) := plainBreaks fuel c
        (more.map (b :: ·), c)
    | _, none => (some [], c)

/-- What separates two parts of a plain scalar, whether a line end was passed, and the place behind
it. -/
def plainGap (c : Cursor) : List Char × Bool × Cursor :=
  let (blanks, c) := c.spanWhile (· == ' ')
  match c.lineBreak? with
  | none => (blanks, false, c)
  | some (first, c) =>
    if c.atAnyMarker then ([], true, c)
    else
      match plainBreaks c.bound c with
      | (none, c) => ([], true, c)
      | (some more, c) => (foldBreaks first more, true, c)

/-- The characters of a plain scalar up to a gap or a sign. -/
def plainRun (inFlow : Bool) : List Char → List Char
  | [] => []
  | ch :: rest =>
    let ends := fun (next : Option Char) => match next with
      | none => true
      | some d => isGap d || (inFlow && [',', '[', ']', '\x7b', '\x7d'].contains d)
    if isGap ch || (ch == ':' && ends rest.head?) ||
      (inFlow && [',', '?', '[', ']', '\x7b', '\x7d'].contains ch) then []
    else ch :: plainRun inFlow rest

/-- A plain scalar, whether a line end behind it was passed, and the place behind it.  `gap` is
what separates it from the part before, and `passed` whether that held a line end. -/
def plainRest (inFlow : Bool) (indent : Int) : Nat → List Char → Bool → Cursor →
    List Char × Bool × Cursor
  | 0, _, passed, c => ([], passed, c)
  | fuel + 1, gap, passed, c =>
    let run := if c.peek == some '#' then [] else plainRun inFlow c.rest
    if run.isEmpty then ([], passed, c)
    else
      let (next, passed, c) := plainGap (c.advanceBy run.length)
      let stops := next.isEmpty || c.peek == some '#' || (!inFlow && (c.column : Int) < indent + 1)
      if stops then (gap ++ run, passed, c)
      else
        let (more, passed, c) := plainRest inFlow indent fuel next passed c
        (gap ++ run ++ more, passed, c)

/-- A plain scalar in a collection at the given indentation, and whether a line end behind it was
passed. -/
def plainScalar (inFlow : Bool) (indent : Int) (c : Cursor) : String × Bool × Cursor :=
  let (cs, passed, c) := plainRest inFlow indent c.bound [] false c
  (String.ofList cs, passed, c)

end Foldbook.Yaml
