import Foldbook.Decimal.Shortest
import Foldbook.Json.Basic
import Foldbook.Text.Quoted

/-!
# Writing JSON

One printer for all layouts (`Json.chars`).  `compact` is the form of substituted values, `pretty`
the indented form of response bodies and of the environment file, and `plain` the form of values
quoted in messages.  A floating-point number is written with the fewest digits that read back; the
infinities and not-a-number have the words `Infinity`, `-Infinity` and `NaN`.
-/

namespace Foldbook.Json

/-- How a value is laid out. -/
structure Layout where
  /-- Between two items or members. -/
  comma : List Char
  /-- Between a name and its value. -/
  colon : List Char
  /-- Spaces per level; without it everything stands on one line. -/
  indent : Option Nat
  /-- Whether characters outside ASCII are escaped. -/
  asciiOnly : Bool

/-- No blanks at all. -/
def compact : Layout := ⟨[','], [':'], none, false⟩

/-- One item or member on each line, two spaces per level. -/
def pretty : Layout := ⟨[','], [':', ' '], some 2, false⟩

/-- One line with a blank behind commas and colons, ASCII only. -/
def plain : Layout := ⟨[',', ' '], [':', ' '], none, true⟩

/-- Floating-point numbers are positional from `1e-4` up to below `1e16`, and show that they are
no whole numbers. -/
def floatLayout : Decimal.Layout := ⟨-4, fun _ => 15, true⟩

/-- A floating-point number, or the word for one that is infinite or none. -/
def floatChars (x : Float) : List Char :=
  if x.isNaN then "NaN".toList
  else if x.isInf then (if x < 0 then "-Infinity" else "Infinity").toList
  else Decimal.render floatLayout (Decimal.shortest x)

/-- An escape with four hexadecimal digits. -/
def unicodeEscape (n : Nat) : List Char :=
  '\\' :: 'u' :: Text.Quoted.hex 4 n

/-- One character of a string.  Characters beyond U+FFFF are escaped as a surrogate pair. -/
def escapeChar (asciiOnly : Bool) (c : Char) : List Char :=
  match c with
  | '"' => ['\\', '"']
  | '\\' => ['\\', '\\']
  | '\n' => ['\\', 'n']
  | '\r' => ['\\', 'r']
  | '\t' => ['\\', 't']
  | '\x08' => ['\\', 'b']
  | '\x0c' => ['\\', 'f']
  | c =>
    if c.toNat < 32 then unicodeEscape c.toNat
    else if asciiOnly && c.toNat ≥ 127 then
      if c.toNat < 0x10000 then
        if c.toNat = 127 then [c] else unicodeEscape c.toNat
      else
        let offset := c.toNat - 0x10000
        unicodeEscape (0xD800 + offset / 0x400) ++ unicodeEscape (0xDC00 + offset % 0x400)
    else [c]

/-- A string between quotes. -/
def stringChars (asciiOnly : Bool) (s : String) : List Char :=
  '"' :: (s.toList.flatMap (escapeChar asciiOnly) ++ ['"'])

/-- What separates an item from a bracket or a comma before it, at the given level. -/
def Layout.gap (l : Layout) (level : Nat) : List Char :=
  match l.indent with
  | none => []
  | some n => '\n' :: List.replicate (n * level) ' '

mutual

/-- The text of a value whose brackets stand at the given level. -/
def chars (l : Layout) (level : Nat) : Json → List Char
  | .null => "null".toList
  | .bool true => "true".toList
  | .bool false => "false".toList
  | .int n => Decimal.intDigits n
  | .float x => floatChars x
  | .str s => stringChars l.asciiOnly s
  | .arr [] => ['[', ']']
  | .arr (x :: xs) =>
    '[' :: (l.gap (level + 1) ++ chars l (level + 1) x ++ itemsChars l (level + 1) xs ++
      l.gap level ++ [']'])
  | .obj [] => ['\x7b', '\x7d']
  | .obj ((k, v) :: ms) =>
    '\x7b' :: (l.gap (level + 1) ++ stringChars l.asciiOnly k ++ l.colon ++
      chars l (level + 1) v ++ membersChars l (level + 1) ms ++ l.gap level ++ ['\x7d'])

/-- The items behind the first one. -/
def itemsChars (l : Layout) (level : Nat) : List Json → List Char
  | [] => []
  | x :: xs => l.comma ++ l.gap level ++ chars l level x ++ itemsChars l level xs

/-- The members behind the first one. -/
def membersChars (l : Layout) (level : Nat) : List (String × Json) → List Char
  | [] => []
  | (k, v) :: ms =>
    l.comma ++ l.gap level ++ stringChars l.asciiOnly k ++ l.colon ++ chars l level v ++
      membersChars l level ms

end

/-- The text of a value. -/
def render (l : Layout) (v : Json) : String :=
  String.ofList (chars l 0 v)

/-- What is substituted for a selector: a string as it is, any other value as compact JSON. -/
def inlineText : Json → String
  | .str s => s
  | v => render compact v

end Foldbook.Json
