import Foldbook.Text.Printable

/-!
# Quoted text in messages

A text between quotes as messages show it.  Single quotes are used unless the text holds a single
quote and no double quote; the quote in use, the backslash and every character that is not
printable are escaped.
-/

namespace Foldbook.Text.Quoted

/-- The last `width` hexadecimal digits of a number. -/
def hex (width : Nat) (n : Nat) : List Char :=
  match width with
  | 0 => []
  | width + 1 => hex width (n / 16) ++ [Nat.digitChar (n % 16)]

/-- One character between quotes of the given kind. -/
def escape (mark : Char) (c : Char) : List Char :=
  if c = mark || c = '\\' then ['\\', c]
  else if c = '\n' then ['\\', 'n']
  else if c = '\r' then ['\\', 'r']
  else if c = '\t' then ['\\', 't']
  else if isPrintable c then [c]
  else if c.toNat < 0x100 then '\\' :: 'x' :: hex 2 c.toNat
  else if c.toNat < 0x10000 then '\\' :: 'u' :: hex 4 c.toNat
  else '\\' :: 'U' :: hex 8 c.toNat

/-- The text between quotes. -/
def render (s : String) : String :=
  let cs := s.toList
  let mark := if cs.contains '\'' && !cs.contains '"' then '"' else '\''
  String.ofList (mark :: (cs.flatMap (escape mark) ++ [mark]))

end Foldbook.Text.Quoted
