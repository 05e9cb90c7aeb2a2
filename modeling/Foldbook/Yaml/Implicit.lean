import Foldbook.Decimal.Basic
import Foldbook.Json.Reader
import Foldbook.Text.Lines

/-!
# The meaning of plain scalars

What an untagged plain scalar stands for: truth values in several spellings, whole numbers to the
bases two, eight, ten, sixteen and sixty, floating-point numbers, nothing, dates, and the marks for
merging and for defaults.  Everything else is text.
-/

namespace Foldbook.Yaml

open Text

/-- The kinds of scalars. -/
inductive Kind where
  | null
  | bool
  | int
  | float
  | moment
  | merge
  | default
  | text
  deriving DecidableEq, Repr

namespace Implicit

/-- A digit to the base two, or a low line. -/
def isBinaryDigit (c : Char) : Bool := c == '0' || c == '1' || c == '_'

/-- A digit to the base eight, or a low line. -/
def isOctalDigit (c : Char) : Bool := ('0' ≤ c && c ≤ '7') || c == '_'

/-- A digit, or a low line. -/
def isDecimalDigit (c : Char) : Bool := c.isDigit || c == '_'

/-- A hexadecimal digit, or a low line. -/
def isHexDigit (c : Char) : Bool := (Json.hexValue? c).isSome || c == '_'

/-- The characters without a sign in front. -/
def unsigned : List Char → List Char
  | '-' :: cs | '+' :: cs => cs
  | cs => cs

/-- Whether a number begins with a minus sign. -/
def isNegative (cs : List Char) : Bool := cs.head? == some '-'

/-- A digit that is no zero, and more digits. -/
def isPositive : List Char → Bool
  | c :: cs => '1' ≤ c && c ≤ '9' && cs.all isDecimalDigit
  | [] => false

/-- A digit, and more digits. -/
def isNatural : List Char → Bool
  | c :: cs => c.isDigit && cs.all isDecimalDigit
  | [] => false

/-- A place to the base sixty: one digit, or two that make less than sixty. -/
def isSixtieth : List Char → Bool
  | [c] => c.isDigit
  | [c, d] => '0' ≤ c && c ≤ '5' && d.isDigit
  | _ => false

/-- The words for truth values. -/
def boolWords : List (String × Bool) := [
  ("yes", true), ("Yes", true), ("YES", true), ("no", false), ("No", false), ("NO", false),
  ("true", true), ("True", true), ("TRUE", true), ("false", false), ("False", false),
  ("FALSE", false), ("on", true), ("On", true), ("ON", true), ("off", false), ("Off", false),
  ("OFF", false)
]

/-- The words for nothing. -/
def nullWords : List String := ["", "~", "null", "Null", "NULL"]

/-- Whether the characters spell a whole number. -/
def isInt (cs : List Char) : Bool :=
  match unsigned cs with
  | '0' :: 'b' :: ds => !ds.isEmpty && ds.all isBinaryDigit
  | '0' :: 'x' :: ds => !ds.isEmpty && ds.all isHexDigit
  | '0' :: ds => ds.all isOctalDigit
  | ds =>
    match pieces ':' ds with
    | [] => false
    | first :: more => isPositive first && more.all isSixtieth

/-- Whether the characters are a power of ten as floating-point numbers have it, or nothing. -/
def isPower : List Char → Bool
  | [] => true
  | e :: sign :: ds =>
    (e == 'e' || e == 'E') && (sign == '-' || sign == '+') && !ds.isEmpty && ds.all Char.isDigit
  | _ => false

/-- Whether the characters spell a floating-point number in decimal notation. -/
def isDecimal (cs : List Char) : Bool :=
  let point := fun (whole behind : List Char) =>
    isNatural whole && isPower (behind.dropWhile isDecimalDigit)
  (match cs with
    | '.' :: d :: behind => d.isDigit && isPower (behind.dropWhile isDecimalDigit)
    | _ => false) ||
  (match cutAt? ['.'] (unsigned cs) with
    | some (whole, behind) => point whole behind
    | none => false)

/-- Whether the characters spell a floating-point number to the base sixty. -/
def isSexagesimal (cs : List Char) : Bool :=
  match cutAt? ['.'] (unsigned cs) with
  | some (whole, behind) =>
    behind.all isDecimalDigit &&
      match pieces ':' whole with
      | first :: second :: more => isNatural first && (second :: more).all isSixtieth
      | _ => false
  | none => false

/-- The words for infinity. -/
def infinityWords : List String := [".inf", ".Inf", ".INF"]

/-- The words for what is no number. -/
def notNumberWords : List String := [".nan", ".NaN", ".NAN"]

/-- Whether the characters spell a floating-point number. -/
def isFloat (cs : List Char) : Bool :=
  isDecimal cs || isSexagesimal cs ||
    infinityWords.contains (String.ofList (unsigned cs)) ||
    notNumberWords.contains (String.ofList cs)

/-- One or two digits at the head, and the rest. -/
def shortNumber? : List Char → Option (List Char)
  | c :: d :: cs => if c.isDigit then (if d.isDigit then some cs else some (d :: cs)) else none
  | [c] => if c.isDigit then some [] else none
  | [] => none

/-- Two digits at the head, and the rest. -/
def twoDigits? : List Char → Option (List Char)
  | c :: d :: cs => if c.isDigit && d.isDigit then some cs else none
  | _ => none

/-- The rest behind a sign. -/
def behind? (mark : Char) : List Char → Option (List Char)
  | c :: cs => if c = mark then some cs else none
  | [] => none

/-- Whether the characters are a time zone with blanks before it, or nothing. -/
def isZone (cs : List Char) : Bool :=
  cs.isEmpty ||
    match cs.dropWhile fun c => c == ' ' || c == '\t' with
    | ['Z'] => true
    | sign :: rest =>
      (sign == '-' || sign == '+') &&
        match shortNumber? rest with
        | some [] => true
        | some (':' :: rest) => twoDigits? rest == some []
        | _ => false
    | [] => false

/-- Whether the characters are a time of day behind a date. -/
def isTime (cs : List Char) : Bool :=
  let time := match cs with
    | 'T' :: rest | 't' :: rest => some rest
    | c :: _ =>
      if c == ' ' || c == '\t' then some (cs.dropWhile fun c => c == ' ' || c == '\t') else none
    | [] => none
  let rest := do
    let rest ← behind? ':' (← shortNumber? (← time))
    let rest ← behind? ':' (← twoDigits? rest)
    twoDigits? rest
  match rest with
  | none => false
  | some ('.' :: rest) => isZone (rest.dropWhile Char.isDigit)
  | some rest => isZone rest

/-- Whether the characters spell a date, and whether they also tell the time. -/
def moment? (cs : List Char) : Option Bool := do
  let rest ← twoDigits? (← twoDigits? cs)
  let rest ← behind? '-' rest
  let plain := do twoDigits? (← behind? '-' (← twoDigits? rest))
  if plain == some [] then some false
  else
    let rest ← shortNumber? (← behind? '-' (← shortNumber? rest))
    if isTime rest then some true else none

/-- The kind of an untagged plain scalar. -/
def kindOf (cs : List Char) : Kind :=
  let text := String.ofList cs
  if (boolWords.lookup text).isSome then .bool
  else if isFloat cs then .float
  else if isInt cs then .int
  else if text == "<<" then .merge
  else if nullWords.contains text then .null
  else if (moment? cs).isSome then .moment
  else if text == "=" then .default
  else .text

/-! ## Values -/

/-- The number that digits to a base spell; low lines do not count. -/
def ofDigits (base : Nat) (cs : List Char) : Nat :=
  (cs.filter (· ≠ '_')).foldl (fun n c => n * base + (Json.hexValue? c).getD 0) 0

/-- The number that parts to the base sixty make. -/
def ofSixties (parts : List (List Char)) : Nat :=
  parts.foldl (fun n part => n * 60 + ofDigits 10 part) 0

/-- The whole number that the characters spell, if they do. -/
def int? (cs : List Char) : Option Int :=
  if !isInt cs then none
  else
    let size := match unsigned cs with
      | '0' :: 'b' :: ds => ofDigits 2 ds
      | '0' :: 'x' :: ds => ofDigits 16 ds
      | '0' :: ds => ofDigits 8 ds
      | ds => ofSixties (pieces ':' ds)
    some (if isNegative cs then -(size : Int) else size)

/-- The double nearest to a decimal without sign. -/
def decimalValue (cs : List Char) : Float :=
  let cs := cs.filter (· ≠ '_')
  let (whole, rest) := Json.spanDigits cs
  let (fraction, rest) := match rest with
    | '.' :: more => Json.spanDigits more
    | rest => ([], rest)
  let (power, _) := Json.exponentPart rest
  (Json.Numeral.toDecimal { negative := false, whole, fraction, power }).toFloat

/-- The sum of parts to the base sixty, the last one a decimal. -/
def sexagesimalValue (cs : List Char) : Float :=
  let parts := (pieces ':' cs).reverse.map decimalValue
  let start : Float × Float := (0.0, 1.0)
  (parts.foldl (fun (sum, base) x => (sum + x * base, base * 60.0)) start).1

/-- The floating-point number that the characters spell, if they do. -/
def float? (cs : List Char) : Option Float :=
  if !isFloat cs then none
  else
    let body := unsigned cs
    let size :=
      if infinityWords.contains (String.ofList body) then 1.0 / 0.0
      else if notNumberWords.contains (String.ofList body) then 0.0 / 0.0
      else if body.contains ':' then sexagesimalValue body
      else decimalValue body
    some (if isNegative cs then -size else size)

end Implicit

end Foldbook.Yaml
