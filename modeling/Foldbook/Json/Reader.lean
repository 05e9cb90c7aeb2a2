import Foldbook.Decimal.Basic
import Foldbook.Json.Basic

/-!
# Reading JSON

A strict reader.  Blanks are the four of the standard, numbers follow its grammar, strings may not
hold control characters, and the words `NaN`, `Infinity` and `-Infinity` are refused by name.

The reader works on the characters that are left, and a fault keeps the characters that were left
where it arose; `Fault.message` counts positions from there.  `fuel` bounds the depth of recursion;
`read` starts with more than the text can use.
-/

namespace Foldbook.Json

/-- Why a text is not JSON. -/
inductive Cause where
  | byteOrderMark
  | value
  | extraData
  | unterminatedString
  | controlCharacter
  | escape
  | unicodeEscape
  | colon
  | comma
  | propertyName
  /-- A word for a number that is none or is infinite. -/
  | constant (word : String)
  /-- A whole number with more than `digitLimit` digits. -/
  | tooManyDigits (count : Nat)
  /-- The reader's bound was too small; `read` never answers it. -/
  | outOfFuel
  deriving DecidableEq, Repr

/-- A cause, and the characters left where it arose. -/
structure Stuck where
  cause : Cause
  left : List Char
  deriving DecidableEq, Repr

/-- What a reader answers: a value and the characters behind it. -/
abbrev Read (α : Type) := Except Stuck (α × List Char)

/-- Stops for a cause. -/
def stuck {α : Type} (cause : Cause) (left : List Char) : Except Stuck α :=
  .error ⟨cause, left⟩

/-- Whole numbers with more digits than this are not read. -/
def digitLimit : Nat := 4300

/-- The four blanks of the standard. -/
def isSpace (c : Char) : Bool := c == ' ' || c == '\t' || c == '\n' || c == '\r'

/-- What follows the blanks at the head. -/
def skipSpace (cs : List Char) : List Char := cs.dropWhile isSpace

/-! ## Numbers -/

/-- The digits at the head, and the rest. -/
def spanDigits (cs : List Char) : List Char × List Char :=
  (cs.takeWhile Char.isDigit, cs.dropWhile Char.isDigit)

/-- A number as it stands in the text. -/
structure Numeral where
  negative : Bool
  whole : List Char
  fraction : List Char
  /-- Sign and digits of the power of ten. -/
  power : Option (Bool × List Char)
  deriving DecidableEq, Repr

/-- The digits behind a point, if there are any; otherwise the point is left. -/
def fractionPart (cs : List Char) : List Char × List Char :=
  match cs with
  | '.' :: rest =>
    match spanDigits rest with
    | ([], _) => ([], cs)
    | found => found
  | _ => ([], cs)

/-- Sign and digits of an exponent, if there are digits; otherwise its mark is left. -/
def exponentPart (cs : List Char) : Option (Bool × List Char) × List Char :=
  let digitsOf := fun (negative : Bool) (rest : List Char) =>
    match spanDigits rest with
    | ([], _) => (none, cs)
    | (ds, rest) => (some (negative, ds), rest)
  match cs with
  | c :: rest =>
    if c = 'e' || c = 'E' then
      match rest with
      | '-' :: rest => digitsOf true rest
      | '+' :: rest => digitsOf false rest
      | rest => digitsOf false rest
    else (none, cs)
  | [] => (none, cs)

/-- The numeral at the head: no leading zeros, and digits behind a point or an exponent mark. -/
def numeral? (cs : List Char) : Option (Numeral × List Char) :=
  let (negative, rest) := match cs with
    | '-' :: rest => (true, rest)
    | _ => (false, cs)
  let finish := fun (whole rest : List Char) =>
    let (fraction, rest) := fractionPart rest
    let (power, rest) := exponentPart rest
    some (⟨negative, whole, fraction, power⟩, rest)
  match rest with
  | '0' :: rest => finish ['0'] rest
  | c :: _ =>
    if c.isDigit then
      let (ds, rest) := spanDigits rest
      finish ds rest
    else none
  | [] => none

/-- The exact value of a numeral. -/
def Numeral.toDecimal (n : Numeral) : Decimal :=
  let power : Int := match n.power with
    | none => 0
    | some (true, ds) => -(Decimal.ofDigits ds : Int)
    | some (false, ds) => Decimal.ofDigits ds
  { negative := n.negative
    coefficient := Decimal.ofDigits (n.whole ++ n.fraction)
    exponent := power - n.fraction.length }

/-- Whether a numeral has neither fraction nor exponent. -/
def Numeral.isWhole (n : Numeral) : Bool := n.fraction.isEmpty && n.power.isNone

/-- The value of a numeral: a whole number, or the nearest double. -/
def Numeral.toJson (n : Numeral) : Json :=
  if n.isWhole then
    let size : Int := Decimal.ofDigits n.whole
    .int (if n.negative then -size else size)
  else .float n.toDecimal.toFloat

/-! ## Strings -/

/-- The value of a hexadecimal digit. -/
def hexValue? (c : Char) : Option Nat :=
  if '0' ≤ c && c ≤ '9' then some (c.toNat - 48)
  else if 'a' ≤ c && c ≤ 'f' then some (c.toNat - 97 + 10)
  else if 'A' ≤ c && c ≤ 'F' then some (c.toNat - 65 + 10)
  else none

/-- The value of four hexadecimal digits at the head, which something must follow. -/
def hexFour? : List Char → Option (Nat × List Char)
  | a :: b :: c :: d :: e :: rest => do
    let a ← hexValue? a
    let b ← hexValue? b
    let c ← hexValue? c
    let d ← hexValue? d
    some (((a * 16 + b) * 16 + c) * 16 + d, e :: rest)
  | _ => none

/-- Whether a code unit begins a pair. -/
def isHighSurrogate (n : Nat) : Bool := 0xD800 ≤ n && n ≤ 0xDBFF

/-- Whether a code unit ends a pair. -/
def isLowSurrogate (n : Nat) : Bool := 0xDC00 ≤ n && n ≤ 0xDFFF

/-- The character of a code unit; a surrogate without its partner becomes U+FFFD. -/
def unitChar (n : Nat) : Char :=
  if isHighSurrogate n || isLowSurrogate n then '\uFFFD' else Char.ofNat n

/-- What an escape stands for; the argument begins behind the backslash. -/
def readEscape (begin : List Char) : List Char → Read Char
  | [] => stuck .unterminatedString begin
  | 'u' :: rest =>
    match hexFour? rest with
    | none => stuck .unicodeEscape ('u' :: rest)
    | some (high, rest) =>
      match isHighSurrogate high, rest with
      | true, '\\' :: 'u' :: more =>
        if more.length ≤ 4 then .ok (unitChar high, rest)
        else
          match hexFour? more with
          | none => stuck .unicodeEscape ('u' :: more)
          | some (low, behind) =>
            if isLowSurrogate low then
              .ok (Char.ofNat (0x10000 + (high - 0xD800) * 0x400 + (low - 0xDC00)), behind)
            else .ok (unitChar high, rest)
      | _, _ => .ok (unitChar high, rest)
  | c :: rest =>
    match c with
    | '"' => .ok ('"', rest)
    | '\\' => .ok ('\\', rest)
    | '/' => .ok ('/', rest)
    | 'b' => .ok ('\x08', rest)
    | 'f' => .ok ('\x0c', rest)
    | 'n' => .ok ('\n', rest)
    | 'r' => .ok ('\r', rest)
    | 't' => .ok ('\t', rest)
    | _ => stuck .escape ('\\' :: c :: rest)

/-- Reads up to the closing quote.  `begin` is the text from the opening quote on, and `found`
holds the characters read so far, last first. -/
def readChars (begin : List Char) : Nat → List Char → List Char → Read String
  | 0, _, left => stuck .outOfFuel left
  | _ + 1, _, [] => stuck .unterminatedString begin
  | fuel + 1, found, c :: rest =>
    if c = '"' then .ok (String.ofList found.reverse, rest)
    else if c = '\\' then
      match readEscape begin rest with
      | .ok (d, rest) => readChars begin fuel (d :: found) rest
      | .error e => .error e
    else if c.toNat < 32 then stuck .controlCharacter (c :: rest)
    else readChars begin fuel (c :: found) rest

/-- The string whose opening quote has been read. -/
def readString (rest : List Char) : Read String :=
  readChars ('"' :: rest) (rest.length + 1) [] rest

/-! ## Values -/

/-- The rest behind a word, if the text begins with it. -/
def word? (word : String) (cs : List Char) : Option (List Char) :=
  let w := word.toList
  if w.isPrefixOf cs then some (cs.drop w.length) else none

/-- The words that stand for a value or are refused. -/
def words : List (String × Except Cause Json) := [
  ("null", .ok .null), ("true", .ok (.bool true)), ("false", .ok (.bool false)),
  ("NaN", .error (.constant "NaN")), ("Infinity", .error (.constant "Infinity")),
  ("-Infinity", .error (.constant "-Infinity"))
]

/-- What the word at the head stands for. -/
def findWord (cs : List Char) : Option (Except Cause Json × List Char) :=
  words.findSome? fun (w, v) => (word? w cs).map fun rest => (v, rest)

/-- A word or a number at the head. -/
def readAtom (cs : List Char) : Read Json :=
  match findWord cs with
  | some (.ok v, rest) => .ok (v, rest)
  | some (.error cause, rest) => stuck cause rest
  | none =>
    match numeral? cs with
    | none => stuck .value cs
    | some (n, rest) =>
      if n.isWhole && n.whole.length > digitLimit then stuck (.tooManyDigits n.whole.length) rest
      else .ok (n.toJson, rest)

mutual

/-- The value at the head. -/
def readValue : Nat → List Char → Read Json
  | 0, cs => stuck .outOfFuel cs
  | fuel + 1, cs =>
    match cs with
    | '"' :: rest =>
      match readString rest with
      | .ok (s, rest) => .ok (.str s, rest)
      | .error e => .error e
    | '[' :: rest =>
      match skipSpace rest with
      | ']' :: rest => .ok (.arr [], rest)
      | rest =>
        match readItems fuel [] rest with
        | .ok (items, rest) => .ok (.arr items, rest)
        | .error e => .error e
    | '\x7b' :: rest =>
      match skipSpace rest with
      | '\x7d' :: rest => .ok (.obj [], rest)
      | rest =>
        match readMembers fuel [] rest with
        | .ok (members, rest) => .ok (.obj (ofMembers members), rest)
        | .error e => .error e
    | cs => readAtom cs

/-- The items up to the closing bracket; `found` holds those before, last first. -/
def readItems : Nat → List Json → List Char → Read (List Json)
  | 0, _, cs => stuck .outOfFuel cs
  | fuel + 1, found, cs =>
    match readValue fuel cs with
    | .error e => .error e
    | .ok (v, rest) =>
      match skipSpace rest with
      | ']' :: rest => .ok ((v :: found).reverse, rest)
      | ',' :: rest => readItems fuel (v :: found) (skipSpace rest)
      | rest => stuck .comma rest

/-- The members up to the closing brace; `found` holds those before, last first. -/
def readMembers : Nat → List (String × Json) → List Char → Read (List (String × Json))
  | 0, _, cs => stuck .outOfFuel cs
  | fuel + 1, found, cs =>
    match cs with
    | '"' :: rest =>
      match readString rest with
      | .error e => .error e
      | .ok (name, rest) =>
        match skipSpace rest with
        | ':' :: rest =>
          match readValue fuel (skipSpace rest) with
          | .error e => .error e
          | .ok (v, rest) =>
            match skipSpace rest with
            | '\x7d' :: rest => .ok (((name, v) :: found).reverse, rest)
            | ',' :: rest => readMembers fuel ((name, v) :: found) (skipSpace rest)
            | rest => stuck .comma rest
        | rest => stuck .colon rest
    | cs => stuck .propertyName cs

end

/-- The value that makes up the whole text. -/
def readChars? (cs : List Char) : Except Stuck Json :=
  match cs with
  | '\uFEFF' :: _ => stuck .byteOrderMark cs
  | _ =>
    match readValue (2 * cs.length + 2) (skipSpace cs) with
    | .error e => .error e
    | .ok (v, rest) =>
      match skipSpace rest with
      | [] => .ok v
      | rest => stuck .extraData rest

/-! ## Faults -/

/-- A cause and where it arose: characters before it, its line, and its column. -/
structure Fault where
  cause : Cause
  position : Nat
  line : Nat
  column : Nat
  deriving DecidableEq, Repr

/-- Places a fault in the text it arose in. -/
def Stuck.locate (text : List Char) (s : Stuck) : Fault :=
  let before := text.take (text.length - s.left.length)
  { cause := s.cause
    position := before.length
    line := before.count '\n' + 1
    column := (before.reverse.takeWhile (· ≠ '\n')).length + 1 }

/-- The value a text denotes. -/
def read (text : String) : Except Fault Json :=
  (readChars? text.toList).mapError (Stuck.locate text.toList)

/-- The value a text denotes, if it is JSON. -/
def read? (text : String) : Option Json := (read text).toOption

/-- What a fault says, without its place. -/
def Cause.message : Cause → String
  | .byteOrderMark => "Unexpected UTF-8 BOM (decode using utf-8-sig)"
  | .value => "Expecting value"
  | .extraData => "Extra data"
  | .unterminatedString => "Unterminated string starting at"
  | .controlCharacter => "Invalid control character at"
  | .escape => "Invalid \\escape"
  | .unicodeEscape => "Invalid \\uXXXX escape"
  | .colon => "Expecting ':' delimiter"
  | .comma => "Expecting ',' delimiter"
  | .propertyName => "Expecting property name enclosed in double quotes"
  | .constant word => "invalid JSON constant " ++ word
  | .tooManyDigits count =>
    s!"Exceeds the limit ({digitLimit} digits) for integer string conversion: " ++
      s!"value has {count} digits; " ++
      "use sys.set_int_max_str_digits() to increase the limit"
  | .outOfFuel => "nested too deeply"

/-- Faults in a value itself are not located. -/
def Fault.message (f : Fault) : String :=
  match f.cause with
  | .constant _ | .tooManyDigits _ | .outOfFuel => f.cause.message
  | cause => s!"{cause.message}: line {f.line} column {f.column} (char {f.position})"

end Foldbook.Json
