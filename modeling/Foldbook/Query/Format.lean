import Foldbook.Query.Fault
import Foldbook.Json.Reader

/-!
# Formats

The texts that `@base64`, `@uri` and their like make of a value.
-/

namespace Foldbook.Query.Format

/-! ## Octets and texts -/

/-- How many octets a character takes by its leading octet; other octets stand alone. -/
def claimed (lead : UInt8) : Nat :=
  if lead < 0xC2 then 1
  else if lead < 0xE0 then 2
  else if lead < 0xF0 then 3
  else if lead < 0xF5 then 4
  else 1

/-- The character of octets that continue a leading octet as they should, if there is one: not
written with more octets than needed, and no surrogate. -/
def scalar? (lead : UInt8) (tails : List UInt8) : Option Char :=
  let n := Text.Utf8.scalar lead tails
  let least := match tails.length with
    | 1 => 0x80
    | 2 => 0x800
    | _ => 0x10000
  if n < least || n > 0x10FFFF || (0xD800 ≤ n && n ≤ 0xDFFF) then none else some (Char.ofNat n)

/-- The characters of octets.  What a leading octet claims is replaced as a whole if it is no
character, up to an octet that does not continue it. -/
def charsOf : Nat → List UInt8 → List Char
  | 0, _ | _, [] => []
  | fuel + 1, lead :: rest =>
    if lead < 0x80 then Char.ofNat lead.toNat :: charsOf fuel rest
    else
      let wanted := claimed lead - 1
      if wanted = 0 then '\uFFFD' :: charsOf fuel rest
      else if rest.length < wanted then ['\uFFFD']
      else
        let tails := (rest.take wanted).takeWhile Text.Utf8.isTail
        let c := if tails.length = wanted then (scalar? lead tails).getD '\uFFFD' else '\uFFFD'
        c :: charsOf fuel (rest.drop tails.length)

/-- The text of octets, where what is no text is replaced. -/
def textOf (octets : List UInt8) : String :=
  String.ofList (charsOf (octets.length + 1) octets)

/-- The octets of characters of the Base64 alphabet, in groups of four; the last group may be
short, but not a single character. -/
def base64Octets? : List Char → Option (List UInt8)
  | [] => some []
  | [_] => none
  | [p, q] => do
    let x ← Text.Base64.value? p
    let y ← Text.Base64.value? q
    some [UInt8.ofNat (x * 4 + y / 16)]
  | [p, q, r] => do
    let x ← Text.Base64.value? p
    let y ← Text.Base64.value? q
    let z ← Text.Base64.value? r
    some [UInt8.ofNat (x * 4 + y / 16), UInt8.ofNat (y % 16 * 16 + z / 4)]
  | p :: q :: r :: s :: rest => do
    let x ← Text.Base64.value? p
    let y ← Text.Base64.value? q
    let z ← Text.Base64.value? r
    let w ← Text.Base64.value? s
    let tail ← base64Octets? rest
    some (UInt8.ofNat (x * 4 + y / 16) :: UInt8.ofNat (y % 16 * 16 + z / 4) ::
      UInt8.ofNat (z % 4 * 64 + w) :: tail)

/-- Reads Base64 up to the first equals sign. -/
def fromBase64 (v : Value) : Except Fault String :=
  let text := v.inlineText
  match base64Octets? (text.toList.takeWhile (· ≠ '=')) with
  | some octets => .ok (textOf octets)
  | none => .error (.unfit (.str text) .base64)

/-! ## Escapes -/

/-- Octets that stand for themselves in a link. -/
def isPlainInLinks (c : Char) : Bool :=
  c.isAlphanum || c == '-' || c == '_' || c == '.' || c == '~'

/-- A character in a link: safe ones stay, others become octets in hexadecimal digits. -/
def linkChar (c : Char) : List Char :=
  if isPlainInLinks c then [c]
  else (String.singleton c).toUTF8.toList.flatMap fun b =>
    ['%', (Nat.digitChar (b.toNat / 16)).toUpper, (Nat.digitChar (b.toNat % 16)).toUpper]

/-- Percent-escapes of two hexadecimal digits are octets; all else stands for itself. -/
def linkOctets : List Char → List UInt8
  | [] => []
  | '%' :: a :: b :: rest =>
    match Json.hexValue? a, Json.hexValue? b with
    | some x, some y => UInt8.ofNat (x * 16 + y) :: linkOctets rest
    | _, _ => (37 : UInt8) :: linkOctets (a :: b :: rest)
  | c :: rest => (String.singleton c).toUTF8.toList ++ linkOctets rest

/-- A character in markup. -/
def markupChar : Char → List Char
  | '<' => "&lt;".toList
  | '>' => "&gt;".toList
  | '&' => "&amp;".toList
  | '\'' => "&#39;".toList
  | '"' => "&quot;".toList
  | c => [c]

/-- A text with every character escaped. -/
def escapeText (escape : Char → List Char) (s : String) : String :=
  String.ofList (s.toList.flatMap escape)

/-! ## Rows -/

/-- A field between commas: texts stand between quotes, which are doubled inside. -/
def commaCell : Value → Except Fault String
  | .null => .ok ""
  | .bool b => .ok (toString b)
  | .num n => .ok (if n.value.isNaN then "" else String.ofList n.chars)
  | .str s => .ok ("\"" ++ escapeText (fun c => if c = '"' then ['"', '"'] else [c]) s ++ "\"")
  | v => .error (.unfit v .csvCell)

/-- A field between tabulators: blanks that would end it are escaped. -/
def tabCell : Value → Except Fault String
  | .null => .ok ""
  | .bool b => .ok (toString b)
  | .num n => .ok (if n.value.isNaN then "" else String.ofList n.chars)
  | .str s =>
    let escape := fun (c : Char) => match c with
      | '\t' => ['\\', 't']
      | '\n' => ['\\', 'n']
      | '\r' => ['\\', 'r']
      | '\\' => ['\\', '\\']
      | c => [c]
    .ok (escapeText escape s)
  | v => .error (.unfit v .tsvCell)

/-- A word of a command line: texts stand between quotes. -/
def shellWord : Value → Except Fault String
  | .str s =>
    .ok ("'" ++ escapeText (fun c => if c = '\'' then "'\\''".toList else [c]) s ++ "'")
  | .arr items => .error (.unfit (.arr items) .shell)
  | .obj members => .error (.unfit (.obj members) .shell)
  | v => .ok v.render

/-- The cells of an array with a separator between them. -/
def row (problem : Unfit) (separator : String) (cell : Value → Except Fault String) :
    Value → Except Fault String
  | .arr items => do return separator.intercalate (← items.mapM cell)
  | v => .error (.unfit v problem)

/-! ## All formats -/

/-- The text of a value in the format of the given name. -/
def apply (name : String) (v : Value) : Except Fault String :=
  match name with
  | "text" => .ok v.inlineText
  | "json" => .ok v.render
  | "base64" => .ok (Text.Base64.ofText v.inlineText)
  | "base64d" => fromBase64 v
  | "uri" => .ok (escapeText linkChar v.inlineText)
  | "urid" => .ok (textOf (linkOctets v.inlineText.toList))
  | "html" => .ok (escapeText markupChar v.inlineText)
  | "csv" => row .csvRow "," commaCell v
  | "tsv" => row .tsvRow "\t" tabCell v
  | "sh" =>
    match v with
    | .arr items => row .shell " " shellWord (.arr items)
    | v => shellWord v
  | name => .error (.unknownFormat name)

end Foldbook.Query.Format
