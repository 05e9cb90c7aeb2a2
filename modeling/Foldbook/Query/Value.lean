import Foldbook.Query.Number
import Foldbook.Text.Base64
import Foldbook.Text.Utf8

/-!
# Values of the query language

Values, their total order, and their text.  The order puts null first, then false, true, numbers,
texts, arrays and objects; not-a-number comes before all other numbers.  Objects are compared by
their sorted names first and then by their values in that order.
-/

namespace Foldbook.Query

/-- A value. -/
inductive Value where
  | null
  | bool (b : Bool)
  | num (n : Number)
  | str (s : String)
  | arr (items : List Value)
  | obj (members : List (String × Value))
  deriving Inhabited, Repr

namespace Value

/-- The name of a value's kind. -/
def kind : Value → String
  | .null => "null"
  | .bool _ => "boolean"
  | .num _ => "number"
  | .str _ => "string"
  | .arr _ => "array"
  | .obj _ => "object"

/-- Everything but null and false counts as true. -/
def isTrue : Value → Bool
  | .null | .bool false => false
  | _ => true

/-- A whole number as a value. -/
def ofInt (n : Int) : Value := .num (.ofInt n)

/-- A double as a value. -/
def ofFloat (x : Float) : Value := .num (.ofFloat x)

mutual

/-- A JSON value; numbers keep the decimals they are written as. -/
def ofJson : Json → Value
  | .null => .null
  | .bool b => .bool b
  | .int n => .num (.ofDecimal { negative := n < 0, coefficient := n.natAbs })
  | .float x =>
    .num (if x.isNaN || x.isInf then .ofFloat x
      else { value := x, literal := some (Number.writtenDecimal x) })
  | .str s => .str s
  | .arr items => .arr (ofJsonItems items)
  | .obj members => .obj (ofJsonMembers members)

/-- Items as values. -/
def ofJsonItems : List Json → List Value
  | [] => []
  | v :: vs => ofJson v :: ofJsonItems vs

/-- Members as values. -/
def ofJsonMembers : List (String × Json) → List (String × Value)
  | [] => []
  | (k, v) :: ms => (k, ofJson v) :: ofJsonMembers ms

end

mutual

/-- The value as JSON. -/
def toJson : Value → Json
  | .null => .null
  | .bool b => .bool b
  | .num n => n.toJson
  | .str s => .str s
  | .arr items => .arr (toJsonItems items)
  | .obj members => .obj (toJsonMembers members)

/-- Items as JSON. -/
def toJsonItems : List Value → List Json
  | [] => []
  | v :: vs => toJson v :: toJsonItems vs

/-- Members as JSON. -/
def toJsonMembers : List (String × Value) → List (String × Json)
  | [] => []
  | (k, v) :: ms => (k, toJson v) :: toJsonMembers ms

end

/-! ## Members -/

/-- The value of a member. -/
def find? (name : String) : List (String × Value) → Option Value
  | [] => none
  | (k, v) :: rest => if k = name then some v else find? name rest

/-- Gives the name a value, in its place or at the end. -/
def insert (name : String) (value : Value) : List (String × Value) → List (String × Value)
  | [] => [(name, value)]
  | (k, v) :: rest => if k = name then (k, value) :: rest else (k, v) :: insert name value rest

/-- The members in the order of their names. -/
def sortMembers (members : List (String × Value)) : List (String × Value) :=
  members.mergeSort fun a b => decide (a.1 ≤ b.1)

/-- The items of an array, or the member values of an object. -/
def items? : Value → Option (List Value)
  | .arr items => some items
  | .obj members => some (members.map Prod.snd)
  | _ => none

/-! ## Order -/

/-- The place of a value's kind in the order. -/
def rank : Value → Nat
  | .null => 0
  | .bool false => 1
  | .bool true => 2
  | .num _ => 3
  | .str _ => 4
  | .arr _ => 5
  | .obj _ => 6

/-- The order of texts by their code points. -/
def compareTexts (a b : String) : Ordering :=
  if a < b then .lt else if a = b then .eq else .gt

/-- The order of lists by the order of their items. -/
def compareLists {α : Type} (cmp : α → α → Ordering) : List α → List α → Ordering
  | [], [] => .eq
  | [], _ :: _ => .lt
  | _ :: _, [] => .gt
  | a :: as, b :: bs => (cmp a b).then (compareLists cmp as bs)

/-- The order of values nested less than `fuel` deep. -/
def compareWith : Nat → Value → Value → Ordering
  | 0, _, _ => .eq
  | fuel + 1, a, b =>
    match a, b with
    | .num x, .num y =>
      if x.value.isNaN then .lt
      else if y.value.isNaN then .gt
      else x.compare y
    | .str s, .str t => compareTexts s t
    | .arr xs, .arr ys => compareLists (compareWith fuel) xs ys
    | .obj ms, .obj ns =>
      let ms := sortMembers ms
      let ns := sortMembers ns
      (compareLists compareTexts (ms.map Prod.fst) (ns.map Prod.fst)).then
        (compareLists (compareWith fuel) (ms.map Prod.snd) (ns.map Prod.snd))
    | a, b => Ord.compare a.rank b.rank

mutual

/-- How deep a value is nested, counting itself. -/
def depth : Value → Nat
  | .arr items => depthItems items + 1
  | .obj members => depthMembers members + 1
  | _ => 1

/-- The depth of the deepest item. -/
def depthItems : List Value → Nat
  | [] => 0
  | v :: vs => max (depth v) (depthItems vs)

/-- The depth of the deepest member. -/
def depthMembers : List (String × Value) → Nat
  | [] => 0
  | (_, v) :: ms => max (depth v) (depthMembers ms)

end

/-- The total order of values. -/
def compare (a b : Value) : Ordering := compareWith (a.depth + 1) a b

/-- Whether two values are equal. -/
def equal (a b : Value) : Bool := compare a b == .eq

/-! ## Text -/

/-- One character of a text between quotes. -/
def escapeChar (c : Char) : List Char :=
  if c.toNat = 127 then Json.unicodeEscape 127 else Json.escapeChar false c

/-- A text between quotes. -/
def textChars (s : String) : List Char :=
  '"' :: (s.toList.flatMap escapeChar ++ ['"'])

mutual

/-- The value as compact JSON text. -/
def chars : Value → List Char
  | .null => "null".toList
  | .bool true => "true".toList
  | .bool false => "false".toList
  | .num n => n.chars
  | .str s => textChars s
  | .arr [] => ['[', ']']
  | .arr (x :: xs) => '[' :: (chars x ++ itemsChars xs ++ [']'])
  | .obj [] => ['\x7b', '\x7d']
  | .obj ((k, v) :: ms) =>
    '\x7b' :: (textChars k ++ ':' :: (chars v ++ membersChars ms ++ ['\x7d']))

/-- The items behind the first one. -/
def itemsChars : List Value → List Char
  | [] => []
  | x :: xs => ',' :: (chars x ++ itemsChars xs)

/-- The members behind the first one. -/
def membersChars : List (String × Value) → List Char
  | [] => []
  | (k, v) :: ms => ',' :: (textChars k ++ ':' :: (chars v ++ membersChars ms))

end

/-- The value as compact JSON text. -/
def render (v : Value) : String := String.ofList (chars v)

/-- A text as it is, any other value as JSON text. -/
def inlineText : Value → String
  | .str s => s
  | v => render v

/-- Octets that an excerpt in a message may have. -/
def excerptWidth : Nat := 29

/-- The longest beginning of the characters that fits into the given number of octets. -/
def fitting (width : Nat) : List Char → List Char
  | [] => []
  | c :: cs => if c.utf8Size ≤ width then c :: fitting (width - c.utf8Size) cs else []

/-- The text of a value, cut short for a message. -/
def excerpt (v : Value) : String :=
  let text := render v
  if text.utf8ByteSize ≤ excerptWidth then text
  else String.ofList (fitting (excerptWidth - 3) text.toList) ++ "..."

end Value

end Foldbook.Query
