import Foldbook.Query.Format
import Foldbook.Query.Place
import Foldbook.Query.ValueText

/-!
# Functions on values

The functions of the query language that take values to a value.  `Function.find?` looks one up by
its name and the number of its arguments.
-/

namespace Foldbook.Query.Function

open Value

/-! ## Sorting -/

/-- Items with their keys, in the order of the keys; equal keys keep their order. -/
def sortKeyed (keyed : List (Value × Value)) : List (Value × Value) :=
  keyed.mergeSort fun a b => a.1.compare b.1 != .gt

/-- Neighbours with equal keys. -/
def groupKeyed (keyed : List (Value × Value)) : List (List Value) :=
  ((sortKeyed keyed).splitBy fun a b => a.1.equal b.1).map (·.map Prod.snd)

/-- The first item with the least key. -/
def least (keyed : List (Value × Value)) : Value :=
  match keyed with
  | [] => .null
  | first :: rest =>
    (rest.foldl (fun best x => if x.1.compare best.1 == .lt then x else best) first).2

/-- The last item with the greatest key. -/
def greatest (keyed : List (Value × Value)) : Value :=
  match keyed with
  | [] => .null
  | first :: rest =>
    (rest.foldl (fun best x => if x.1.compare best.1 == .lt then best else x) first).2

/-- What is done with items and their keys. -/
inductive Keyed where
  | sort
  | group
  | unique
  | least
  | greatest

/-- The functions by keys: `sort_by` and its like. -/
def keyed? (name : String) : Option Keyed :=
  match name with
  | "sort_by" => some .sort
  | "group_by" => some .group
  | "unique_by" => some .unique
  | "min_by" => some .least
  | "max_by" => some .greatest
  | _ => none

/-- What a function of keyed items makes of them. -/
def Keyed.apply (k : Keyed) (keyed : List (Value × Value)) : Value :=
  match k with
  | .sort => .arr ((sortKeyed keyed).map Prod.snd)
  | .group => .arr ((groupKeyed keyed).map .arr)
  | .unique => .arr ((groupKeyed keyed).filterMap List.head?)
  | .least => Function.least keyed
  | .greatest => Function.greatest keyed

/-- What is wrong with items that are not in an array. -/
def Keyed.mismatch : Keyed → Mismatch
  | .sort | .group | .unique => .sortingByKeys
  | .least | .greatest => .extremum

/-- What a function of keyed items makes of a value with the given items and keys. -/
def Keyed.applyTo (k : Keyed) (whole : Value) (keyed : List (Value × Value)) :
    Except Fault Value :=
  match whole with
  | .arr _ => .ok (k.apply keyed)
  | whole => .error (.mismatch whole (.arr (keyed.map Prod.fst)) k.mismatch)

/-- A function by keys where every item is its own key. -/
def byItself (k : Keyed) (problem : Value → Fault) : Value → Except Fault Value
  | .arr items => .ok (k.apply (items.map fun x => (x, x)))
  | v => .error (problem v)

/-! ## Collections -/

/-- The size of a value: of a number its magnitude. -/
def length : Value → Except Fault Value
  | .null => .ok (ofInt 0)
  | .bool b => .error (.unfit (.bool b) .length)
  | .num n => .ok (.num (if n.value < 0.0 then n.negate else n))
  | .str s => .ok (ofInt s.length)
  | .arr items => .ok (ofInt items.length)
  | .obj members => .ok (ofInt members.length)

/-- The names or positions of a value. -/
def keys (ordered : Bool) : Value → Except Fault Value
  | .arr items => .ok (.arr ((List.range items.length).map fun i => .num (.ofNat i)))
  | .obj members =>
    .ok (.arr (((if ordered then sortMembers members else members).map Prod.fst).map .str))
  | v => .error (.unfit v .keys)

/-- Whether one text occurs in another. -/
def occursIn (part whole : List Char) : Bool :=
  part.isEmpty || match whole with
    | [] => false
    | c :: cs => part.isPrefixOf (c :: cs) || occursIn part cs

/-- Whether the first value holds the second: a text a part of it, an array something that holds
each item, an object something at each name that holds the value there, any other value itself. -/
def holds : Nat → Value → Value → Bool
  | 0, _, _ => false
  | fuel + 1, a, b =>
    match a, b with
    | .obj ms, .obj ns => ns.all fun (k, v) => (Value.find? k ms).any fun u => holds fuel u v
    | .arr xs, .arr ys => ys.all fun y => xs.any fun x => holds fuel x y
    | .str s, .str t => occursIn t.toList s.toList
    | a, b => a.equal b

/-- Whether one value contains another. -/
def contains (a b : Value) : Except Fault Value :=
  if a.rank = b.rank then .ok (.bool (holds (b.depth + 1) a b))
  else .error (.mismatch a b .containment)

/-- The positions of a part. -/
def indices (v part : Value) : Except Fault Value :=
  match v, part with
  | .arr _, .arr _ => v.get part
  | .str s, .str t => .ok (.arr (occurrences (t.toList.map charValue) (s.toList.map charValue)))
  | v, part => v.get (.arr [part])
where
  /-- A character as a value, for comparing lists of them. -/
  charValue (c : Char) : Value := .str c.toString

/-! ## Texts -/

/-- A function that demands a text. -/
def onText (problem : Demand) (f : String → Value) : Value → Except Fault Value
  | .str s => .ok (f s)
  | _ => .error (.demand problem)

/-- A function that demands two texts. -/
def onTexts (problem : Demand) (f : String → String → Value) :
    Value → Value → Except Fault Value
  | .str s, .str t => .ok (f s t)
  | _, _ => .error (.demand problem)

/-- The ASCII blanks. -/
def isSpace (c : Char) : Bool := [' ', '\t', '\n', '\r', '\x0b', '\x0c'].contains c

/-- The characters without blanks in front. -/
def trimStart (cs : List Char) : List Char := cs.dropWhile isSpace

/-- The characters without blanks behind. -/
def trimEnd (cs : List Char) : List Char := (cs.reverse.dropWhile isSpace).reverse

/-- The text without another one at its beginning; everything else is left as it is. -/
def dropBeginning : Value → Value → Value
  | .str s, .str t =>
    if t.toList.isPrefixOf s.toList then .str (String.ofList (s.toList.drop t.length)) else .str s
  | v, _ => v

/-- The text without another one at its end; everything else is left as it is. -/
def dropEnding : Value → Value → Value
  | .str s, .str t =>
    if t.toList.isSuffixOf s.toList then .str (String.ofList (s.toList.take (s.length - t.length)))
    else .str s
  | v, _ => v

/-- The code points of a text. -/
def explode : Value → Except Fault Value
  | .str s => .ok (.arr (s.toList.map fun c => ofInt c.toNat))
  | _ => .error (.demand .explodedText)

/-- The character of a code point; U+FFFD for one that is no character. -/
def codePoint : Value → Except Fault Char
  | .num n =>
    if n.value.isNaN then .error (.demand .codePoint)
    else
      let i := Number.truncate n.value
      if i < 0 || i > 0x10FFFF || (0xD800 ≤ i && i ≤ 0xDFFF) then .ok '\uFFFD'
      else .ok (Char.ofNat i.toNat)
  | _ => .error (.demand .codePoint)

/-- The text of code points. -/
def implode : Value → Except Fault Value
  | .arr items => do return .str (String.ofList (← items.mapM codePoint))
  | _ => .error (.demand .codePoints)

/-- The number that a text spells. -/
def toNumber : Value → Except Fault Value
  | .num n => .ok (.num n)
  | .str s =>
    match ValueText.number? s.toList with
    | some n => .ok (.num n)
    | none => .error (.unfit (.str s) .parsedNumber)
  | v => .error (.unfit v .parsedNumber)

/-- The value that a text spells. -/
def fromJsonText : Value → Except Fault Value
  | .str s => ValueText.read s
  | v => .error (.unfit v .parsedText)

/-! ## Numbers -/

/-- A function that demands a number. -/
def onNumber (f : Float → Float) : Value → Except Fault Value
  | .num n => .ok (ofFloat (f n.value))
  | v => .error (.unfit v .number)

/-- A test that demands a number. -/
def testNumber (p : Float → Bool) : Value → Except Fault Value
  | .num n => .ok (.bool (p n.value))
  | v => .error (.unfit v .number)

/-- The whole part of a number. -/
def truncated (x : Float) : Float := if x < 0.0 then x.ceil else x.floor

/-- Functions of one number. -/
def numeric? (name : String) : Option (Float → Float) :=
  match name with
  | "floor" => some Float.floor
  | "ceil" => some Float.ceil
  | "round" => some Float.round
  | "trunc" => some truncated
  | "sqrt" => some Float.sqrt
  | "fabs" => some Float.abs
  | "exp" => some Float.exp
  | "exp2" => some Float.exp2
  | "exp10" => some fun x => Float.pow 10.0 x
  | "log" => some Float.log
  | "log2" => some Float.log2
  | "log10" => some Float.log10
  | "cbrt" => some Float.cbrt
  | "sin" => some Float.sin
  | "cos" => some Float.cos
  | "tan" => some Float.tan
  | "asin" => some Float.asin
  | "acos" => some Float.acos
  | "atan" => some Float.atan
  | _ => none

/-- One number to the power of another. -/
def power : Value → Value → Except Fault Value
  | .num a, .num b => .ok (ofFloat (Float.pow a.value b.value))
  | .num _, v => .error (.unfit v .number)
  | v, _ => .error (.unfit v .number)

/-- The magnitude of a number. -/
def absolute : Value → Except Fault Value
  | .num n => .ok (.num (if n.value < 0.0 then n.negate else n))
  | v => .error (.unfit v .absolute)

/-! ## Look-up -/

/-- A function without arguments. -/
def plain? (name : String) : Option (Value → Except Fault Value) :=
  match name with
  | "not" => some fun v => .ok (.bool !v.isTrue)
  | "length" => some length
  | "utf8bytelength" => some fun
    | .str s => .ok (ofInt s.utf8ByteSize)
    | v => .error (.unfit v .octets)
  | "keys" => some (keys true)
  | "keys_unsorted" => some (keys false)
  | "type" => some fun v => .ok (.str v.kind)
  | "sort" => some (byItself .sort fun v => .unfit v .sorting)
  | "unique" => some (byItself .unique fun v => .unfit v .sorting)
  | "min" => some (byItself .least fun v => .mismatch v v .extremum)
  | "max" => some (byItself .greatest fun v => .mismatch v v .extremum)
  | "tostring" => some fun v => .ok (.str v.inlineText)
  | "tojson" => some fun v => .ok (.str v.render)
  | "tonumber" => some toNumber
  | "fromjson" => some fromJsonText
  | "ascii_downcase" => some (onText .lowering fun s => .str (s.map Char.toLower))
  | "ascii_upcase" => some (onText .raising fun s => .str (s.map Char.toUpper))
  | "trim" => some (onText .trimming fun s => .str (String.ofList (trimEnd (trimStart s.toList))))
  | "ltrim" => some (onText .trimming fun s => .str (String.ofList (trimStart s.toList)))
  | "rtrim" => some (onText .trimming fun s => .str (String.ofList (trimEnd s.toList)))
  | "explode" => some explode
  | "implode" => some implode
  | "abs" => some absolute
  | "toarray" => some fun
    | .arr items => .ok (.arr items)
    | v => .ok (.arr [v])
  | "nan" => some fun _ => .ok (ofFloat (0.0 / 0.0))
  | "infinite" => some fun _ => .ok (ofFloat (1.0 / 0.0))
  | "isnan" => some (testNumber Float.isNaN)
  | "isinfinite" => some (testNumber Float.isInf)
  | "error" => some fun v => .error (.raised v)
  | name => (numeric? name).map onNumber

/-- A function with one argument. -/
def unary? (name : String) : Option (Value → Value → Except Fault Value) :=
  match name with
  | "has" => some fun v key => (v.has key).map .bool
  | "contains" => some contains
  | "indices" => some indices
  | "split" => some (onTexts .separator fun s t => .arr ((splitText s t).map .str))
  | "startswith" => some (onTexts .beginning fun s t => .bool (t.toList.isPrefixOf s.toList))
  | "endswith" => some (onTexts .ending fun s t => .bool (t.toList.isSuffixOf s.toList))
  | "ltrimstr" => some fun v part => .ok (dropBeginning v part)
  | "rtrimstr" => some fun v part => .ok (dropEnding v part)
  | "trimstr" => some fun v part => .ok (dropEnding (dropBeginning v part) part)
  | "format" => some fun v name =>
    match name with
    | .str name => (Format.apply name v).map .str
    | name => .error (.unknownFormat name.render)
  | "delpaths" => some fun v paths =>
    match paths with
    | .arr paths => v.removePaths paths
    | _ => .error (.demand .pathsArray)
  | "error" => some fun _ reason => .error (.raised reason)
  | _ => none

/-- A function with two arguments. -/
def binary? (name : String) : Option (Value → Value → Value → Except Fault Value) :=
  match name with
  | "setpath" => some fun v path value =>
    match path with
    | .arr keys => v.setPath keys value
    | _ => .error (.demand .pathArray)
  | "pow" => some fun _ => power
  | _ => none

/-- The function of the given name and number of arguments, from input and arguments to a value. -/
def find? (name : String) (arity : Nat) : Option (Value → List Value → Except Fault Value) :=
  match arity with
  | 0 => (plain? name).map fun f v _ => f v
  | 1 => (unary? name).map fun f v args => f v (args.headD .null)
  | 2 => (binary? name).map fun f v args => f v (args.headD .null) (args.tail.headD .null)
  | _ => none

end Foldbook.Query.Function
