import Foldbook.Json.Quoted
import Foldbook.Query.Number
import Foldbook.Yaml.Implicit
import Foldbook.Yaml.Node

/-!
# Values of a configuration text

The value that a node stands for.  The keys of a mapping need not be texts, and there are values
that JSON does not have, so values have a type of their own; `Datum.toJson` gives the JSON form.
-/

namespace Foldbook.Yaml

/-- A value of a configuration text. -/
inductive Datum where
  | null
  | bool (b : Bool)
  | int (n : Int)
  | float (x : Float)
  | str (s : String)
  /-- A date, which may tell the time. -/
  | moment (time : Bool)
  | octets
  | sequence (items : List Datum)
  /-- Entries with different keys, in the order of their first appearance. -/
  | mapping (entries : List (Datum × Datum))
  | set
  deriving Inhabited, Repr

namespace Datum

/-- What the standard tags begin with. -/
def standard : String := "tag:yaml.org,2002:"

/-- The name of a standard tag. -/
def standardName? (tag : String) : Option String :=
  (Text.dropPrefix? standard.toList tag.toList).map String.ofList

/-- The kind of a scalar by its tag, or by its text. -/
def scalarKind? (tag : Option String) (plain : Bool) (text : String) : Option Kind :=
  match tag with
  | none => some (if plain then Implicit.kindOf text.toList else .text)
  | some tag =>
    match standardName? tag with
    | some "null" => some .null
    | some "bool" => some .bool
    | some "int" => some .int
    | some "float" => some .float
    | some "timestamp" => some .moment
    | some "str" => some .text
    | some "merge" => some .merge
    | some "value" => some .default
    | _ => none

/-- Refuses a text. -/
def malformed {α : Type} : Except Fault α := .error .malformed

/-- Refuses what has no value. -/
def orMalformed {α : Type} : Option α → Except Fault α
  | some a => .ok a
  | none => malformed

/-- The value of a scalar. -/
def ofScalar (tag : Option String) (plain : Bool) (text : String) : Except Fault Datum :=
  let cs := text.toList
  match scalarKind? tag plain text with
  | some .null => .ok .null
  | some .bool =>
    orMalformed ((Implicit.boolWords.find? fun w =>
      w.1.map Char.toLower == text.map Char.toLower).map fun w => .bool w.2)
  | some .int => orMalformed ((Implicit.int? cs).map .int)
  | some .float =>
    orMalformed (((Implicit.float? cs).or ((Implicit.int? cs).map Float.ofInt)).map .float)
  | some .moment => orMalformed ((Implicit.moment? cs).map .moment)
  | some .text => .ok (.str text)
  | some .merge | some .default => malformed
  | none => if tag.bind standardName? == some "binary" then .ok .octets else malformed

/-- Numbers and truth values that count as the same key. -/
def number? : Datum → Option Float
  | .bool b => some (if b then 1.0 else 0.0)
  | .float x => some x
  | _ => none

/-- Whether two values are the same key.  Truth values count as the numbers one and zero. -/
def sameKey : Datum → Datum → Bool
  | .null, .null => true
  | .str s, .str t => s == t
  | .int m, .int n => m == n
  | .int m, y | y, .int m => (y.number?.bind Query.Number.toInt?) == some m
  | x, y =>
    match x.number?, y.number? with
    | some a, some b => a == b
    | _, _ => false

/-- Whether a value can be a key. -/
def isKey : Datum → Bool
  | .sequence _ | .mapping _ | .set => false
  | _ => true

/-- Gives a key a value: in its place if the key is there, at the end otherwise. -/
def insert (key value : Datum) : List (Datum × Datum) → List (Datum × Datum)
  | [] => [(key, value)]
  | (k, v) :: rest => if k.sameKey key then (k, value) :: rest else (k, v) :: insert key value rest

/-- Whether a node is the mark for merging. -/
def isMerge : Node → Bool
  | .scalar tag plain text => scalarKind? tag plain text == some .merge
  | _ => false

/-- A key that is the mark for a default is a text. -/
def plainKey : Node → Node
  | .scalar tag plain text =>
    if scalarKind? tag plain text == some .default then .scalar none false text
    else .scalar tag plain text
  | node => node

mutual

/-- The entries of a mapping with those of the mappings it merges in front of its own. -/
def flatten : Nat → List (Node × Node) → Except Fault (List (Node × Node))
  | 0, _ => malformed
  | fuel + 1, entries => do
    let merged ← entries.filterMapM fun (k, v) =>
      if isMerge k then do return some (← mergedEntries fuel v) else pure none
    let own := (entries.filter fun e => !isMerge e.1).map fun (k, v) => (plainKey k, v)
    return merged.flatten ++ own

/-- The entries of a mapping to be merged, or of several, the last of them first. -/
def mergedEntries : Nat → Node → Except Fault (List (Node × Node))
  | 0, _ => malformed
  | fuel + 1, node =>
    match node with
    | .mapping _ entries => flatten fuel entries
    | .sequence _ items => do
      let parts ← items.mapM fun item =>
        match item with
        | .mapping _ entries => flatten fuel entries
        | _ => malformed
      return parts.reverse.flatten
    | _ => malformed

end

/-- The value of a node nested less than `fuel` deep. -/
def ofNodeWith : Nat → Node → Except Fault Datum
  | 0, _ => malformed
  | fuel + 1, node =>
    match node with
    | .scalar tag plain text => ofScalar tag plain text
    | .sequence tag items =>
      match tag.map standardName? with
      | none | some (some "seq") => do return .sequence (← items.mapM (ofNodeWith fuel))
      | some (some "omap") | some (some "pairs") => do
        let pairs ← items.mapM fun item =>
          match item with
          | .mapping _ [(k, v)] => do
            return Datum.sequence [← ofNodeWith fuel k, ← ofNodeWith fuel v]
          | _ => malformed
        return .sequence pairs
      | _ => malformed
    | .mapping tag entries =>
      let build : Except Fault (List (Datum × Datum)) := do
        let entries ← flatten fuel entries
        entries.foldlM (fun known (k, v) => do
          let key ← ofNodeWith fuel k
          if !key.isKey then malformed
          return insert key (← ofNodeWith fuel v) known) []
      match tag.map standardName? with
      | none | some (some "map") => do return .mapping (← build)
      | some (some "set") => do
        let _ ← build
        return .set
      | _ => malformed

/-- The value of a text: nothing if it holds no document.  Nodes are nested less deep than the text
is long for every alias in it, and an alias only repeats a node read before. -/
def read (text : String) : Except Fault Datum := do
  match ← Node.ofText? text with
  | none => return .null
  | some node => ofNodeWith (text.length * text.length + 2) node

/-! ## As JSON -/

/-- The name of a value's kind. -/
def kindName : Datum → String
  | .null => "NoneType"
  | .bool _ => "bool"
  | .int _ => "int"
  | .float _ => "float"
  | .str _ => "str"
  | .moment false => "date"
  | .moment true => "datetime"
  | .octets => "bytes"
  | .sequence _ => "list"
  | .mapping _ => "dict"
  | .set => "set"

/-- A scalar as JSON. -/
def scalarJson? : Datum → Option Json
  | .null => some .null
  | .bool b => some (.bool b)
  | .int n => some (.int n)
  | .float x => some (.float x)
  | .str s => some (.str s)
  | _ => none

/-- The name that a key has in JSON. -/
def keyName (key : Datum) : Except Fault String :=
  match key with
  | .str s => .ok s
  | key =>
    match key.scalarJson? with
    | some v => .ok (Json.render Json.compact v)
    | none => .error (.noJsonName key.kindName)

mutual

/-- The value as JSON, if it has a JSON form. -/
def toJson : Datum → Except Fault Json
  | .null => .ok .null
  | .bool b => .ok (.bool b)
  | .int n => .ok (.int n)
  | .float x => .ok (.float x)
  | .str s => .ok (.str s)
  | .moment time => .error (.noJson (kindName (.moment time)))
  | .octets => .error (.noJson (kindName .octets))
  | .set => .error (.noJson (kindName .set))
  | .sequence items => do return .arr (← toJsonItems items)
  | .mapping entries => do return .obj (← toJsonEntries entries)

/-- Items as JSON. -/
def toJsonItems : List Datum → Except Fault (List Json)
  | [] => .ok []
  | d :: ds => do
    let v ← toJson d
    return v :: (← toJsonItems ds)

/-- Entries as members. -/
def toJsonEntries : List (Datum × Datum) → Except Fault (List (String × Json))
  | [] => .ok []
  | (k, v) :: rest => do
    let name ← keyName k
    let v ← toJson v
    return (name, v) :: (← toJsonEntries rest)

end

/-! ## From JSON -/

mutual

/-- A JSON value as a value of a configuration. -/
def ofJson : Json → Datum
  | .null => .null
  | .bool b => .bool b
  | .int n => .int n
  | .float x => .float x
  | .str s => .str s
  | .arr items => .sequence (ofJsonItems items)
  | .obj members => .mapping (ofJsonMembers members)

/-- Items as values. -/
def ofJsonItems : List Json → List Datum
  | [] => []
  | v :: vs => ofJson v :: ofJsonItems vs

/-- Members as entries. -/
def ofJsonMembers : List (String × Json) → List (Datum × Datum)
  | [] => []
  | (k, v) :: ms => (.str k, ofJson v) :: ofJsonMembers ms

end

/-! ## In messages -/

/-- How a message shows a value.  A date, octets or a set is shown by its kind. -/
def quoted (d : Datum) : String :=
  match d.toJson with
  | .ok v => v.quoted
  | .error _ => d.kindName

end Datum

end Foldbook.Yaml
