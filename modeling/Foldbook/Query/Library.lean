import Foldbook.Query.Grammar

/-!
# Functions written in the query language

The functions that are best said in the language itself.  A definition may use all others.
-/

namespace Foldbook.Query

/-- The definitions, one a line. -/
def librarySource : List String := [
  "def values: select(. != null);",
  "def nulls: select(type == \"null\");",
  "def booleans: select(type == \"boolean\");",
  "def numbers: select(type == \"number\");",
  "def strings: select(type == \"string\");",
  "def arrays: select(type == \"array\");",
  "def objects: select(type == \"object\");",
  "def iterables: select(type == \"array\" or type == \"object\");",
  "def scalars: select(type != \"array\" and type != \"object\");",
  "def finites: select(isinfinite or isnan | not);",
  "def normals: select(isinfinite or isnan or . == 0 | not);",
  "def select(f): if f then . else empty end;",
  "def map(f): [.[] | f];",
  "def map_values(f): .[] |= f;",
  "def recurse(f): def go: ., (f | go); go;",
  "def recurse(f; more): def go: ., (f | select(more) | go); go;",
  "def recurse: recurse(.[]?);",
  "def walk(f): def go: if type == \"object\" then map_values(go)
    elif type == \"array\" then map(go) else . end | f; go;",
  "def env: $ENV;",
  "def add(f): reduce f as $x (null; . + $x);",
  "def add: add(.[]);",
  "def any(source; f): isempty(first(source | f or empty)) | not;",
  "def any(f): any(.[]; f);",
  "def any: any(.);",
  "def all(source; f): isempty(first(source | if f then empty else 1 end));",
  "def all(f): all(.[]; f);",
  "def all: all(.);",
  "def isempty(f): first((f | false), true);",
  "def first: .[0];",
  "def last: .[-1];",
  "def nth($n): .[$n];",
  "def nth($n; f): if $n < 0 then error(\"nth doesn't support negative indices\")
    else first(skip($n; f)) end;",
  "def until(done; f): def go: if done then . else f | go end; go;",
  "def while(more; f): def go: if more then ., (f | go) else empty end; go;",
  "def repeat(f): def go: ., (f | go); go;",
  "def in(whole): . as $key | whole | has($key);",
  "def inside(whole): . as $part | whole | contains($part);",
  "def index($part): indices($part) | .[0];",
  "def rindex($part): indices($part) | .[-1];",
  "def join($separator): reduce .[] as $x (null;
    (if . == null then \"\" else . + $separator end)
    + ($x | if . == null then \"\" elif type == \"boolean\" or type == \"number\" then tojson
      else . end)) // \"\";",
  "def ascii: [.] | implode;",
  "def reverse: if type == \"string\" then explode | reverse | implode
    else [.[length - 1 - range(0; length)]] end;",
  "def flatten($depth): def go($d): reduce .[] as $x ([];
      if ($x | type) == \"array\" and $d != 0 then . + ($x | go($d - 1)) else . + [$x] end);
    if $depth < 0 then error(\"flatten depth must not be negative\") else go($depth) end;",
  "def flatten: flatten(1e9);",
  "def paths: path(..) | select(length > 0);",
  "def paths(f): path(.. | select(f)) | select(length > 0);",
  "def leaf_paths: paths(scalars);",
  "def del(f): delpaths([path(f)]);",
  "def pick(f): . as $whole | reduce path(f) as $p (null; setpath($p; $whole | getpath($p)));",
  "def to_entries: [keys_unsorted[] as $k | \x7bkey: $k, value: .[$k]\x7d];",
  "def from_entries: reduce .[] as $x (\x7b\x7d; . + \x7b
      ($x | if .key == null then .k // .name // .Name // .K // .Key else .key end
        | if type == \"string\" then . else tojson end):
      ($x | if has(\"value\") then .value elif has(\"v\") then .v else .Value end)\x7d);",
  "def with_entries(f): to_entries | map(f) | from_entries;",
  "def combinations: if length == 0 then [] else .[0][] as $x | (.[1:] | combinations) as $rest
    | [$x] + $rest end;",
  "def combinations(n): . as $items | [range(n)] | map($items) | combinations;",
  "def transpose: if . == [] then [] else . as $rows | (map(length) | max) as $width
    | [range(0; $width) as $j | [range(0; $rows | length) as $i | $rows[$i][$j]]] end;",
  "def tostream: path(def go: (.[]? | go), .; go) as $p | getpath($p)
    | reduce path(.[]?) as $q ([$p, .]; [$p + $q]);",
  "def debug: .;",
  "def debug(f): (f | empty), .;",
  "def have_literal_numbers: true;",
  "def have_decnum: true;"
]

/-- The definitions as one text. -/
def libraryText : String := "\n".intercalate librarySource

/-- The functions written in the language itself. -/
def library : List Grammar.Definition :=
  let ls := Lexeme.ofText libraryText
  match Grammar.definitions libraryText (16 * (ls.length + 1)) ls with
  | .ok (defs, _) => defs
  | .error _ => []

/-- The definition of the given name and number of arguments. -/
def findInLibrary? (name : String) (arity : Nat) : Option Grammar.Definition :=
  library.find? fun d => d.name == name && d.parameters.length == arity

end Foldbook.Query
