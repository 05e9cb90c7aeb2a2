import Foldbook.Query.Arithmetic

/-!
# Queries

The tree of a query.  A query takes a value to any number of values.  Names that may turn out to be
unknown keep where they stand in the text.
-/

namespace Foldbook.Query

/-- A stretch of the text, in octets. -/
structure Extent where
  start : Nat
  stop : Nat
  deriving DecidableEq, Repr, Inhabited

/-- A parameter of a definition: a query, or its values one by one. -/
structure Parameter where
  name : String
  byValue : Bool
  deriving DecidableEq, Repr

mutual

/-- A query. -/
inductive Expr where
  /-- The input itself. -/
  | here
  | literal (v : Value)
  /-- A text with holes, each followed by more text.  The values in the holes are formatted. -/
  | template (format : String) (start : String) (holes : List (Expr × String))
  | format (name : String)
  | variable (name : String) (place : Extent)
  | call (name : String) (arguments : List Expr) (place : Extent)
  /-- What stands at a key.  If lenient, a key that does not fit gives nothing. -/
  | index (target key : Expr) (lenient : Bool)
  | slice (target : Expr) (start finish : Option Expr) (lenient : Bool)
  /-- All items of an array, or all values of an object. -/
  | each (target : Expr) (lenient : Bool)
  /-- The body up to its first fault, and then what the handler makes of the fault. -/
  | attempt (body : Expr) (handler : Option Expr)
  | pipe (first second : Expr)
  | comma (first second : Expr)
  | negate (body : Expr)
  | binary (o : Operator) (left right : Expr)
  | and (left right : Expr)
  | or (left right : Expr)
  /-- The true values of the first; if there are none, the second. -/
  | alternative (first second : Expr)
  | assign (target value : Expr)
  | update (target change : Expr)
  | updateWith (o : Operator) (target value : Expr)
  | updateAlternative (target value : Expr)
  | array (body : Option Expr)
  | object (entries : List (Expr × Expr))
  | conditional (condition yes no : Expr)
  /-- The body with variables bound by the first of the patterns that fits without a fault. -/
  | bind (source : Expr) (patterns : List Pattern) (body : Expr)
  | reduce (source : Expr) (patterns : List Pattern) (start update : Expr)
  | foreach (source : Expr) (patterns : List Pattern) (start update extract : Expr)
  | define (name : String) (parameters : List Parameter) (body rest : Expr)
  | label (name : String) (body : Expr)
  | break (name : String) (place : Extent)

/-- How a value is taken apart. -/
inductive Pattern where
  | variable (name : String)
  | array (items : List Pattern)
  /-- Keys, each with a variable for its value, a pattern for it, or both. -/
  | object (entries : List (Expr × Option String × Option Pattern))

end

instance : Inhabited Expr := ⟨.here⟩

end Foldbook.Query
