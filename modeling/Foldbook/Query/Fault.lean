import Foldbook.Query.Value

/-!
# Faults of the query language

Why an evaluation stops.  A fault carries a value, which a handler sees: a text with the fault's
words, unless the query raised a value of its own.
-/

namespace Foldbook.Query

/-- What a single value does not admit. -/
inductive Unfit where
  | negation
  | keys
  | length
  | number
  | parsedNumber
  | parsedText
  | sorting
  | octets
  | base64
  | csvRow
  | csvCell
  | tsvRow
  | tsvCell
  | shell
  | absolute
  deriving DecidableEq, Repr

/-- What a message says behind the value. -/
def Unfit.words : Unfit → String
  | .negation => "cannot be negated"
  | .keys => "has no keys"
  | .length => "has no length"
  | .number => "number required"
  | .parsedNumber => "cannot be parsed as a number"
  | .parsedText => "only strings can be parsed"
  | .sorting => "cannot be sorted, as it is not an array"
  | .octets => "only strings have UTF-8 byte length"
  | .base64 => "is not valid base64 data"
  | .csvRow => "cannot be csv-formatted, only an array can be"
  | .csvCell => "is not valid in a csv row"
  | .tsvRow => "cannot be tsv-formatted, only an array can be"
  | .tsvCell => "is not valid in a tsv row"
  | .shell => "can not be escaped for shell"
  | .absolute => "has no absolute value"

/-- What two values do not admit together. -/
inductive Mismatch where
  | sum
  | difference
  | product
  | quotient
  | zeroDivisor
  | zeroModulus
  | containment
  | extremum
  | sortingByKeys
  deriving DecidableEq, Repr

/-- What a message says behind the two values. -/
def Mismatch.words : Mismatch → String
  | .sum => "cannot be added"
  | .difference => "cannot be subtracted"
  | .product => "cannot be multiplied"
  | .quotient => "cannot be divided"
  | .zeroDivisor => "cannot be divided because the divisor is zero"
  | .zeroModulus => "cannot be divided (remainder) because the divisor is zero"
  | .containment => "cannot have their containment checked"
  | .extremum => "cannot be iterated over"
  | .sortingByKeys => "cannot be sorted, as they are not both arrays"

/-- What an operation asks for, whatever it was given. -/
inductive Demand where
  | beginning
  | ending
  | separator
  | lowering
  | raising
  | trimming
  | explodedText
  | codePoints
  | codePoint
  | sliceBounds
  | textSliceBounds
  | sliceValue
  | rangeBounds
  | pathArray
  | pathsArray
  | negativePlace
  | placeTooLarge
  | numberPlace
  | depth
  | negativeCount (operation : String)
  | negativeIndex
  | textTooLong
  deriving DecidableEq, Repr

/-- The words of a demand. -/
def Demand.words : Demand → String
  | .beginning => "startswith() requires string inputs"
  | .ending => "endswith() requires string inputs"
  | .separator => "split input and separator must be strings"
  | .lowering => "ascii_downcase input must be a string"
  | .raising => "ascii_upcase input must be a string"
  | .trimming => "trim input must be a string"
  | .explodedText => "explode input must be a string"
  | .codePoints => "implode input must be an array"
  | .codePoint => "Unicode codepoint must be numeric"
  | .sliceBounds => "Start and end indices of an array slice must be numbers"
  | .textSliceBounds => "Start and end indices of an string slice must be numbers"
  | .sliceValue => "A slice of an array can only be assigned another array"
  | .rangeBounds => "Range bounds must be numeric"
  | .pathArray => "Path must be specified as an array"
  | .pathsArray => "Paths must be specified as an array"
  | .negativePlace => "Out of bounds negative array index"
  | .placeTooLarge => "Array index too large"
  | .numberPlace => "Cannot set array element at NaN index"
  | .depth => "flatten depth must not be negative"
  | .negativeCount operation => operation ++ " doesn't support negative count"
  | .negativeIndex => "nth doesn't support negative indices"
  | .textTooLong => "Repeat string result too long"

/-- Why an evaluation stops. -/
inductive Fault where
  | cannotIndex (target key : Value)
  | cannotIterate (v : Value)
  | cannotLookUp (target key : Value)
  | cannotUpdate (target key : Value)
  | cannotDelete (target key : Value)
  | notAKey (v : Value)
  | unfit (v : Value) (problem : Unfit)
  | mismatch (a b : Value) (problem : Mismatch)
  | demand (d : Demand)
  | unknownFormat (name : String)
  | noPath (v : Value)
  | noPathAt (key v : Value)
  | noPathThrough (v : Value)
  | unreadable (reason text : String)
  /-- A value that the query raised. -/
  | raised (v : Value)
  /-- The bound on nesting was reached.  No handler sees this. -/
  | outOfFuel
  deriving Inhabited, Repr

namespace Fault

/-- A value with its kind, as messages name it. -/
def described (v : Value) : String := v.kind ++ " (" ++ v.excerpt ++ ")"

/-- The words of a fault that is no raised value. -/
def words : Fault → String
  | .cannotIndex target key => "Cannot index " ++ target.kind ++ " with " ++ described key
  | .cannotIterate v => "Cannot iterate over " ++ described v
  | .cannotLookUp target key =>
    "Cannot check whether " ++ target.kind ++ " has a " ++ key.kind ++ " key"
  | .cannotUpdate target key =>
    "Cannot update field at " ++ key.kind ++ " index of " ++ target.kind
  | .cannotDelete target key =>
    match key with
    | .str _ => "Cannot delete field at object index of " ++ target.kind
    | .num _ => "Cannot delete field at array index of " ++ target.kind
    | _ => "Cannot delete fields from " ++ target.kind
  | .notAKey v => "Cannot use " ++ described v ++ " as object key"
  | .unfit v problem => described v ++ " " ++ problem.words
  | .mismatch a b problem => described a ++ " and " ++ described b ++ " " ++ problem.words
  | .demand d => d.words
  | .unknownFormat name => name ++ " is not a valid format"
  | .noPath v => "Invalid path expression with result " ++ v.excerpt
  | .noPathAt key v =>
    "Invalid path expression near attempt to access element " ++ key.excerpt ++ " of " ++ v.excerpt
  | .noPathThrough v =>
    "Invalid path expression near attempt to iterate through " ++ v.excerpt
  | .unreadable reason text => reason ++ " (while parsing '" ++ text ++ "')"
  | .raised v => v.inlineText
  | .outOfFuel => "query nested too deeply"

/-- What a handler sees. -/
def toValue : Fault → Value
  | .raised v => v
  | fault => .str fault.words

/-- The wording of an evaluation that stopped: a raised text as it is, any other raised value as
JSON text. -/
def message : Fault → String
  | .raised (.str s) => s
  | .raised v => Json.render Json.plain v.toJson
  | fault => fault.words

end Fault

end Foldbook.Query
