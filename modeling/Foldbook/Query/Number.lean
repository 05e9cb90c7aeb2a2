import Foldbook.Decimal.Shortest
import Foldbook.Json.Basic
import Foldbook.Json.Printer

/-!
# Numbers of the query language

A number is a double.  One that nothing has been computed with also keeps the decimal it was
written as, which decides its text and its order among such numbers.
-/

namespace Foldbook.Query

/-- A double, with the decimal it was written as. -/
structure Number where
  value : Float
  literal : Option Decimal := none
  deriving DecidableEq, Repr

namespace Number

/-- The result of a computation. -/
def ofFloat (x : Float) : Number := { value := x }

/-- A whole number, rounded to a double. -/
def ofInt (n : Int) : Number := ofFloat (Float.ofInt n)

/-- A count as a number. -/
def ofNat (n : Nat) : Number := ofInt n

/-- Digits of a decimal that count for its double. -/
def significantDigits : Nat := 17

/-- A number as it was written.  Its double is the nearest to its first seventeen digits. -/
def ofDecimal (d : Decimal) : Number :=
  { value := (d.roundTo significantDigits).toFloat, literal := some d }

/-- The greatest finite double. -/
def greatest : Float := Float.ofBits 0x7FEFFFFFFFFFFFFF

/-- Infinities become the greatest finite doubles. -/
def clamp (x : Float) : Float :=
  if x.isInf then (if x < 0 then -greatest else greatest) else x

/-- The exact value of a whole double. -/
def toInt? (x : Float) : Option Int :=
  if x.isNaN || x.isInf then none
  else
    let b := Decimal.Binary.ofFloat x
    let size : Option Nat :=
      if b.exponent ≥ 0 then some (b.mantissa * Nat.pow 2 b.exponent.natAbs)
      else if b.mantissa % Nat.pow 2 b.exponent.natAbs = 0 then
        some (b.mantissa / Nat.pow 2 b.exponent.natAbs)
      else none
    size.map fun n => if x < 0 then -(n : Int) else n

/-- A number as JSON: whole doubles as whole numbers, infinities clamped, not-a-number as null. -/
def toJson (n : Number) : Json :=
  if n.value.isNaN then .null
  else if n.value.isInf then .float (clamp n.value)
  else
    match toInt? n.value with
    | some i => .int i
    | none => .float n.value

/-- The decimal that the text of a finite double spells; a whole double has one zero behind the
point unless an exponent follows. -/
def writtenDecimal (x : Float) : Decimal :=
  let d := Decimal.shortest x
  if d.exponent ≥ 0 && d.magnitude < 16 then
    { d with coefficient := d.coefficient * Nat.pow 10 (d.exponent.toNat + 1), exponent := -1 }
  else d

/-- Doubles are positional from `1e-4` on, and up to fifteen places behind their digits. -/
def floatLayout : Decimal.Layout := ⟨-4, fun count => (count : Int) + 14, false⟩

/-- The text of a computed number. -/
def floatChars (x : Float) : List Char :=
  if x.isNaN then "null".toList
  else Decimal.render floatLayout (Decimal.shortest (clamp x))

/-- The text of a decimal: positional if it has no positive exponent and begins at most six places
behind the point, and otherwise with an exponent behind the first digit. -/
def literalChars (d : Decimal) : List Char :=
  let ds := Decimal.digits d.coefficient
  let top := d.magnitude
  let body :=
    if d.exponent ≤ 0 && top ≥ -6 then
      if d.exponent = 0 then ds
      else if top ≥ 0 then ds.take (top.toNat + 1) ++ '.' :: ds.drop (top.toNat + 1)
      else '0' :: '.' :: (List.replicate (-top - 1).toNat '0' ++ ds)
    else
      let shown := match ds with
        | first :: second :: more => first :: '.' :: second :: more
        | ds => ds
      shown ++ 'E' :: (if top < 0 then '-' else '+') :: Decimal.digits top.natAbs
  if d.negative then '-' :: body else body

/-- The text of a number. -/
def chars (n : Number) : List Char :=
  match n.literal with
  | some d => literalChars d
  | none => floatChars n.value

/-- The order of numbers: exact between two that are as they were written, that of doubles
otherwise.  Not-a-number does not get here. -/
def compare (a b : Number) : Ordering :=
  match a.literal, b.literal with
  | some x, some y => x.compare y
  | _, _ =>
    if a.value < b.value then .lt
    else if a.value == b.value then .eq
    else .gt

/-- The number with the other sign. -/
def negate (n : Number) : Number :=
  { value := -n.value, literal := n.literal.map fun d => { d with negative := !d.negative } }

/-- The whole part toward zero, as far as 64 bits reach. -/
def truncate (x : Float) : Int :=
  if x ≤ -9223372036854775808.0 then -9223372036854775808
  else if x ≥ 9223372036854775808.0 then 9223372036854775807
  else (toInt? (if x < 0 then x.ceil else x.floor)).getD 0

end Number

end Foldbook.Query
