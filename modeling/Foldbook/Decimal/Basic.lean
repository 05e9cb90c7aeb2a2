/-!
# Decimal numbers

A decimal number is a natural coefficient and a power of ten, with a sign.  This module holds the
type, its digits, the nearest double (`Decimal.toFloat`), and the exact comparison of two decimals.
-/

namespace Foldbook

/-- The number `(-1)^negative * coefficient * 10^exponent`. -/
structure Decimal where
  negative : Bool := false
  coefficient : Nat
  exponent : Int := 0
  deriving DecidableEq, Repr

namespace Decimal

/-- The value of an ASCII digit. -/
def digitValue (c : Char) : Nat := c.toNat - 48

/-- The number that a list of ASCII digits spells. -/
def ofDigits (ds : List Char) : Nat :=
  ds.foldl (fun n d => n * 10 + digitValue d) 0

/-- The digits of a number, without leading zeros. -/
def digits (n : Nat) : List Char := Nat.toDigits 10 n

/-- The digits of an integer, behind a minus sign if it is negative. -/
def intDigits : Int → List Char
  | .ofNat n => digits n
  | .negSucc n => '-' :: digits (n + 1)

/-- The power of ten of the first digit: the number lies in `[10^m, 10^(m+1))`. -/
def magnitude (d : Decimal) : Int :=
  (digits d.coefficient).length - 1 + d.exponent

/-- The nearest double, a tie going to the even neighbour.  Numbers far outside the range of
doubles are answered by their magnitude alone. -/
def toFloat (d : Decimal) : Float :=
  let size : Float :=
    if d.coefficient = 0 then 0.0
    else if d.magnitude > 310 then 1.0 / 0.0
    else if d.magnitude < -400 then 0.0
    else Float.ofScientific d.coefficient (d.exponent < 0) d.exponent.natAbs
  if d.negative then -size else size

/-- The sign as a factor. -/
def signum (d : Decimal) : Int :=
  if d.coefficient = 0 then 0 else if d.negative then -1 else 1

/-- The signed coefficient at the power of ten `e`, for `e ≤ d.exponent`. -/
def scaledTo (d : Decimal) (e : Int) : Int :=
  d.signum * (d.coefficient * Nat.pow 10 (d.exponent - e).toNat : Nat)

/-- The exact order.  Numbers of different sign or magnitude are told apart without aligning
their coefficients. -/
def compare (a b : Decimal) : Ordering :=
  if a.signum ≠ b.signum then Ord.compare a.signum b.signum
  else if a.signum = 0 then .eq
  else if a.magnitude ≠ b.magnitude then
    let order := Ord.compare a.magnitude b.magnitude
    if a.negative then order.swap else order
  else
    let e := min a.exponent b.exponent
    Ord.compare (a.scaledTo e) (b.scaledTo e)

/-- The number rounded to at most `count` digits, a half going away from zero. -/
def roundTo (count : Nat) (d : Decimal) : Decimal :=
  let surplus := (digits d.coefficient).length - count
  if surplus = 0 then d
  else
    let unit := Nat.pow 10 surplus
    { d with
      coefficient := (d.coefficient + unit / 2) / unit
      exponent := d.exponent + surplus }

end Decimal

end Foldbook
