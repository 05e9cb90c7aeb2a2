import Foldbook.Decimal.Basic

/-!
# The shortest decimal of a double

A finite double is `m * 2^q`, and the reals that round to it form an interval around it, whose ends
belong to it when `m` is even.  `shortest` answers the decimal with the fewest digits in that
interval, and of those the one nearest to the double.  Everything is exact arithmetic on naturals.
A `Layout` says how such a decimal is written.
-/

namespace Foldbook.Decimal

/-- A positive finite double as `mantissa * 2^exponent`. -/
structure Binary where
  mantissa : Nat
  exponent : Int
  deriving DecidableEq, Repr

/-- Takes the bits of a double apart, without its sign. -/
def Binary.ofFloat (x : Float) : Binary :=
  let bits := x.toBits.toNat % Nat.pow 2 63
  let field : Nat := bits / Nat.pow 2 52
  let fraction : Nat := bits % Nat.pow 2 52
  if field = 0 then ⟨fraction, -1074⟩ else ⟨Nat.pow 2 52 + fraction, (field : Int) - 1075⟩

/-- A nonnegative rational number. -/
structure Ratio where
  num : Nat
  den : Nat

/-- `n * 2^e` as a ratio. -/
def Ratio.scaledBin (n : Nat) (e : Int) : Ratio :=
  if e < 0 then ⟨n, Nat.pow 2 e.natAbs⟩ else ⟨n * Nat.pow 2 e.natAbs, 1⟩

/-- `n * 10^e` as a ratio. -/
def Ratio.scaledDec (n : Nat) (e : Int) : Ratio :=
  if e < 0 then ⟨n, Nat.pow 10 e.natAbs⟩ else ⟨n * Nat.pow 10 e.natAbs, 1⟩

/-- Comparison of fractions without dividing. -/
def Ratio.le (a b : Ratio) : Bool := a.num * b.den ≤ b.num * a.den

/-- Strict comparison of fractions without dividing. -/
def Ratio.lt (a b : Ratio) : Bool := a.num * b.den < b.num * a.den

/-- The largest integer not above `a / b`. -/
def Ratio.floorDiv (a b : Ratio) : Nat := (a.num * b.den) / (a.den * b.num)

/-- A quarter of the unit in the last place below and above the double, in units of
`2^(exponent - 2)`: the lower half-interval is shorter at a power of two. -/
def Binary.bounds (b : Binary) : Nat × Nat :=
  let lower := if b.mantissa = Nat.pow 2 52 && b.exponent > -1074 then 1 else 2
  (4 * b.mantissa - lower, 4 * b.mantissa + 2)

/-- Whether the decimal `n * 10^e` rounds to the double. -/
def Binary.covers (b : Binary) (n : Nat) (e : Int) : Bool :=
  let (low, high) := b.bounds
  let low := Ratio.scaledBin low (b.exponent - 2)
  let high := Ratio.scaledBin high (b.exponent - 2)
  let point := Ratio.scaledDec n e
  if b.mantissa % 2 = 0 then low.le point && point.le high
  else low.lt point && point.lt high

/-- The power of ten of the first digit of the double. -/
def Binary.magnitude (b : Binary) : Int :=
  let value := Ratio.scaledBin b.mantissa b.exponent
  let guess := (((Nat.log2 b.mantissa : Int) + b.exponent) * 30103).fdiv 100000
  let fits := fun (k : Int) =>
    (Ratio.scaledDec 1 k).le value && value.lt (Ratio.scaledDec 1 (k + 1))
  (([guess, guess + 1, guess - 1].find? fits).getD guess)

/-- The better of two neighbours on the decimal grid of step `10^e`: the one that rounds to the
double, and of two such the nearer, a tie going to the even one. -/
def Binary.onGrid? (b : Binary) (e : Int) : Option Nat :=
  let value := Ratio.scaledBin b.mantissa b.exponent
  let below := value.floorDiv (Ratio.scaledDec 1 e)
  match b.covers below e, b.covers (below + 1) e with
  | false, false => none
  | true, false => some below
  | false, true => some (below + 1)
  | true, true =>
    let middle := Ratio.scaledDec (2 * below + 1) e
    let twice : Ratio := ⟨2 * value.num, value.den⟩
    if twice.lt middle then some below
    else if middle.lt twice then some (below + 1)
    else some (if below % 2 = 0 then below else below + 1)

/-- Removes the zeros at the end of a coefficient, at most `fuel` of them. -/
def stripZeros : Nat → Nat → Int → Nat × Int
  | 0, n, e => (n, e)
  | fuel + 1, n, e => if n ≠ 0 && n % 10 = 0 then stripZeros fuel (n / 10) (e + 1) else (n, e)

/-- The shortest decimal of a positive finite double. -/
def Binary.shortest (b : Binary) : Decimal :=
  let top := b.magnitude
  let grid := (List.range 17).findSome? fun (n : Nat) =>
    (b.onGrid? (top - n)).map fun c => (c, top - (n : Int))
  let (c, e) := grid.getD (0, 0)
  let (c, e) := stripZeros 20 c e
  { coefficient := c, exponent := e }

/-- The shortest decimal that rounds to a finite double; zero keeps its sign. -/
def shortest (x : Float) : Decimal :=
  let b := Binary.ofFloat x
  let d : Decimal := if b.mantissa = 0 then { coefficient := 0 } else b.shortest
  { d with negative := x.toBits.toNat ≥ Nat.pow 2 63 }

/-! ## Writing -/

/-- How a decimal is written. -/
structure Layout where
  /-- Magnitudes below this one are written with an exponent. -/
  least : Int
  /-- Magnitudes above this one, given the number of digits, are written with an exponent. -/
  greatest : Nat → Int
  /-- Whether a whole number in positional notation ends in `.0`. -/
  pointZero : Bool

/-- An exponent: mark, sign and at least two digits. -/
def exponentDigits (e : Int) : List Char :=
  let ds := digits e.natAbs
  'e' :: (if e < 0 then '-' else '+') :: (if ds.length < 2 then '0' :: ds else ds)

/-- A decimal whose coefficient does not end in zero, or is zero, as the layout has it. -/
def render (layout : Layout) (d : Decimal) : List Char :=
  let ds := digits d.coefficient
  let top := d.magnitude
  let body :=
    if d.coefficient ≠ 0 && (top < layout.least || top > layout.greatest ds.length) then
      match ds with
      | [] => []
      | [first] => first :: exponentDigits top
      | first :: more => first :: '.' :: (more ++ exponentDigits top)
    else if d.exponent ≥ 0 then
      ds ++ List.replicate d.exponent.toNat '0' ++ (if layout.pointZero then ['.', '0'] else [])
    else if top ≥ 0 then
      ds.take (top.toNat + 1) ++ '.' :: ds.drop (top.toNat + 1)
    else
      '0' :: '.' :: (List.replicate (-top - 1).toNat '0' ++ ds)
  if d.negative then '-' :: body else body

end Foldbook.Decimal
