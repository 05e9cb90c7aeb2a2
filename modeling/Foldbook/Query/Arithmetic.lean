import Foldbook.Query.Fault

/-!
# Arithmetic of the query language

The operators on two values.  Numbers are added, subtracted, multiplied, divided and reduced
modulo; texts and arrays are joined; objects are merged; a text is repeated or split.
-/

namespace Foldbook.Query

/-- The operators that compute a value from two. -/
inductive Operator where
  | add
  | subtract
  | multiply
  | divide
  | modulo
  | equal
  | notEqual
  | less
  | lessEqual
  | greater
  | greaterEqual
  deriving DecidableEq, Repr

namespace Value

/-- Members of both objects; the second one's values win, the first one's places. -/
def mergeMembers (a b : List (String × Value)) : List (String × Value) :=
  b.foldl (fun known (k, v) => insert k v known) a

/-- The sum of two values: of numbers, texts joined, arrays joined, objects united; null changes
nothing. -/
def add : Value → Value → Except Fault Value
  | .null, b => .ok b
  | a, .null => .ok a
  | .num x, .num y => .ok (ofFloat (x.value + y.value))
  | .str s, .str t => .ok (.str (s ++ t))
  | .arr xs, .arr ys => .ok (.arr (xs ++ ys))
  | .obj ms, .obj ns => .ok (.obj (mergeMembers ms ns))
  | a, b => .error (.mismatch a b .sum)

/-- The difference of numbers; of arrays, the items of the first that equal none of the second. -/
def subtract : Value → Value → Except Fault Value
  | .num x, .num y => .ok (ofFloat (x.value - y.value))
  | .arr xs, .arr ys => .ok (.arr (xs.filter fun x => !ys.any fun y => x.equal y))
  | a, b => .error (.mismatch a b .difference)

/-- Merges objects at every level at which both sides hold an object. -/
def mergeDeep : Nat → List (String × Value) → List (String × Value) → List (String × Value)
  | 0, ms, _ => ms
  | fuel + 1, ms, ns =>
    ns.foldl (fun known (k, v) =>
      match find? k known, v with
      | some (.obj inner), .obj added => insert k (.obj (mergeDeep fuel inner added)) known
      | _, _ => insert k v known) ms

/-- Texts have fewer octets than this. -/
def textLimit : Nat := 2147483647

/-- A text as often as the whole part of a number says; a negative number gives null. -/
def repeated (s : String) (n : Number) : Except Fault Value :=
  if n.value < 0 || n.value.isNaN then .ok .null
  else
    let count := (Number.truncate n.value).toNat
    if count * s.utf8ByteSize ≥ textLimit then .error (.demand .textTooLong)
    else .ok (.str (String.join (List.replicate count s)))

/-- The product of numbers, a text repeated, or two objects united at every depth. -/
def multiply : Value → Value → Except Fault Value
  | .num x, .num y => .ok (ofFloat (x.value * y.value))
  | .str s, .num n | .num n, .str s => repeated s n
  | .obj ms, .obj ns => .ok (.obj (mergeDeep (depthMembers ms + 1) ms ns))
  | a, b => .error (.mismatch a b .product)

/-- The pieces of a text between the separators; without a separator, its characters. -/
def splitText (s separator : String) : List String :=
  if s.isEmpty then []
  else if separator.isEmpty then s.toList.map Char.toString
  else s.splitOn separator

/-- The quotient of numbers, or a text split at another. -/
def divide : Value → Value → Except Fault Value
  | .num x, .num y =>
    if y.value == 0 then .error (.mismatch (.num x) (.num y) .zeroDivisor)
    else .ok (ofFloat (x.value / y.value))
  | .str s, .str t => .ok (.arr ((splitText s t).map .str))
  | a, b => .error (.mismatch a b .quotient)

/-- The remainder of the whole parts, with the sign of the first. -/
def modulo : Value → Value → Except Fault Value
  | .num x, .num y =>
    if x.value.isNaN || y.value.isNaN then .ok (ofFloat (0.0 / 0.0))
    else
      let divisor := Number.truncate y.value
      if divisor = 0 then .error (.mismatch (.num x) (.num y) .zeroModulus)
      else .ok (ofInt (Int.tmod (Number.truncate x.value) divisor))
  | a, b => .error (.mismatch a b .quotient)

/-- The number with its sign turned. -/
def negate : Value → Except Fault Value
  | .num n => .ok (.num n.negate)
  | v => .error (.unfit v .negation)

end Value

/-- The value of an operator. -/
def Operator.apply (o : Operator) (a b : Value) : Except Fault Value :=
  match o with
  | .add => a.add b
  | .subtract => a.subtract b
  | .multiply => a.multiply b
  | .divide => a.divide b
  | .modulo => a.modulo b
  | .equal => .ok (.bool (a.compare b == .eq))
  | .notEqual => .ok (.bool (a.compare b != .eq))
  | .less => .ok (.bool (a.compare b == .lt))
  | .lessEqual => .ok (.bool (a.compare b != .gt))
  | .greater => .ok (.bool (a.compare b == .gt))
  | .greaterEqual => .ok (.bool (a.compare b != .lt))

end Foldbook.Query
