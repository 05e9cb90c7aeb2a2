import Foldbook.Json.Printer

/-!
# Values quoted in messages

How a message shows a value: strings between quotes, the words `None`, `True` and `False`, and
lists and objects in brackets with their parts shown the same way.
-/

namespace Foldbook.Json

/-- The form of a double in a message, where the infinities and not-a-number have short words. -/
def quotedFloat (x : Float) : String :=
  if x.isNaN then "nan"
  else if x.isInf then (if x < 0 then "-inf" else "inf")
  else String.ofList (floatChars x)

mutual

/-- The value as a message shows it. -/
def quoted : Json → String
  | .null => "None"
  | .bool true => "True"
  | .bool false => "False"
  | .int n => String.ofList (Decimal.intDigits n)
  | .float x => quotedFloat x
  | .str s => Text.Quoted.render s
  | .arr items => "[" ++ ", ".intercalate (quotedItems items) ++ "]"
  | .obj members => "\x7b" ++ ", ".intercalate (quotedMembers members) ++ "\x7d"

/-- The items as a message shows them. -/
def quotedItems : List Json → List String
  | [] => []
  | v :: vs => quoted v :: quotedItems vs

/-- The members as a message shows them. -/
def quotedMembers : List (String × Json) → List String
  | [] => []
  | (k, v) :: ms => (Text.Quoted.render k ++ ": " ++ quoted v) :: quotedMembers ms

end

end Foldbook.Json
