/-!
# JSON values

Values as scripts see them.  Whole numbers keep all their digits and are apart from floating-point
numbers, so `1` and `1.0` differ.  An object is a list of members in the order of their first
appearance; `insert` keeps that order when a name is written again.
-/

namespace Foldbook

/-- A JSON value. -/
inductive Json where
  | null
  | bool (b : Bool)
  | int (n : Int)
  | float (x : Float)
  | str (s : String)
  | arr (items : List Json)
  | obj (members : List (String × Json))
  deriving Inhabited, Repr

namespace Json

/-- The value of the first member with the name. -/
def find? (name : String) : List (String × Json) → Option Json
  | [] => none
  | (k, v) :: rest => if k = name then some v else find? name rest

/-- Gives the name a value: in its place if the name is there, at the end otherwise. -/
def insert (name : String) (value : Json) : List (String × Json) → List (String × Json)
  | [] => [(name, value)]
  | (k, v) :: rest => if k = name then (k, value) :: rest else (k, v) :: insert name value rest

/-- Members as they were read, where a name that occurs again keeps its first place and takes its
last value. -/
def ofMembers (members : List (String × Json)) : List (String × Json) :=
  members.foldl (fun known (k, v) => insert k v known) []

mutual

/-- Equality of values.  Floating-point numbers are equal if their bits are. -/
def decEq : (a b : Json) → Decidable (a = b)
  | .null, .null => isTrue rfl
  | .bool a, .bool b => decidable_of_iff (a = b) (by simp)
  | .int a, .int b => decidable_of_iff (a = b) (by simp)
  | .float a, .float b => decidable_of_iff (a = b) (by simp)
  | .str a, .str b => decidable_of_iff (a = b) (by simp)
  | .arr a, .arr b =>
    match decEqItems a b with
    | isTrue h => isTrue (by rw [h])
    | isFalse h => isFalse (by simpa using h)
  | .obj a, .obj b =>
    match decEqMembers a b with
    | isTrue h => isTrue (by rw [h])
    | isFalse h => isFalse (by simpa using h)
  | .null, .bool _ | .null, .int _ | .null, .float _ | .null, .str _ | .null, .arr _
  | .null, .obj _ | .bool _, .null | .bool _, .int _ | .bool _, .float _ | .bool _, .str _
  | .bool _, .arr _ | .bool _, .obj _ | .int _, .null | .int _, .bool _ | .int _, .float _
  | .int _, .str _ | .int _, .arr _ | .int _, .obj _ | .float _, .null | .float _, .bool _
  | .float _, .int _ | .float _, .str _ | .float _, .arr _ | .float _, .obj _ | .str _, .null
  | .str _, .bool _ | .str _, .int _ | .str _, .float _ | .str _, .arr _ | .str _, .obj _
  | .arr _, .null | .arr _, .bool _ | .arr _, .int _ | .arr _, .float _ | .arr _, .str _
  | .arr _, .obj _ | .obj _, .null | .obj _, .bool _ | .obj _, .int _ | .obj _, .float _
  | .obj _, .str _ | .obj _, .arr _ => isFalse (by simp)

/-- Equality of lists of values. -/
def decEqItems : (a b : List Json) → Decidable (a = b)
  | [], [] => isTrue rfl
  | [], _ :: _ | _ :: _, [] => isFalse (by simp)
  | x :: xs, y :: ys =>
    match decEq x y, decEqItems xs ys with
    | isTrue h, isTrue hs => isTrue (by rw [h, hs])
    | isFalse h, _ => isFalse (by simp [h])
    | _, isFalse hs => isFalse (by simp [hs])

/-- Equality of lists of members. -/
def decEqMembers : (a b : List (String × Json)) → Decidable (a = b)
  | [], [] => isTrue rfl
  | [], _ :: _ | _ :: _, [] => isFalse (by simp)
  | (j, x) :: xs, (k, y) :: ys =>
    match (inferInstance : Decidable (j = k)), decEq x y, decEqMembers xs ys with
    | isTrue hk, isTrue h, isTrue hs => isTrue (by rw [hk, h, hs])
    | isFalse hk, _, _ => isFalse (by simp [hk])
    | _, isFalse h, _ => isFalse (by simp [h])
    | _, _, isFalse hs => isFalse (by simp [hs])

end

instance : DecidableEq Json := decEq

/-! ## Facts about members -/

@[simp] theorem find?_insert_self (name : String) (value : Json) (ms : List (String × Json)) :
    find? name (insert name value ms) = some value := by
  induction ms with
  | nil => simp [insert, find?]
  | cons m ms ih => by_cases h : m.1 = name <;> simp [insert, find?, h, ih]

theorem find?_insert_of_ne {name other : String} (h : other ≠ name) (value : Json)
    (ms : List (String × Json)) : find? other (insert name value ms) = find? other ms := by
  induction ms with
  | nil => simp [insert, find?, h.symm]
  | cons m ms ih =>
    by_cases hm : m.1 = name
    · simp [insert, find?, hm, h.symm]
    · simp [insert, find?, hm, ih]

/-- A name keeps its place; a new name comes last. -/
theorem map_fst_insert (name : String) (value : Json) (ms : List (String × Json)) :
    (insert name value ms).map Prod.fst =
      if name ∈ ms.map Prod.fst then ms.map Prod.fst else ms.map Prod.fst ++ [name] := by
  induction ms with
  | nil => simp [insert]
  | cons m ms ih =>
    by_cases hm : m.1 = name
    · simp [insert, hm]
    · have hm' : ¬name = m.1 := fun e => hm e.symm
      by_cases hin : name ∈ ms.map Prod.fst <;> simp_all [insert]

end Json

end Foldbook
