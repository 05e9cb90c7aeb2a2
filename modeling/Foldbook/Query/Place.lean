import Foldbook.Query.Arithmetic

/-!
# Places in a value

Looking up, writing and removing what stands at a key, and the same along a path of keys.  A key is
a name, a position, or an object with `start` and `end` that picks a stretch of an array or text.
Positions count from the end if they are negative, and fractions are cut off.
-/

namespace Foldbook.Query.Value

/-- The key of a stretch. -/
def sliceKey (start finish : Value) : Value := .obj [("start", start), ("end", finish)]

/-- The bound that a member of a stretch gives: absent and null stand for the default. -/
def bound? (name : String) (key : List (String × Value)) (default : Float) : Option Float :=
  match (find? name key).getD .null with
  | .null => some default
  | .num n => some n.value
  | _ => none

/-- A nonnegative double below `2^53` as a natural. -/
def natOf (x : Float) : Nat := ((Number.toInt? x).getD 0).toNat

/-- First position and end of a stretch of `length` items: the start is rounded down, the end up,
and both are kept within the items. -/
def stretch? (key : List (String × Value)) (length : Nat) : Option (Nat × Nat) := do
  let len := Float.ofNat length
  let start ← bound? "start" key 0.0
  let finish ← bound? "end" key len
  let fromEnd := fun (x : Float) => if x < 0.0 then x + len else x
  let start := fromEnd start
  let finish := fromEnd finish
  let start := if start.isNaN || start < 0.0 then 0.0 else if start > len then len else start
  let finish := if finish.isNaN || finish > len then len else finish
  let finish := if finish < start then start else finish
  some (natOf start.floor, natOf finish.ceil)

/-- The position that a number names in an array of the given length, if it is not before the
first. -/
def position? (n : Number) (length : Nat) : Option Nat :=
  let place := Number.truncate n.value
  let place := if place < 0 then place + length else place
  if place < 0 then none else some place.toNat

/-- The positions, counted from `i`, at which one list occurs in another. -/
def occurrencesFrom (part : List Value) (i : Nat) : List Value → List Value
  | [] => []
  | x :: xs =>
    let later := occurrencesFrom part (i + 1) xs
    if part.length ≤ xs.length + 1 && (part.zip (x :: xs)).all fun (p, y) => p.equal y
    then ofInt i :: later else later

/-- The positions at which one list occurs in another; an empty one occurs nowhere. -/
def occurrences (part whole : List Value) : List Value :=
  if part.isEmpty then [] else occurrencesFrom part 0 whole

/-- What stands at a key; nothing there is null. -/
def get (target key : Value) : Except Fault Value :=
  match target, key with
  | .obj ms, .str name => .ok ((find? name ms).getD .null)
  | .arr items, .num n =>
    if n.value.isNaN then .ok .null
    else .ok (((position? n items.length).bind fun i => items[i]?).getD .null)
  | .arr items, .obj k =>
    match stretch? k items.length with
    | some (i, j) => .ok (.arr ((items.take j).drop i))
    | none => .error (.demand .sliceBounds)
  | .str s, .obj k =>
    let cs := s.toList
    match stretch? k cs.length with
    | some (i, j) => .ok (.str (String.ofList ((cs.take j).drop i)))
    | none => .error (.demand .textSliceBounds)
  | .arr items, .arr part => .ok (.arr (occurrences part items))
  | .null, .str _ | .null, .num _ | .null, .obj _ => .ok .null
  | target, key => .error (.cannotIndex target key)

/-- Whether the value has the key. -/
def has (target key : Value) : Except Fault Bool :=
  match target, key with
  | .obj ms, .str name => .ok (find? name ms).isSome
  | .arr items, .num n =>
    let place := Number.truncate n.value
    .ok (!n.value.isNaN && 0 ≤ place && place < items.length)
  | target, key => .error (.cannotLookUp target key)

/-- Arrays are not extended beyond this position. -/
def placeLimit : Nat := 536870911

/-- The list with a value at a position, filled up with null. -/
def setItem (i : Nat) (value : Value) (items : List Value) : List Value :=
  if i < items.length then items.set i value
  else items ++ List.replicate (i - items.length) .null ++ [value]

/-- The value with something written at a key. -/
def set (target key value : Value) : Except Fault Value :=
  let items? : Option (List Value) := match target with
    | .null => some []
    | .arr items => some items
    | _ => none
  match key, items? with
  | .str name, some [] =>
    match target with
    | .null => .ok (.obj [(name, value)])
    | _ => .error (.cannotIndex target key)
  | .str name, _ =>
    match target with
    | .obj ms => .ok (.obj (insert name value ms))
    | _ => .error (.cannotIndex target key)
  | .num n, some items =>
    if n.value.isNaN then .error (.demand .numberPlace)
    else
      match position? n items.length with
      | none => .error (.demand .negativePlace)
      | some i =>
        if i > placeLimit then .error (.demand .placeTooLarge)
        else .ok (.arr (setItem i value items))
  | .obj k, some items =>
    match value with
    | .arr inserted =>
      match stretch? k items.length with
      | some (i, j) => .ok (.arr (items.take i ++ inserted ++ items.drop j))
      | none => .error (.demand .sliceBounds)
    | _ => .error (.demand .sliceValue)
  | .obj k, none => .error (.cannotUpdate target (.obj k))
  | .arr keys, _ => .error (.cannotUpdate target (.arr keys))
  | key, _ => .error (.cannotIndex target key)

/-- Whether a key picks the position of an array of the given length. -/
def picks (length : Nat) (i : Nat) (key : Value) : Except Fault Bool :=
  match key with
  | .num n => .ok (position? n length == some i)
  | .obj k =>
    match stretch? k length with
    | some (start, finish) => .ok (start ≤ i && i < finish)
    | none => .error (.demand .sliceBounds)
  | key => .error (.cannotDelete (.arr []) key)

/-- The value without what stands at any of the keys. -/
def remove (target : Value) (keys : List Value) : Except Fault Value :=
  match target, keys with
  | target, [] => .ok target
  | .null, _ => .ok .null
  | .obj ms, keys => do
    let names ← keys.mapM fun key =>
      match key with
      | .str name => .ok name
      | key => .error (.cannotDelete target key)
    return .obj (ms.filter fun m => !names.contains m.1)
  | .arr items, keys => do
    let kept ← items.zipIdx.filterM fun (_, i) => do
      return !(← keys.anyM (picks items.length i))
    return .arr (kept.map Prod.fst)
  | target, key :: _ => .error (.cannotDelete target key)

/-- What stands at the end of a path; below null everything is null. -/
def getPath (v : Value) : List Value → Except Fault Value
  | [] => .ok v
  | key :: path =>
    match v with
    | .null => .ok .null
    | v => do getPath (← v.get key) path

/-- The value with something written at the end of a path. -/
def setPath (v : Value) (path : List Value) (value : Value) : Except Fault Value :=
  match path with
  | [] => .ok value
  | key :: path => do
    let inner ← v.get key
    v.set key (← setPath inner path value)

/-- The value without what stands at the ends of the paths, which are sorted and not empty.  `fuel`
bounds their length. -/
def removeSorted : Nat → Value → List (List Value) → Except Fault Value
  | 0, v, _ => .ok v
  | fuel + 1, v, paths => do
    let groups := paths.splitBy fun p q =>
      match p, q with
      | k :: _, l :: _ => k.equal l
      | _, _ => false
    let (v, removed) ← groups.foldlM (fun (v, removed) group =>
      match group with
      | [key] :: _ => .ok (v, key :: removed)
      | (key :: _) :: _ => do
        match ← get v key with
        | .null => return (v, removed)
        | inner =>
          let inner ← removeSorted fuel inner (group.map List.tail)
          return (← set v key inner, removed)
      | _ => .ok (v, removed)) (v, ([] : List Value))
    remove v removed

/-- The value without what stands at the ends of all paths; the empty path removes all. -/
def removePaths (v : Value) (paths : List Value) : Except Fault Value := do
  let ordered := paths.mergeSort fun a b => a.compare b != .gt
  let ordered ← ordered.mapM fun path =>
    match path with
    | .arr keys => .ok keys
    | _ => .error (.demand .pathArray)
  match ordered with
  | [] :: _ => return .null
  | ordered =>
    let longest := ordered.foldl (fun n keys => max n keys.length) 0
    removeSorted longest v ordered

end Foldbook.Query.Value
