import Foldbook.Json.Reader
import Mathlib.Data.List.Induction
import Mathlib.Data.List.Nodup

/-!
# The parts of a value

What the theory of the printer and the reader says about values themselves.

* `Json.induction` is induction on values whose hypotheses speak about all
  items of a list and all members of an object.
* `Json.parts` lists a value and everything in it, and `Json.Every P` says
  that all of them have a property.  `every_arr`, `every_obj` and
  `every_ofMembers` take it apart.
* `ShortInt`, `DistinctNames`, `Finite` and `NotFloat` are the properties of
  parts that decide what becomes of a value that is written and read again.
* `ofMembers_eq_self`: members with distinct names are kept as they are, and
  `nodup_ofMembers`: the names are distinct afterwards in any case.
-/

namespace Foldbook.Json

/-- Induction on values: a list follows from its items, an object from the values of its
members. -/
theorem induction {motive : Json → Prop} (null : motive .null) (bool : ∀ b, motive (.bool b))
    (int : ∀ n, motive (.int n)) (float : ∀ x, motive (.float x)) (str : ∀ s, motive (.str s))
    (arr : ∀ items, (∀ v ∈ items, motive v) → motive (.arr items))
    (obj : ∀ members, (∀ m ∈ members, motive m.2) → motive (.obj members)) (v : Json) :
    motive v := by
  refine @Json.rec motive (fun items => ∀ v ∈ items, motive v)
    (fun members => ∀ m ∈ members, motive m.2) (fun m => motive m.2)
    null bool int float str arr obj ?nil ?cons ?nilMember ?consMember ?member v
  case nil => exact List.forall_mem_nil _
  case cons =>
    intro v vs hv hvs
    exact List.forall_mem_cons.mpr ⟨hv, hvs⟩
  case nilMember => exact List.forall_mem_nil _
  case consMember =>
    intro m ms hm hms
    exact List.forall_mem_cons.mpr ⟨hm, hms⟩
  case member =>
    intro _ _ hv
    exact hv

/-! ## All parts of a value -/

mutual

/-- A value and everything in it. -/
def parts : Json → List Json
  | .arr items => .arr items :: itemParts items
  | .obj members => .obj members :: memberParts members
  | v => [v]

/-- The parts of all items. -/
def itemParts : List Json → List Json
  | [] => []
  | v :: vs => parts v ++ itemParts vs

/-- The parts of the values of all members. -/
def memberParts : List (String × Json) → List Json
  | [] => []
  | (_, v) :: ms => parts v ++ memberParts ms

end

theorem mem_itemParts {p : Json} {items : List Json} :
    p ∈ itemParts items ↔ ∃ v ∈ items, p ∈ v.parts := by
  induction items with
  | nil => simp [itemParts]
  | cons v vs ih => simp [itemParts, ih]

theorem mem_memberParts {p : Json} {members : List (String × Json)} :
    p ∈ memberParts members ↔ ∃ m ∈ members, p ∈ m.2.parts := by
  induction members with
  | nil => simp [memberParts]
  | cons m ms ih =>
      obtain ⟨name, v⟩ := m
      simp [memberParts, ih]

/-- Whether every part of a value has a property. -/
def Every (P : Json → Prop) (v : Json) : Prop := ∀ p ∈ v.parts, P p

instance {P : Json → Prop} [DecidablePred P] (v : Json) : Decidable (v.Every P) :=
  inferInstanceAs (Decidable (∀ p ∈ v.parts, P p))

section Every

variable {P Q : Json → Prop}

@[simp] theorem every_null : Every P .null ↔ P .null := by simp [Every, parts]

@[simp] theorem every_bool {b : Bool} : Every P (.bool b) ↔ P (.bool b) := by simp [Every, parts]

@[simp] theorem every_int {n : Int} : Every P (.int n) ↔ P (.int n) := by simp [Every, parts]

@[simp] theorem every_float {x : Float} : Every P (.float x) ↔ P (.float x) := by
  simp [Every, parts]

@[simp] theorem every_str {s : String} : Every P (.str s) ↔ P (.str s) := by simp [Every, parts]

@[simp] theorem every_arr {items : List Json} :
    Every P (.arr items) ↔ P (.arr items) ∧ ∀ v ∈ items, v.Every P := by
  simp only [Every, parts, List.forall_mem_cons, mem_itemParts]
  constructor
  · rintro ⟨hself, hparts⟩
    exact ⟨hself, fun v hv p hp => hparts p ⟨v, hv, hp⟩⟩
  · rintro ⟨hself, hitems⟩
    exact ⟨hself, fun p ⟨v, hv, hp⟩ => hitems v hv p hp⟩

@[simp] theorem every_obj {members : List (String × Json)} :
    Every P (.obj members) ↔ P (.obj members) ∧ ∀ m ∈ members, m.2.Every P := by
  simp only [Every, parts, List.forall_mem_cons, mem_memberParts]
  constructor
  · rintro ⟨hself, hparts⟩
    exact ⟨hself, fun m hm p hp => hparts p ⟨m, hm, hp⟩⟩
  · rintro ⟨hself, hmembers⟩
    exact ⟨hself, fun p ⟨m, hm, hp⟩ => hmembers m hm p hp⟩

theorem Every.mono {v : Json} (hPQ : ∀ p, P p → Q p) (h : v.Every P) : v.Every Q :=
  fun p hp => hPQ p (h p hp)

theorem forall_mem_insert {name : String} {value : Json} {members : List (String × Json)}
    (hvalue : value.Every P) (hmembers : ∀ m ∈ members, m.2.Every P) :
    ∀ m ∈ insert name value members, m.2.Every P := by
  induction members with
  | nil => simpa [insert] using hvalue
  | cons m ms ih =>
      obtain ⟨hm, hms⟩ := List.forall_mem_cons.mp hmembers
      rw [insert]
      split
      · exact List.forall_mem_cons.mpr ⟨hvalue, hms⟩
      · exact List.forall_mem_cons.mpr ⟨hm, ih hms⟩

end Every

/-! ## Names of members -/

theorem nodup_insert {name : String} {value : Json} {members : List (String × Json)}
    (h : (members.map Prod.fst).Nodup) : ((insert name value members).map Prod.fst).Nodup := by
  rw [map_fst_insert]
  split
  · exact h
  · rename_i hnew
    rw [List.nodup_append]
    refine ⟨h, by simp, ?_⟩
    rintro a ha b hb rfl
    rw [List.mem_singleton] at hb
    exact hnew (hb ▸ ha)

/-- A new name is added at the end. -/
theorem insert_of_notMem {name : String} {members : List (String × Json)}
    (h : name ∉ members.map Prod.fst) (value : Json) :
    insert name value members = members ++ [(name, value)] := by
  induction members with
  | nil => rfl
  | cons m ms ih =>
      rw [List.map_cons, List.mem_cons, not_or] at h
      rw [insert, if_neg (Ne.symm h.1), ih h.2, List.cons_append]

/-- Members stay as they are exactly if the name has the value already. -/
theorem insert_eq_self_iff {name : String} {value : Json} {members : List (String × Json)} :
    insert name value members = members ↔ find? name members = some value := by
  induction members with
  | nil => simp [insert, find?]
  | cons m ms ih =>
      rw [insert, find?]
      split
      · simp [Prod.ext_iff, eq_comm]
      · rw [List.cons.injEq, ih]
        simp

theorem ofMembers_append_singleton (members : List (String × Json)) (m : String × Json) :
    ofMembers (members ++ [m]) = insert m.1 m.2 (ofMembers members) := by
  simp [ofMembers, List.foldl_append]

/-- The names of an object that was read are distinct. -/
theorem nodup_ofMembers (members : List (String × Json)) :
    ((ofMembers members).map Prod.fst).Nodup := by
  induction members using List.reverseRecOn with
  | nil => exact List.nodup_nil
  | append_singleton members m ih =>
      rw [ofMembers_append_singleton]
      exact nodup_insert ih

/-- Members with distinct names make up an object as they stand. -/
theorem ofMembers_eq_self {members : List (String × Json)} (h : (members.map Prod.fst).Nodup) :
    ofMembers members = members := by
  induction members using List.reverseRecOn with
  | nil => rfl
  | append_singleton members m ih =>
      rw [List.map_append, List.nodup_append] at h
      obtain ⟨hmembers, -, hdisjoint⟩ := h
      have hnew : m.1 ∉ members.map Prod.fst :=
        fun hm => hdisjoint m.1 hm m.1 (by simp) rfl
      rw [ofMembers_append_singleton, ih hmembers, insert_of_notMem hnew]

theorem every_ofMembers {P : Json → Prop} {members : List (String × Json)}
    (h : ∀ m ∈ members, m.2.Every P) : ∀ m ∈ ofMembers members, m.2.Every P := by
  induction members using List.reverseRecOn with
  | nil => exact h
  | append_singleton members m ih =>
      rw [List.forall_mem_append, List.forall_mem_singleton] at h
      rw [ofMembers_append_singleton]
      exact forall_mem_insert h.2 (ih h.1)

/-! ## Properties of parts -/

/-- A whole number has no more digits than are read. -/
def ShortInt : Json → Prop
  | .int n => (Decimal.digits n.natAbs).length ≤ digitLimit
  | _ => True

/-- The names of an object are distinct. -/
def DistinctNames : Json → Prop
  | .obj members => (members.map Prod.fst).Nodup
  | _ => True

/-- A floating-point number is a number, and not infinite. -/
def Finite : Json → Prop
  | .float x => x.isNaN = false ∧ x.isInf = false
  | _ => True

/-- Anything but a floating-point number. -/
def NotFloat : Json → Prop
  | .float _ => False
  | _ => True

instance : DecidablePred ShortInt := fun v =>
  match v with
  | .int n => inferInstanceAs (Decidable ((Decimal.digits n.natAbs).length ≤ digitLimit))
  | .null | .bool _ | .float _ | .str _ | .arr _ | .obj _ => isTrue trivial

instance : DecidablePred DistinctNames := fun v =>
  match v with
  | .obj members => inferInstanceAs (Decidable (members.map Prod.fst).Nodup)
  | .null | .bool _ | .int _ | .float _ | .str _ | .arr _ => isTrue trivial

instance : DecidablePred Finite := fun v =>
  match v with
  | .float x => inferInstanceAs (Decidable (x.isNaN = false ∧ x.isInf = false))
  | .null | .bool _ | .int _ | .str _ | .arr _ | .obj _ => isTrue trivial

instance : DecidablePred NotFloat := fun v =>
  match v with
  | .float _ => isFalse id
  | .null | .bool _ | .int _ | .str _ | .arr _ | .obj _ => isTrue trivial

end Foldbook.Json
