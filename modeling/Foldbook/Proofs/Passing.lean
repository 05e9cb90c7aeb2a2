import Foldbook.Proofs.Double.Digits
import Foldbook.Proofs.Json.Characters
import Foldbook.Proofs.Json.Reading
import Foldbook.Proofs.Json.Rereading
import Foldbook.Query.Value

/-!
# Values that pass through a query

A value that a query selects unchanged is taken into the query language and
back (`Json.passed`).  Only its numbers can change on the way, since the
numbers of the query language are doubles.

* `passed_int_eq_self_iff`: a whole number stays as it is exactly if it is a
  double.
* `passed_eq_self_iff`: a value without floating-point numbers stays as it is
  exactly if each of its whole numbers is a double (`Exact`).
* `inlineText_passed_iff`: the text that is substituted for a value shows
  every change, because a value can be read again from it.
-/

namespace Foldbook.Json

/-- What comes out of a query for a value that it selects. -/
def passed (v : Json) : Json := (Query.Value.ofJson v).toJson

/-! ## Shapes -/

@[simp] theorem passed_null : passed .null = .null := rfl

@[simp] theorem passed_bool (b : Bool) : passed (.bool b) = .bool b := rfl

@[simp] theorem passed_str (s : String) : passed (.str s) = .str s := rfl

@[simp] theorem passed_arr (items : List Json) : passed (.arr items) = .arr (items.map passed) := by
  have h (items : List Json) :
      Query.Value.toJsonItems (Query.Value.ofJsonItems items) = items.map passed := by
    induction items with
    | nil => rfl
    | cons v items ih =>
        rw [Query.Value.ofJsonItems, Query.Value.toJsonItems, ih]
        rfl
  rw [passed, Query.Value.ofJson, Query.Value.toJson, h]

@[simp] theorem passed_obj (members : List (String × Json)) :
    passed (.obj members) = .obj (members.map fun m => (m.1, passed m.2)) := by
  have h (members : List (String × Json)) :
      Query.Value.toJsonMembers (Query.Value.ofJsonMembers members) =
        members.map fun m => (m.1, passed m.2) := by
    induction members with
    | nil => rfl
    | cons m members ih =>
        obtain ⟨name, v⟩ := m
        rw [Query.Value.ofJsonMembers, Query.Value.toJsonMembers, ih]
        rfl
  rw [passed, Query.Value.ofJson, Query.Value.toJson, h]

/-- A number is a number again, or null if it is none for the query language. -/
theorem passed_number (n : Query.Number) :
    n.toJson = .null ∨ (∃ x, n.toJson = .float x) ∨ ∃ k, n.toJson = .int k := by
  unfold Query.Number.toJson
  split
  · exact .inl rfl
  · split
    · exact .inr (.inl ⟨_, rfl⟩)
    · split
      · exact .inr (.inr ⟨_, rfl⟩)
      · exact .inr (.inl ⟨_, rfl⟩)

theorem passed_int (n : Int) :
    passed (.int n) = .null ∨ (∃ x, passed (.int n) = .float x) ∨ ∃ k, passed (.int n) = .int k :=
  passed_number _

theorem passed_float (x : Float) :
    passed (.float x) = .null ∨ (∃ y, passed (.float x) = .float y) ∨
      ∃ k, passed (.float x) = .int k :=
  passed_number _

/-- What depends only on names, on strings and on what they stand in is the same behind a query. -/
theorem every_passed {P : Json → Prop} (hnull : P .null) (hint : ∀ n, P (.int n))
    (hfloat : ∀ x, P (.float x)) (harr : ∀ items items' : List Json, P (.arr items) → P (.arr items'))
    (hobj : ∀ members members' : List (String × Json),
      members.map Prod.fst = members'.map Prod.fst → P (.obj members) → P (.obj members'))
    {v : Json} (h : v.Every P) : (passed v).Every P := by
  have hnumber {w : Json} (hw : w = .null ∨ (∃ x, w = .float x) ∨ ∃ k, w = .int k) :
      w.Every P := by
    rcases hw with rfl | ⟨x, rfl⟩ | ⟨k, rfl⟩
    · exact every_null.mpr hnull
    · exact every_float.mpr (hfloat x)
    · exact every_int.mpr (hint k)
  induction v using Json.induction with
  | null => exact h
  | bool b => exact h
  | int n => exact hnumber (passed_int n)
  | float x => exact hnumber (passed_float x)
  | str s => exact h
  | arr items ih =>
      rw [every_arr] at h
      rw [passed_arr, every_arr, List.forall_mem_map]
      exact ⟨harr _ _ h.1, fun v hv => ih v hv (h.2 v hv)⟩
  | obj members ih =>
      rw [every_obj] at h
      rw [passed_obj, every_obj, List.forall_mem_map]
      exact ⟨hobj _ _ (by simp) h.1, fun m hm => ih m hm (h.2 m hm)⟩

theorem distinctNames_passed {v : Json} (h : v.Every DistinctNames) :
    (passed v).Every DistinctNames :=
  every_passed trivial (fun _ => trivial) (fun _ => trivial) (fun _ _ _ => trivial)
    (fun _ _ heq hnames => by rwa [DistinctNames, ← heq]) h

theorem unbraced_passed {v : Json} (h : v.Every Unbraced) : (passed v).Every Unbraced := by
  have hnames {members : List (String × Json)} :
      Unbraced (.obj members) ↔ ∀ name ∈ members.map Prod.fst, '\x7b' ∉ name.toList := by
    rw [List.forall_mem_map]
    rfl
  exact every_passed trivial (fun _ => trivial) (fun _ => trivial) (fun _ _ _ => trivial)
    (fun _ _ heq hmembers => by rwa [hnames, ← heq, ← hnames]) h

/-! ## Values that stay as they are -/

/-- A whole number stays as it is exactly if it is a double. -/
theorem passed_int_eq_self_iff (n : Int) : passed (.int n) = .int n ↔ Double.Exact n.natAbs := by
  have hpassed : passed (.int n) =
      (Query.Number.ofDecimal { negative := n < 0, coefficient := n.natAbs }).toJson := rfl
  constructor
  · intro h
    rw [hpassed, Query.Number.toJson] at h
    split at h
    · cases h
    · split at h
      · cases h
      · split at h
        · rename_i i hi
          cases h
          exact Double.exact_of_toInt? hi
        · cases h
  · intro h
    rcases Nat.eq_zero_or_pos n.natAbs with hzero | hpos
    · rw [Int.natAbs_eq_zero.mp hzero]
      decide +kernel
    · obtain ⟨m, e, hnormal, hspells, hvalue⟩ := Double.exists_value_ofDecimal h hpos (n < 0)
      rw [hpassed, Query.Number.toJson, hvalue, Double.isNaN_ofNormal, Double.isInf_ofNormal,
        Double.toInt?_ofNormal _ hnormal hspells]
      by_cases hneg : n < 0
      · simp only [hneg, decide_true, Float.Model.UnpackedFloat.Sign.apply, Bool.false_eq_true,
          if_false, if_true, Json.int.injEq]
        omega
      · simp only [hneg, decide_false, Float.Model.UnpackedFloat.Sign.apply, Bool.false_eq_true,
          if_false, Json.int.injEq]
        omega

/-- A whole number is a double. -/
def Exact : Json → Prop
  | .int n => Double.Exact n.natAbs
  | _ => True

theorem map_eq_self_iff {α : Type} {f : α → α} {xs : List α} : xs.map f = xs ↔ ∀ x ∈ xs, f x = x := by
  simpa using List.map_inj_left (l := xs) (f := f) (g := id)

/-- A value stays as it is exactly if each whole number in it is a double. -/
theorem passed_eq_self_iff {v : Json} (h : v.Every NotFloat) : passed v = v ↔ v.Every Exact := by
  induction v using Json.induction with
  | null => simp [Exact]
  | bool b => simp [Exact]
  | int n => rw [every_int, passed_int_eq_self_iff, Exact]
  | float x => exact (every_float.mp h).elim
  | str s => simp [Exact]
  | arr items ih =>
      rw [every_arr] at h
      rw [passed_arr, every_arr, Json.arr.injEq, map_eq_self_iff]
      simp only [Exact, true_and]
      exact forall₂_congr fun v hv => ih v hv (h.2 v hv)
  | obj members ih =>
      rw [every_obj] at h
      rw [passed_obj, every_obj, Json.obj.injEq, map_eq_self_iff]
      simp only [Exact, true_and, Prod.ext_iff]
      exact forall₂_congr fun m hm => ih m hm (h.2 m hm)

/-- A value that is not a string is not a string behind a query. -/
theorem inlineText_passed {v : Json} (h : ∀ s, v ≠ .str s) :
    (passed v).inlineText = render compact (passed v) := by
  cases v with
  | null => rfl
  | bool b => rfl
  | int n => rcases passed_int n with h | ⟨x, h⟩ | ⟨k, h⟩ <;> rw [h] <;> rfl
  | float x => rcases passed_float x with h | ⟨x, h⟩ | ⟨k, h⟩ <;> rw [h] <;> rfl
  | str s => exact absurd rfl (h s)
  | arr items =>
      rw [passed_arr]
      rfl
  | obj members =>
      rw [passed_obj]
      rfl

/-- The text that is substituted for a value is the same behind a query only if the value is. -/
theorem inlineText_passed_iff {v : Json} (hread : v.WellRead) (h : v.Every NotFloat) :
    (passed v).inlineText = v.inlineText ↔ passed v = v := by
  refine ⟨fun heq => ?_, congrArg inlineText⟩
  by_cases hstr : ∃ s, v = .str s
  · obtain ⟨s, rfl⟩ := hstr
    rfl
  · have hne : ∀ s, v ≠ .str s := fun s hs => hstr ⟨s, hs⟩
    have hv : v.inlineText = render compact v := by
      cases v with
      | str s => exact absurd rfl (hne s)
      | _ => rfl
    have hself : reread v = some v := by
      refine reread_eq_self fun p hp => ?_
      exact ⟨(hread p hp).1, (hread p hp).2, h p hp⟩
    have hback : reread (passed v) = some v := by
      rw [← hself, ← read?_render legible_compact, ← read?_render legible_compact,
        ← inlineText_passed hne, ← hv, heq]
    exact eq_of_reread (distinctNames_passed (Every.mono (fun _ hp => hp.2) hread)) h hback

end Foldbook.Json
