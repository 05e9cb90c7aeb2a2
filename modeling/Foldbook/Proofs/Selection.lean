import Foldbook.Query.Selection

/-!
# Selecting a member

The query that is a point and a name answers the member of that name
(`select_field`), and null if there is none.  Its text is one lexeme
(`ofText_field`), which the grammar reads as an access (`program_field`).
-/

namespace Foldbook.Query

/-- Whether a text is a name: a letter or an underscore, and then letters, digits and
underscores. -/
def IsName (name : String) : Prop :=
  ∃ c cs, name.toList = c :: cs ∧ Lexeme.isNameStart c = true ∧
    ∀ d ∈ cs, Lexeme.isNameChar d = true

namespace Lexeme

theorem isNameChar_of_isNameStart {c : Char} (h : isNameStart c = true) : isNameChar c = true := by
  simp only [isNameStart, isNameChar, Char.isAlphanum, Bool.or_eq_true] at h ⊢
  exact h.imp_left .inl

theorem isDigit_of_isNameStart {c : Char} (h : isNameStart c = true) : c.isDigit = false := by
  rw [Bool.eq_false_iff]
  intro hdigit
  rw [isNameStart, Bool.or_eq_true, beq_iff_eq] at h
  delta Char.isAlpha Char.isUpper Char.isLower at h
  simp only [Bool.or_eq_true, Bool.and_eq_true, decide_eq_true_eq] at h
  simp only [Char.isDigit, Bool.and_eq_true, decide_eq_true_eq] at hdigit
  change (65 ≤ c.toNat ∧ c.toNat ≤ 90 ∨ 97 ≤ c.toNat ∧ c.toNat ≤ 122) ∨ c = '_' at h
  change 48 ≤ c.toNat ∧ c.toNat ≤ 57 at hdigit
  rcases h with h | rfl
  · omega
  · exact absurd hdigit (by decide)

theorem forall_isNameChar {name : String} (h : IsName name) :
    ∀ d ∈ name.toList, isNameChar d = true := by
  obtain ⟨c, cs, hname, hc, hcs⟩ := h
  rw [hname]
  exact List.forall_mem_cons.mpr ⟨isNameChar_of_isNameStart hc, hcs⟩

/-- A point and a name are one lexeme. -/
theorem plain_field {name : String} (h : IsName name) :
    plain ('.' :: name.toList) = (.field name, []) := by
  have htake : name.toList.takeWhile isNameChar = name.toList := by
    rw [← List.append_nil name.toList, List.takeWhile_append_of_pos (forall_isNameChar h)]
    simp
  obtain ⟨c, cs, hname, hc, -⟩ := h
  have hofList : String.ofList (c :: cs) = name := by rw [← hname, String.ofList_toList]
  rw [hname] at htake ⊢
  have hnumber : number? ('.' :: c :: cs) = none := by
    simp [number?, Json.spanDigits, isDigit_of_isNameStart hc]
  have hpoint : isNameStart '.' = false := by decide
  simp only [plain, hnumber, hpoint, hc, htake, hofList, if_true, Bool.false_eq_true, if_false]
  simp

/-- A point and a name are a lexeme, and then comes the end. -/
theorem ofText_field {name : String} (h : IsName name) :
    ∃ place last, ofText ("." ++ name) = [⟨.field name, place⟩, ⟨.finish, last⟩] := by
  have hcs : ("." ++ name).toList = '.' :: name.toList := by simp
  have hblank : isBlank '.' = false := by decide
  unfold ofText
  simp only [hcs, List.length_cons]
  rw [scan]
  simp [plain_field h, hblank, scan]

end Lexeme

namespace Grammar

/-- The lexemes of a point and a name are an access to a member. -/
theorem program_field {name : String} (h : IsName name) :
    program ("." ++ name) = .ok (some (.index .here (textLiteral name) false)) := by
  obtain ⟨place, last, hlexemes⟩ := Lexeme.ofText_field h
  rw [program, hlexemes]
  rfl

end Grammar

theorem compile_field {name : String} (h : IsName name) :
    compile ("." ++ name) = .ok (.index .here (Grammar.textLiteral name) false) := by
  rw [compile, Grammar.program_field h]
  rfl

/-! ## Values of members -/

theorem find?_ofJsonMembers (name : String) (members : List (String × Json)) :
    Value.find? name (Value.ofJsonMembers members) = (Json.find? name members).map Value.ofJson := by
  induction members with
  | nil => rfl
  | cons m members ih =>
      obtain ⟨k, v⟩ := m
      simp only [Value.ofJsonMembers, Value.find?, Json.find?, ih]
      split <;> rfl

/-- A point and a name select the member of that name; null stands for a member that is not
there. -/
theorem select_field {name : String} (h : IsName name) (environ : List (String × String))
    (members : List (String × Json)) :
    select environ ("." ++ name) (.obj members) =
      .ok [(((Json.find? name members).map Value.ofJson).getD .null).toJson] := by
  rw [select, compile_field h, ← find?_ofJsonMembers]
  rfl

end Foldbook.Query
