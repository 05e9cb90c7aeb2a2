import Foldbook.Proofs.Substitution

/-!
# Where an assignment line is divided

A name may hold anything but spaces, equals signs too, and it reaches as far
as it can.  With a space behind the name that is where it ends.  Without one
it goes on into the value, up to the last equals sign there with something
behind it and no space in front, those right before the sign apart
(`Divided`).

* `isSome_valueBehind?_iff`: behind which texts a value can be read.
* `splitName?_eq_none_iff`, `of_splitName?`: which names the search tries.
* `assignment_tight_iff`: blanks around the equals sign make no difference
  exactly if the value is not divided.
-/

namespace Foldbook

namespace Template

open Text

/-! ## The value -/

/-- On one line a value can be read behind blanks and an equals sign if anything stands there. -/
theorem isSome_valueBehind?_iff {cs : List Char} (hline : '\n' ∉ cs) :
    (valueBehind? cs).isSome = true ↔ ∃ blanks behind, cs = blanks ++ '=' :: behind ∧
      (∀ c ∈ blanks, isBlank c = true) ∧ behind ≠ [] := by
  rw [valueBehind?, isSome_afterBlanks_iff]
  constructor
  · rintro ⟨blanks, rest, rfl, hblanks, hnext⟩
    split at hnext
    · rename_i behind
      refine ⟨blanks, behind, rfl, hblanks, ?_⟩
      rintro rfl
      simp [afterBlanks] at hnext
    · simp at hnext
  · rintro ⟨blanks, behind, rfl, hblanks, hne⟩
    refine ⟨blanks, '=' :: behind, rfl, hblanks, isSome_afterBlanks_iff.mpr ?_⟩
    obtain ⟨c, rest, rfl⟩ := List.exists_cons_of_ne_nil hne
    have hc : c ≠ '\n' := by
      rintro rfl
      simp at hline
    exact ⟨[], c :: rest, rfl, List.forall_mem_nil _, by simp [hc]⟩

/-! ## The name -/

/-- No name is found if no value can be read behind any text without spaces. -/
theorem splitName?_eq_none_iff {taken cs : List Char} :
    splitName? taken cs = none ↔ ∀ front rest, cs = front ++ rest → front ≠ [] → ' ' ∉ front →
      valueBehind? rest = none := by
  induction cs generalizing taken with
  | nil => simp [splitName?]
  | cons c cs ih =>
      rw [splitName?]
      by_cases hc : c = ' '
      · subst hc
        simp only [if_true, true_iff]
        intro front rest hcs hne hfront
        cases front with
        | nil => exact absurd rfl hne
        | cons d front =>
            obtain ⟨rfl, -⟩ := List.cons.inj hcs
            exact absurd List.mem_cons_self hfront
      · rw [if_neg hc, Option.or_eq_none_iff, ih, Option.map_eq_none_iff]
        constructor
        · rintro ⟨hlonger, hhere⟩ front rest hcs hne hfront
          cases front with
          | nil => exact absurd rfl hne
          | cons d front =>
              obtain ⟨rfl, rfl⟩ := List.cons.inj hcs
              rw [List.mem_cons, not_or] at hfront
              by_cases hnil : front = []
              · subst hnil
                exact hhere
              · exact hlonger front rest rfl hnil hfront.2
        · intro h
          refine ⟨fun front rest hcs _ hfront => ?_, ?_⟩
          · exact h (c :: front) rest (by rw [hcs, List.cons_append]) (List.cons_ne_nil _ _)
              (by rw [List.mem_cons, not_or]; exact ⟨Ne.symm hc, hfront⟩)
          · exact h [c] cs rfl (List.cons_ne_nil _ _) (by simpa using Ne.symm hc)

/-- A name that is found is a text without spaces, with the value behind it. -/
theorem of_splitName? {taken cs name value : List Char}
    (h : splitName? taken cs = some (name, value)) :
    ∃ front rest, cs = front ++ rest ∧ front ≠ [] ∧ ' ' ∉ front ∧
      valueBehind? rest = some value ∧ name = taken.reverse ++ front := by
  induction cs generalizing taken with
  | nil => simp [splitName?] at h
  | cons c cs ih =>
      rw [splitName?] at h
      split at h
      · cases h
      · rename_i hc
        rw [Option.or_eq_some_iff] at h
        rcases h with h | ⟨-, h⟩
        · obtain ⟨front, rest, rfl, hne, hfront, hvalue, rfl⟩ := ih h
          refine ⟨c :: front, rest, rfl, List.cons_ne_nil _ _, ?_, hvalue, by simp⟩
          rw [List.mem_cons, not_or]
          exact ⟨Ne.symm hc, hfront⟩
        · obtain ⟨found, hvalue, hfound⟩ := Option.map_eq_some_iff.mp h
          cases hfound
          exact ⟨[c], cs, rfl, List.cons_ne_nil _ _, by simpa using Ne.symm hc, hvalue, by simp⟩

/-- Where a value begins right behind the equals sign, the search stops at the sign unless it finds
a longer name. -/
theorem splitName?_append_equals {name cs : List Char} (hne : name ≠ []) (hname : ' ' ∉ name)
    (hvalue : valueBehind? ('=' :: cs) = some cs) (taken : List Char) :
    splitName? taken (name ++ '=' :: cs) =
      (splitName? (name.reverse ++ taken) ('=' :: cs)).or (some (taken.reverse ++ name, cs)) := by
  induction name generalizing taken with
  | nil => exact absurd rfl hne
  | cons c name ih =>
      rw [List.mem_cons, not_or] at hname
      rw [List.cons_append, splitName?, if_neg (Ne.symm hname.1)]
      by_cases hnil : name = []
      · subst hnil
        simp [hvalue]
      · rw [ih hnil hname.2, Option.or_assoc]
        simp

/-! ## The line -/

/-- A value in which a name can end: at an equals sign that has something behind it, and no space
in front of it but among the blanks right before it. -/
def Divided (cs : List Char) : Prop :=
  ∃ front blanks behind, cs = front ++ (blanks ++ '=' :: behind) ∧ ' ' ∉ front ∧
    (∀ c ∈ blanks, isBlank c = true) ∧ behind ≠ []

theorem splitName?_equals_eq_none_iff {taken cs : List Char} (hline : '\n' ∉ cs) :
    splitName? taken ('=' :: cs) = none ↔ ¬Divided cs := by
  rw [splitName?_eq_none_iff]
  constructor
  · rintro h ⟨front, blanks, behind, rfl, hfront, hblanks, hne⟩
    have hnone := h ('=' :: front) (blanks ++ '=' :: behind) rfl (List.cons_ne_nil _ _)
      (by simpa using hfront)
    have hsome : (valueBehind? (blanks ++ '=' :: behind)).isSome = true :=
      (isSome_valueBehind?_iff fun hmem => hline (List.mem_append_right _ hmem)).mpr
        ⟨blanks, behind, rfl, hblanks, hne⟩
    rw [hnone] at hsome
    cases hsome
  · intro h front rest hcs hne hfront
    obtain ⟨d, front, rfl⟩ := List.exists_cons_of_ne_nil hne
    obtain ⟨rfl, rfl⟩ := List.cons.inj hcs
    rw [List.mem_cons, not_or] at hfront
    rw [← Option.not_isSome_iff_eq_none,
      isSome_valueBehind?_iff fun hmem => hline (List.mem_append_right _ hmem)]
    rintro ⟨blanks, behind, rfl, hblanks, hbehind⟩
    exact h ⟨front, blanks, behind, rfl, hfront.2, hblanks, hbehind⟩

section

variable {name value : String} (hne : name ≠ "") (hname : ' ' ∉ name.toList)
  (hbegins : ∃ c ∈ value.toList.head?, isBlank c = false) (hline : '\n' ∉ value.toList)

include hne hname hbegins hline

/-- Without spaces around the equals sign the search may find a longer name. -/
theorem assignment?_tight :
    assignment? ("@" ++ name ++ "=" ++ value) =
      some (match splitName? name.toList.reverse ('=' :: value.toList) with
      | none => { name, value }
      | some (longer, rest) => { name := String.ofList longer, value := String.ofList rest }) := by
  have hcs : ("@" ++ name ++ "=" ++ value).toList =
      '@' :: (name.toList ++ '=' :: value.toList) := by simp
  have hnonempty : name.toList ≠ [] := by simpa using hne
  rw [assignment?, hcs, findAssignment?, if_pos rfl,
    splitName?_append_equals hnonempty hname (valueBehind?_tight hbegins hline), List.append_nil]
  cases splitName? name.toList.reverse ('=' :: value.toList) <;> simp

theorem assignment?_tight_of_not_divided (h : ¬Divided value.toList) :
    assignment? ("@" ++ name ++ "=" ++ value) = some { name, value } := by
  rw [assignment?_tight hne hname hbegins hline, (splitName?_equals_eq_none_iff hline).mpr h]

/-- The name of a divided value begins with what was meant to be the name. -/
theorem assignment?_tight_of_divided (h : Divided value.toList) :
    ∃ front rest : String, assignment? ("@" ++ name ++ "=" ++ value) =
      some { name := name ++ "=" ++ front, value := rest } := by
  rw [assignment?_tight hne hname hbegins hline]
  cases hsplit : splitName? name.toList.reverse ('=' :: value.toList) with
  | none => exact absurd h ((splitName?_equals_eq_none_iff hline).mp hsplit)
  | some found =>
      obtain ⟨longer, rest⟩ := found
      obtain ⟨front, behind, hvalue, hfront, -, -, rfl⟩ := of_splitName? hsplit
      obtain ⟨d, front, rfl⟩ := List.exists_cons_of_ne_nil hfront
      obtain ⟨rfl, -⟩ := List.cons.inj hvalue
      refine ⟨String.ofList front, String.ofList rest, ?_⟩
      simp [← String.toList_inj]

/-- Blanks around the equals sign make no difference to what an assignment does exactly if the value
is not divided.  With them the name is always what stands in front of the sign; without them a
divided value makes it longer. -/
theorem assignment_tight_iff :
    assignment? ("@" ++ name ++ " = " ++ value) = some { name, value } ∧
      (assignment? ("@" ++ name ++ "=" ++ value) = some { name, value } ∧
          Act.define ("@" ++ name ++ "=" ++ value) = Act.define ("@" ++ name ++ " = " ++ value) ↔
        ¬Divided value.toList) ∧
      (Divided value.toList → ∃ front rest : String,
        assignment? ("@" ++ name ++ "=" ++ value) =
          some { name := name ++ "=" ++ front, value := rest }) := by
  have hspaced := assignment?_spaced hne hname hbegins hline
  refine ⟨hspaced, ⟨?_, fun h => ?_⟩, assignment?_tight_of_divided hne hname hbegins hline⟩
  · rintro ⟨htight, -⟩ h
    obtain ⟨front, rest, hlonger⟩ := assignment?_tight_of_divided hne hname hbegins hline h
    rw [htight, Option.some.injEq, Assignment.mk.injEq] at hlonger
    have hlength := congrArg String.length hlonger.1
    simp only [String.length_append, show "=".length = 1 from rfl] at hlength
    omega
  · have htight := assignment?_tight_of_not_divided hne hname hbegins hline h
    exact ⟨htight, by rw [Act.define, Act.define, htight, hspaced]⟩

end

/-- A string with an equals sign in it is divided. -/
theorem assignment_tight_iff_string :
    Divided "\"x=y\"".toList ∧
      assignment? ("@" ++ "a" ++ " = " ++ "\"x=y\"") =
        some { name := "a", value := "\"x=y\"" } ∧
      assignment? ("@" ++ "a" ++ "=" ++ "\"x=y\"") =
        some { name := "a=\"x", value := "y\"" } ∧
      ¬(assignment? ("@" ++ "a" ++ "=" ++ "\"x=y\"") =
          some { name := "a", value := "\"x=y\"" } ∧
        Act.define ("@" ++ "a" ++ "=" ++ "\"x=y\"") =
          Act.define ("@" ++ "a" ++ " = " ++ "\"x=y\"")) := by
  have hdivided : Divided "\"x=y\"".toList :=
    ⟨"\"x".toList, [], "y\"".toList, rfl, by decide, List.forall_mem_nil _, by decide⟩
  obtain ⟨hspaced, hiff, -⟩ := @assignment_tight_iff "a" "\"x=y\"" (by decide) (by decide)
    ⟨'"', rfl, by decide⟩ (by decide)
  exact ⟨hdivided, hspaced, by decide, fun h => hiff.mp h hdivided⟩

end Template
end Foldbook
