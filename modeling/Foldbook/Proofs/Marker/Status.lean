import Foldbook.Fold.Marker
import Foldbook.Proofs.Text

/-!
# The status at the end of a line

A rendered start line ends in a status, and the next reader takes it off.
`dropStatus` takes off the longest status there is (`dropStatus_append`), so
it takes off exactly the one that was put there
(`dropStatus_append_statusEnding`).  Blanks in front of a title make no
difference (`dropStatus_append_of_ne_nil`).
-/

namespace Foldbook.Marker

open Text

/-- What a rendered start line ends in. -/
def statusEnding (failed : Bool) : String :=
  " executed (" ++ (if failed then "ERROR" else "SUCCESS") ++ ")"

/-- The characters of the endings that a rendered start line can have. -/
def statusTails : List (List Char) := statusEndings.map String.toList

theorem dropEnding?_eq_some_iff {mark cs front : List Char} :
    dropEnding? mark cs = some front ↔ cs = front ++ mark := by
  unfold dropEnding?
  rw [Option.map_eq_some_iff]
  constructor
  · rintro ⟨rest, hrest, rfl⟩
    have hcs := congrArg List.reverse (dropPrefix?_eq_some_iff.mp hrest)
    simpa using hcs
  · rintro rfl
    exact ⟨front.reverse, by rw [List.reverse_append, dropPrefix?_append], List.reverse_reverse _⟩

theorem dropEnding?_eq_none_iff {mark cs : List Char} :
    dropEnding? mark cs = none ↔ ¬mark <:+ cs := by
  constructor
  · rintro h ⟨front, hcs⟩
    rw [dropEnding?_eq_some_iff.mpr hcs.symm] at h
    exact absurd h (by simp)
  · intro h
    cases hfront : dropEnding? mark cs with
    | none => rfl
    | some front => exact absurd ⟨front, (dropEnding?_eq_some_iff.mp hfront).symm⟩ h

/-- `tail` is the longest status at the end of `cs`, or nothing if there is none. -/
def LongestTail (tail cs : List Char) : Prop :=
  (tail = [] ∨ tail ∈ statusTails) ∧
    ∀ other ∈ statusTails, other <:+ cs → other.length ≤ tail.length

theorem statusTails_longest_first : statusTails.Pairwise (fun a b => b.length ≤ a.length) := by
  decide

theorem exists_longestTail (cs : List Char) :
    ∃ tail, LongestTail tail cs ∧ cs = dropStatus cs ++ tail := by
  have hfind : dropStatus cs = (statusTails.findSome? fun tail => dropEnding? tail cs).getD cs := by
    rw [dropStatus, statusTails, List.findSome?_map]
    rfl
  rw [hfind]
  cases h : statusTails.findSome? fun tail => dropEnding? tail cs with
  | none =>
      rw [List.findSome?_eq_none_iff] at h
      refine ⟨[], ⟨Or.inl rfl, ?_⟩, by simp⟩
      intro other hother hsuffix
      exact absurd hsuffix (dropEnding?_eq_none_iff.mp (h other hother))
  | some front =>
      rw [List.findSome?_eq_some_iff] at h
      obtain ⟨longer, tail, shorter, hsplit, hfront, hlonger⟩ := h
      have hsorted := statusTails_longest_first
      rw [hsplit, List.pairwise_append, List.pairwise_cons] at hsorted
      refine ⟨tail, ⟨Or.inr (by rw [hsplit]; simp), ?_⟩, dropEnding?_eq_some_iff.mp hfront⟩
      intro other hother hsuffix
      rw [hsplit, List.mem_append, List.mem_cons] at hother
      rcases hother with hmem | rfl | hmem
      · exact absurd hsuffix (dropEnding?_eq_none_iff.mp (hlonger other hmem))
      · exact Nat.le_refl _
      · exact hsorted.2.1.1 other hmem

theorem LongestTail.length_le {tail other cs : List Char} (h : LongestTail tail cs)
    (hother : LongestTail other cs) (hsuffix : other <:+ cs) : other.length ≤ tail.length := by
  rcases hother.1 with rfl | hmem
  · exact Nat.zero_le _
  · exact h.2 other hmem hsuffix

/-- The longest status is what `dropStatus` takes off. -/
theorem dropStatus_append {front tail : List Char} (h : LongestTail tail (front ++ tail)) :
    dropStatus (front ++ tail) = front := by
  obtain ⟨tail', htail', hcs⟩ := exists_longestTail (front ++ tail)
  have hle := h.length_le htail' ⟨_, hcs.symm⟩
  have hge := htail'.length_le h ⟨front, rfl⟩
  exact (List.append_inj' hcs (by omega)).1.symm

/-- What stands in front of a text does not matter to the status that is found in it. -/
theorem dropStatus_of_append {before cs front : List Char}
    (h : dropStatus (before ++ cs) = before ++ front) : dropStatus cs = front := by
  obtain ⟨tail, htail, hcs⟩ := exists_longestTail (before ++ cs)
  rw [h, List.append_assoc, List.append_right_inj] at hcs
  subst hcs
  refine dropStatus_append ⟨htail.1, ?_⟩
  intro other hother hsuffix
  exact htail.2 other hother (hsuffix.trans (List.suffix_append _ _))

/-- A status begins with its word, or with one space and then its word. -/
theorem statusTails_head : ∀ tail ∈ statusTails,
    tail.head? = some 'e' ∨
      tail.head? = some ' ' ∧ tail.tail ∈ statusTails ∧ tail.tail.head? = some 'e' := by
  decide

theorem dropStatus_of_mem {tail : List Char} (h : tail ∈ statusTails) : dropStatus tail = [] := by
  revert tail
  decide

/-- Blanks in front of a title do not matter to the status behind it, unless the title is nothing
but a status. -/
theorem dropStatus_append_of_ne_nil {blanks title : List Char}
    (hblanks : ∀ c ∈ blanks, isBlank c = true) (hne : dropStatus title ≠ []) :
    dropStatus (blanks ++ title) = blanks ++ dropStatus title := by
  have hnot : 'e' ∉ blanks := fun h => absurd (hblanks _ h) (by decide)
  obtain ⟨tail, htail, hcs⟩ := exists_longestTail title
  have happ : blanks ++ title = blanks ++ dropStatus title ++ tail := by
    rw [List.append_assoc, ← hcs]
  rw [happ]
  refine dropStatus_append ⟨htail.1, ?_⟩
  rw [← happ]
  intro other hother hsuffix
  rcases List.suffix_or_suffix_of_suffix hsuffix (List.suffix_append blanks title) with
    hs | ⟨pre, rfl⟩
  · exact htail.2 other hother hs
  · rw [List.suffix_append_self_iff] at hsuffix
    -- only the space of a status can lie among the blanks, and then the title is the rest of it
    cases pre with
    | nil => exact htail.2 title hother (List.suffix_refl _)
    | cons c pre =>
        have hc : c ∈ blanks := hsuffix.subset List.mem_cons_self
        rcases statusTails_head _ hother with hhead | ⟨-, hmem, hhead⟩
        · simp only [List.cons_append, List.head?_cons, Option.some.injEq] at hhead
          exact absurd (hhead ▸ hc) hnot
        · cases pre with
          | nil => exact absurd (dropStatus_of_mem hmem) hne
          | cons d pre =>
              simp only [List.cons_append, List.tail_cons, List.head?_cons,
                Option.some.injEq] at hhead
              have hd : d ∈ blanks := hsuffix.subset (by simp)
              exact absurd (hhead ▸ hd) hnot

/-- When the title is nothing but a status, only blanks are left of it and the blanks in front. -/
theorem isBlank_of_mem_dropStatus {blanks title : List Char}
    (hblanks : ∀ c ∈ blanks, isBlank c = true) (hnil : dropStatus title = []) :
    ∀ c ∈ dropStatus (blanks ++ title), isBlank c = true := by
  obtain ⟨short, hshort, htitle⟩ := exists_longestTail title
  rw [hnil, List.nil_append] at htitle
  subst htitle
  obtain ⟨tail, htail, hcs⟩ := exists_longestTail (blanks ++ title)
  have hle : title.length ≤ tail.length := by
    rcases hshort.1 with rfl | hmem
    · exact Nat.zero_le _
    · exact htail.2 title hmem (List.suffix_append _ _)
  have hkept : dropStatus (blanks ++ title) <+: blanks := by
    refine List.prefix_of_prefix_length_le ⟨tail, hcs.symm⟩ (List.prefix_append _ _) ?_
    have hlength := congrArg List.length hcs
    simp only [List.length_append] at hlength
    omega
  intro c hc
  exact hblanks c (hkept.subset hc)

/-- A status does not reach into the mark of a start line. -/
theorem dropStatus_start_append (rest : List Char) :
    dropStatus (start.toList ++ rest) = start.toList ++ dropStatus rest := by
  have hbrace : ∀ tail ∈ statusTails, '\x7b' ∉ tail := by decide
  obtain ⟨tail, htail, hcs⟩ := exists_longestTail rest
  have happ : start.toList ++ rest = start.toList ++ dropStatus rest ++ tail := by
    rw [List.append_assoc, ← hcs]
  rw [happ]
  refine dropStatus_append ⟨htail.1, ?_⟩
  rw [← happ]
  intro other hother hsuffix
  rcases List.suffix_or_suffix_of_suffix hsuffix (List.suffix_append start.toList rest) with
    hs | ⟨pre, rfl⟩
  · exact htail.2 other hother hs
  · rw [List.suffix_append_self_iff] at hsuffix
    rcases List.eq_nil_or_concat pre with rfl | ⟨front, c, rfl⟩
    · exact htail.2 rest hother (List.suffix_refl _)
    · obtain ⟨before, hbefore⟩ := hsuffix
      have hc : c = '\x7b' := by
        have hlast := congrArg List.getLast? hbefore
        rw [List.concat_eq_append, ← List.append_assoc, List.getLast?_concat] at hlast
        exact Option.some.inj hlast
      exact absurd (by simp [hc]) (hbrace _ hother)

/-- The status that a header ends in is the one that is taken off it. -/
theorem dropStatus_append_statusEnding (front : List Char) (failed : Bool) :
    dropStatus (front ++ (statusEnding failed).toList) = front := by
  refine dropStatus_append ⟨Or.inr ?_, ?_⟩
  · cases failed <;> decide
  · intro other hother hsuffix
    have hlong : ∀ tail ∈ statusTails, ∀ failed, (statusEnding failed).toList.length < tail.length →
        ¬(statusEnding failed).toList <:+ tail := by
      decide
    rcases List.suffix_or_suffix_of_suffix hsuffix (List.suffix_append _ _) with hs | hs
    · exact hs.length_le
    · exact Nat.le_of_not_lt fun hlt => hlong other hother failed hlt hs

end Foldbook.Marker
