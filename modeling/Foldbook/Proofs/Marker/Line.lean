import Foldbook.Proofs.Marker.Status

/-!
# What a marker line is

Which marks make a line a start line, an end line, a divider or a loop
start, and that no line is two of the first three.  `start?_eq` and
`loopStart?_eq` say what a start line is read to.
-/

namespace Foldbook.Marker

open Text

/-! ## Reading a start line -/

theorem splitFinalNewline_of_notMem {cs : List Char} (h : '\n' ∉ cs) :
    splitFinalNewline cs = (cs, []) := by
  unfold splitFinalNewline
  split
  · rename_i front hfront
    rw [dropEnding?_eq_some_iff.mp hfront] at h
    exact absurd (by simp) h
  · rfl

theorem withoutStatus_of_oneLine {s : String} (h : OneLine s) :
    withoutStatus s = String.ofList (dropStatus s.toList) := by
  rw [withoutStatus, splitFinalNewline_of_notMem h]
  simp

/-- The rest of a start line behind its mark. -/
theorem exists_rest_of_start? {line : String} {found : Start} (h : start? line = some found) :
    ∃ rest, line.toList = start.toList ++ rest := by
  unfold start? at h
  cases hrest : dropPrefix? start.toList line.toList with
  | none =>
      rw [hrest] at h
      exact absurd h (by simp)
  | some rest => exact ⟨rest, dropPrefix?_eq_some_iff.mp hrest⟩

/-- A start line is read to its title: what is behind the mark and the blanks that follow it. -/
theorem start?_eq {line : String} (h : OneLine line) {rest : List Char}
    (hrest : line.toList = start.toList ++ rest) :
    start? line = some ⟨line, String.ofList (rest.dropWhile isBlank)⟩ := by
  have hnot : '\n' ∉ rest.dropWhile isBlank := by
    intro hmem
    refine h ?_
    rw [hrest]
    exact List.mem_append_right _ ((List.dropWhile_suffix _).subset hmem)
  have hdrop : dropPrefix? start.toList line.toList = some rest := dropPrefix?_eq_some_iff.mpr hrest
  simp [start?, hdrop, splitFinalNewline_of_notMem hnot, hnot]

/-- The condition of a loop whose start line has this title. -/
def condition? (title : List Char) : Option String :=
  match dropPrefix? "while".toList title with
  | some (c :: rest) =>
    if isBlank c then some (String.ofList (dropStatus (rest.dropWhile isBlank))) else none
  | _ => none

theorem loopStart?_eq {line : String} (h : OneLine line) {rest : List Char}
    (hrest : line.toList = start.toList ++ rest) :
    loopStart? line = condition? (rest.dropWhile isBlank) := by
  have hdrop : dropPrefix? start.toList line.toList = some rest := dropPrefix?_eq_some_iff.mpr hrest
  unfold loopStart? condition?
  rw [hdrop]
  simp only [Option.bind_eq_bind, Option.bind_some]
  cases hword : dropPrefix? "while".toList (rest.dropWhile isBlank) with
  | none => rfl
  | some behind =>
      cases behind with
      | nil => rfl
      | cons c more =>
          have hnot : '\n' ∉ more.dropWhile isBlank := by
            intro hmem
            refine h ?_
            have hmore : '\n' ∈ more := (List.dropWhile_suffix _).subset hmem
            have htitle : '\n' ∈ rest.dropWhile isBlank := by
              rw [dropPrefix?_eq_some_iff.mp hword]
              simp [hmore]
            rw [hrest]
            exact List.mem_append_right _ ((List.dropWhile_suffix _).subset htitle)
          simp [splitFinalNewline_of_notMem hnot, hnot]

/-! ## Marks that exclude each other -/

theorem startsWith_start_of_start? {line : String} {found : Start} (h : start? line = some found) :
    startsWith line start = true := by
  obtain ⟨rest, hrest⟩ := exists_rest_of_start? h
  exact startsWith_iff.mpr ⟨rest, hrest.symm⟩

theorem start?_eq_none {line : String} (h : startsWith line start = false) :
    start? line = none := by
  cases hfound : start? line with
  | none => rfl
  | some found =>
      rw [startsWith_start_of_start? hfound] at h
      exact absurd h (by decide)

theorem startsWith_start_eq_false {line : String} (hline : OneLine line)
    (h : start? line = none) : startsWith line start = false := by
  rw [Bool.eq_false_iff]
  intro hstart
  obtain ⟨rest, hrest⟩ := startsWith_iff.mp hstart
  rw [start?_eq hline hrest.symm] at h
  exact absurd h (by simp)

theorem isLoopStart_eq_false {line : String} (h : startsWith line start = false) :
    isLoopStart line = false := by
  unfold startsWith at h
  rw [Option.isSome_eq_false_iff, Option.isNone_iff_eq_none] at h
  simp [isLoopStart, loopStart?, h]

/-- An end line is neither a start line nor a divider. -/
theorem startsWith_of_isEnd {line : String} (h : isEnd line = true) :
    startsWith line start = false ∧ isDivider line = false :=
  ⟨startsWith_eq_false_of_startsWith h (by decide) (by decide),
    startsWith_eq_false_of_startsWith h (by decide) (by decide)⟩

theorem isLoopStart_of_isEnd {line : String} (h : isEnd line = true) : isLoopStart line = false :=
  isLoopStart_eq_false (startsWith_of_isEnd h).1

/-- A divider is no start line. -/
theorem startsWith_of_isDivider {line : String} (h : isDivider line = true) :
    startsWith line start = false :=
  startsWith_eq_false_of_startsWith h (by decide) (by decide)

theorem isLoopStart_of_isDivider {line : String} (h : isDivider line = true) :
    isLoopStart line = false :=
  isLoopStart_eq_false (startsWith_of_isDivider h)

/-- A line that ends a loop is an end line. -/
theorem isEnd_of_isLoopEnd {line : String} (h : isLoopEnd line = true) : isEnd line = true := by
  unfold isLoopEnd at h
  unfold isEnd startsWith
  split at h
  · exact absurd h (by simp)
  · rename_i hrest
    rw [hrest]
    rfl

theorem isLoopEnd_eq_false {line : String} (h : isEnd line = false) : isLoopEnd line = false := by
  rw [Bool.eq_false_iff] at *
  exact fun hloop => h (isEnd_of_isLoopEnd hloop)

end Foldbook.Marker
