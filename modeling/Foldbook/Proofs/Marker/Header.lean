import Foldbook.Fold.Rendering
import Foldbook.Proofs.Marker.Line

/-!
# Headers that are read again

A rendered fold begins with its start line without the old status, and the
new status behind it.  This module reads such a header.

* `start?_header`: a header is a start line with the marker and the title
  of the line that it was made from.
* `loopStart?_header`: a header opens a loop with the condition of its
  line, except that a plain fold with the title `while` gets a header that
  opens a loop with an empty condition.
-/

namespace Foldbook.Marker

open Text

/-- The first line of a rendered fold with this start line. -/
def Start.header (s : Start) (failed : Bool) : String :=
  withoutStatus s.marker ++ statusEnding failed

/-! ## Headers -/

theorem toList_header {s : Start} (h : OneLine s.marker) (failed : Bool) :
    (s.header failed).toList = dropStatus s.marker.toList ++ (statusEnding failed).toList := by
  rw [Start.header, withoutStatus_of_oneLine h, String.toList_append, String.toList_ofList]

theorem oneLine_header {s : Start} (h : OneLine s.marker) (failed : Bool) :
    OneLine (s.header failed) := by
  obtain ⟨tail, -, hcs⟩ := exists_longestTail s.marker.toList
  unfold OneLine at *
  rw [toList_header h, List.mem_append, not_or]
  refine ⟨fun hmem => h ?_, ?_⟩
  · rw [hcs]
    exact List.mem_append_left _ hmem
  · cases failed <;> decide

theorem trimEnd_header (s : Start) (failed : Bool) :
    trimEnd (s.header failed) = s.header failed := by
  have hend : (s.header failed).toList = (withoutStatus s.marker ++ (" executed (" ++
      (if failed then "ERROR" else "SUCCESS"))).toList ++ [')'] := by
    simp [Start.header, statusEnding]
  exact (trimEnd_eq_self_iff hend).mpr (by decide)

theorem head?_dropStatus {cs : List Char} (h : dropStatus cs ≠ []) :
    (dropStatus cs).head? = cs.head? := by
  obtain ⟨tail, -, hcs⟩ := exists_longestTail cs
  cases hkept : dropStatus cs with
  | nil => exact absurd hkept h
  | cons c kept => rw [hcs, hkept, List.cons_append, List.head?_cons, List.head?_cons]

/-- The title of a header: the title of its line without a status, and the new status behind it. -/
theorem dropWhile_isBlank_header {blanks title : List Char}
    (hblanks : ∀ c ∈ blanks, isBlank c = true)
    (htitle : ∀ c ∈ title.head?, isBlank c = false) (failed : Bool) :
    (dropStatus (blanks ++ title) ++ (statusEnding failed).toList).dropWhile isBlank =
      if dropStatus title = [] then (statusEnding failed).toList.tail
      else dropStatus title ++ (statusEnding failed).toList := by
  split
  · rename_i hnil
    rw [List.dropWhile_append_of_pos (isBlank_of_mem_dropStatus hblanks hnil)]
    cases failed <;> decide
  · rename_i hne
    rw [dropStatus_append_of_ne_nil hblanks hne, List.append_assoc,
      List.dropWhile_append_of_pos hblanks]
    cases hkept : dropStatus title with
    | nil => exact absurd hkept hne
    | cons c kept =>
        have hhead := head?_dropStatus hne
        rw [hkept, List.head?_cons] at hhead
        rw [List.cons_append, List.dropWhile_cons_of_neg (by simp [htitle c hhead.symm])]

/-- The title of a header has the same words as the title of its line. -/
theorem dropStatus_header_title {blanks title : List Char}
    (hblanks : ∀ c ∈ blanks, isBlank c = true)
    (htitle : ∀ c ∈ title.head?, isBlank c = false) (failed : Bool) :
    dropStatus ((dropStatus (blanks ++ title) ++ (statusEnding failed).toList).dropWhile isBlank) =
      dropStatus title := by
  rw [dropWhile_isBlank_header hblanks htitle]
  split
  · rename_i hnil
    rw [hnil]
    cases failed <;> decide
  · exact dropStatus_append_statusEnding _ failed

/-- What a fold takes from its start line. -/
structure Heading where
  /-- The start line without a status. -/
  marker : String
  /-- The title without a status. -/
  title : String
  deriving DecidableEq, Repr

/-- The heading of a start line. -/
def Start.heading (s : Start) : Heading :=
  { marker := withoutStatus s.marker, title := withoutStatus s.title }

/-- The blanks in front of a title, and the title. -/
theorem exists_blanks_title (rest : List Char) :
    ∃ blanks, rest = blanks ++ rest.dropWhile isBlank ∧ (∀ c ∈ blanks, isBlank c = true) ∧
      ∀ c ∈ (rest.dropWhile isBlank).head?, isBlank c = false := by
  refine ⟨rest.takeWhile isBlank, List.takeWhile_append_dropWhile.symm, ?_, ?_⟩
  · intro c hc
    exact List.all_eq_true.mp List.all_takeWhile c hc
  · intro c hc
    have hnot := List.head?_dropWhile_not isBlank rest
    rw [hc] at hnot
    simpa using hnot

/-- What the header of a start line is behind its mark. -/
theorem header_rest {s : Start} (h : OneLine s.marker) {rest : List Char}
    (hrest : s.marker.toList = start.toList ++ rest) (failed : Bool) :
    (s.header failed).toList =
      start.toList ++ (dropStatus rest ++ (statusEnding failed).toList) := by
  rw [toList_header h, hrest, dropStatus_start_append, List.append_assoc]

theorem heading_eq {line : String} (hline : OneLine line) {rest : List Char}
    (hrest : line.toList = start.toList ++ rest) {found : Start}
    (hfound : start? line = some found) :
    found.heading = ⟨String.ofList (dropStatus line.toList),
      String.ofList (dropStatus (rest.dropWhile isBlank))⟩ := by
  rw [start?_eq hline hrest, Option.some.injEq] at hfound
  have htitle : OneLine (String.ofList (rest.dropWhile isBlank)) := by
    unfold OneLine
    rw [String.toList_ofList]
    intro hmem
    refine hline ?_
    rw [hrest]
    exact List.mem_append_right _ ((List.dropWhile_suffix _).subset hmem)
  rw [← hfound, Start.heading, withoutStatus_of_oneLine hline, withoutStatus_of_oneLine htitle,
    String.toList_ofList]

/-- A header is a start line with the same heading. -/
theorem start?_header {line : String} (hline : OneLine line) {found : Start}
    (hfound : start? line = some found) (failed : Bool) :
    ∃ again, start? (found.header failed) = some again ∧ again.heading = found.heading := by
  obtain ⟨rest, hrest⟩ := exists_rest_of_start? hfound
  obtain ⟨blanks, hsplit, hblanks, htitle⟩ := exists_blanks_title rest
  have hmarker : found.marker = line := by
    rw [start?_eq hline hrest, Option.some.injEq] at hfound
    rw [← hfound]
  have hheader := header_rest (hmarker ▸ hline) (hmarker ▸ hrest) failed
  have honce : OneLine (found.header failed) := oneLine_header (hmarker ▸ hline) failed
  have hagain := start?_eq honce hheader
  refine ⟨_, hagain, ?_⟩
  have htitles := dropStatus_header_title hblanks htitle failed
  rw [← hsplit] at htitles
  rw [heading_eq honce hheader hagain, heading_eq hline hrest hfound,
    toList_header (hmarker ▸ hline), dropStatus_append_statusEnding, hmarker, htitles]

/-! ## Loops -/

theorem condition?_of_not_prefix {title : List Char} (h : ¬"while".toList <+: title) :
    condition? title = none := by
  rw [condition?, dropPrefix?_eq_none_iff.mpr h]

theorem condition?_while_cons (c : Char) (rest : List Char) :
    condition? ("while".toList ++ c :: rest) =
      if isBlank c then some (String.ofList (dropStatus (rest.dropWhile isBlank))) else none := by
  rw [condition?, dropPrefix?_append]

/-- A title that begins with the word only together with its status is no loop: the letter behind
the word is one of the status. -/
theorem condition?_append_of_not_prefix {title tail : List Char} (hne : title ≠ [])
    (h : ¬"while".toList <+: title) (htail : tail ∈ statusTails) :
    condition? (title ++ tail) = none := by
  have hshort : ∀ n < 5, 0 < n → ∀ tail ∈ statusTails, "while".toList.drop n <+: tail →
      condition? ("while".toList.take n ++ tail) = none := by
    decide
  by_cases hword : "while".toList <+: title ++ tail
  · rcases List.prefix_or_prefix_of_prefix hword (List.prefix_append title tail) with hp | hp
    · exact absurd hp h
    · have htake : title = "while".toList.take title.length := List.prefix_iff_eq_take.mp hp
      have hlt : title.length < 5 := by
        refine Nat.lt_of_le_of_ne hp.length_le fun hlength => h ?_
        rw [htake, hlength]
        exact List.prefix_refl _
      have hdrop : "while".toList.drop title.length <+: tail := by
        rw [← List.take_append_drop title.length "while".toList, ← htake] at hword
        exact (List.prefix_append_right_inj title).mp hword
      rw [htake]
      exact hshort _ hlt (List.length_pos_iff.mpr hne) tail htail hdrop
  · exact condition?_of_not_prefix hword

/-- The condition is read from behind the blanks, where the status that is put there again does not
matter. -/
theorem dropStatus_condition (word : List Char) {blanks kept tail : List Char}
    (hblanks : ∀ c ∈ blanks, isBlank c = true) (hkept : ∀ c ∈ kept.head?, isBlank c = false)
    (hstatus : dropStatus (word ++ blanks ++ (kept ++ tail)) = word ++ blanks ++ kept)
    (htail : kept = [] → tail ∈ statusTails) :
    dropStatus ((blanks ++ (kept ++ tail)).dropWhile isBlank) = kept := by
  rw [List.dropWhile_append_of_pos hblanks]
  cases kept with
  | nil =>
      have hnothing : ∀ tail ∈ statusTails, dropStatus (tail.dropWhile isBlank) = [] := by decide
      exact hnothing tail (htail rfl)
  | cons c kept =>
      rw [List.cons_append, List.dropWhile_cons_of_neg (by simp [hkept c rfl])]
      exact dropStatus_of_append hstatus

/-- A title that is the word and blanks behind it ends in a blank. -/
theorem exists_blank_getLast? (word : List Char) {blanks : List Char} {c : Char}
    (hc : isBlank c = true) (hblanks : ∀ d ∈ blanks, isBlank d = true) :
    ∃ last ∈ (word ++ c :: blanks).getLast?, isBlank last = true := by
  refine ⟨(c :: blanks).getLast (by simp), ?_, ?_⟩
  · simp [List.getLast?_eq_some_getLast]
  · rcases List.mem_cons.mp (List.getLast_mem (by simp : c :: blanks ≠ [])) with hlast | hlast
    · rw [hlast, hc]
    · exact hblanks _ hlast

/-- If something stands behind the word, a header opens a loop as its line does. -/
theorem condition?_header_word {title : List Char} (hlast : ∀ c ∈ title.getLast?, isBlank c = false)
    {c : Char} {rest : List Char} (hword : dropStatus title = "while".toList ++ c :: rest)
    (failed : Bool) :
    condition? (dropStatus title ++ (statusEnding failed).toList) = condition? title := by
  obtain ⟨tail, htail, hsplit⟩ := exists_longestTail title
  have hending : (statusEnding failed).toList ∈ statusTails := by cases failed <;> decide
  obtain ⟨blanks, hrest, hblanks, hhead⟩ := exists_blanks_title rest
  generalize rest.dropWhile isBlank = kept at hrest hhead
  subst hrest
  have htitle : title = "while".toList ++ [c] ++ blanks ++ (kept ++ tail) := by
    rw [hsplit, hword]
    simp
  have hstatus : dropStatus title = "while".toList ++ [c] ++ blanks ++ kept := by
    rw [hword]
    simp
  have hagain : dropStatus title ++ (statusEnding failed).toList =
      "while".toList ++ [c] ++ blanks ++ (kept ++ (statusEnding failed).toList) := by
    rw [hstatus]
    simp
  rw [hagain, htitle]
  rw [List.append_assoc, List.append_assoc, List.append_assoc, List.append_assoc,
    List.singleton_append, List.singleton_append, condition?_while_cons, condition?_while_cons]
  split
  · rename_i hc
    -- A title does not end in a blank, so there is a status where no condition is.
    have hclosed : kept = [] → tail ∈ statusTails := by
      rintro rfl
      refine htail.1.resolve_left ?_
      rintro rfl
      obtain ⟨last, hmem, hblank⟩ := exists_blank_getLast? "while".toList hc hblanks
      have hnot := hlast last (by rw [htitle]; simpa using hmem)
      rw [hblank] at hnot
      exact absurd hnot (by simp)
    rw [dropStatus_condition ("while".toList ++ [c]) hblanks hhead (htitle ▸ hstatus) hclosed,
      dropStatus_condition ("while".toList ++ [c]) hblanks hhead ?_ fun _ => hending]
    rw [← hagain, dropStatus_append_statusEnding, hstatus]
  · rfl

/-- A header opens a loop as its line does, unless the line is a plain fold with the title
`while`. -/
theorem condition?_header_title {title : List Char} (hne : dropStatus title ≠ [])
    (hlast : ∀ c ∈ title.getLast?, isBlank c = false) (failed : Bool) :
    condition? (dropStatus title ++ (statusEnding failed).toList) =
      if dropStatus title = "while".toList then some "" else condition? title := by
  by_cases hword : "while".toList <+: dropStatus title
  · obtain ⟨behind, hbehind⟩ := hword
    cases behind with
    | nil =>
        rw [if_pos (by rw [← hbehind, List.append_nil]), ← hbehind]
        cases failed <;> decide
    | cons c rest =>
        rw [if_neg (by rw [← hbehind]; simp), condition?_header_word hlast hbehind.symm]
  · have hplain : dropStatus title ≠ "while".toList := by
      intro h
      rw [h] at hword
      exact hword (List.prefix_refl _)
    have hending : (statusEnding failed).toList ∈ statusTails := by cases failed <;> decide
    obtain ⟨tail, htail, hsplit⟩ := exists_longestTail title
    rw [if_neg hplain, condition?_append_of_not_prefix hne hword hending]
    rcases htail.1 with rfl | hmem
    · rw [hsplit, List.append_nil, condition?_of_not_prefix hword]
    · rw [hsplit, condition?_append_of_not_prefix hne hword hmem]

/-- A header is a loop start as its line is, except below a plain fold with the title `while`. -/
theorem loopStart?_header {line : String} (hline : OneLine line) (htrim : trimEnd line = line)
    {found : Start} (hfound : start? line = some found) (failed : Bool) :
    loopStart? (found.header failed) =
      if found.heading.title = "while" then some "" else loopStart? line := by
  obtain ⟨rest, hrest⟩ := exists_rest_of_start? hfound
  obtain ⟨blanks, hsplit, hblanks, htitle⟩ := exists_blanks_title rest
  have hmarker : found.marker = line := by
    rw [start?_eq hline hrest, Option.some.injEq] at hfound
    rw [← hfound]
  have hheader := header_rest (hmarker ▸ hline) (hmarker ▸ hrest) failed
  rw [loopStart?_eq (oneLine_header (hmarker ▸ hline) failed) hheader, loopStart?_eq hline hrest,
    heading_eq hline hrest hfound]
  have hlast : ∀ c ∈ (rest.dropWhile isBlank).getLast?, isBlank c = false := by
    intro c hc
    obtain ⟨front, hfront⟩ := List.getLast?_eq_some_iff.mp hc
    have hend : line.toList = start.toList ++ blanks ++ front ++ [c] := by
      rw [hrest, hsplit, hfront]
      simp
    exact (trimEnd_eq_self_iff hend).mp htrim
  have hdrop := dropWhile_isBlank_header hblanks htitle failed
  rw [← hsplit] at hdrop
  rw [hdrop]
  dsimp only
  generalize rest.dropWhile isBlank = title at hlast
  by_cases hnil : dropStatus title = []
  · have hnone : ∀ tail ∈ statusTails, condition? tail = none := by decide
    have htitleNone : condition? title = none := by
      obtain ⟨tail, htail, happ⟩ := exists_longestTail title
      rw [hnil, List.nil_append] at happ
      rcases htail.1 with rfl | hmem
      · rw [happ]
        decide
      · rw [happ, hnone tail hmem]
    rw [if_pos hnil, hnil, if_neg (by decide), htitleNone]
    cases failed <;> decide
  · have hname : String.ofList (dropStatus title) = "while" ↔
        dropStatus title = "while".toList := by
      rw [← String.toList_inj, String.toList_ofList]
    simp only [hname]
    rw [if_neg hnil, condition?_header_title hnil hlast]

/-- A line with the title `while` that opens a loop has an empty condition. -/
theorem loopStart?_of_title_while {line : String} (hline : OneLine line) {found : Start}
    (hfound : start? line = some found) (htitle : found.heading.title = "while") :
    loopStart? line = none ∨ loopStart? line = some "" := by
  obtain ⟨rest, hrest⟩ := exists_rest_of_start? hfound
  rw [heading_eq hline hrest hfound] at htitle
  rw [loopStart?_eq hline hrest]
  obtain ⟨tail, htail, happ⟩ := exists_longestTail (rest.dropWhile isBlank)
  have hword : dropStatus (rest.dropWhile isBlank) = "while".toList := by
    rw [← htitle, String.toList_ofList]
  have hconditions : ∀ tail ∈ [] :: statusTails,
      condition? ("while".toList ++ tail) = none ∨
        condition? ("while".toList ++ tail) = some "" := by
    decide
  rw [happ, hword]
  exact hconditions tail (List.mem_cons.mpr htail.1)

/-- A header of a loop opens a loop with the same condition. -/
theorem loopStart?_header_of_isLoopStart {line : String} (hline : OneLine line)
    (htrim : trimEnd line = line) {found : Start} (hfound : start? line = some found)
    (hloop : isLoopStart line = true) (failed : Bool) :
    loopStart? (found.header failed) = loopStart? line := by
  rw [loopStart?_header hline htrim hfound]
  split
  · rename_i htitle
    rcases loopStart?_of_title_while hline hfound htitle with hnone | hsome
    · rw [isLoopStart, hnone] at hloop
      exact absurd hloop Bool.false_ne_true
    · exact hsome.symm
  · rfl

/-- The heading is all that a fold keeps of its start line. -/
theorem ofStart_eq_of_heading_eq {first again : Start} (h : again.heading = first.heading)
    (depth : Nat) : Fold.ofStart again depth = Fold.ofStart first depth := by
  have hmarker : withoutStatus again.marker = withoutStatus first.marker :=
    congrArg Heading.marker h
  have htitle : withoutStatus again.title = withoutStatus first.title :=
    congrArg Heading.title h
  simp only [Fold.ofStart, Fold.opened, Option.getD_some, hmarker, htitle]

/-- A rendered header opens the same fold as its line.  It is the same kind of line unless the line
opens a plain fold with the title `while`; then the header opens a loop with an empty condition. -/
theorem header_read_again {line : String} (hline : OneLine line) (htrim : trimEnd line = line)
    {found : Start} (hfound : start? line = some found) (failed : Bool) :
    (∃ again, start? (found.header failed) = some again ∧
      ∀ depth, Fold.ofStart again depth = Fold.ofStart found depth) ∧
    (loopStart? (found.header failed) = loopStart? line ↔
      ¬(withoutStatus found.title = "while" ∧ loopStart? line = none)) ∧
    (withoutStatus found.title = "while" → loopStart? (found.header failed) = some "") := by
  obtain ⟨again, hagain, hheading⟩ := start?_header hline hfound failed
  have hloop := loopStart?_header hline htrim hfound failed
  refine ⟨⟨again, hagain, fun depth => ofStart_eq_of_heading_eq hheading depth⟩, ?_, ?_⟩
  · rw [hloop]
    split
    · rename_i hname
      rcases loopStart?_of_title_while hline hfound hname with hnone | hsome
      · rw [hnone]
        simp only [reduceCtorEq, and_true, false_iff, Classical.not_not]
        exact hname
      · rw [hsome]
        simp
    · rename_i hname
      simp only [true_iff]
      exact fun h => hname h.1
  · intro hname
    rw [hloop]
    exact if_pos hname

/-- A plain fold with the title `while` is rendered with a header that opens a loop. -/
theorem header_of_while_opens_loop :
    start? "###\x7b while" = some ⟨"###\x7b while", "while"⟩ ∧ loopStart? "###\x7b while" = none ∧
      loopStart? ((Start.mk "###\x7b while" "while").header false) = some "" := by
  have hfound : start? "###\x7b while" = some ⟨"###\x7b while", "while"⟩ := by decide
  have hread := header_read_again (by decide) (by decide) hfound false
  exact ⟨hfound, by decide, hread.2.2 (by decide)⟩

end Foldbook.Marker
