import Foldbook.Proofs.Outline.Basic

/-!
# Writing an outline and reading it back

A run writes a document back: its own lines, a header and an end line for
each fold, and at the end of each top-level fold a section with results.
`WrittenInside` and `Written` say which lines these are; the statuses and
the results are whatever the run made of them.

* `Entry.Proper` holds of the entries that the lines of a document are read
  to (`proper_ofLines`).
* `ofLines_writtenInside` and `ofLines_written` read the written lines to
  the entries that they were written for, as long as no result looks like a
  start or an end line.
-/

namespace Foldbook

open Text

/-! ## Lines without a meaning, and headings -/

namespace Marker

/-- A line that begins neither like a start line nor like an end line. -/
def Quiet (line : String) : Prop := startsWith line start = false ∧ startsWith line finish = false

instance (line : String) : Decidable (Quiet line) := inferInstanceAs (Decidable (_ ∧ _))

theorem Quiet.trimEnd {line : String} (h : Quiet line) : Quiet (trimEnd line) := by
  unfold Quiet
  rw [startsWith_trimEnd (by decide), startsWith_trimEnd (by decide)]
  exact h

/-- A divider is neither of them. -/
theorem quiet_of_isDivider {line : String} (h : isDivider line = true) : Quiet line :=
  ⟨startsWith_of_isDivider h, startsWith_eq_false_of_startsWith h (by decide) (by decide)⟩

/-- The first line of a fold with this heading when it is written back. -/
def Heading.header (heading : Heading) (failed : Bool) : String :=
  heading.marker ++ statusEnding failed

theorem Start.header_eq (s : Start) (failed : Bool) : s.header failed = s.heading.header failed :=
  rfl

/-- A heading that was read off a line, and whose header opens no loop. -/
def Heading.Proper (heading : Heading) : Prop :=
  ∃ line found, OneLine line ∧ start? line = some found ∧ found.heading = heading ∧
    ∀ failed, isLoopStart (found.header failed) = false

namespace Heading

variable {heading : Heading} (h : heading.Proper) (failed : Bool)

include h

/-- A header is read to the heading that it was written for. -/
theorem Proper.start?_header :
    ∃ again, start? (heading.header failed) = some again ∧ again.heading = heading := by
  obtain ⟨line, found, hline, hfound, rfl, -⟩ := h
  exact Marker.start?_header hline hfound failed

theorem Proper.oneLine_header : OneLine (heading.header failed) := by
  obtain ⟨line, found, hline, hfound, rfl, -⟩ := h
  obtain ⟨rest, hrest⟩ := exists_rest_of_start? hfound
  have hmarker := start?_eq hline hrest
  rw [hfound, Option.some.injEq] at hmarker
  rw [← Start.header_eq]
  refine Marker.oneLine_header ?_ failed
  rw [hmarker]
  exact hline

theorem Proper.trimEnd_header : trimEnd (heading.header failed) = heading.header failed := by
  obtain ⟨line, found, -, -, rfl, -⟩ := h
  exact Marker.trimEnd_header found failed

theorem Proper.isLoopStart_header : isLoopStart (heading.header failed) = false := by
  obtain ⟨line, found, -, -, rfl, hloop⟩ := h
  exact hloop failed

theorem Proper.oneLine_title : OneLine heading.title := by
  obtain ⟨line, found, hline, hfound, rfl, -⟩ := h
  obtain ⟨rest, hrest⟩ := exists_rest_of_start? hfound
  obtain ⟨tail, -, hsplit⟩ := exists_longestTail (rest.dropWhile isBlank)
  rw [heading_eq hline hrest hfound]
  unfold OneLine at *
  rw [String.toList_ofList]
  intro hmem
  refine hline ?_
  rw [hrest]
  refine List.mem_append_right _ ((List.dropWhile_suffix isBlank).subset ?_)
  rw [hsplit]
  exact List.mem_append_left _ hmem

end Heading

end Marker

/-- A line as it is read: without a line feed in it and without blanks at its end. -/
structure Trimmed (line : String) : Prop where
  oneLine : OneLine line
  trim : trimEnd line = line

theorem trimmed_trimEnd {line : String} (h : OneLine line) : Trimmed (trimEnd line) :=
  ⟨h.trimEnd, trimEnd_idem line⟩

theorem map_trimEnd {lines : List String} (h : ∀ line ∈ lines, Trimmed line) :
    lines.map trimEnd = lines := by
  induction lines with
  | nil => rfl
  | cons line lines ih =>
      obtain ⟨hline, hlines⟩ := List.forall_mem_cons.mp h
      rw [List.map_cons, hline.trim, ih hlines]

/-! ## Entries that were read -/

/-- An entry that can stand inside of a fold. -/
inductive Entry.Proper : Entry → Prop
  | line {text : String} (htext : Trimmed text) (hstart : Marker.start? text = none)
      (hdivider : Marker.isDivider text = false) (hend : Marker.isEnd text = false) :
      Proper (.line text)
  | fold {heading : Marker.Heading} {entries : List Entry} {ending : String}
      (hheading : heading.Proper) (hentries : ∀ entry ∈ entries, entry.Proper)
      (hending : Trimmed ending) (hend : Marker.isEnd ending = true) :
      Proper (.fold heading entries ending)

theorem Entry.Proper.of_fold {heading : Marker.Heading} {entries : List Entry} {ending : String}
    (h : Entry.Proper (.fold heading entries ending)) :
    heading.Proper ∧ (∀ entry ∈ entries, entry.Proper) ∧ Marker.isEnd ending = true := by
  cases h with
  | fold hheading hentries hending hend => exact ⟨hheading, hentries, hend⟩

/-- An entry that can stand outside of folds. -/
inductive Entry.ProperOutside : Entry → Prop
  | line {text : String} (htext : Trimmed text) (hstart : Marker.start? text = none) :
      ProperOutside (.line text)
  | fold {heading : Marker.Heading} {entries : List Entry} {ending : String}
      (h : Entry.Proper (.fold heading entries ending)) :
      ProperOutside (.fold heading entries ending)

namespace Rest

/-- What can be left of a document. -/
inductive Proper : Rest → Prop
  | outside {entries : List Entry} (hentries : ∀ entry ∈ entries, entry.ProperOutside) :
      Proper (.outside entries)
  | inside {entries : List Entry} {ending : String} {around : Rest}
      (hentries : ∀ entry ∈ entries, entry.Proper) (hending : Trimmed ending)
      (hend : Marker.isEnd ending = true) (haround : around.Proper) :
      Proper (.inside entries ending around)

theorem Proper.prepend {entry : Entry} {rest : Rest} (h : rest.Proper)
    (hinside : rest.depth ≠ 0 → entry.Proper) (houtside : rest.depth = 0 → entry.ProperOutside) :
    (rest.prepend [entry]).Proper := by
  cases h with
  | outside hentries =>
      refine .outside fun e he => ?_
      rcases List.mem_cons.mp he with rfl | he
      · exact houtside rfl
      · exact hentries e he
  | inside hentries hending hend haround =>
      refine .inside (fun e he => ?_) hending hend haround
      rcases List.mem_cons.mp he with rfl | he
      · exact hinside (by simp [depth])
      · exact hentries e he

theorem Proper.enfold {heading : Marker.Heading} {rest : Rest} (h : rest.Proper)
    (hheading : heading.Proper) : (rest.enfold heading).Proper := by
  cases h with
  | outside hentries => exact .outside hentries
  | inside hentries hending hend haround =>
      have hfold := Entry.Proper.fold hheading hentries hending hend
      exact haround.prepend (fun _ => hfold) fun _ => .fold hfold

theorem proper_unclosed (count : Nat) : (unclosed count).Proper := by
  induction count with
  | zero => exact .outside fun e he => absurd he List.not_mem_nil
  | succ count ih =>
      exact .inside (fun e he => absurd he List.not_mem_nil) ⟨by decide, by decide⟩ (by decide) ih

/-- The lines of a document are read to proper entries. -/
theorem proper_ofLines {lines : List String} (hlines : ∀ line ∈ lines, Trimmed line)
    (hheaders : ∀ line ∈ lines, ∀ found ∈ Marker.start? line, ∀ failed,
      Marker.isLoopStart (found.header failed) = false)
    (stale : List Bool) : (ofLines stale lines).Proper := by
  induction lines generalizing stale with
  | nil => exact proper_unclosed _
  | cons line more ih =>
      have hline := hlines line List.mem_cons_self
      have hmore := ih (fun l hl => hlines l (List.mem_cons_of_mem _ hl))
        (fun l hl => hheaders l (List.mem_cons_of_mem _ hl))
      cases hstart : Marker.start? line with
      | some found =>
          rw [ofLines_start _ _ hstart]
          refine (hmore _).enfold ⟨line, found, hline.oneLine, hstart, rfl, ?_⟩
          exact hheaders line List.mem_cons_self found hstart
      | none =>
          cases stale with
          | nil =>
              rw [ofLines_text _ hstart]
              refine (hmore _).prepend (fun h => ?_) fun _ => .line hline hstart
              exact absurd (depth_ofLines _ _) h
          | cons old around =>
              by_cases hdivider : Marker.isDivider line = true
              · rw [ofLines_divider _ _ _ hstart hdivider]
                exact hmore _
              rw [Bool.not_eq_true] at hdivider
              by_cases hend : Marker.isEnd line = true
              · rw [ofLines_end _ _ _ hstart hdivider hend]
                exact .inside (fun e he => absurd he List.not_mem_nil) hline hend (hmore _)
              rw [Bool.not_eq_true] at hend
              cases old with
              | true =>
                  rw [ofLines_stale _ _ hstart hdivider hend]
                  exact hmore _
              | false =>
                  rw [ofLines_own _ _ hstart hdivider hend]
                  refine (hmore _).prepend (fun _ => .line hline hstart hdivider hend) fun h => ?_
                  rw [depth_ofLines, List.length_cons] at h
                  exact absurd h (Nat.succ_ne_zero _)

end Rest

/-! ## Lines that are written -/

/-- The lines of entries as they are written back inside of a fold. -/
inductive WrittenInside : List Entry → List String → Prop
  | nil : WrittenInside [] []
  | line {entries : List Entry} {lines : List String} (text : String)
      (hrest : WrittenInside entries lines) : WrittenInside (.line text :: entries) (text :: lines)
  | fold {inner entries : List Entry} {inside lines : List String} (heading : Marker.Heading)
      (ending : String) (failed : Bool) (hinner : WrittenInside inner inside)
      (hrest : WrittenInside entries lines) :
      WrittenInside (.fold heading inner ending :: entries)
        (heading.header failed :: inside ++ ending :: lines)

/-- The lines of entries as they are written back outside of folds. -/
inductive Written : List Entry → List String → Prop
  | nil : Written [] []
  | line {entries : List Entry} {lines : List String} (text : String)
      (hrest : Written entries lines) : Written (.line text :: entries) (text :: lines)
  | fold {inner entries : List Entry} {inside results lines : List String}
      (heading : Marker.Heading) (ending divider : String) (failed : Bool)
      (hinner : WrittenInside inner inside) (hdivider : Marker.isDivider divider = true)
      (hresults : ∀ line ∈ results, Marker.Quiet line)
      (hlines : ∀ line ∈ divider :: results, OneLine line) (hrest : Written entries lines) :
      Written (.fold heading inner ending :: entries)
        (heading.header failed :: inside ++ divider :: results ++ ending :: lines)

theorem WrittenInside.append {xs ys : List Entry} {ls ks : List String} (hx : WrittenInside xs ls)
    (hy : WrittenInside ys ks) : WrittenInside (xs ++ ys) (ls ++ ks) := by
  induction hx with
  | nil => exact hy
  | line text _ ih => exact .line text ih
  | fold heading ending failed hinner _ _ ih =>
      have hfold := WrittenInside.fold heading ending failed hinner ih
      simpa using hfold

/-! ## Reading written lines -/

namespace WrittenInside

variable {entries : List Entry} {lines : List String} (h : WrittenInside entries lines)

include h

theorem trimmed (hproper : ∀ entry ∈ entries, entry.Proper) : ∀ line ∈ lines, Trimmed line := by
  induction h with
  | nil => exact fun line hline => absurd hline List.not_mem_nil
  | line text _ ih =>
      obtain ⟨hentry, hproper⟩ := List.forall_mem_cons.mp hproper
      cases hentry with
      | line htext => exact List.forall_mem_cons.mpr ⟨htext, ih hproper⟩
  | fold heading ending failed _ _ ihinner ih =>
      obtain ⟨hentry, hproper⟩ := List.forall_mem_cons.mp hproper
      cases hentry with
      | fold hheading hentries hending hend =>
          intro line hline
          simp only [List.cons_append, List.mem_cons, List.mem_append] at hline
          rcases hline with rfl | hline | rfl | hline
          · exact ⟨hheading.oneLine_header failed, hheading.trimEnd_header failed⟩
          · exact ihinner hentries line hline
          · exact hending
          · exact ih hproper line hline

theorem loopless (hproper : ∀ entry ∈ entries, entry.Proper) :
    ∀ line ∈ lines, Marker.isLoopStart line = false := by
  induction h with
  | nil => exact fun line hline => absurd hline List.not_mem_nil
  | line text _ ih =>
      obtain ⟨hentry, hproper⟩ := List.forall_mem_cons.mp hproper
      cases hentry with
      | line htext hstart =>
          refine List.forall_mem_cons.mpr ⟨?_, ih hproper⟩
          exact Marker.isLoopStart_eq_false (Marker.startsWith_start_eq_false htext.oneLine hstart)
  | fold heading ending failed _ _ ihinner ih =>
      obtain ⟨hentry, hproper⟩ := List.forall_mem_cons.mp hproper
      cases hentry with
      | fold hheading hentries hending hend =>
          intro line hline
          simp only [List.cons_append, List.mem_cons, List.mem_append] at hline
          rcases hline with rfl | hline | rfl | hline
          · exact hheading.isLoopStart_header failed
          · exact ihinner hentries line hline
          · exact Marker.isLoopStart_of_isEnd hend
          · exact ih hproper line hline

end WrittenInside

namespace Rest

@[simp] theorem prepend_nil (rest : Rest) : rest.prepend [] = rest := by
  cases rest <;> rfl

theorem prepend_prepend (before after : List Entry) (rest : Rest) :
    (rest.prepend after).prepend before = rest.prepend (before ++ after) := by
  cases rest <;> simp [prepend]

/-- The lines that were written inside of a fold are read to the entries that they were written
for. -/
theorem ofLines_writtenInside {entries : List Entry} {lines : List String}
    (h : WrittenInside entries lines) (hproper : ∀ entry ∈ entries, entry.Proper)
    (around : List Bool) (behind : List String) :
    ofLines (false :: around) (lines ++ behind) =
      (ofLines (false :: around) behind).prepend entries := by
  induction h generalizing around behind with
  | nil => rw [List.nil_append, prepend_nil]
  | line text _ ih =>
      obtain ⟨hentry, hproper⟩ := List.forall_mem_cons.mp hproper
      cases hentry with
      | line htext hstart hdivider hend =>
          rw [List.cons_append, ofLines_own _ _ hstart hdivider hend, ih hproper, prepend_prepend,
            List.singleton_append]
  | @fold inner entries inside lines heading ending failed _ _ ihinner ih =>
      obtain ⟨hentry, hproper⟩ := List.forall_mem_cons.mp hproper
      cases hentry with
      | fold hheading hentries hending hend =>
          obtain ⟨again, hagain, hsame⟩ := hheading.start?_header failed
          have hplain := Marker.startsWith_of_isEnd hend
          have hlines : heading.header failed :: inside ++ ending :: lines ++ behind =
              heading.header failed :: (inside ++ (ending :: (lines ++ behind))) := by
            simp
          calc ofLines (false :: around)
                (heading.header failed :: inside ++ ending :: lines ++ behind)
              = (ofLines (false :: false :: around) (inside ++ ending :: (lines ++ behind))).enfold
                  heading := by
                rw [hlines, ofLines_start _ _ hagain, hsame]
            _ = (Rest.inside inner ending (ofLines (false :: around) (lines ++ behind))).enfold
                  heading := by
                rw [ihinner hentries,
                  ofLines_end _ _ _ (Marker.start?_eq_none hplain.1) hplain.2 hend, prepend,
                  List.append_nil]
            _ = (ofLines (false :: around) behind).prepend
                  (.fold heading inner ending :: entries) := by
                rw [enfold, ih hproper, prepend_prepend, List.singleton_append]

/-- Old results are passed over. -/
theorem ofLines_results {results : List String} (h : ∀ line ∈ results, Marker.Quiet line)
    (around : List Bool) (behind : List String) :
    ofLines (true :: around) (results ++ behind) = ofLines (true :: around) behind := by
  induction results with
  | nil => rw [List.nil_append]
  | cons line results ih =>
      obtain ⟨⟨hstart, hend⟩, hresults⟩ := List.forall_mem_cons.mp h
      have hnone := Marker.start?_eq_none hstart
      rw [List.cons_append]
      by_cases hdivider : Marker.isDivider line = true
      · rw [ofLines_divider _ _ _ hnone hdivider, ih hresults]
      · rw [Bool.not_eq_true] at hdivider
        rw [ofLines_stale _ _ hnone hdivider hend, ih hresults]

/-- The lines that were written for a document are read to its entries. -/
theorem ofLines_written {entries : List Entry} {lines : List String} (h : Written entries lines)
    (hproper : ∀ entry ∈ entries, entry.ProperOutside) :
    ofLines [] (lines.map trimEnd) = outside entries := by
  induction h with
  | nil => rfl
  | line text _ ih =>
      obtain ⟨hentry, hproper⟩ := List.forall_mem_cons.mp hproper
      cases hentry with
      | line htext hstart =>
          rw [List.map_cons, htext.trim, ofLines_text _ hstart, ih hproper]
          rfl
  | @fold inner entries inside results lines heading ending divider failed hinner hdivider hresults
      _ _ ih =>
      obtain ⟨hentry, hproper⟩ := List.forall_mem_cons.mp hproper
      cases hentry with
      | fold hfold =>
          cases hfold with
          | fold hheading hentries hending hend =>
              obtain ⟨again, hagain, hsame⟩ := hheading.start?_header failed
              have hplain := Marker.startsWith_of_isEnd hend
              have hdivider' : Marker.isDivider (trimEnd divider) = true := by
                rw [Marker.isDivider, startsWith_trimEnd (by decide)]
                exact hdivider
              have hnone := Marker.start?_eq_none (Marker.startsWith_of_isDivider hdivider')
              have hresults' : ∀ line ∈ results.map trimEnd, Marker.Quiet line := by
                intro line hline
                obtain ⟨old, hold, rfl⟩ := List.mem_map.mp hline
                exact (hresults old hold).trimEnd
              have hlines : (heading.header failed :: inside ++ divider :: results ++
                    ending :: lines).map trimEnd =
                  heading.header failed :: (inside ++ (trimEnd divider ::
                    (results.map trimEnd ++ ending :: lines.map trimEnd))) := by
                simp [hheading.trimEnd_header failed, map_trimEnd (hinner.trimmed hentries),
                  hending.trim]
              rw [hlines, ofLines_start _ _ hagain, hsame, ofLines_writtenInside hinner hentries,
                ofLines_divider _ _ _ hnone hdivider', ofLines_results hresults',
                ofLines_end _ _ _ (Marker.start?_eq_none hplain.1) hplain.2 hend, ih hproper]
              simp [prepend, enfold]

end Rest

/-- The lines that were written for a document open no loops. -/
theorem Written.loopless {entries : List Entry} {lines : List String} (h : Written entries lines)
    (hproper : ∀ entry ∈ entries, entry.ProperOutside) :
    ∀ line ∈ lines, Marker.isLoopStart (trimEnd line) = false := by
  induction h with
  | nil => exact fun line hline => absurd hline List.not_mem_nil
  | line text _ ih =>
      obtain ⟨hentry, hproper⟩ := List.forall_mem_cons.mp hproper
      cases hentry with
      | line htext hstart =>
          refine List.forall_mem_cons.mpr ⟨?_, ih hproper⟩
          rw [htext.trim]
          exact Marker.isLoopStart_eq_false (Marker.startsWith_start_eq_false htext.oneLine hstart)
  | fold heading ending divider failed hinner hdivider hresults _ _ ih =>
      obtain ⟨hentry, hproper⟩ := List.forall_mem_cons.mp hproper
      cases hentry with
      | fold hfold =>
          cases hfold with
          | fold hheading hentries hending hend =>
              intro line hline
              simp only [List.cons_append, List.mem_cons, List.mem_append, or_assoc] at hline
              rcases hline with rfl | hline | rfl | hline | rfl | hline
              · rw [hheading.trimEnd_header]
                exact hheading.isLoopStart_header failed
              · rw [(hinner.trimmed hentries line hline).trim]
                exact hinner.loopless hentries line hline
              · refine Marker.isLoopStart_eq_false ?_
                rw [startsWith_trimEnd (by decide)]
                exact Marker.startsWith_of_isDivider hdivider
              · refine Marker.isLoopStart_eq_false ?_
                rw [startsWith_trimEnd (by decide)]
                exact (hresults line hline).1
              · rw [hending.trim]
                exact Marker.isLoopStart_of_isEnd hend
              · exact ih hproper line hline

theorem Written.oneLine {entries : List Entry} {lines : List String} (h : Written entries lines)
    (hproper : ∀ entry ∈ entries, entry.ProperOutside) : ∀ line ∈ lines, OneLine line := by
  induction h with
  | nil => exact fun line hline => absurd hline List.not_mem_nil
  | line text _ ih =>
      obtain ⟨hentry, hproper⟩ := List.forall_mem_cons.mp hproper
      cases hentry with
      | line htext => exact List.forall_mem_cons.mpr ⟨htext.oneLine, ih hproper⟩
  | fold heading ending divider failed hinner _ _ hlines _ ih =>
      obtain ⟨hentry, hproper⟩ := List.forall_mem_cons.mp hproper
      cases hentry with
      | fold hfold =>
          cases hfold with
          | fold hheading hentries hending hend =>
              intro line hline
              simp only [List.append_assoc, List.cons_append, List.mem_cons,
                List.mem_append] at hline
              rcases hline with rfl | hline | rfl | hline | rfl | hline
              · exact hheading.oneLine_header failed
              · exact (hinner.trimmed hentries line hline).oneLine
              · exact hlines line List.mem_cons_self
              · exact hlines line (List.mem_cons_of_mem _ hline)
              · exact hending.oneLine
              · exact ih hproper line hline

end Foldbook
