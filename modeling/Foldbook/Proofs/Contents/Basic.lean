import Foldbook.Proofs.Outline.Run
import Foldbook.Proofs.Outline.Written

/-!
# The contents of a document

A document without loops is a tree: lines and folds, and in each fold lines
and folds again.  `Contents` keeps every line as it stands there, those of
old results too.

* `Contents.Shaped` says that marker lines are what they have to be: only a
  start line opens a fold, the first end line that is left in a fold ends
  it, and a fold without one reaches to the end of the input.
* `exists_represents`: every document has such contents.
* `Contents.entries` leaves old results out, which gives the outline of the
  document (`ofLines_lines`).
-/

namespace Foldbook

open Text

/-- What stands in a document or in a fold: lines and folds, in order.  A fold has its start line,
what stands in it, and its end line if there is one. -/
inductive Contents where
  | empty
  | line (text : String) (more : Contents)
  | fold (start : String) (inside : Contents) (ending : Option String) (more : Contents)
  deriving DecidableEq, Repr

namespace Contents

/-- The lines one after the other. -/
def lines : Contents → List String
  | empty => []
  | line text more => text :: more.lines
  | fold start inside ending more => start :: (inside.lines ++ ending.toList ++ more.lines)

/-- The contents are divided as the marker lines say, in a fold if `nested`.  If `unended`, the last
fold has no end line, and nothing stands behind it. -/
inductive Shaped : (nested unended : Bool) → Contents → Prop
  | empty {nested : Bool} : Shaped nested false .empty
  | line {nested unended : Bool} {text : String} {more : Contents}
      (hstart : Marker.start? text = none) (hend : nested = true → Marker.isEnd text = false)
      (hmore : Shaped nested unended more) : Shaped nested unended (.line text more)
  | fold {nested unended : Bool} {start : String} {found : Marker.Start} {inside : Contents}
      {ending : String} {more : Contents} (hstart : Marker.start? start = some found)
      (hinside : Shaped true false inside) (hend : Marker.isEnd ending = true)
      (hmore : Shaped nested unended more) :
      Shaped nested unended (.fold start inside (some ending) more)
  | unended {nested unended : Bool} {start : String} {found : Marker.Start} {inside : Contents}
      (hstart : Marker.start? start = some found) (hinside : Shaped true unended inside) :
      Shaped nested true (.fold start inside none .empty)

theorem Shaped.of_line {nested unended : Bool} {text : String} {more : Contents}
    (h : Shaped nested unended (.line text more)) : Shaped nested unended more := by
  cases h with
  | line _ _ hmore => exact hmore

/-- A fold without an end line ends in the usual one. -/
theorem Shaped.of_fold {nested unended : Bool} {start : String} {inside : Contents}
    {ending : Option String} {more : Contents}
    (h : Shaped nested unended (.fold start inside ending more)) :
    (∃ unended, Shaped true unended inside) ∧ Marker.isEnd (ending.getD Marker.finish) = true ∧
      ∃ unended, Shaped nested unended more := by
  cases h with
  | fold _ hinside hend hmore => exact ⟨⟨_, hinside⟩, hend, _, hmore⟩
  | unended _ hinside => exact ⟨⟨_, hinside⟩, by decide, _, .empty⟩

/-- The contents of a document: its lines, trimmed on the right, divided as the marker lines say. -/
structure Represents (c : Contents) (document : List String) : Prop where
  lines_eq : c.lines = document.map trimEnd
  shaped : ∃ unended, Shaped false unended c

/-- Lines can be divided up to the end line of the fold that they stand in. -/
theorem exists_shaped (lines : List String) (nested : Bool) :
    ∃ c unended behind, Shaped nested unended c ∧ c.lines ++ behind = lines ∧
      (behind = [] ∨ nested = true ∧ unended = false ∧
        ∃ ending more, behind = ending :: more ∧ Marker.isEnd ending = true) := by
  -- a nested fold takes an unknown number of lines, so the induction is on how many are left
  induction hlength : lines.length using Nat.strongRecOn generalizing lines nested with
  | ind length ih =>
      subst hlength
      cases lines with
      | nil => exact ⟨.empty, false, [], .empty, rfl, .inl rfl⟩
      | cons line more =>
          have hmore : more.length < (line :: more).length := Nat.lt_succ_self _
          cases hstart : Marker.start? line with
          | some found =>
              obtain ⟨inside, unended, behind, hinside, hlines, hbehind⟩ :=
                ih _ hmore more true rfl
              rcases hbehind with rfl | ⟨-, rfl, ending, rest, rfl, hend⟩
              · refine ⟨.fold line inside none .empty, true, [], .unended hstart hinside, ?_,
                  .inl rfl⟩
                simpa [Contents.lines] using hlines
              · have hrest : rest.length < (line :: more).length := by
                  have hsum := congrArg List.length hlines
                  simp only [List.length_append, List.length_cons] at hsum ⊢
                  omega
                obtain ⟨behind, unended, left, hbehind, hothers, hleft⟩ :=
                  ih _ hrest rest nested rfl
                refine ⟨.fold line inside (some ending) behind, unended, left,
                  .fold hstart hinside hend hbehind, ?_, hleft⟩
                simp [Contents.lines, ← hlines, ← hothers]
          | none =>
              by_cases hend : nested = true ∧ Marker.isEnd line = true
              · obtain ⟨rfl, hend⟩ := hend
                exact ⟨.empty, false, line :: more, .empty, rfl,
                  .inr ⟨rfl, rfl, line, more, rfl, hend⟩⟩
              · obtain ⟨c, unended, behind, hc, hlines, hbehind⟩ := ih _ hmore more nested rfl
                refine ⟨.line line c, unended, behind, .line hstart ?_ hc, ?_, hbehind⟩
                · intro hnested
                  rw [Bool.eq_false_iff]
                  exact fun hline => hend ⟨hnested, hline⟩
                · simp [Contents.lines, hlines]

/-- Every document has contents. -/
theorem exists_represents (document : List String) : ∃ c : Contents, c.Represents document := by
  obtain ⟨c, unended, behind, hc, hlines, hbehind⟩ := exists_shaped (document.map trimEnd) false
  rcases hbehind with rfl | ⟨hnested, -⟩
  · rw [List.append_nil] at hlines
    exact ⟨c, hlines, unended, hc⟩
  · exact absurd hnested Bool.false_ne_true

end Contents

/-! ## The outline of contents -/

/-- The heading of a start line. -/
def Marker.headingOf (line : String) : Heading :=
  match start? line with
  | some found => found.heading
  | none => { marker := line, title := "" }

theorem Marker.headingOf_eq {line : String} {found : Start} (h : start? line = some found) :
    headingOf line = found.heading := by
  rw [headingOf, h]

namespace Contents

/-- The entries of a fold, behind its divider if `old`. -/
def entries (old : Bool) : Contents → List Entry
  | empty => []
  | line text more =>
    if Marker.isDivider text then more.entries true
    else if old then more.entries true
    else .line text :: more.entries false
  | fold start inside ending more =>
    .fold (Marker.headingOf start) (inside.entries false) (ending.getD Marker.finish) ::
      more.entries old

/-- The entries of a document. -/
def entriesOutside : Contents → List Entry
  | empty => []
  | line text more => .line text :: more.entriesOutside
  | fold start inside ending more =>
    .fold (Marker.headingOf start) (inside.entries false) (ending.getD Marker.finish) ::
      more.entriesOutside

/-- Whether the divider of a fold has been passed behind its contents. -/
def oldBehind (old : Bool) : Contents → Bool
  | empty => old
  | line text more => more.oldBehind (old || Marker.isDivider text)
  | fold _ _ _ more => more.oldBehind old

/-- A fold without an end line is read to an entry with the usual one. -/
theorem enfold_unclosed (heading : Marker.Heading) (count : Nat) (inside : List Entry) :
    ((Rest.unclosed (count + 1)).prepend inside).enfold heading =
      (Rest.unclosed count).prepend [.fold heading inside Marker.finish] := by
  rw [Rest.unclosed, Rest.prepend, Rest.enfold, List.append_nil]

/-- The lines inside of a fold are read to the entries of the contents. -/
theorem ofLines_lines_inside {c : Contents} {unended : Bool} (h : Shaped true unended c)
    (old : Bool) (around : List Bool) {behind : List String}
    (hbehind : unended = true → behind = []) :
    Rest.ofLines (old :: around) (c.lines ++ behind) =
      (Rest.ofLines (c.oldBehind old :: around) behind).prepend (c.entries old) := by
  induction c generalizing unended old around behind with
  | empty =>
      rw [entries, oldBehind, Rest.prepend_nil]
      rfl
  | line text more ih =>
      cases h with
      | line hstart hend hmore =>
          have hlater := fun now => ih hmore now around hbehind
          rw [lines, List.cons_append, entries, oldBehind]
          by_cases hdivider : Marker.isDivider text = true
          · rw [Rest.ofLines_divider _ _ _ hstart hdivider, hlater, hdivider, Bool.or_true]
            rfl
          · rw [Bool.not_eq_true] at hdivider
            rw [hdivider, Bool.or_false]
            cases old with
            | true =>
                rw [Rest.ofLines_stale _ _ hstart hdivider (hend rfl), hlater]
                rfl
            | false =>
                rw [Rest.ofLines_own _ _ hstart hdivider (hend rfl), hlater, Rest.prepend_prepend]
                rfl
  | fold start inside ending more ihinside ih =>
      cases h with
      | fold hstart hinside hend hmore =>
          rename_i found ending
          have hplain := Marker.startsWith_of_isEnd hend
          have hnone : false = true → ending :: (more.lines ++ behind) = [] := by simp
          have hlines : (fold start inside (some ending) more).lines ++ behind =
              start :: (inside.lines ++ ending :: (more.lines ++ behind)) := by
            simp [lines]
          rw [hlines, Rest.ofLines_start _ _ hstart, ihinside hinside _ _ hnone,
            Rest.ofLines_end _ _ _ (Marker.start?_eq_none hplain.1) hplain.2 hend, Rest.prepend,
            Rest.enfold, List.append_nil, ih hmore _ _ hbehind, Rest.prepend_prepend, entries,
            oldBehind, Marker.headingOf_eq hstart]
          rfl
      | unended hstart hinside =>
          obtain rfl := hbehind rfl
          have hlines : (fold start inside none empty).lines ++ [] =
              start :: (inside.lines ++ []) := by
            simp [lines]
          rw [hlines, Rest.ofLines_start _ _ hstart, ihinside hinside _ _ fun _ => rfl,
            Rest.ofLines, Rest.ofLines, List.length_cons, List.length_cons, List.length_cons,
            enfold_unclosed, entries, entries, Marker.headingOf_eq hstart]
          rfl

/-- The lines of a document are read to its entries. -/
theorem ofLines_lines {c : Contents} {unended : Bool} (h : Shaped false unended c) :
    Rest.ofLines [] c.lines = .outside c.entriesOutside := by
  induction c generalizing unended with
  | empty => rfl
  | line text more ih =>
      cases h with
      | line hstart hend hmore =>
          rw [lines, Rest.ofLines_text _ hstart, ih hmore]
          rfl
  | fold start inside ending more _ ih =>
      cases h with
      | fold hstart hinside hend hmore =>
          rename_i found ending
          have hplain := Marker.startsWith_of_isEnd hend
          have hnone : false = true → ending :: more.lines = [] := by simp
          have hlines : (fold start inside (some ending) more).lines =
              start :: (inside.lines ++ ending :: more.lines) := by
            simp [lines]
          rw [hlines, Rest.ofLines_start _ _ hstart, ofLines_lines_inside hinside _ _ hnone,
            Rest.ofLines_end _ _ _ (Marker.start?_eq_none hplain.1) hplain.2 hend, Rest.prepend,
            Rest.enfold, List.append_nil, ih hmore, entriesOutside, Marker.headingOf_eq hstart]
          rfl
      | unended hstart hinside =>
          have hlines : (fold start inside none empty).lines = start :: (inside.lines ++ []) := by
            simp [lines]
          rw [hlines, Rest.ofLines_start _ _ hstart, ofLines_lines_inside hinside _ _ fun _ => rfl,
            Rest.ofLines, List.length_cons, enfold_unclosed, entriesOutside,
            Marker.headingOf_eq hstart]
          rfl

end Contents

end Foldbook
