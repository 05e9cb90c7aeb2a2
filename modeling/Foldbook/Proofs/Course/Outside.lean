import Foldbook.Proofs.Composition
import Foldbook.Proofs.Course.Run

/-!
# Lines outside of folds

What a run does to the lines that stand in no fold.

* `joinSegments_eq_intercalate_iff`: putting segments below each other loses
  empty ones in front, and nothing else.
* `Course.Outside.takeWhile_segments`: the empty segments in front of a
  course are the blank lines in front of the document, since a fold is never
  rendered to nothing.
* `runLines_outside`: the text of a document without loops is its lines and
  the renderings of its folds, separated by single line feeds, without the
  blank lines in front.
-/

namespace Foldbook

open Text

/-! ## Segments in front -/

/-- What is left are the segments behind the empty ones in front. -/
theorem joinSegments_eq_drop (segments : List String) :
    joinSegments segments =
      "\n".intercalate (segments.drop (segments.takeWhile String.isEmpty).length) := by
  have hsplit := List.takeWhile_append_dropWhile (p := String.isEmpty) (l := segments)
  calc joinSegments segments
      = "\n".intercalate
          ((segments.takeWhile String.isEmpty ++ segments.dropWhile String.isEmpty).drop
            (segments.takeWhile String.isEmpty).length) := by rw [List.drop_left, joinSegments]
    _ = "\n".intercalate (segments.drop (segments.takeWhile String.isEmpty).length) := by
          rw [hsplit]

theorem length_joinSegments_le (segments : List String) :
    (joinSegments segments).length ≤ ("\n".intercalate segments).length := by
  induction segments with
  | nil => exact Nat.le_refl _
  | cons segment segments ih =>
      by_cases hempty : segment = ""
      · rw [hempty, joinSegments_cons_empty]
        cases segments with
        | nil => exact Nat.zero_le _
        | cons next segments =>
            rw [String.intercalate_cons_cons, String.length_append]
            exact Nat.le_trans ih (Nat.le_add_left _ _)
      · have heq := joinSegments_cons_of_ne_empty hempty segments
        exact Nat.le_of_eq (congrArg String.length heq)

/-- A line feed is lost with every empty segment in front of another one. -/
theorem joinSegments_eq_intercalate_iff {segments : List String} :
    joinSegments segments = "\n".intercalate segments ↔
      segments.takeWhile String.isEmpty = [] ∨ segments.length = 1 := by
  cases segments with
  | nil => exact iff_of_true rfl (.inl rfl)
  | cons segment segments =>
      by_cases hempty : segment = ""
      · subst hempty
        cases segments with
        | nil => exact iff_of_true rfl (.inr rfl)
        | cons next segments =>
            refine iff_of_false (fun heq => ?_) (by simp)
            have hle := length_joinSegments_le (next :: segments)
            rw [joinSegments_cons_empty, String.intercalate_cons_cons] at heq
            rw [heq, String.length_append, String.length_append] at hle
            have hfeed : "\n".length = 1 := rfl
            omega
      · refine iff_of_true (joinSegments_cons_of_ne_empty hempty segments) (.inl ?_)
        rw [List.takeWhile_cons_of_neg (by simpa using hempty)]

/-! ## Lines in front -/

/-- How many blank lines a document begins with. -/
def blanksInFront (document : List String) : Nat :=
  ((document.map trimEnd).takeWhile String.isEmpty).length

/-- The start line of a fold is not blank. -/
theorem Contents.Shaped.start_ne_empty {nested unended : Bool} {start : String} {inside : Contents}
    {ending : Option String} {more : Contents}
    (h : Shaped nested unended (.fold start inside ending more)) : start ≠ "" := by
  have hblank : Marker.start? "" = none := by decide
  rintro rfl
  cases h with
  | fold hstart => exact absurd (hblank.symm.trans hstart) (by simp)
  | unended hstart => exact absurd (hblank.symm.trans hstart) (by simp)

namespace Course

theorem segments_eq_nil_iff {c : Course} : c.segments = [] ↔ c.contents.lines = [] := by
  cases c <;> simp [segments, contents, Contents.lines]

/-- The empty segments in front are the blank lines in front. -/
theorem Outside.takeWhile_segments {c : Course} (h : c.Outside)
    (hshaped : ∃ unended, c.contents.Shaped false unended) :
    c.segments.takeWhile String.isEmpty = c.contents.lines.takeWhile String.isEmpty := by
  induction h with
  | empty => rfl
  | line _ ih =>
      obtain ⟨unended, hshaped⟩ := hshaped
      rw [segments, contents, Contents.lines, List.takeWhile_cons, List.takeWhile_cons,
        ih ⟨unended, hshaped.of_line⟩]
  | @fold inner result last start inside ending more hinside hlast _ _ =>
      obtain ⟨unended, hshaped⟩ := hshaped
      have hran : FoldCourse.Ran ⟨start, inside, last, ending, result⟩ := ⟨0, inner, hinside, hlast⟩
      have hrender : result.render.1 ≠ "" := Fold.render_ne_empty hran.rendered
      have hstart : start ≠ "" := hshaped.start_ne_empty
      rw [segments, contents, Contents.lines, List.takeWhile_cons_of_neg (by simpa using hrender),
        List.takeWhile_cons_of_neg (by simpa using hstart)]

/-- Behind a blank line there is another segment if there is another line. -/
theorem length_segments_eq_one_iff {c : Course}
    (hshaped : ∃ unended, c.contents.Shaped false unended)
    (hfront : c.contents.lines.takeWhile String.isEmpty ≠ []) :
    c.segments.length = 1 ↔ c.contents.lines.length = 1 := by
  cases c with
  | empty => exact absurd rfl hfront
  | line text reading more =>
      rw [segments, contents, Contents.lines, List.length_cons, List.length_cons,
        Nat.add_eq_right, Nat.add_eq_right, List.length_eq_zero_iff, List.length_eq_zero_iff]
      exact segments_eq_nil_iff
  | fold before start inside last ending result more =>
      obtain ⟨unended, hshaped⟩ := hshaped
      have hstart : start ≠ "" := hshaped.start_ne_empty
      refine absurd ?_ hfront
      rw [contents, Contents.lines, List.takeWhile_cons_of_neg (by simpa using hstart)]

end Course

/-! ## The text of a run -/

/-- The text of a document without loops is its lines and the renderings of its folds, separated by
single line feeds, without the blank lines in front.  So every line is there exactly if the first
one is not blank or there is no other one. -/
theorem runLines_outside {m : Type → Type} [Monad m] [LawfulMonad m] (s : Services m)
    {document : List String} (h : Loopless document) :
    (∃ c : Contents, c.Represents document) ∧
      ∀ c : Contents, c.Represents document →
        Yields (fun text => ∃ course : Course, course.contents = c ∧ course.Outside ∧
          text = "\n".intercalate (course.segments.drop (blanksInFront document)) ∧
          (text = "\n".intercalate course.segments ↔
            blanksInFront document = 0 ∨ document.length = 1))
          (Document.runLines s document) := by
  refine ⟨Contents.exists_represents document, fun c hc => ?_⟩
  refine (hc.runLines_yields s h).mono fun text hcourse => ?_
  obtain ⟨course, rfl, houtside, rfl⟩ := hcourse
  have hfront := houtside.takeWhile_segments hc.shaped
  have hblanks : (course.segments.takeWhile String.isEmpty).length = blanksInFront document := by
    rw [hfront, hc.lines_eq, blanksInFront]
  refine ⟨course, rfl, houtside, ?_, ?_⟩
  · rw [Course.text, joinSegments_eq_drop, hblanks]
  · rw [Course.text, joinSegments_eq_intercalate_iff, ← hblanks, List.length_eq_zero_iff]
    by_cases hnone : course.segments.takeWhile String.isEmpty = []
    · exact iff_of_true (.inl hnone) (.inl hnone)
    · rw [Course.length_segments_eq_one_iff hc.shaped (hfront ▸ hnone), hc.lines_eq,
        List.length_map]

/-- A document with blank lines in front of its text and around its fold. -/
def spacedDocument : List String :=
  ["", " ", "text ", "", "", "###\x7b a", "GET b", "###\x7d", "", "###\x7d c"]

/-- The two blank lines in front are not in its text. -/
theorem runLines_outside_spaced :
    Loopless spacedDocument ∧
      ((∃ c : Contents, c.Represents spacedDocument) ∧
        ∀ c : Contents, c.Represents spacedDocument →
          Yields (fun text => ∃ course : Course, course.contents = c ∧ course.Outside ∧
            text = "\n".intercalate (course.segments.drop (blanksInFront spacedDocument)) ∧
            (text = "\n".intercalate course.segments ↔
              blanksInFront spacedDocument = 0 ∨ spacedDocument.length = 1))
            (Document.runLines silentServices spacedDocument)) ∧
      blanksInFront spacedDocument = 2 ∧
      ((Document.runLines silentServices spacedDocument).run ()).1 =
        "text\n\n\n###\x7b a executed (SUCCESS)\nGET b\n########## a RESULT\n###\x7d\n\n" ++
          "###\x7d c" := by
  have hloopless : Loopless spacedDocument := by decide
  exact ⟨hloopless, runLines_outside silentServices hloopless, by decide +kernel,
    by decide +kernel⟩

end Foldbook
