import Foldbook.Proofs.Contents.Basic
import Foldbook.Proofs.Events

/-!
# Carrying out the contents of a document

`Contents.evaluate` says what a document without loops means by recursion on
its contents: a fold is carried out from its start line to its end line, and
what is nested in it is carried out when its turn comes.

`runLines_eq_evaluate` says that this is what the interpreter does, which
takes one line after the other and keeps the open folds on a stack.  Both
are actions of any monad, so they ask the services the same questions in the
same order.
-/

namespace Foldbook

open Text

/-! ## Segments of a text -/

/-- Segments below each other.  Empty ones at the beginning leave nothing. -/
def joinSegments (segments : List String) : String :=
  "\n".intercalate (segments.dropWhile String.isEmpty)

theorem joinSegments_cons_empty (segments : List String) :
    joinSegments ("" :: segments) = joinSegments segments := rfl

theorem joinSegments_cons_of_ne_empty {segment : String} (h : segment ≠ "")
    (segments : List String) :
    joinSegments (segment :: segments) = "\n".intercalate (segment :: segments) := by
  rw [joinSegments, List.dropWhile_cons_of_neg (by simpa using h)]

theorem joinSegments_singleton (segment : String) : joinSegments [segment] = segment := by
  by_cases hempty : segment = ""
  · rw [hempty]
    rfl
  · rw [joinSegments_cons_of_ne_empty hempty, String.intercalate_singleton]

theorem foldl_addLine_eq_intercalate {out : String} (h : out ≠ "") (segments : List String) :
    segments.foldl addLine out = "\n".intercalate (out :: segments) := by
  induction segments generalizing out with
  | nil => rw [List.foldl_nil, String.intercalate_singleton]
  | cons segment segments ih =>
      have hne : out ++ "\n" ++ segment ≠ "" := by simp [String.append_eq_empty_iff, h]
      rw [List.foldl_cons, addLine_of_ne_empty h, ih hne]
      cases segments with
      | nil =>
          rw [String.intercalate_cons_cons, String.intercalate_singleton,
            String.intercalate_singleton]
      | cons next segments =>
          simp only [String.intercalate_cons_cons, String.append_assoc]

/-- Adding one segment after the other puts all of them below each other. -/
theorem foldl_addLine_eq_joinSegments (segments : List String) :
    segments.foldl addLine "" = joinSegments segments := by
  induction segments with
  | nil => rfl
  | cons segment segments ih =>
      rw [List.foldl_cons, addLine_empty]
      by_cases hempty : segment = ""
      · rw [hempty, ih, joinSegments_cons_empty]
      · rw [joinSegments_cons_of_ne_empty hempty, foldl_addLine_eq_intercalate hempty]

/-! ## The evaluator -/

namespace Contents

variable {m : Type → Type} [Monad m] (s : Services m)

/-- Carries out what stands in a fold that lies in `depth` folds, itself counted.  A line behind the
divider of the fold is passed over.  Any other line is kept, and read as long as nothing failed.
Before a nested fold the request is sent that is described so far; what the nested fold leaves goes
into the lines and the results. -/
def evaluateInside (depth : Nat) (old : Bool) (f : Fold) : Contents → m Fold
  | empty => pure f
  | line text more => do
    if Marker.isDivider text then more.evaluateInside depth true f
    else if old then more.evaluateInside depth true f
    else
      let f ← f.takeLine s text
      more.evaluateInside depth false f
  | fold start inside ending more => do
    let f ← f.issuePending s
    let inner ← (Marker.headingOf start).openFold s depth
    let inner ← inside.evaluateInside (depth + 1) false inner
    let inner ← inner.conclude s (ending.getD Marker.finish)
    more.evaluateInside depth old (f.enclose inner)

/-- Carries out a document: a line stands for itself, and a fold for its rendering. -/
def segments : Contents → m (List String)
  | empty => pure []
  | line text more => do
    let others ← more.segments
    pure (text :: others)
  | fold start inside ending more => do
    let f ← (Marker.headingOf start).openFold s 0
    let f ← inside.evaluateInside s 1 false f
    let f ← f.conclude s (ending.getD Marker.finish)
    let others ← more.segments
    pure (f.render.1 :: others)

/-- Carries out a document and answers it with the results. -/
def evaluate (c : Contents) : m String := do
  let segments ← c.segments s
  pure (joinSegments segments)

/-! ## The evaluator and the outline -/

variable [LawfulMonad m]

theorem runAll_entries (c : Contents) (depth : Nat) (old : Bool) (f : Fold) :
    Entry.runAll s depth f (c.entries old) = c.evaluateInside s depth old f := by
  induction c generalizing depth old f with
  | empty => rw [entries, Entry.runAll, evaluateInside]
  | line text more ih =>
      rw [entries, evaluateInside]
      by_cases hdivider : Marker.isDivider text = true
      · rw [if_pos hdivider, if_pos hdivider, ih]
      · rw [if_neg hdivider, if_neg hdivider]
        cases old with
        | true => exact ih depth true f
        | false =>
            show Entry.runAll s depth f (.line text :: more.entries false) =
              f.takeLine s text >>= fun f => more.evaluateInside s depth false f
            rw [Entry.runAll, Entry.run]
            exact bind_congr fun f => ih depth false f
  | fold start inside ending more ihinside ih =>
      rw [entries, evaluateInside, Entry.runAll, Entry.run]
      simp only [bind_assoc, pure_bind, ihinside, ih]

theorem runOutside_entries (c : Contents) (out : String) :
    Entry.runOutside s out c.entriesOutside =
      (fun segments => segments.foldl addLine out) <$> c.segments s := by
  induction c generalizing out with
  | empty =>
      rw [entriesOutside, Entry.runOutside, segments, map_pure]
      rfl
  | line text more ih =>
      rw [entriesOutside, Entry.runOutside, segments, ih]
      simp only [map_bind, map_pure, List.foldl_cons]
      rw [map_eq_pure_bind]
  | fold start inside ending more _ ih =>
      rw [entriesOutside, Entry.runOutside, segments, map_bind]
      refine bind_congr fun f => ?_
      rw [runAll_entries, map_bind]
      refine bind_congr fun f => ?_
      rw [map_bind]
      refine bind_congr fun f => ?_
      rw [ih, map_bind, map_eq_pure_bind]
      simp only [map_pure, List.foldl_cons]

theorem runOutside_entries_eq_evaluate (c : Contents) :
    Entry.runOutside s "" c.entriesOutside = c.evaluate s := by
  rw [runOutside_entries, evaluate, map_eq_pure_bind]
  simp only [foldl_addLine_eq_joinSegments]

/-- The interpreter carries out the contents of a document without loops. -/
theorem Represents.runLines_eq {c : Contents} {document : List String}
    (hc : c.Represents document) (h : Loopless document) :
    Document.runLines s document = c.evaluate s := by
  obtain ⟨unended, hshaped⟩ := hc.shaped
  rw [runLines_eq_outline s h, ← hc.lines_eq, ofLines_lines hshaped]
  exact runOutside_entries_eq_evaluate s c

end Contents

/-- A document without loops has contents, and running it line by line with a stack of open folds is
carrying out its contents by recursion, whatever the services are. -/
theorem runLines_eq_evaluate {m : Type → Type} [Monad m] [LawfulMonad m] (s : Services m)
    {document : List String} (h : Loopless document) :
    (∃ c : Contents, c.Represents document) ∧
      ∀ c : Contents, c.Represents document → Document.runLines s document = c.evaluate s :=
  ⟨Contents.exists_represents document, fun _ hc => hc.runLines_eq s h⟩

/-- A document with text around its folds, a fold inside of another one with an old result, and a
fold without an end line. -/
def unendedDocument : List String :=
  ["text ", "###\x7b a", "GET b", "###\x7b", "@x = 1", "##########", "old", "###\x7d", "@y = 2",
    "###\x7d end", "", "###\x7b c", "###\x7b d", "GET e"]

/-- What stands in `unendedDocument`. -/
def unendedContents : Contents :=
  .line "text" <|
  .fold "###\x7b a"
    (.line "GET b" <|
      .fold "###\x7b" (.line "@x = 1" <| .line "##########" <| .line "old" .empty)
        (some "###\x7d") <|
      .line "@y = 2" .empty)
    (some "###\x7d end") <|
  .line "" <|
  .fold "###\x7b c" (.fold "###\x7b d" (.line "GET e" .empty) none .empty) none .empty

theorem runLines_eq_evaluate_unended :
    Loopless unendedDocument ∧ unendedContents.Represents unendedDocument ∧
      Document.runLines silentServices unendedDocument =
        unendedContents.evaluate silentServices := by
  have hloopless : Loopless unendedDocument := by decide
  have hstart : ∀ title ∈ ["a", "c", "d"],
      Marker.start? ("###\x7b " ++ title) = some ⟨"###\x7b " ++ title, title⟩ := by decide
  have hplain : Marker.start? "###\x7b" = some ⟨"###\x7b", ""⟩ := by decide
  have hlast : Contents.Shaped true true (.fold "###\x7b d" (.line "GET e" .empty) none .empty) :=
    .unended (hstart "d" (by decide)) (.line rfl (by decide) .empty)
  have hrepresents : unendedContents.Represents unendedDocument := by
    refine ⟨by decide, true, .line rfl (by decide) (.fold (hstart "a" (by decide)) ?_ rfl
      (.line rfl (by decide) (.unended (hstart "c" (by decide)) hlast)))⟩
    refine .line rfl (by decide) (.fold hplain ?_ rfl (.line rfl (by decide) .empty))
    exact .line rfl (by decide) (.line rfl (by decide) (.line rfl (by decide) .empty))
  exact ⟨hloopless, hrepresents,
    (runLines_eq_evaluate silentServices hloopless).2 _ hrepresents⟩

end Foldbook
