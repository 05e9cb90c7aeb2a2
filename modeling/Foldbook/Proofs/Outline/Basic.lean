import Foldbook.Document.Run
import Foldbook.Proofs.Marker.Header
import Foldbook.Proofs.Yields

/-!
# The outline of a document

The outline is what a document without loops means: its lines and folds,
each fold with the entries inside and the line that ends it.  Old results
and statuses are not in it.

* `Rest.ofLines` reads the outline of what is left of a document, seen from
  inside the folds that are open there.
* `Entry.run` carries an entry out by recursion, `Entry.runOutside` the
  entries of a document, and `Rest.run` what is left of one.
-/

namespace Foldbook

open Text

/-! ## Reading an outline -/

/-- A line, or a fold with what is inside. -/
inductive Entry where
  | line (text : String)
  | fold (heading : Marker.Heading) (entries : List Entry) (ending : String)

/-- What is left of a document: the rest of the innermost open fold with the line that ends it, and
what is left around it; or, outside of all folds, the rest of the document. -/
inductive Rest where
  | outside (entries : List Entry)
  | inside (entries : List Entry) (ending : String) (around : Rest)

namespace Rest

/-- Puts entries in front. -/
def prepend (before : List Entry) : Rest → Rest
  | outside entries => outside (before ++ entries)
  | inside entries ending around => inside (before ++ entries) ending around

/-- Makes the innermost open fold an entry of what is around it. -/
def enfold (heading : Marker.Heading) : Rest → Rest
  | outside entries => outside entries
  | inside entries ending around => around.prepend [.fold heading entries ending]

/-- The end of the input inside as many folds. -/
def unclosed : Nat → Rest
  | 0 => outside []
  | count + 1 => inside [] Marker.finish (unclosed count)

/-- Reads trimmed lines inside of open folds, of which is known whether their old results have
begun, the innermost first. -/
def ofLines : (stale : List Bool) → List String → Rest
  | stale, [] => unclosed stale.length
  | stale, line :: more =>
    match Marker.start? line with
    | some start => (ofLines (false :: stale) more).enfold start.heading
    | none =>
      match stale with
      | [] => (ofLines [] more).prepend [.line line]
      | old :: around =>
        if Marker.isDivider line then ofLines (true :: around) more
        else if Marker.isEnd line then inside [] line (ofLines around more)
        else if old then ofLines (old :: around) more
        else (ofLines (old :: around) more).prepend [.line line]

section Equations

variable {line : String} (more : List String)

theorem ofLines_start (stale : List Bool) {start : Marker.Start}
    (h : Marker.start? line = some start) :
    ofLines stale (line :: more) = (ofLines (false :: stale) more).enfold start.heading := by
  rw [ofLines.eq_def]
  simp only [h]

theorem ofLines_text (h : Marker.start? line = none) :
    ofLines [] (line :: more) = (ofLines [] more).prepend [.line line] := by
  rw [ofLines.eq_def]
  simp only [h]

theorem ofLines_divider (old : Bool) (around : List Bool) (h : Marker.start? line = none)
    (hdivider : Marker.isDivider line = true) :
    ofLines (old :: around) (line :: more) = ofLines (true :: around) more := by
  rw [ofLines.eq_def]
  simp only [h, hdivider, if_true]

theorem ofLines_end (old : Bool) (around : List Bool) (h : Marker.start? line = none)
    (hdivider : Marker.isDivider line = false) (hend : Marker.isEnd line = true) :
    ofLines (old :: around) (line :: more) = inside [] line (ofLines around more) := by
  rw [ofLines.eq_def]
  simp only [h, hdivider, hend, if_true, Bool.false_eq_true, if_false]

theorem ofLines_stale (around : List Bool) (h : Marker.start? line = none)
    (hdivider : Marker.isDivider line = false) (hend : Marker.isEnd line = false) :
    ofLines (true :: around) (line :: more) = ofLines (true :: around) more := by
  rw [ofLines.eq_def]
  simp only [h, hdivider, hend, if_true, Bool.false_eq_true, if_false]

theorem ofLines_own (around : List Bool) (h : Marker.start? line = none)
    (hdivider : Marker.isDivider line = false) (hend : Marker.isEnd line = false) :
    ofLines (false :: around) (line :: more) =
      (ofLines (false :: around) more).prepend [.line line] := by
  rw [ofLines.eq_def]
  simp only [h, hdivider, hend, Bool.false_eq_true, if_false]

end Equations

/-- In how many open folds it lies. -/
def depth : Rest → Nat
  | outside _ => 0
  | inside _ _ around => around.depth + 1

@[simp] theorem depth_prepend (before : List Entry) (rest : Rest) :
    (rest.prepend before).depth = rest.depth := by
  cases rest <;> rfl

theorem depth_enfold (heading : Marker.Heading) (rest : Rest) :
    (rest.enfold heading).depth = rest.depth - 1 := by
  cases rest with
  | outside entries => rfl
  | inside entries ending around => simp [enfold, depth]

theorem depth_unclosed (count : Nat) : (unclosed count).depth = count := by
  induction count with
  | zero => rfl
  | succ count ih => rw [unclosed, depth, ih]

theorem depth_ofLines (stale : List Bool) (lines : List String) :
    (ofLines stale lines).depth = stale.length := by
  induction lines generalizing stale with
  | nil => exact depth_unclosed _
  | cons line more ih =>
      rw [ofLines.eq_def]
      dsimp only
      split
      · rw [depth_enfold, ih, List.length_cons, Nat.add_sub_cancel]
      · split
        · rw [depth_prepend, ih]
        · split
          · exact ih _
          · split
            · rw [depth, ih, List.length_cons]
            · split
              · exact ih _
              · rw [depth_prepend, ih]

theorem exists_outside (lines : List String) : ∃ entries, ofLines [] lines = outside entries := by
  have hdepth := depth_ofLines [] lines
  cases hrest : ofLines [] lines with
  | outside entries => exact ⟨entries, rfl⟩
  | inside entries ending around => simp [hrest, depth] at hdepth

end Rest

/-! ## Carrying out an outline -/

variable {m : Type → Type} [Monad m] (s : Services m)

/-- The fold that a heading opens inside of as many folds. -/
def Marker.Heading.fold (heading : Marker.Heading) (depth : Nat) : Fold :=
  { title := if heading.title.isEmpty then "" else heading.title ++ " "
    startMarker := heading.marker
    unopened := false
    depth }

theorem Marker.Start.ofStart_eq_fold (start : Marker.Start) (depth : Nat) :
    Fold.ofStart start depth = start.heading.fold depth := rfl

/-- Opens a fold. -/
def Marker.Heading.openFold (heading : Marker.Heading) (depth : Nat) : m Fold := do
  s.note {
    level := .debug
    event := "interpreter.fold.opened"
    fields := [("title", .str (trim (heading.fold depth).title)),
      ("depth", .int (heading.fold depth).depth)] }
  pure (heading.fold depth)

namespace Fold

/-- An end line is what the fold ends in. -/
theorem closingMarker_of_isEnd {f : Fold} {line : String} (hline : f.endMarker = line)
    (hend : Marker.isEnd line = true) : f.closingMarker = line := by
  have hne : line.isEmpty = false := by
    rw [Bool.eq_false_iff]
    intro hempty
    rw [String.isEmpty_iff.mp hempty] at hend
    exact absurd hend (by decide)
  rw [closingMarker, hline, if_neg (by rw [hne]; exact Bool.false_ne_true)]

/-- Keeps a line of the fold and carries it out. -/
def takeLine (f : Fold) (line : String) : m Fold :=
  let f := f.keepLine line
  if f.failed then pure f else f.interpret s line

/-- Ends a fold with a line. -/
def conclude (f : Fold) (ending : String) : m Fold := do
  let f ← ({ f with endMarker := ending } : Fold).issuePending s
  s.note {
    level := .debug
    event := "interpreter.fold.closed"
    fields := [("title", .str (trim f.title)), ("depth", .int f.depth), ("error", .bool f.failed)] }
  pure f

/-- Takes a fold that has ended into the one around it. -/
def enclose (f inner : Fold) : Fold :=
  f.absorb (inner.renderNested f.output).1 inner.failed

end Fold

mutual

/-- Carries out an entry of a fold that lies in `depth` folds, itself counted. -/
def Entry.run (depth : Nat) (f : Fold) : Entry → m Fold
  | .line text => f.takeLine s text
  | .fold heading entries ending => do
    let f ← f.issuePending s
    let inner ← heading.openFold s depth
    let inner ← Entry.runAll (depth + 1) inner entries
    let inner ← inner.conclude s ending
    pure (f.enclose inner)

/-- Carries out entries in order. -/
def Entry.runAll (depth : Nat) (f : Fold) : List Entry → m Fold
  | [] => pure f
  | entry :: entries => do
    let f ← entry.run depth f
    Entry.runAll depth f entries

end

/-- Carries out the entries of a document behind the text written so far. -/
def Entry.runOutside (out : String) : List Entry → m String
  | [] => pure out
  | .line text :: entries => Entry.runOutside (addLine out text) entries
  | .fold heading inside ending :: entries => do
    let fold ← heading.openFold s 0
    let fold ← Entry.runAll s 1 fold inside
    let fold ← fold.conclude s ending
    Entry.runOutside (addLine out fold.render.1) entries

/-- Opens a fold that lies in `depth` folds, carries out what is inside, and ends it. -/
def Entry.runFold (depth : Nat) (heading : Marker.Heading) (entries : List Entry)
    (ending : String) : m Fold := do
  let fold ← heading.openFold s depth
  let fold ← Entry.runAll s (depth + 1) fold entries
  fold.conclude s ending

section

variable [LawfulMonad m] (heading : Marker.Heading) (inside : List Entry) (ending : String)

theorem Entry.run_fold (depth : Nat) (f : Fold) :
    (Entry.fold heading inside ending).run s depth f = (do
      let f ← f.issuePending s
      let inner ← Entry.runFold s depth heading inside ending
      pure (f.enclose inner)) := by
  rw [Entry.run]
  simp only [Entry.runFold, bind_assoc]

theorem Entry.runOutside_fold (out : String) (entries : List Entry) :
    Entry.runOutside s out (.fold heading inside ending :: entries) = (do
      let fold ← Entry.runFold s 0 heading inside ending
      Entry.runOutside s (addLine out fold.render.1) entries) := by
  rw [Entry.runOutside]
  simp only [Entry.runFold, bind_assoc, Nat.zero_add]

end

/-- Leaves the innermost fold, which has ended. -/
def Progress.leave (out : String) (fold : Fold) : (outer : List Fold) → Progress
  | [] => { out := out ++ fold.render.1, stack := [] }
  | around :: outer => { out, stack := around.enclose fold :: outer }

/-- Carries out what is left of a document, in the folds that are open. -/
def Rest.run (p : Progress) : Rest → m String
  | .outside entries => Entry.runOutside s p.out entries
  | .inside entries ending around =>
    match p.stack with
    | [] => pure p.out
    | fold :: outer => do
      let fold ← Entry.runAll s (outer.length + 1) fold entries
      let fold ← fold.conclude s ending
      around.run (.leave p.out fold outer)

end Foldbook
