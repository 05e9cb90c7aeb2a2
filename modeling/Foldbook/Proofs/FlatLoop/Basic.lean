import Foldbook.Proofs.Contents.Basic
import Foldbook.Proofs.Nesting

/-!
# Loops with nothing nested in them

A flat loop stands in a document as its start line, its body, the divider and
the old result of an earlier run, and its end line.

* `FlatLoop.ofLines_lines`: read as a document it is one loop, whose block has
  no old result in its body (`body_block`).
* `FlatLoop.runLines_lines`: running it is running the loop, and a round of it
  carries out one fold (`runItems_block`).
* `FlatLoop.Alike.runLines_eq`: start lines with other statuses and other old
  results make no difference to a run.
-/

namespace Foldbook

open Text

/-! ## Loops that are run alike -/

namespace LoopBlock

variable {m : Type → Type} [Monad m] (s : Services m)

/-- A run looks at the condition of its block, at the rendering of a loop without rounds, and at
the run of the block. -/
theorem run_congr {block other : LoopBlock} (hcondition : other.condition = block.condition)
    (hsynthetic : other.synthetic = block.synthetic) (runBlock : m String) (left : Nat)
    (r : LoopRun) : other.run s runBlock left r = block.run s runBlock left r := by
  have hgoOn : other.goOn s runBlock = block.goOn s runBlock := by
    funext again r answer
    unfold goOn finish
    rw [hcondition, hsynthetic]
  induction left generalizing r with
  | zero => rw [run_zero, run_zero, hcondition, hgoOn]
  | succ left ih => rw [run_succ, run_succ, hcondition, hgoOn, funext ih]

/-! ## Blocks without markers inside -/

/-- A loop whose lines open and end nothing is cut behind its end line. -/
theorem cut_quiet {lines : List String} (h : ∀ line ∈ lines, Marker.Quiet (trimEnd line))
    {ending : String} (hending : Marker.isLoopEnd (trimEnd ending) = true) (more : List String) :
    cut 1 (lines ++ ending :: more) = (lines.map trimEnd ++ [trimEnd ending], more) := by
  induction lines with
  | nil =>
      have hstart := Marker.isLoopStart_of_isEnd (Marker.isEnd_of_isLoopEnd hending)
      simp [cut, hstart, hending]
  | cons line lines ih =>
      obtain ⟨⟨hstart, hend⟩, hlines⟩ := List.forall_mem_cons.mp h
      have hplain := Marker.isLoopStart_eq_false hstart
      have hopen : Marker.isLoopEnd (trimEnd line) = false := Marker.isLoopEnd_eq_false hend
      simp [cut, hplain, hopen, ih hlines]

/-- The body ends at the divider. -/
theorem freshLines_quiet {lines old : List String}
    (hlines : ∀ line ∈ lines, Marker.Quiet line ∧ Marker.isDivider line = false)
    (hold : ∀ line ∈ old.head?, Marker.Quiet line ∧ Marker.isDivider line = true) :
    freshLines 0 (lines ++ old) = lines := by
  induction lines with
  | nil =>
      cases old with
      | nil => rfl
      | cons divider results =>
          obtain ⟨⟨hstart, hend⟩, hdivider⟩ := hold divider rfl
          have hnone := Marker.start?_eq_none hstart
          have hopen : Marker.isEnd divider = false := hend
          simp [freshLines, hnone, hopen, hdivider]
  | cons line lines ih =>
      obtain ⟨⟨⟨hstart, hend⟩, hdivider⟩, hlines⟩ := List.forall_mem_cons.mp hlines
      have hnone := Marker.start?_eq_none hstart
      have hopen : Marker.isEnd line = false := hend
      simp [freshLines, hnone, hopen, hdivider, ih hlines]

end LoopBlock

/-- Lines without markers are written as they are. -/
theorem WrittenInside.of_lines (lines : List String) :
    WrittenInside (lines.map Entry.line) lines := by
  induction lines with
  | nil => exact .nil
  | cons line lines ih => exact .line line ih

theorem WrittenInside.eq_of_lines {lines written : List String}
    (h : WrittenInside (lines.map Entry.line) written) : written = lines := by
  induction lines generalizing written with
  | nil =>
      cases h with
      | nil => rfl
  | cons line lines ih =>
      cases h with
      | line text hrest => rw [ih hrest]

/-! ## Flat loops -/

/-- A loop as it stands in a document, with nothing nested in it. -/
structure FlatLoop where
  first : String
  body : List String
  /-- A divider and the lines of an old result, or nothing. -/
  old : List String
  ending : String
  oneLine_first : OneLine first
  oneLine_body : ∀ line ∈ body, OneLine line
  oneLine_ending : OneLine ending
  opens : Marker.isLoopStart (trimEnd first) = true
  quiet : ∀ line ∈ body ++ old, Marker.Quiet (trimEnd line)
  plain : ∀ line ∈ body, Marker.isDivider (trimEnd line) = false
  divided : ∀ line ∈ old.head?, Marker.isDivider (trimEnd line) = true
  ends : Marker.isLoopEnd (trimEnd ending) = true

namespace FlatLoop

variable (loop : FlatLoop)

/-- The lines of the loop in the document. -/
def lines : List String := loop.first :: (loop.body ++ loop.old ++ [loop.ending])

/-- The condition of the loop. -/
def condition : String := (Marker.loopStart? (trimEnd loop.first)).getD ""

/-- The heading of the fold that a round opens. -/
def heading : Marker.Heading := Marker.headingOf (trimEnd loop.first)

/-- The lines that a round carries out. -/
def source : List String := loop.body.map trimEnd

/-- The block that the document is cut into. -/
def block : LoopBlock where
  condition := loop.condition
  first := trimEnd loop.first
  rest := loop.source ++ (loop.old.map trimEnd ++ [trimEnd loop.ending])

/-- What a round carries out. -/
def entry : Entry := .fold loop.heading (loop.source.map .line) (trimEnd loop.ending)

theorem collect_eq : LoopBlock.collect (trimEnd loop.first)
    (loop.body ++ loop.old ++ [loop.ending]) = (loop.block, []) := by
  rw [LoopBlock.collect, LoopBlock.cut_quiet loop.quiet loop.ends, List.map_append,
    List.append_assoc]
  rfl

theorem exists_start? : ∃ title, Marker.start? (trimEnd loop.first) =
    some ⟨trimEnd loop.first, title⟩ :=
  Marker.exists_start?_of_isLoopStart loop.oneLine_first.trimEnd loop.opens

theorem quiet_source : ∀ line ∈ loop.source, Marker.Quiet line ∧ Marker.isDivider line = false := by
  intro line hline
  obtain ⟨raw, hraw, rfl⟩ := List.mem_map.mp hline
  exact ⟨loop.quiet raw (List.mem_append_left _ hraw), loop.plain raw hraw⟩

theorem trimmed_source : ∀ line ∈ loop.source, Trimmed line := by
  intro line hline
  obtain ⟨raw, hraw, rfl⟩ := List.mem_map.mp hline
  exact trimmed_trimEnd (loop.oneLine_body raw hraw)

theorem quiet_old : ∀ line ∈ loop.old.map trimEnd, Marker.Quiet line := by
  intro line hline
  obtain ⟨raw, hraw, rfl⟩ := List.mem_map.mp hline
  exact loop.quiet raw (List.mem_append_right _ hraw)

theorem divided_old : ∀ line ∈ (loop.old.map trimEnd).head?, Marker.isDivider line = true := by
  intro line hline
  rw [List.head?_map, Option.mem_def, Option.map_eq_some_iff] at hline
  obtain ⟨raw, hraw, rfl⟩ := hline
  exact loop.divided raw hraw

/-! ## The block of a flat loop -/

theorem condition_block : loop.block.condition = loop.condition := by rw [block]

theorem endLine?_block : loop.block.endLine? = some (trimEnd loop.ending) := by
  unfold LoopBlock.endLine? block
  rw [← List.append_assoc, List.getLast?_concat]
  exact if_pos loop.ends

/-- The old result is not in the body. -/
theorem body_block : loop.block.body = loop.source := by
  have hold : ∀ line ∈ (loop.old.map trimEnd).head?,
      Marker.Quiet line ∧ Marker.isDivider line = true := fun line hline =>
    ⟨loop.quiet_old line (List.mem_of_head? hline), loop.divided_old line hline⟩
  rw [LoopBlock.body, loop.endLine?_block, Option.isSome_some, if_pos rfl, block]
  dsimp only
  rw [← List.append_assoc, List.dropLast_concat, LoopBlock.freshLines_quiet loop.quiet_source hold]

theorem opened_block : loop.block.opened = loop.heading.fold 0 := by
  obtain ⟨title, hstart⟩ := loop.exists_start?
  have hfirst : Marker.start? loop.block.first = some ⟨trimEnd loop.first, title⟩ := hstart
  rw [LoopBlock.opened, hfirst, heading, Marker.headingOf_eq hstart]
  rfl

/-- A flat loop that has not run: its source below its heading. -/
theorem unrun_block (failed : Bool) (results : String) : loop.block.unrun failed results =
    { loop.heading.fold 0 with
      echo := unlines loop.source
      endMarker := trimEnd loop.ending
      output := results
      failed } := by
  rw [LoopBlock.unrun, opened_block, body_block, endLine?_block, Option.getD_some]

/-! ## Running a flat loop -/

/-- Read as a document, a flat loop is one loop. -/
theorem ofLines_lines : ∃ inside, Item.ofLines false loop.lines = [.loop loop.block inside] ∧
    inside = loop.block.lines.map fun line => .line (trimEnd line) := by
  have hloopless : Loopless loop.block.rest := by
    intro line hline
    simp only [block, List.mem_append, List.mem_singleton] at hline
    rcases hline with hline | hline | rfl
    · exact Marker.isLoopStart_eq_false (loop.quiet_source line hline).1.trimEnd.1
    · exact Marker.isLoopStart_eq_false (loop.quiet_old line hline).trimEnd.1
    · rw [trimEnd_idem]
      exact Marker.isLoopStart_of_isEnd (Marker.isEnd_of_isLoopEnd loop.ends)
  rw [lines, Item.ofLines_loop _ loop.opens, loop.collect_eq]
  refine ⟨_, by rw [Item.ofLines], ?_⟩
  rw [Item.ofLines_of_loopless false hloopless, LoopBlock.lines, List.map_cons]
  simp only [block, trimEnd_idem]

/-- Behind the body comes an old result, if there is one, and the end line. -/
theorem ofLines_old : Rest.ofLines [false] (loop.old.map trimEnd ++ [trimEnd loop.ending]) =
    .inside [] (trimEnd loop.ending) (.outside []) := by
  have hisEnd := Marker.isEnd_of_isLoopEnd loop.ends
  obtain ⟨hnostart, hnodivider⟩ := Marker.startsWith_of_isEnd hisEnd
  have hend : ∀ old, Rest.ofLines [old] [trimEnd loop.ending] =
      .inside [] (trimEnd loop.ending) (.outside []) := fun old =>
    Rest.ofLines_end _ _ _ (Marker.start?_eq_none hnostart) hnodivider hisEnd
  have hquiet := loop.quiet_old
  have hdivided := loop.divided_old
  cases hold : loop.old.map trimEnd with
  | nil => exact hend false
  | cons divider results =>
      rw [hold] at hquiet hdivided
      have hdivider : Marker.isDivider divider = true := hdivided divider rfl
      have hnone := Marker.start?_eq_none (Marker.startsWith_of_isDivider hdivider)
      rw [List.cons_append, Rest.ofLines_divider _ _ _ hnone hdivider,
        Rest.ofLines_results (List.forall_mem_cons.mp hquiet).2, hend]

theorem proper_source : ∀ entry ∈ loop.source.map Entry.line, entry.Proper := by
  intro entry hentry
  obtain ⟨line, hline, rfl⟩ := List.mem_map.mp hentry
  obtain ⟨⟨hstart, hend⟩, hdivider⟩ := loop.quiet_source line hline
  exact .line (loop.trimmed_source line hline) (Marker.start?_eq_none hstart) hdivider hend

/-- What the block of a flat loop is read to. -/
theorem ofLines_block : Rest.ofLines [] (loop.block.lines.map trimEnd) =
    .outside [loop.entry] := by
  obtain ⟨title, hstart⟩ := loop.exists_start?
  have hlines : loop.block.lines.map trimEnd = trimEnd loop.first ::
      (loop.source ++ (loop.old.map trimEnd ++ [trimEnd loop.ending])) := by
    simp [LoopBlock.lines, block, source, List.map_map, Function.comp_def]
  rw [hlines, Rest.ofLines_start _ _ hstart,
    Rest.ofLines_writtenInside (.of_lines loop.source) loop.proper_source, loop.ofLines_old,
    entry, heading, Marker.headingOf_eq hstart]
  simp [Rest.prepend, Rest.enfold]

section

variable {m : Type → Type} [Monad m] [LawfulMonad m] (s : Services m)

/-- A round of a flat loop. -/
def round : m String := Entry.runOutside s "" [loop.entry]

theorem runItems_block :
    Document.runItems s (loop.block.lines.map fun line => .line (trimEnd line)) =
      loop.round s := by
  rw [Document.runItems, Item.runAll_lines]
  have hfollows := Progress.follows_foldlM (s := s) (loop.block.lines.map trimEnd) {}
    fun f hf => absurd hf List.not_mem_nil
  refine hfollows.trans ?_
  show (Rest.ofLines [] (loop.block.lines.map trimEnd)).run s {} = _
  rw [loop.ofLines_block]
  rfl

/-- A flat loop on its own in a document. -/
theorem runLines_lines : Document.runLines s loop.lines =
    LoopRun.output <$> loop.block.run s (loop.round s) s.rounds {} := by
  obtain ⟨inside, hitems, rfl⟩ := loop.ofLines_lines
  rw [Document.runLines, hitems, Document.runItems, Item.runAll, Item.run, bind_assoc, bind_assoc,
    map_eq_pure_bind, ← loop.runItems_block s]
  refine bind_congr fun r => ?_
  have htake : Progress.takeLoop s {} r = pure { out := r.output, stack := [] } := by
    simp [Progress.takeLoop, Progress.newSegment]
  rw [htake, pure_bind, Item.runAll, pure_bind, Progress.finish_outside]

end

/-! ## Loops that differ in what earlier runs have left -/

/-- Both loops are the same but for the status of the start line, the old result, and blanks at the
ends of lines. -/
structure Alike (loop other : FlatLoop) : Prop where
  condition : other.condition = loop.condition
  heading : other.heading = loop.heading
  source : other.source = loop.source
  ending : trimEnd other.ending = trimEnd loop.ending

namespace Alike

variable {loop other : FlatLoop} (h : loop.Alike other)

include h

theorem synthetic_eq : other.block.synthetic = loop.block.synthetic := by
  funext failed results
  rw [LoopBlock.synthetic_eq, LoopBlock.synthetic_eq, unrun_block, unrun_block, h.heading,
    h.source, h.ending]

theorem entry_eq : other.entry = loop.entry := by
  rw [entry, entry, h.heading, h.source, h.ending]

/-- Such loops do the same. -/
theorem runLines_eq {m : Type → Type} [Monad m] [LawfulMonad m] (s : Services m) :
    Document.runLines s other.lines = Document.runLines s loop.lines := by
  have hcondition : other.block.condition = loop.block.condition := by
    rw [condition_block, condition_block, h.condition]
  rw [runLines_lines, runLines_lines, round, round, h.entry_eq,
    LoopBlock.run_congr s hcondition h.synthetic_eq]

end Alike

end FlatLoop

end Foldbook
