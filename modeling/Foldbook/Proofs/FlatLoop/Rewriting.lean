import Foldbook.Proofs.FlatLoop.Basic
import Foldbook.Proofs.Unrolling.Loop

/-!
# A flat loop and what it was rewritten to

A document that is one flat loop is answered with a rendering of the loop,
whatever becomes of it: after some rounds the rendering of the last one, and
without any a rendering of its source.

* `FlatLoop.Writes` says which renderings these are, and `tells_run` that a run
  comes to one of them.
* `FlatLoop.Writes.exists_alike`: the lines of a rendering are again a flat
  loop, which is the same but for what the run has left in it.
* `FlatLoop.runLines_rewritten`: so running them is running the loop.
-/

namespace Foldbook

open Text

/-- The lines of a rendering from its divider to its end line. -/
def resultLines (rendering : String) : List String :=
  ((splitLines rendering).dropWhile fun line => !Marker.isDivider line).dropLast

namespace FlatLoop

variable (loop : FlatLoop)

/-- The text is a rendering of the loop, with results of these texts. -/
def Writes (texts : List String) (rendering : String) : Prop :=
  ∃ g : Fold, rendering = g.render.1 ∧
    Fold.Ended loop.heading loop.source (trimEnd loop.ending) texts g

variable {loop}

theorem Writes.mono {texts more : List String} {rendering : String}
    (h : loop.Writes texts rendering) (hsub : texts ⊆ more) : loop.Writes more rendering := by
  obtain ⟨g, hrender, hended⟩ := h
  exact ⟨g, hrender, hended.mono hsub⟩

/-! ## What a run writes -/

theorem oneLine_title (loop : FlatLoop) : OneLine loop.heading.title := by
  obtain ⟨title, hstart⟩ := loop.exists_start?
  rw [heading, Marker.headingOf_eq hstart]
  exact Marker.oneLine_withoutStatus (Marker.oneLine_title hstart)

/-- A loop that did not run its block is rendered with the given results. -/
theorem writes_synthetic {texts : List String} (failed : Bool) {results : String}
    (hclosed : endsOpen results = false)
    (hquiet : (∀ text ∈ texts, QuietText text) → QuietText results) :
    loop.Writes texts (loop.block.synthetic failed results) := by
  refine ⟨_, (LoopBlock.synthetic_eq results).trans
    (congrArg (fun f => f.render.1) (loop.unrun_block failed results)), ?_⟩
  exact .of_lines loop.oneLine_title (Marker.isEnd_of_isLoopEnd loop.ends) failed hclosed hquiet

section Services

variable {σ : Type} (s : Services (StateM σ))

/-- A round is rendered with the results of its fold. -/
theorem tells_round : Tells loop.Writes (loop.round s.recording) := by
  unfold round entry
  rw [Entry.runOutside_fold]
  refine (Entry.tells_runFold s loop.oneLine_title (Marker.isEnd_of_isLoopEnd loop.ends) 0
    fun f hf => Entry.tells_runAll s 1 hf _ loop.proper_source).bind fun texts g hg => ?_
  obtain ⟨lines, hlines, hended⟩ := hg
  rw [hlines.eq_of_lines] at hended
  exact .pure ⟨g, rfl, hended⟩

/-- A run ends with the rendering that it has, or without rounds with one of the source. -/
theorem tells_finish {had : List String} {r : LoopRun}
    (hr : r.rounds = 0 ∨ loop.Writes had r.output) :
    Tells (fun texts r => loop.Writes (texts ++ had) r.output)
      (loop.block.finish s.recording r) := by
  unfold LoopBlock.finish
  refine (Tells.note s _).bind fun texts _ htexts => ?_
  subst htexts
  refine .pure ?_
  split
  · exact writes_synthetic _ rfl fun _ => by decide
  · exact hr.resolve_left ‹_›

/-- What a run comes to behind its next verdict, if it may go on after a round. -/
theorem tells_goOn {had : List String} {r : LoopRun}
    (hr : r.rounds = 0 ∨ loop.Writes had r.output)
    {again : Option (LoopRun → StateT (List Event) (StateM σ) LoopRun)}
    (hagain : ∀ next ∈ again, ∀ had r, loop.Writes had r.output →
      Tells (fun texts r => loop.Writes (texts ++ had) r.output) (next r))
    (answer : Except Failure String) :
    Tells (fun texts r => loop.Writes (texts ++ verdictTexts answer ++ had) r.output)
      (loop.block.goOn s.recording (loop.round s.recording) again r answer) := by
  cases answer with
  | error e =>
      unfold LoopBlock.goOn
      refine (Tells.note s _).bind fun texts _ htexts => .pure ?_
      refine writes_synthetic true (endsOpen_append_newline _) fun hall => ?_
      exact (hall e.message (by simp [verdictTexts])).close
  | ok verdict =>
      unfold LoopBlock.goOn
      dsimp only
      rw [verdictTexts]
      simp only [List.append_nil]
      split
      · exact tells_finish s hr
      · cases again with
        | none => exact tells_finish s hr
        | some next =>
            refine (tells_round s).bind fun texts output houtput => ?_
            simp only [List.append_assoc]
            split
            · exact tells_finish s (.inr (houtput.mono (List.subset_append_left _ _)))
            · exact hagain next rfl _ _ (houtput.mono (List.subset_append_left _ _))

/-- A run comes to a rendering of the loop, be it after rounds, without any, or after a failure. -/
theorem tells_run (left : Nat) {had : List String} {r : LoopRun}
    (hr : r.rounds = 0 ∨ loop.Writes had r.output) :
    Tells (fun texts r => loop.Writes (texts ++ had) r.output)
      (loop.block.run s.recording (loop.round s.recording) left r) := by
  induction left generalizing had r with
  | zero =>
      rw [LoopBlock.run_zero]
      refine (tells_condition s _).bind fun texts answer htexts => ?_
      subst htexts
      exact tells_goOn s hr (fun next hnext => absurd hnext (by simp)) answer
  | succ left ih =>
      rw [LoopBlock.run_succ]
      refine (tells_condition s _).bind fun texts answer htexts => ?_
      subst htexts
      refine tells_goOn s hr (fun next hnext had r hwrites => ?_) answer
      rw [← Option.some.inj hnext]
      exact ih (.inr hwrites)

theorem tells_runLines (loop : FlatLoop) :
    Tells loop.Writes (Document.runLines s.recording loop.lines) := by
  have hbegun : ({} : LoopRun).rounds = 0 ∨ loop.Writes [] ({} : LoopRun).output := .inl rfl
  rw [runLines_lines, map_eq_pure_bind]
  refine (tells_run s s.recording.rounds hbegun).bind fun texts r hr => .pure ?_
  rwa [List.append_nil] at hr

end Services

/-! ## Headers -/

section Header

variable (loop) (failed : Bool)

/-- A header of the loop is the header of its start line. -/
theorem exists_header_eq : ∃ found : Marker.Start, Marker.start? (trimEnd loop.first) = some found ∧
    found.marker = trimEnd loop.first ∧ loop.heading.header failed = found.header failed := by
  obtain ⟨title, hstart⟩ := loop.exists_start?
  refine ⟨_, hstart, rfl, ?_⟩
  rw [heading, Marker.headingOf_eq hstart, Marker.Start.header_eq]

theorem oneLine_header : OneLine (loop.heading.header failed) := by
  obtain ⟨found, -, hmarker, hheader⟩ := loop.exists_header_eq failed
  rw [hheader]
  refine Marker.oneLine_header ?_ failed
  rw [hmarker]
  exact loop.oneLine_first.trimEnd

theorem trimEnd_header : trimEnd (loop.heading.header failed) = loop.heading.header failed := by
  obtain ⟨found, -, -, hheader⟩ := loop.exists_header_eq failed
  rw [hheader, Marker.trimEnd_header]

/-- A header is read to the condition of the loop. -/
theorem loopStart?_header : Marker.loopStart? (loop.heading.header failed) =
    Marker.loopStart? (trimEnd loop.first) := by
  obtain ⟨found, hstart, -, hheader⟩ := loop.exists_header_eq failed
  rw [hheader]
  exact Marker.loopStart?_header_of_isLoopStart loop.oneLine_first.trimEnd (trimEnd_idem _) hstart
    loop.opens failed

/-- A header is read to the heading of the loop. -/
theorem headingOf_header : Marker.headingOf (loop.heading.header failed) = loop.heading := by
  obtain ⟨found, hstart, -, hheader⟩ := loop.exists_header_eq failed
  obtain ⟨again, hagain, hsame⟩ :=
    Marker.start?_header loop.oneLine_first.trimEnd hstart failed
  rw [hheader, Marker.headingOf_eq hagain, hsame, heading, Marker.headingOf_eq hstart]

theorem isLoopStart_header : Marker.isLoopStart (loop.heading.header failed) = true := by
  rw [Marker.isLoopStart, loop.loopStart?_header]
  exact loop.opens

theorem isDivider_header : Marker.isDivider (loop.heading.header failed) = false := by
  by_contra hdivider
  rw [Bool.not_eq_false] at hdivider
  have hnone := Marker.isLoopStart_of_isDivider hdivider
  rw [loop.isLoopStart_header] at hnone
  exact Bool.false_ne_true hnone.symm

end Header

/-! ## Reading a rendering back -/

section Rendering

variable {texts : List String} {g : Fold}
  (h : Fold.Ended loop.heading loop.source (trimEnd loop.ending) texts g)

include h

/-- The lines of a rendering: those of the loop with a new status, a divider, the results and the
end line. -/
theorem splitLines_render :
    splitLines g.render.1 = loop.heading.header g.failed :: loop.source ++
      g.dividerLine :: (closedLines (closeLine g.output) ++ [trimEnd loop.ending]) := by
  have hheader : OneLine (loop.heading.header g.failed) := loop.oneLine_header _
  have hsource : closedLines (g.header ++ g.echo) =
      loop.heading.header g.failed :: loop.source := by
    rw [Fold.header_eq h.startMarker, h.echo, ← unlines_cons]
    exact closedLines_unlines_of_oneLine (List.forall_mem_cons.mpr
      ⟨hheader, fun line hline => (loop.trimmed_source line hline).oneLine⟩)
  rw [Fold.splitLines_render h.tidy.unrendered h.tidy.oneLine_title h.tidy.closed_echo, hsource,
    h.closingMarker, splitLines_of_oneLine loop.oneLine_ending.trimEnd]

theorem resultLines_render :
    resultLines g.render.1 = g.dividerLine :: closedLines (closeLine g.output) := by
  have hplain : ∀ line ∈ loop.heading.header g.failed :: loop.source,
      Marker.isDivider line = false :=
    List.forall_mem_cons.mpr ⟨loop.isDivider_header _, fun line hline =>
      (loop.quiet_source line hline).2⟩
  rw [resultLines, loop.splitLines_render h, List.dropWhile_append_of_pos,
    List.dropWhile_cons_of_neg, ← List.cons_append, List.dropLast_concat]
  · simp [g.isDivider_dividerLine]
  · intro line hline
    rw [hplain line hline]
    rfl

end Rendering

/-- The loop as it stands in a document with a new status and with these results. -/
def restated (loop : FlatLoop) (failed : Bool) {divider : String} {results : List String}
    (hdivider : Marker.isDivider divider = true)
    (hquiet : ∀ line ∈ divider :: results, Marker.Quiet line) : FlatLoop where
  first := loop.heading.header failed
  body := loop.source
  old := divider :: results
  ending := trimEnd loop.ending
  oneLine_first := loop.oneLine_header failed
  oneLine_body line hline := (loop.trimmed_source line hline).oneLine
  oneLine_ending := loop.oneLine_ending.trimEnd
  opens := by rw [loop.trimEnd_header, loop.isLoopStart_header]
  quiet line hline := by
    rcases List.mem_append.mp hline with hline | hline
    · exact (loop.quiet_source line hline).1.trimEnd
    · exact (hquiet line hline).trimEnd
  plain line hline := by
    rw [(loop.trimmed_source line hline).trim]
    exact (loop.quiet_source line hline).2
  divided line hline := by
    rw [← Option.some.inj hline, Marker.isDivider, startsWith_trimEnd (by decide)]
    exact hdivider
  ends := by rw [trimEnd_idem, loop.ends]

theorem alike_restated (failed : Bool) {divider : String} {results : List String}
    (hdivider : Marker.isDivider divider = true)
    (hquiet : ∀ line ∈ divider :: results, Marker.Quiet line) :
    loop.Alike (loop.restated failed hdivider hquiet) where
  condition := by
    rw [condition, restated, loop.trimEnd_header, loop.loopStart?_header, condition]
  heading := by
    rw [heading, restated, loop.trimEnd_header, loop.headingOf_header]
  source := map_trimEnd loop.trimmed_source
  ending := trimEnd_idem _

/-- The lines of a rendering are a loop like the one that was rendered. -/
theorem Writes.exists_alike {texts : List String} {rendering : String}
    (h : loop.Writes texts rendering) (hquiet : ∀ line ∈ resultLines rendering, Marker.Quiet line) :
    ∃ other : FlatLoop, loop.Alike other ∧ other.lines = splitLines rendering := by
  obtain ⟨g, rfl, hended⟩ := h
  rw [resultLines_render hended] at hquiet
  refine ⟨loop.restated g.failed g.isDivider_dividerLine hquiet, alike_restated _ _ _, ?_⟩
  rw [splitLines_render hended, lines]
  simp [restated]

/-- Quiet texts make quiet result lines. -/
theorem Writes.quiet_resultLines {texts : List String} {rendering : String}
    (h : loop.Writes texts rendering) (hquiet : ∀ text ∈ texts, QuietText text) :
    ∀ line ∈ resultLines rendering, Marker.Quiet line := by
  obtain ⟨g, rfl, hended⟩ := h
  rw [resultLines_render hended]
  refine List.forall_mem_cons.mpr ⟨?_, fun line hline => ?_⟩
  · exact Marker.quiet_of_isDivider g.isDivider_dividerLine
  · exact (hended.quiet hquiet).closeLine line (closedLines_subset _ hline)

/-! ## Running what was written -/

section Services

variable {σ : Type} (s : Services (StateM σ)) (before : σ)

/-- A run from any state comes to a rendering with results of the recorded texts. -/
theorem writes_runLines (loop : FlatLoop) : loop.Writes
    (Event.texts (((Document.runLines s.recording loop.lines).run []).run before).1.2)
    ((Document.runLines s loop.lines).run before).1 := by
  obtain ⟨texts, htexts, hwrites⟩ := (tells_runLines s loop).run [] before
  have hplain := congrArg (fun x : StateM σ String => (x.run before).1)
    (map_fst_runLines_recording s loop.lines false [])
  have hnone : texts ++ Event.texts [] = texts := List.append_nil _
  rw [htexts, hnone, ← hplain]
  exact hwrites

/-- Running what a loop was rewritten to is running the loop, as long as no line among its results
begins like a start line or an end line; so it is for results of texts without such lines. -/
theorem runLines_rewritten (loop : FlatLoop) :
    ((∀ text ∈ Event.texts
          (((Document.runLines s.recording loop.lines).run []).run before).1.2, QuietText text) →
        ∀ line ∈ resultLines ((Document.runLines s loop.lines).run before).1, Marker.Quiet line) ∧
      ((∀ line ∈ resultLines ((Document.runLines s loop.lines).run before).1, Marker.Quiet line) →
        ∀ (m : Type → Type) [Monad m] [LawfulMonad m] (t : Services m),
          Document.runLines t (splitLines ((Document.runLines s loop.lines).run before).1) =
            Document.runLines t loop.lines) := by
  have hwrites := writes_runLines s before loop
  refine ⟨hwrites.quiet_resultLines, fun hquiet m _ _ t => ?_⟩
  obtain ⟨other, halike, hlines⟩ := hwrites.exists_alike hquiet
  rw [← hlines, halike.runLines_eq t]

end Services

/-- A loop with an old status and an old result, and with blanks at the ends of its lines. -/
def staleLoop : FlatLoop where
  first := "###\x7b while c executed (ERROR) "
  body := ["@i = 1  ", "", "GET a"]
  old := ["########## while c ERROR", "old"]
  ending := "###\x7d endwhile\t"
  oneLine_first := by decide
  oneLine_body := by decide
  oneLine_ending := by decide
  opens := by decide
  quiet := by decide
  plain := by decide
  divided := by decide
  ends := by decide

theorem runLines_rewritten_staleLoop :
    (∀ text ∈ Event.texts (((Document.runLines countingServices.recording staleLoop.lines).run
        []).run 0).1.2, QuietText text) ∧
      Document.runLines countingServices
          (splitLines ((Document.runLines countingServices staleLoop.lines).run 0).1) =
        Document.runLines countingServices staleLoop.lines := by
  have hquiet : ∀ text ∈ Event.texts (((Document.runLines countingServices.recording
      staleLoop.lines).run []).run 0).1.2, QuietText text := by
    decide +kernel
  obtain ⟨hlines, hsame⟩ := runLines_rewritten countingServices 0 staleLoop
  exact ⟨hquiet, hsame (hlines hquiet) (StateM Nat) countingServices⟩

end FlatLoop

end Foldbook
