import Foldbook.Proofs.Events
import Foldbook.Proofs.Position
import Foldbook.Proofs.Text

/-!
# Documents one below the other

Where all loops and folds of a document are closed, another one can follow
it: the whole is run like the first document and then the second one, and the
text of the second one stands below that of the first.

* `Progress.below` is a progress with more text in front of its own.  A run
  that has begun (`Progress.Begun`) does not look at this text
  (`Item.runAll_below`).
* `LoopBlock.run_ne_empty`: a loop has a text.  So a document whose first line
  is not blank starts with an item that begins its run
  (`Item.exists_ofLines_begun`).
* `Document.runLines_append` is the run of two documents.
-/

namespace Foldbook

open Text

theorem Fold.render_ne_empty {f : Fold} (h : f.rendered = false) : f.render.1 ≠ "" := by
  obtain ⟨front, hfront⟩ := exists_render h
  have hclosing : f.closingMarker ≠ "" := by
    unfold closingMarker
    split
    · decide
    · rename_i hending
      rwa [String.isEmpty_iff] at hending
  rw [hfront]
  exact fun hempty => hclosing (String.append_eq_empty_iff.mp hempty).2

namespace Progress

/-- The progress with more text in front of its own. -/
def below (before : String) (p : Progress) : Progress := { p with out := before ++ p.out }

/-- There is some text already, or a fold is open, which will give some. -/
structure Begun (p : Progress) : Prop where
  out_ne_empty : p.stack = [] → p.out ≠ ""
  unrendered : ∀ f ∈ p.stack, f.rendered = false

/-- With an open fold it does not matter what has been written. -/
theorem Begun.of_cons {out : String} {f : Fold} {outer : List Fold} (hf : f.rendered = false)
    (houter : ∀ f ∈ outer, f.rendered = false) : Begun { out, stack := f :: outer } where
  out_ne_empty hnil := absurd hnil (List.cons_ne_nil _ _)
  unrendered := List.forall_mem_cons.mpr ⟨hf, houter⟩

theorem newSegment_of_ne_empty {p : Progress} (h : p.out ≠ "") : p.newSegment = p.out ++ "\n" := by
  rw [newSegment, if_neg (by rwa [String.isEmpty_iff])]

theorem newSegment_below (before : String) {p : Progress} (h : p.out ≠ "") :
    (p.below before).newSegment = before ++ p.newSegment := by
  have hne : (p.below before).out ≠ "" := fun hempty => h (String.append_eq_empty_iff.mp hempty).2
  rw [newSegment_of_ne_empty hne, newSegment_of_ne_empty h, ← String.append_assoc]
  rfl

theorem Begun.newSegment_append_ne_empty {p : Progress} (hp : p.Begun) (hstack : p.stack = [])
    (text : String) : p.newSegment ++ text ≠ "" := by
  rw [newSegment_of_ne_empty (hp.out_ne_empty hstack), String.append_assoc]
  exact fun hempty => hp.out_ne_empty hstack (String.append_eq_empty_iff.mp hempty).1

section

variable {m : Type → Type} [Monad m] [LawfulMonad m] (s : Services m) (before : String)

/-! ## The text in front -/

theorem openFold_below {p : Progress} (hp : p.Begun) (start : Marker.Start) :
    (p.below before).openFold s start = below before <$> p.openFold s start := by
  obtain ⟨out, _ | ⟨around, outer⟩⟩ := p
  · have hsegment := newSegment_below before (hp.out_ne_empty rfl)
    simp only [below] at hsegment
    simp only [openFold, below, hsegment, map_bind, map_pure, pure_bind]
  · simp only [openFold, below, map_bind, map_pure, pure_bind]

theorem closeFold_below (p : Progress) :
    (p.below before).closeFold s = below before <$> p.closeFold s := by
  obtain ⟨out, _ | ⟨f, _ | ⟨around, outer⟩⟩⟩ := p <;>
    simp only [closeFold, below, map_bind, map_pure, String.append_assoc]

theorem closeFolds_below (count : Nat) (p : Progress) :
    closeFolds s count (p.below before) = below before <$> closeFolds s count p := by
  induction count generalizing p with
  | zero => rw [closeFolds, closeFolds, map_pure]
  | succ count ih =>
      rw [closeFolds, closeFolds, closeFold_below, bind_map_left, map_bind]
      exact bind_congr fun p => ih p

theorem finish_below (p : Progress) :
    (p.below before).finish s = (before ++ ·) <$> p.finish s := by
  rw [finish, finish, show (p.below before).stack = p.stack from rfl, closeFolds_below,
    bind_map_left, map_bind]
  exact bind_congr fun p => by rw [map_pure, below]

theorem readOwnLine_below (p : Progress) (f : Fold) (outer : List Fold) (line : String) :
    (p.below before).readOwnLine s f outer line =
      below before <$> p.readOwnLine s f outer line := by
  unfold readOwnLine
  split
  · rw [map_pure]
    rfl
  · split
    · exact closeFold_below s before { p with stack := { f with endMarker := line } :: outer }
    · split
      · rw [map_pure]
      · dsimp only
        split
        · rw [map_pure]
          rfl
        · rw [map_bind]
          exact bind_congr fun f => by rw [map_pure, below, below]

theorem readLine_below {p : Progress} (hp : p.Begun) (line : String) :
    (p.below before).readLine s line = below before <$> p.readLine s line := by
  unfold readLine
  cases Marker.start? line with
  | some start => exact openFold_below s before hp start
  | none =>
      obtain ⟨out, _ | ⟨f, outer⟩⟩ := p
      · have hsegment := newSegment_below before (hp.out_ne_empty rfl)
        simp only [below] at hsegment
        simp only [below, passThrough, hsegment, map_pure, String.append_assoc]
      · exact readOwnLine_below s before _ f outer line

theorem takeLoop_below {p : Progress} (hp : p.Begun) (r : LoopRun) :
    (p.below before).takeLoop s r = below before <$> p.takeLoop s r := by
  obtain ⟨out, _ | ⟨f, outer⟩⟩ := p
  · have hsegment := newSegment_below before (hp.out_ne_empty rfl)
    simp only [below] at hsegment
    simp only [takeLoop, below, hsegment, map_pure, String.append_assoc]
  · simp only [takeLoop, below, map_bind, map_pure]

/-! ## Runs that have begun -/

theorem openFold_begun {p : Progress} (hp : ∀ f ∈ p.stack, f.rendered = false)
    (start : Marker.Start) : Yields Begun (p.openFold s start) := by
  obtain ⟨out, _ | ⟨around, outer⟩⟩ := p
  · unfold openFold
    dsimp only
    rw [pure_bind]
    exact Yields.bind_trivial fun _ => Yields.pure (.of_cons rfl hp)
  · obtain ⟨haround, houter⟩ := List.forall_mem_cons.mp hp
    unfold openFold
    refine (Fold.issuePending_yields s around).bind fun g hg => ?_
    rw [pure_bind]
    refine Yields.bind_trivial fun _ => Yields.pure (.of_cons rfl ?_)
    exact List.forall_mem_cons.mpr ⟨hg.rendered.trans haround, houter⟩

/-- A fold that closes is written, or leaves another one open. -/
theorem closeFold_begun {out : String} {f : Fold} {outer : List Fold} (hf : f.rendered = false)
    (houter : ∀ f ∈ outer, f.rendered = false) :
    Yields (fun p => p.Begun ∧ p.stack.length = outer.length)
      (closeFold s { out, stack := f :: outer }) := by
  unfold closeFold
  refine (Fold.issuePending_yields s f).bind fun g hg => Yields.bind_trivial fun _ => ?_
  cases outer with
  | nil =>
      have hrender := Fold.render_ne_empty (hg.rendered.trans hf)
      have hout : out ++ g.render.1 ≠ "" := fun hempty =>
        hrender (String.append_eq_empty_iff.mp hempty).2
      exact Yields.pure ⟨⟨fun _ => hout, houter⟩, rfl⟩
  | cons around outer =>
      obtain ⟨haround, houter⟩ := List.forall_mem_cons.mp houter
      exact Yields.pure ⟨.of_cons haround houter, rfl⟩

theorem readOwnLine_begun {out : String} {f : Fold} {outer : List Fold}
    (hp : Begun { out, stack := f :: outer }) (line : String) :
    Yields Begun (readOwnLine s { out, stack := f :: outer } f outer line) := by
  obtain ⟨hf, houter⟩ := List.forall_mem_cons.mp hp.unrendered
  unfold readOwnLine
  split
  · exact Yields.pure (.of_cons hf houter)
  · split
    · have hend : Fold.rendered { f with endMarker := line } = false := hf
      exact (closeFold_begun s hend houter).mono fun p hp => hp.1
    · split
      · exact Yields.pure hp
      · dsimp only
        split
        · exact Yields.pure (.of_cons hf houter)
        · refine (Fold.interpret_yields s (f.keepLine line) line).bind fun g hg => ?_
          exact Yields.pure (.of_cons (hg.rendered.trans hf) houter)

theorem readLine_begun {p : Progress} (hp : p.Begun) (line : String) :
    Yields Begun (p.readLine s line) := by
  unfold readLine
  cases Marker.start? line with
  | some start => exact openFold_begun s hp.unrendered start
  | none =>
      obtain ⟨out, _ | ⟨f, outer⟩⟩ := p
      · exact Yields.pure ⟨fun _ => hp.newSegment_append_ne_empty rfl line, hp.unrendered⟩
      · exact readOwnLine_begun s hp line

theorem takeLoop_begun {p : Progress} (hp : p.Begun) (r : LoopRun) :
    Yields Begun (p.takeLoop s r) := by
  obtain ⟨out, _ | ⟨f, outer⟩⟩ := p
  · exact Yields.pure ⟨fun _ => hp.newSegment_append_ne_empty rfl r.output, hp.unrendered⟩
  · obtain ⟨hf, houter⟩ := List.forall_mem_cons.mp hp.unrendered
    unfold takeLoop
    refine (Fold.issuePending_yields s f).bind fun g hg => ?_
    exact Yields.pure (.of_cons (hg.rendered.trans hf) houter)

/-- The text of a run that has begun is not empty. -/
theorem finish_ne_empty {p : Progress} (hp : p.Begun) : Yields (· ≠ "") (p.finish s) := by
  unfold finish
  induction hlength : p.stack.length generalizing p with
  | zero =>
      rw [closeFolds, pure_bind]
      exact Yields.pure (hp.out_ne_empty (List.length_eq_zero_iff.mp hlength))
  | succ count ih =>
      obtain ⟨out, _ | ⟨f, outer⟩⟩ := p
      · exact absurd hlength (Nat.succ_ne_zero count).symm
      · obtain ⟨hf, houter⟩ := List.forall_mem_cons.mp hp.unrendered
        rw [closeFolds, bind_assoc]
        refine (closeFold_begun s hf houter).bind fun p hp => ih hp.1 ?_
        exact hp.2.trans (Nat.succ.inj hlength)

end

end Progress

section

variable {m : Type → Type} [Monad m] [LawfulMonad m] (s : Services m)

/-! ## Items -/

namespace Item

theorem run_begun {p : Progress} (hp : p.Begun) (item : Item) :
    Yields Progress.Begun (item.run s p) := by
  cases item with
  | line text =>
      rw [run]
      exact Progress.readLine_begun s hp text
  | loop block inside =>
      rw [run]
      exact Yields.bind_trivial fun r => Progress.takeLoop_begun s hp r

theorem runAll_begun {p : Progress} (hp : p.Begun) (items : List Item) :
    Yields Progress.Begun (runAll s p items) := by
  induction items generalizing p with
  | nil =>
      rw [runAll]
      exact Yields.pure hp
  | cons item items ih =>
      rw [runAll]
      exact (run_begun s hp item).bind fun p hp => ih hp

theorem run_below (before : String) {p : Progress} (hp : p.Begun) (item : Item) :
    item.run s (p.below before) = Progress.below before <$> item.run s p := by
  cases item with
  | line text =>
      rw [run, run]
      exact Progress.readLine_below s before hp text
  | loop block inside =>
      rw [run, run, map_bind]
      exact bind_congr fun r => Progress.takeLoop_below s before hp r

/-- A run that has begun does not look at the text in front. -/
theorem runAll_below (before : String) {p : Progress} (hp : p.Begun) (items : List Item) :
    runAll s (p.below before) items = Progress.below before <$> runAll s p items := by
  induction items generalizing p with
  | nil => rw [runAll, runAll, map_pure]
  | cons item items ih =>
      rw [runAll, runAll, run_below s before hp, bind_map_left, map_bind]
      exact (run_begun s hp item).congr fun p hp => ih hp

/-- The first item behind a text begins a line of its own. -/
theorem run_behind {out : String} (hout : out ≠ "") (item : Item) :
    item.run s { out, stack := [] } = Progress.below (out ++ "\n") <$> item.run s {} := by
  have hsegment : Progress.newSegment { out, stack := [] } = out ++ "\n" :=
    Progress.newSegment_of_ne_empty hout
  have hfirst : Progress.newSegment {} = "" := rfl
  cases item with
  | line text =>
      rw [run, run]
      unfold Progress.readLine
      cases Marker.start? text with
      | some start =>
          simp only [Progress.openFold, Progress.below, hsegment, hfirst, map_bind, map_pure,
            pure_bind, String.append_empty]
      | none =>
          simp only [Progress.passThrough, Progress.below, hsegment, hfirst, map_pure,
            String.empty_append]
  | loop block inside =>
      rw [run, run, map_bind]
      refine bind_congr fun r => ?_
      simp only [Progress.takeLoop, Progress.below, hsegment, hfirst, map_pure,
        String.empty_append]

end Item

/-! ## Loops have a text -/

namespace LoopBlock

theorem synthetic_ne_empty (block : LoopBlock) (failed : Bool) (output : String) :
    block.synthetic failed output ≠ "" := by
  have hkeep (lines : List String) (f : Fold) (hf : f.rendered = false) :
      (lines.foldl Fold.keepLine f).rendered = false := by
    induction lines generalizing f with
    | nil => exact hf
    | cons line lines ih => exact ih _ hf
  unfold synthetic
  refine Fold.render_ne_empty (hkeep block.body _ ?_)
  split <;> rfl

theorem finish_ne_empty (block : LoopBlock) {r : LoopRun} (hr : r.rounds = 0 ∨ r.output ≠ "") :
    Yields (fun r => r.output ≠ "") (block.finish s r) := by
  unfold finish
  refine Yields.bind_trivial fun _ => Yields.pure ?_
  split
  · exact synthetic_ne_empty block _ _
  · exact hr.resolve_left ‹_›

/-- The rendering of a loop is not empty if no round gives an empty one. -/
theorem run_ne_empty (block : LoopBlock) {runBlock : m String} (hblock : Yields (· ≠ "") runBlock)
    (left : Nat) {r : LoopRun} (hr : r.rounds = 0 ∨ r.output ≠ "") :
    Yields (fun r => r.output ≠ "") (block.run s runBlock left r) := by
  induction left generalizing r with
  | zero =>
      unfold run
      refine Yields.bind_trivial fun answer => ?_
      cases answer with
      | error e => exact Yields.bind_trivial fun _ => Yields.pure (synthetic_ne_empty block _ _)
      | ok verdict =>
          dsimp only
          split <;> exact finish_ne_empty s block hr
  | succ left ih =>
      unfold run
      refine Yields.bind_trivial fun answer => ?_
      cases answer with
      | error e => exact Yields.bind_trivial fun _ => Yields.pure (synthetic_ne_empty block _ _)
      | ok verdict =>
          dsimp only
          split
          · exact finish_ne_empty s block hr
          · refine hblock.bind fun output houtput => ?_
            split
            · exact finish_ne_empty s block (.inr houtput)
            · exact ih (.inr houtput)

end LoopBlock

/-! ## Documents -/

/-- A line that is not blank begins a run. -/
theorem Item.run_line_begun {text : String} (htext : text ≠ "") :
    Yields Progress.Begun ((Item.line text).run s {}) := by
  rw [run]
  unfold Progress.readLine
  cases Marker.start? text with
  | some start => exact Progress.openFold_begun s (p := {}) (by simp) start
  | none =>
      refine Yields.pure ⟨fun _ => ?_, by simp [Progress.passThrough]⟩
      simpa [Progress.passThrough, Progress.newSegment] using htext

/-- Lines of which the first one is not blank begin with an item that begins a run, be it a line of
text, a fold or a loop. -/
theorem Item.exists_ofLines_begun {line : String} (hline : trimEnd line ≠ "") (more : List String) :
    ∃ item items, ofLines false (line :: more) = item :: items ∧
      Yields Progress.Begun (item.run s {}) := by
  by_cases hloop : Marker.isLoopStart (trimEnd line) = true
  · refine ⟨_, _, ofLines_loop _ hloop, ?_⟩
    have hblock : Yields (· ≠ "") (Document.runItems s (.line (trimEnd line) ::
        ofLines false (LoopBlock.collect (trimEnd line) more).1.rest)) := by
      rw [Document.runItems, runAll, bind_assoc]
      refine (run_line_begun s hline).bind fun p hp => ?_
      exact (runAll_begun s hp _).bind fun p hp => Progress.finish_ne_empty s hp
    rw [run]
    refine (LoopBlock.run_ne_empty s _ hblock s.rounds (.inl rfl)).bind fun r hr => ?_
    refine Yields.pure ⟨fun _ => ?_, by simp⟩
    simpa [Progress.newSegment] using hr
  · rw [Bool.not_eq_true] at hloop
    exact ⟨_, _, ofLines_plain _ _ hloop, run_line_begun s hline⟩

/-- All loops and all folds of the lines are closed behind them. -/
structure Closed (lines : List String) : Prop where
  loops : Item.openLoops false 0 lines = 0
  folds : Item.openFolds 0 (Item.ofLines false lines) = 0

/-- Items behind a document whose folds are all closed. -/
theorem Item.runAll_behind_bind_finish (out : String) {item : Item} {items : List Item}
    (hbegun : Yields Progress.Begun (item.run s {})) :
    (runAll s { out, stack := [] } (item :: items) >>= fun p => p.finish s) =
      addLine out <$> Document.runItems s (item :: items) := by
  by_cases hout : out = ""
  · subst hout
    have hid : addLine "" = id := funext addLine_empty
    rw [hid, id_map]
    rfl
  · have hline : addLine out = (out ++ "\n" ++ ·) := funext (addLine_of_ne_empty hout)
    rw [hline, Document.runItems, runAll, runAll, run_behind s hout, bind_map_left, bind_assoc,
      map_bind, bind_assoc]
    refine hbegun.congr fun p hp => ?_
    rw [runAll_below s _ hp, bind_map_left]
    exact bind_congr fun p => Progress.finish_below s _ p

/-- A document whose loops and folds are all closed, and another one behind it, whose first line is
not blank.  Both together do what the one does and then what the other one does, and the text of
the other one stands below. -/
theorem Document.runLines_append {before : List String} (hbefore : Closed before) {line : String}
    (hline : trimEnd line ≠ "") (more : List String) :
    Document.runLines s (before ++ line :: more) = (do
      let out ← Document.runLines s before
      let behind ← Document.runLines s (line :: more)
      pure (if out = "" then behind else out ++ "\n" ++ behind)) := by
  have hopen := Item.runAll_yields s (Progress.Opens.empty "") (Item.ofLines false before)
  rw [hbefore.folds] at hopen
  obtain ⟨item, items, hitems, hbegun⟩ := Item.exists_ofLines_begun s hline more
  have hplain : Item.plainBehind false before = false := rfl
  simp only [runLines, runItems]
  rw [Item.ofLines_append _ _ hbefore.loops, hplain, hitems, Item.runAll_append, bind_assoc,
    bind_assoc]
  refine hopen.congr fun p hp => ?_
  obtain ⟨out, _ | ⟨f, outer⟩⟩ := p
  · rw [Progress.finish_outside, pure_bind, Item.runAll_behind_bind_finish s out hbegun,
      map_eq_pure_bind]
    refine bind_congr fun behind => congrArg pure ?_
    split
    · rename_i hout
      rw [hout, addLine_empty]
    · rename_i hout
      rw [addLine_of_ne_empty hout]
  · exact absurd hp.length (Nat.succ_ne_zero _)

/-- Text, a fold with a line for a variable, and a loop that is not run. -/
def closedDocument : List String :=
  ["text", "###\x7b a", "@x", "###\x7d", "###\x7b while c", "###\x7b", "###\x7d endwhile"]

theorem runLines_append_loop :
    Closed closedDocument ∧ trimEnd "###\x7b b " ≠ "" ∧
      Document.runLines silentServices (closedDocument ++ ["###\x7b b ", "GET c"]) = (do
        let out ← Document.runLines silentServices closedDocument
        let behind ← Document.runLines silentServices ["###\x7b b ", "GET c"]
        pure (if out = "" then behind else out ++ "\n" ++ behind)) := by
  have hclosed : Closed closedDocument := ⟨by decide, by decide +kernel⟩
  have hline : trimEnd "###\x7b b " ≠ "" := by decide
  exact ⟨hclosed, hline, Document.runLines_append silentServices hclosed hline ["GET c"]⟩

end

end Foldbook
