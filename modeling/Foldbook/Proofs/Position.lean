import Foldbook.Proofs.Frame
import Foldbook.Proofs.Marker.Line

/-!
# What is open at a place in a document

Which loops and folds are open behind some lines depends on the lines only.

* `Item.openLoops` counts the loops.  Where it is zero the items of a
  document can be cut in two (`ofLines_append`).
* `Item.openFolds` counts the folds, and `runAll_yields` says that a run has
  as many on its stack.
* `finish_yields`: a document whose folds are not all closed ends in the
  usual end line.
-/

namespace Foldbook

open Text

/-! ## Loops -/

/-- No line starts a loop. -/
def Loopless (lines : List String) : Prop :=
  ∀ line ∈ lines, Marker.isLoopStart (trimEnd line) = false

instance (lines : List String) : Decidable (Loopless lines) :=
  inferInstanceAs (Decidable (∀ line ∈ lines, Marker.isLoopStart (trimEnd line) = false))

namespace Item

/-- How many loops are open behind the lines, if as many are open before them. -/
def openLoops : (plainFirst : Bool) → (depth : Nat) → List String → Nat
  | _, depth, [] => depth
  | plainFirst, depth, raw :: more =>
    if Marker.isLoopStart (trimEnd raw) then
      openLoops false (if plainFirst then depth else depth + 1) more
    else if Marker.isLoopEnd (trimEnd raw) then openLoops plainFirst (depth - 1) more
    else openLoops plainFirst depth more

/-- Whether the first loop start behind the lines is plain. -/
def plainBehind (plainFirst : Bool) (lines : List String) : Bool :=
  plainFirst && lines.all fun line => !Marker.isLoopStart (trimEnd line)

/-- The lines of a loop that ends do not depend on what is behind it. -/
theorem cut_append {depth : Nat} {lines : List String}
    (h : openLoops false (depth + 1) lines = 0) :
    ∃ inside behind, openLoops false 0 behind = 0 ∧ behind.length < lines.length ∧
      ∀ rest, LoopBlock.cut (depth + 1) (lines ++ rest) = (inside, behind ++ rest) := by
  induction lines generalizing depth with
  | nil => exact absurd h (Nat.succ_ne_zero depth)
  | cons raw more ih =>
      have hlater : ∀ next, openLoops false (next + 1) more = 0 →
          ∃ inside behind, openLoops false 0 behind = 0 ∧ behind.length < (raw :: more).length ∧
            ∀ rest, (LoopBlock.cut (next + 1) (more ++ rest)) = (inside, behind ++ rest) := by
        intro next hnext
        obtain ⟨inside, behind, hbehind, hlength, hcut⟩ := ih hnext
        exact ⟨inside, behind, hbehind, Nat.lt_succ_of_lt hlength, hcut⟩
      unfold openLoops at h
      by_cases hstart : Marker.isLoopStart (trimEnd raw) = true
      · simp only [hstart, if_true, Bool.false_eq_true, if_false] at h
        obtain ⟨inside, behind, hbehind, hlength, hcut⟩ := hlater _ h
        refine ⟨trimEnd raw :: inside, behind, hbehind, hlength, fun rest => ?_⟩
        simp [LoopBlock.cut, hstart, hcut]
      · simp only [hstart, Bool.false_eq_true, if_false] at h
        by_cases hend : Marker.isLoopEnd (trimEnd raw) = true
        · simp only [hend, if_true, Nat.add_sub_cancel] at h
          cases depth with
          | zero =>
              refine ⟨[trimEnd raw], more, h, Nat.lt_succ_self _, fun rest => ?_⟩
              simp [LoopBlock.cut, hstart, hend]
          | succ depth =>
              obtain ⟨inside, behind, hbehind, hlength, hcut⟩ := hlater _ h
              refine ⟨trimEnd raw :: inside, behind, hbehind, hlength, fun rest => ?_⟩
              simp [LoopBlock.cut, hstart, hend, hcut]
        · simp only [hend, Bool.false_eq_true, if_false] at h
          obtain ⟨inside, behind, hbehind, hlength, hcut⟩ := hlater _ h
          refine ⟨trimEnd raw :: inside, behind, hbehind, hlength, fun rest => ?_⟩
          simp [LoopBlock.cut, hstart, hend, hcut]

section Equations

variable {raw : String} (plainFirst : Bool) (more : List String)

theorem ofLines_plain (h : Marker.isLoopStart (trimEnd raw) = false) :
    ofLines plainFirst (raw :: more) = .line (trimEnd raw) :: ofLines plainFirst more := by
  rw [ofLines]
  simp [h]

theorem ofLines_first (h : Marker.isLoopStart (trimEnd raw) = true) :
    ofLines true (raw :: more) = .line (trimEnd raw) :: ofLines false more := by
  rw [ofLines]
  simp [h]

theorem ofLines_loop (h : Marker.isLoopStart (trimEnd raw) = true) :
    ofLines false (raw :: more) =
      .loop (LoopBlock.collect (trimEnd raw) more).1
        (.line (trimEnd raw) :: ofLines false (LoopBlock.collect (trimEnd raw) more).1.rest) ::
          ofLines false (LoopBlock.collect (trimEnd raw) more).2 := by
  rw [ofLines]
  simp [h]

/-- The block of a loop is run like a document of its own whose first loop start is plain. -/
theorem ofLines_block (h : Marker.isLoopStart (trimEnd raw) = true) :
    ofLines true (LoopBlock.collect (trimEnd raw) more).1.lines =
      .line (trimEnd raw) :: ofLines false (LoopBlock.collect (trimEnd raw) more).1.rest := by
  have hfirst : Marker.isLoopStart (trimEnd (trimEnd raw)) = true := by rwa [trimEnd_idem]
  have hlines : (LoopBlock.collect (trimEnd raw) more).1.lines =
      trimEnd raw :: (LoopBlock.collect (trimEnd raw) more).1.rest := rfl
  rw [hlines, ofLines_first _ hfirst, trimEnd_idem]

end Equations

theorem ofLines_loopless_append (plainFirst : Bool) {lines : List String} (h : Loopless lines)
    (rest : List String) : ofLines plainFirst (lines ++ rest) =
      (lines.map fun line => .line (trimEnd line)) ++ ofLines plainFirst rest := by
  induction lines with
  | nil => rw [List.map_nil, List.nil_append, List.nil_append]
  | cons line lines ih =>
      obtain ⟨hline, hlines⟩ := List.forall_mem_cons.mp h
      rw [List.cons_append, ofLines_plain _ _ hline, ih hlines, List.map_cons, List.cons_append]

theorem ofLines_of_loopless (plainFirst : Bool) {lines : List String} (h : Loopless lines) :
    ofLines plainFirst lines = lines.map fun line => .line (trimEnd line) := by
  have happend := ofLines_loopless_append plainFirst h []
  rwa [ofLines, List.append_nil, List.append_nil] at happend

/-- Where no loop is open the items can be cut in two. -/
theorem ofLines_append (plainFirst : Bool) (lines : List String)
    (h : openLoops plainFirst 0 lines = 0) (rest : List String) :
    ofLines plainFirst (lines ++ rest) =
      ofLines plainFirst lines ++ ofLines (plainBehind plainFirst lines) rest := by
  -- behind a loop the induction goes on with the lines that `cut` leaves
  induction hlength : lines.length using Nat.strongRecOn generalizing plainFirst lines with
  | ind length ih =>
      subst hlength
      cases lines with
      | nil => simp [ofLines, plainBehind]
      | cons raw more =>
          have hmore : more.length < (raw :: more).length := Nat.lt_succ_self _
          unfold openLoops at h
          by_cases hstart : Marker.isLoopStart (trimEnd raw) = true
          · cases plainFirst with
            | true =>
                simp only [hstart, if_true] at h
                rw [List.cons_append, ofLines_first _ hstart, ofLines_first _ hstart,
                  ih _ hmore false more h rfl]
                simp [plainBehind, hstart]
            | false =>
                simp only [hstart, if_true, Bool.false_eq_true, if_false] at h
                obtain ⟨inside, behind, hbehind, hshorter, hcut⟩ := cut_append h
                have hwhole : LoopBlock.cut 1 more = (inside, behind) := by
                  have hnil := hcut []
                  rwa [List.append_nil, List.append_nil] at hnil
                have hlater := ih _ (Nat.lt_trans hshorter hmore) false behind hbehind rfl
                rw [List.cons_append, ofLines_loop _ hstart, ofLines_loop _ hstart]
                simp only [LoopBlock.collect, hcut, hwhole, hlater, plainBehind, Bool.false_and,
                  List.cons_append]
          · simp only [hstart, Bool.false_eq_true, if_false] at h
            rw [Bool.not_eq_true] at hstart
            have hopen : openLoops plainFirst 0 more = 0 := by
              split at h
              · exact h
              · exact h
            rw [List.cons_append, ofLines_plain _ _ hstart, ofLines_plain _ _ hstart,
              ih _ hmore plainFirst more hopen rfl]
            simp [plainBehind, hstart]

end Item

/-- A run of items is the run of the first ones and then that of the others. -/
theorem Item.runAll_append {m : Type → Type} [Monad m] [LawfulMonad m] (s : Services m)
    (p : Progress) (items more : List Item) :
    Item.runAll s p (items ++ more) = Item.runAll s p items >>= fun p => Item.runAll s p more := by
  induction items generalizing p with
  | nil => rw [List.nil_append, Item.runAll, pure_bind]
  | cons item items ih =>
      rw [List.cons_append, Item.runAll, Item.runAll, bind_assoc]
      exact bind_congr fun p => ih p

/-! ## Folds -/

/-- How many folds are open behind a line. -/
def Marker.openFolds (count : Nat) (line : String) : Nat :=
  if (start? line).isSome then count + 1
  else if isDivider line then count
  else if isEnd line then count - 1
  else count

/-- How many folds are open behind the items, if as many are open before them. -/
def Item.openFolds : (count : Nat) → List Item → Nat
  | count, [] => count
  | count, .line text :: items => openFolds (Marker.openFolds count text) items
  | count, .loop _ _ :: items => openFolds count items

namespace Progress

/-- So many folds are open, and none of them has been given its end line. -/
structure Opens (count : Nat) (p : Progress) : Prop where
  length : p.stack.length = count
  endMarker : ∀ f ∈ p.stack, f.endMarker = ""
  unrendered : ∀ f ∈ p.stack, f.rendered = false

theorem Opens.empty (out : String) : Opens 0 { out, stack := [] } where
  length := rfl
  endMarker _ hf := absurd hf List.not_mem_nil
  unrendered _ hf := absurd hf List.not_mem_nil

/-- Another fold takes the place of the innermost one. -/
theorem Opens.replace {count : Nat} {out : String} {f : Fold} {outer : List Fold}
    (h : Opens count { out, stack := f :: outer }) {g : Fold} (hg : f.SameFrame g) (more : String) :
    Opens count { out := more, stack := g :: outer } where
  length := h.length
  endMarker := by
    obtain ⟨hfirst, houter⟩ := List.forall_mem_cons.mp h.endMarker
    exact List.forall_mem_cons.mpr ⟨hg.endMarker.trans hfirst, houter⟩
  unrendered := by
    obtain ⟨hfirst, houter⟩ := List.forall_mem_cons.mp h.unrendered
    exact List.forall_mem_cons.mpr ⟨hg.rendered.trans hfirst, houter⟩

theorem Opens.push {count : Nat} {p : Progress} (h : Opens count p) {f : Fold}
    (hending : f.endMarker = "") (hrendered : f.rendered = false) (more : String) :
    Opens (count + 1) { out := more, stack := f :: p.stack } where
  length := by rw [List.length_cons, h.length]
  endMarker := List.forall_mem_cons.mpr ⟨hending, h.endMarker⟩
  unrendered := List.forall_mem_cons.mpr ⟨hrendered, h.unrendered⟩

theorem Opens.pop {count : Nat} {out : String} {f : Fold} {outer : List Fold}
    (h : Opens count { out, stack := f :: outer }) (more : String) :
    Opens (count - 1) { out := more, stack := outer } where
  length := by
    rw [← h.length]
    rfl
  endMarker := (List.forall_mem_cons.mp h.endMarker).2
  unrendered := (List.forall_mem_cons.mp h.unrendered).2

variable {m : Type → Type} [Monad m] [LawfulMonad m] (s : Services m)

theorem openFold_yields {count : Nat} {p : Progress} (h : Opens count p) (start : Marker.Start) :
    Yields (Opens (count + 1)) (p.openFold s start) := by
  obtain ⟨out, _ | ⟨around, outer⟩⟩ := p
  · unfold openFold
    dsimp only
    rw [pure_bind]
    exact Yields.bind_trivial fun _ => Yields.pure (h.push rfl rfl _)
  · unfold openFold
    refine (Fold.issuePending_yields s around).bind fun g hg => ?_
    rw [pure_bind]
    exact Yields.bind_trivial fun _ => Yields.pure ((h.replace hg out).push rfl rfl _)

/-- Whatever end line the innermost fold has been given. -/
theorem closeFold_yields {count : Nat} {out : String} {f : Fold} {outer : List Fold}
    (h : Opens count { out, stack := outer }) :
    Yields (Opens count) (closeFold s { out, stack := f :: outer }) := by
  unfold closeFold
  refine Yields.bind_trivial fun g => Yields.bind_trivial fun _ => ?_
  cases outer with
  | nil => exact Yields.pure ⟨h.length, h.endMarker, h.unrendered⟩
  | cons around outer =>
      have hsame : around.SameFrame (around.absorb (g.renderNested around.output).1 g.failed) :=
        ⟨rfl, rfl, rfl⟩
      exact Yields.pure (h.replace hsame out)

theorem readOwnLine_yields {count : Nat} {out : String} {f : Fold} {outer : List Fold}
    (h : Opens count { out, stack := f :: outer }) {line : String}
    (hstart : Marker.start? line = none) :
    Yields (Opens (Marker.openFolds count line))
      (readOwnLine s { out, stack := f :: outer } f outer line) := by
  have hcount : Marker.openFolds count line =
      if Marker.isDivider line then count else if Marker.isEnd line then count - 1 else count := by
    rw [Marker.openFolds, hstart]
    rfl
  rw [hcount]
  unfold readOwnLine
  split
  · obtain ⟨hfirst, houter⟩ := List.forall_mem_cons.mp h.endMarker
    obtain ⟨hrendered, hothers⟩ := List.forall_mem_cons.mp h.unrendered
    exact Yields.pure ⟨h.length, List.forall_mem_cons.mpr ⟨hfirst, houter⟩,
      List.forall_mem_cons.mpr ⟨hrendered, hothers⟩⟩
  · split
    · exact closeFold_yields s (h.pop out)
    · split
      · exact Yields.pure h
      · dsimp only
        have hkeep : f.SameFrame (f.keepLine line) := ⟨rfl, rfl, rfl⟩
        split
        · exact Yields.pure (h.replace hkeep out)
        · refine (Fold.interpret_yields s (f.keepLine line) line).bind fun g hg => ?_
          exact Yields.pure (h.replace ⟨hg.stale, hg.endMarker, hg.rendered⟩ out)

theorem readLine_yields {count : Nat} {p : Progress} (h : Opens count p) (line : String) :
    Yields (Opens (Marker.openFolds count line)) (p.readLine s line) := by
  unfold readLine
  cases hstart : Marker.start? line with
  | some start =>
      have hcount : Marker.openFolds count line = count + 1 := by
        rw [Marker.openFolds, hstart]
        rfl
      rw [hcount]
      exact openFold_yields s h start
  | none =>
      obtain ⟨out, _ | ⟨f, outer⟩⟩ := p
      · have hcount : Marker.openFolds count line = 0 := by
          have hzero : count = 0 := h.length.symm
          rw [Marker.openFolds, hstart, hzero]
          simp
        rw [hcount]
        exact Yields.pure (Opens.empty _)
      · exact readOwnLine_yields s h hstart

theorem takeLoop_yields {count : Nat} {p : Progress} (h : Opens count p) (r : LoopRun) :
    Yields (Opens count) (p.takeLoop s r) := by
  obtain ⟨out, _ | ⟨f, outer⟩⟩ := p
  · have hzero : count = 0 := h.length.symm
    rw [hzero]
    exact Yields.pure (Opens.empty _)
  · unfold takeLoop
    refine (Fold.issuePending_yields s f).bind fun g hg => ?_
    have hsame : f.SameFrame (g.absorb (nest r.output g.output) r.failed) :=
      ⟨hg.stale, hg.endMarker, hg.rendered⟩
    exact Yields.pure (h.replace hsame out)

end Progress

/-- A run has as many open folds on its stack as the items leave open. -/
theorem Item.runAll_yields {m : Type → Type} [Monad m] [LawfulMonad m] (s : Services m)
    {count : Nat} {p : Progress} (h : p.Opens count) (items : List Item) :
    Yields (Progress.Opens (openFolds count items)) (Item.runAll s p items) := by
  induction items generalizing count p with
  | nil =>
      unfold Item.runAll
      exact Yields.pure h
  | cons item items ih =>
      unfold Item.runAll
      cases item with
      | line text =>
          unfold Item.run
          exact (Progress.readLine_yields s h text).bind fun p hp => ih hp
      | loop block inside =>
          unfold Item.run
          refine Yields.bind ?_ fun p hp => ih hp
          exact Yields.bind_trivial fun r => Progress.takeLoop_yields s h r

/-- A rendered fold ends in its end line. -/
theorem Fold.exists_render {f : Fold} (h : f.rendered = false) :
    ∃ front, f.render.1 = front ++ f.closingMarker := by
  refine ⟨f.header ++ closeLine f.echo ++ Marker.divider ++ " " ++ f.title ++ f.resultLabel ++
    "\n" ++ closeLine f.output, ?_⟩
  unfold render
  rw [h]
  simp [String.append_assoc]

namespace Progress

variable {m : Type → Type} [Monad m] [LawfulMonad m] (s : Services m)

/-- Outside of all folds nothing is left to do. -/
theorem finish_outside (out : String) : finish s { out, stack := [] } = pure out := by
  unfold finish
  exact pure_bind _ _

/-- The text of a document whose folds are not all closed ends in the usual end line. -/
theorem finish_yields {count : Nat} {p : Progress} (h : Opens (count + 1) p) :
    Yields (fun text => ∃ front, text = front ++ Marker.finish) (p.finish s) := by
  unfold finish
  rw [h.length]
  induction count generalizing p with
  | zero =>
      obtain ⟨out, _ | ⟨f, _ | ⟨g, outer⟩⟩⟩ := p
      · exact absurd h.length (by simp)
      · rw [closeFolds, closeFold, bind_assoc, bind_assoc]
        refine (Fold.issuePending_yields s f).bind fun g hg => ?_
        rw [bind_assoc]
        refine Yields.bind_trivial fun _ => ?_
        rw [pure_bind, closeFolds, pure_bind]
        obtain ⟨front, hfront⟩ :=
          Fold.exists_render (hg.rendered.trans (h.unrendered f List.mem_cons_self))
        have hclosing : g.closingMarker = Marker.finish := by
          rw [Fold.closingMarker, hg.endMarker, h.endMarker f List.mem_cons_self]
          rfl
        refine Yields.pure ⟨out ++ front, ?_⟩
        rw [hfront, hclosing, String.append_assoc]
      · exact absurd h.length (by simp)
  | succ count ih =>
      obtain ⟨out, _ | ⟨f, outer⟩⟩ := p
      · exact absurd h.length (by simp)
      · rw [closeFolds, bind_assoc]
        exact (closeFold_yields s (h.pop out)).bind fun p hp => ih hp

end Progress

/-- So does the text of a run over such a document. -/
theorem Document.runLines_yields {m : Type → Type} [Monad m] [LawfulMonad m] (s : Services m)
    {plainFirst : Bool} {lines : List String}
    (h : 0 < Item.openFolds 0 (Item.ofLines plainFirst lines)) :
    Yields (fun text => ∃ front, text = front ++ Marker.finish)
      (Document.runLines s lines plainFirst) := by
  have hrun := Item.runAll_yields s (Progress.Opens.empty "") (Item.ofLines plainFirst lines)
  obtain ⟨count, hcount⟩ := Nat.exists_eq_succ_of_ne_zero (Nat.ne_of_gt h)
  rw [hcount] at hrun
  exact hrun.bind fun p hp => Progress.finish_yields s hp

end Foldbook
