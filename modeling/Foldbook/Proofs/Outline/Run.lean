import Foldbook.Proofs.Outline.Basic
import Foldbook.Proofs.Position

/-!
# Running a document is carrying out its outline

The interpreter takes one line after the other and keeps the open folds on a
stack.  `runLines_eq_outline` says that it does what the recursion over the
outline does.

The recursion keeps the frames of folds at their first values, which is what
`Progress.fresh` does to a stack.
-/

namespace Foldbook

open Text

variable {m : Type → Type} [Monad m] (s : Services m)

/-! ## Folds with their first frames -/

namespace Fold

variable [LawfulMonad m]

/-- The fold with the frame that it was opened with. -/
def fresh (f : Fold) : Fold := f.framed false ""

theorem fresh_fold (heading : Marker.Heading) (depth : Nat) :
    (heading.fold depth).fresh = heading.fold depth := rfl

/-- Ending a fold with the usual line is ending it with no line of its own. -/
theorem conclude_fresh (f : Fold) :
    f.fresh.conclude s f.closingMarker =
      framed false f.closingMarker <$> (do
        let f ← f.issuePending s
        s.note {
          level := .debug
          event := "interpreter.fold.closed"
          fields := [("title", .str (trim f.title)), ("depth", .int f.depth),
            ("error", .bool f.failed)] }
        pure f) := by
  have hframe : ({ f.fresh with endMarker := f.closingMarker } : Fold) =
      f.framed false f.closingMarker := rfl
  rw [conclude, hframe, issuePending_framed, bind_map_left, map_bind]
  refine bind_congr fun g => ?_
  rw [map_bind]
  refine bind_congr fun _ => ?_
  rw [map_pure]

section Frames

variable {f : Fold} {stale again : Bool} {ending other : String}

theorem render_framed_congr
    (h : (f.framed stale ending).closingMarker = (f.framed again other).closingMarker) :
    (f.framed stale ending).render.1 = (f.framed again other).render.1 := by
  unfold render
  rw [h]
  show (if f.rendered = true then _ else _ : String × Fold).1 =
    (if f.rendered = true then _ else _ : String × Fold).1
  split <;> rfl

theorem enclose_framed_congr
    (h : (f.framed stale ending).closingMarker = (f.framed again other).closingMarker)
    (around : Fold) :
    around.enclose (f.framed stale ending) = around.enclose (f.framed again other) := by
  unfold enclose renderNested
  rw [h]
  show around.absorb (if f.rendered = true then _ else _ : Nested × Fold).1 f.failed =
    around.absorb (if f.rendered = true then _ else _ : Nested × Fold).1 f.failed
  split <;> rfl

/-- No line of its own and the usual line end a fold alike. -/
theorem closingMarker_framed_closingMarker (stale : Bool) :
    (f.framed stale f.closingMarker).closingMarker = f.closingMarker := by
  unfold closingMarker framed
  by_cases h : f.endMarker.isEmpty = true
  · simp [h, Marker.finish]
  · simp [h]

end Frames

end Fold

namespace Progress

/-- The frame of every open fold as it was when the fold was opened. -/
def fresh (p : Progress) : Progress := { p with stack := p.stack.map Fold.fresh }

/-- The lines that are left, read from inside the open folds. -/
def rest (p : Progress) (lines : List String) : Rest :=
  Rest.ofLines (p.stack.map Fold.stale) lines

/-- No open fold has an end line yet. -/
def Unended (p : Progress) : Prop := ∀ f ∈ p.stack, f.endMarker = ""

/-- A fold is left alike with no end line of its own and with the usual one. -/
theorem leave_framed (out : String) (f : Fold) (outer : List Fold) :
    leave out (f.framed false f.closingMarker) outer = leave out f outer := by
  have hclosing : (f.framed false f.closingMarker).closingMarker =
      (f.framed f.stale f.endMarker).closingMarker := Fold.closingMarker_framed_closingMarker false
  have hself : f.framed f.stale f.endMarker = f := rfl
  cases outer with
  | nil =>
      rw [leave, leave, Fold.render_framed_congr hclosing, hself]
  | cons around outer =>
      rw [leave, leave, Fold.enclose_framed_congr hclosing, hself]

theorem fresh_leave (out : String) (f : Fold) (outer : List Fold) :
    (leave out f outer).fresh = leave out f (outer.map Fold.fresh) := by
  cases outer <;> rfl

theorem length_stack_leave (out : String) (f : Fold) (outer : List Fold) :
    (leave out f outer).stack.length = outer.length := by
  cases outer <;> rfl

theorem rest_leave (out : String) (f : Fold) (outer : List Fold) (lines : List String) :
    (leave out f outer).rest lines = Rest.ofLines (outer.map Fold.stale) lines := by
  cases outer <;> rfl

theorem unended_leave {out : String} {f : Fold} {outer : List Fold}
    (h : ∀ g ∈ outer, g.endMarker = "") : (leave out f outer).Unended := by
  cases outer with
  | nil => exact fun g hg => absurd hg List.not_mem_nil
  | cons around outer =>
      intro g hg
      rcases List.mem_cons.mp hg with rfl | hg
      · exact h around List.mem_cons_self
      · exact h g (List.mem_cons_of_mem _ hg)

variable [LawfulMonad m]

/-- Closing the innermost fold is concluding it and leaving it. -/
theorem closeFold_eq (out : String) (f : Fold) (outer : List Fold) :
    closeFold s { out, stack := f :: outer } =
      (fun f => leave out f outer) <$> f.fresh.conclude s f.closingMarker := by
  rw [Fold.conclude_fresh, Functor.map_map, closeFold, map_bind]
  refine (Fold.issuePending_yields s f).congr fun g hg => ?_
  have hclosing : g.closingMarker = f.closingMarker := by
    unfold Fold.closingMarker
    rw [hg.endMarker]
  rw [map_bind]
  refine bind_congr fun _ => ?_
  rw [map_pure, ← hclosing, leave_framed]
  cases outer <;> rfl

variable {s}

/-- An open fold goes on where a fresh one would, and keeps its frame. -/
theorem issuePending_bind_fresh {α : Type} (f : Fold) {k k' : Fold → m α}
    (h : ∀ g, g.stale = f.stale → g.endMarker = f.endMarker → k g = k' g.fresh) :
    f.issuePending s >>= k = f.fresh.issuePending s >>= k' := by
  rw [Fold.fresh, Fold.issuePending_framed, bind_map_left]
  exact (Fold.issuePending_yields s f).congr fun g hg => h g hg.stale hg.endMarker

theorem takeLine_bind_fresh {α : Type} (f : Fold) (line : String) {k k' : Fold → m α}
    (h : ∀ g, g.stale = f.stale → g.endMarker = f.endMarker → k g = k' g.fresh) :
    f.takeLine s line >>= k = f.fresh.takeLine s line >>= k' := by
  have hkeep : f.fresh.keepLine line = (f.keepLine line).framed false "" := rfl
  unfold Fold.takeLine
  simp only [hkeep]
  rw [show ((f.keepLine line).framed false "").failed = (f.keepLine line).failed from rfl]
  split
  · rw [pure_bind, pure_bind]
    exact h _ rfl rfl
  · rw [Fold.interpret_framed, bind_map_left]
    exact (Fold.interpret_yields s (f.keepLine line) line).congr fun g hg =>
      h g hg.stale hg.endMarker

end Progress

/-! ## The interpreter against the outline -/

namespace Rest

variable {s}

/-- Entries put in front of what is left outside are carried out first. -/
theorem run_prepend_line_outside (p : Progress) {rest : Rest} (hrest : rest.depth = 0)
    (text : String) :
    (rest.prepend [.line text]).run s p = rest.run s { p with out := addLine p.out text } := by
  cases rest with
  | outside entries => simp [prepend, run, Entry.runOutside]
  | inside entries ending around => simp [depth] at hrest

theorem run_prepend_inside [LawfulMonad m] (out : String) (fold : Fold) (outer : List Fold)
    {rest : Rest} (hrest : rest.depth = outer.length + 1) (entry : Entry) :
    (rest.prepend [entry]).run s { out, stack := fold :: outer } =
      entry.run s (outer.length + 1) fold >>= fun fold =>
        rest.run s { out, stack := fold :: outer } := by
  cases rest with
  | outside entries => simp [depth] at hrest
  | inside entries ending around => simp [prepend, run, Entry.runAll]

/-- A fold that opens outside of all folds. -/
theorem run_enfold_outside [LawfulMonad m] (p : Progress) {rest : Rest} (hrest : rest.depth = 1)
    (heading : Marker.Heading) :
    (rest.enfold heading).run s p =
      heading.openFold s 0 >>= fun fold =>
        rest.run s { out := p.newSegment, stack := [fold] } := by
  cases rest with
  | outside entries => simp [depth] at hrest
  | inside entries ending around =>
      cases around with
      | inside _ _ _ => simp [depth] at hrest
      | outside more =>
          simp [enfold, prepend, run, Entry.runOutside, Progress.leave, addLine,
            Progress.newSegment]

/-- A fold that opens inside of another one. -/
theorem run_enfold_inside [LawfulMonad m] (out : String) (fold : Fold) (outer : List Fold)
    {rest : Rest} (hrest : rest.depth = outer.length + 2) (heading : Marker.Heading) :
    (rest.enfold heading).run s { out, stack := fold :: outer } =
      fold.issuePending s >>= fun fold =>
        heading.openFold s (outer.length + 1) >>= fun inner =>
          rest.run s { out, stack := inner :: fold :: outer } := by
  cases rest with
  | outside entries => simp [depth] at hrest
  | inside entries ending around =>
      have haround : around.depth = outer.length + 1 := by
        rw [depth] at hrest
        omega
      rw [enfold, run_prepend_inside out fold outer haround]
      simp [Entry.run, run, Progress.leave]

end Rest

namespace Progress

variable [LawfulMonad m] {s}

variable (s) in
/-- `k` does what the outline of the lines says, in whatever folds are open. -/
def Follows (lines : List String) (k : Progress → m String) : Prop :=
  ∀ p : Progress, p.Unended → k p = (p.rest lines).run s p.fresh

/-- Closing the innermost fold comes to the end of what the outline has for it. -/
theorem closeFold_bind {out : String} {f : Fold} {outer : List Fold} {ending : String}
    (hending : f.closingMarker = ending) {k : Progress → m String} {around : Rest}
    (h : ∀ g, k (leave out g outer) = around.run s (leave out g outer).fresh) :
    closeFold s { out, stack := f :: outer } >>= k =
      (Rest.inside [] ending around).run s (fresh { out, stack := f :: outer }) := by
  have hrun : (Rest.inside [] ending around).run s (fresh { out, stack := f :: outer }) =
      f.fresh.conclude s ending >>= fun g =>
        around.run s (leave out g (outer.map Fold.fresh)) := by
    simp [Rest.run, fresh, Entry.runAll]
  rw [hrun, ← hending, closeFold_eq, bind_map_left]
  refine bind_congr fun g => ?_
  rw [h, fresh_leave]

/-- At the end of the input the open folds are closed. -/
theorem follows_finish : Follows s [] (finish s) := by
  have hcount : ∀ count (p : Progress), p.stack.length = count → p.Unended →
      (closeFolds s count p >>= fun p => pure p.out) = (Rest.unclosed count).run s p.fresh := by
    intro count
    induction count with
    | zero =>
        intro p hlength hp
        rw [closeFolds, pure_bind]
        rfl
    | succ count ih =>
        intro p hlength hp
        obtain ⟨out, _ | ⟨f, outer⟩⟩ := p
        · simp at hlength
        · have hclosing : f.closingMarker = Marker.finish := by
            rw [Fold.closingMarker, hp f List.mem_cons_self]
            rfl
          rw [closeFolds, bind_assoc, Rest.unclosed]
          refine closeFold_bind hclosing fun g => ?_
          refine ih _ ?_ ?_
          · rw [length_stack_leave]
            exact Nat.succ.inj hlength
          · exact unended_leave fun h hh => hp h (List.mem_cons_of_mem _ hh)
  intro p hp
  have hrest : p.rest [] = Rest.unclosed p.stack.length := by
    rw [rest, Rest.ofLines, List.length_map]
  rw [hrest]
  exact hcount _ p rfl hp

theorem readLine_text {line : String} {more : List String} {k : Progress → m String}
    (hk : Follows s more k) (out : String) (hstart : Marker.start? line = none) :
    readLine s { out, stack := [] } line >>= k =
      (rest { out, stack := [] } (line :: more)).run s (fresh { out, stack := [] }) := by
  simp only [readLine, hstart, pure_bind]
  rw [hk _ fun f hf => absurd hf List.not_mem_nil]
  show (Rest.ofLines [] more).run s _ = (Rest.ofLines [] (line :: more)).run s _
  rw [Rest.ofLines_text _ hstart, Rest.run_prepend_line_outside _ (Rest.depth_ofLines _ _)]
  rfl

theorem readLine_start {line : String} {more : List String} {k : Progress → m String}
    (hk : Follows s more k) {p : Progress} (hp : p.Unended) {start : Marker.Start}
    (hstart : Marker.start? line = some start) :
    readLine s p line >>= k = (p.rest (line :: more)).run s p.fresh := by
  obtain ⟨out, _ | ⟨f, outer⟩⟩ := p
  · simp only [readLine, hstart, openFold, pure_bind, bind_assoc, start.ofStart_eq_fold]
    show _ = (Rest.ofLines [] (line :: more)).run s { out, stack := [] }
    rw [Rest.ofLines_start _ _ hstart, Rest.run_enfold_outside _ (Rest.depth_ofLines _ _),
      Marker.Heading.openFold, bind_assoc]
    refine bind_congr fun _ => ?_
    rw [pure_bind, hk]
    · simp only [rest, fresh, List.map_cons, List.map_nil, Fold.fresh_fold]
      rfl
    · intro g hg
      rcases List.mem_singleton.mp hg with rfl
      rfl
  · simp only [readLine, hstart, openFold, bind_assoc, pure_bind, start.ofStart_eq_fold]
    show _ = (Rest.ofLines (f.stale :: outer.map Fold.stale) (line :: more)).run s
      { out, stack := f.fresh :: outer.map Fold.fresh }
    rw [Rest.ofLines_start _ _ hstart,
      Rest.run_enfold_inside _ _ _ (by rw [Rest.depth_ofLines]; simp)]
    refine issuePending_bind_fresh f fun g hstale hending => ?_
    rw [Marker.Heading.openFold, bind_assoc, List.length_map]
    refine bind_congr fun _ => ?_
    rw [pure_bind, hk]
    · simp only [rest, fresh, List.map_cons, Fold.fresh_fold, hstale]
      rfl
    · intro h hh
      simp only [List.mem_cons] at hh
      rcases hh with rfl | rfl | hh
      · rfl
      · rw [hending]
        exact hp f List.mem_cons_self
      · exact hp h (List.mem_cons_of_mem _ hh)

theorem readLine_end {line : String} {more : List String} {k : Progress → m String}
    (hk : Follows s more k) {out : String} {f : Fold} {outer : List Fold}
    (hp : Unended { out, stack := f :: outer }) (hstart : Marker.start? line = none)
    (hdivider : Marker.isDivider line = false) (hend : Marker.isEnd line = true) :
    readLine s { out, stack := f :: outer } line >>= k =
      (rest { out, stack := f :: outer } (line :: more)).run s
        (fresh { out, stack := f :: outer }) := by
  have hline : (f.framed f.stale line).closingMarker = line :=
    Fold.closingMarker_of_isEnd rfl hend
  simp only [readLine, hstart, readOwnLine, hdivider, hend, Bool.false_eq_true, if_false, if_true]
  show closeFold s { out, stack := f.framed f.stale line :: outer } >>= k =
    (Rest.ofLines (f.stale :: outer.map Fold.stale) (line :: more)).run s
      (fresh { out, stack := f.framed f.stale line :: outer })
  rw [Rest.ofLines_end _ _ _ hstart hdivider hend]
  refine closeFold_bind hline fun g => ?_
  rw [hk _ (unended_leave fun h hh => hp h (List.mem_cons_of_mem _ hh)), rest_leave]

theorem readLine_own {line : String} {more : List String} {k : Progress → m String}
    (hk : Follows s more k) {out : String} {f : Fold} {outer : List Fold}
    (hp : Unended { out, stack := f :: outer }) (hstart : Marker.start? line = none)
    (hdivider : Marker.isDivider line = false) (hend : Marker.isEnd line = false) :
    readLine s { out, stack := f :: outer } line >>= k =
      (rest { out, stack := f :: outer } (line :: more)).run s
        (fresh { out, stack := f :: outer }) := by
  have hrest : ∀ g : Fold, g.stale = f.stale → g.endMarker = f.endMarker →
      k { out, stack := g :: outer } = (rest { out, stack := f :: outer } more).run s
        (fresh { out, stack := g :: outer }) := by
    intro g hstale hending
    have hunended : Unended { out, stack := g :: outer } := by
      intro h hh
      rcases List.mem_cons.mp hh with rfl | hh
      · rw [hending]
        exact hp f List.mem_cons_self
      · exact hp h (List.mem_cons_of_mem _ hh)
    rw [hk _ hunended, rest, rest, List.map_cons, List.map_cons, hstale]
  simp only [readLine, hstart, readOwnLine, hdivider, hend, Bool.false_eq_true, if_false]
  by_cases hstale : f.stale = true
  · rw [if_pos hstale, pure_bind, hrest f rfl rfl]
    simp only [rest, List.map_cons, hstale]
    rw [Rest.ofLines_stale _ _ hstart hdivider hend]
  · rw [Bool.not_eq_true] at hstale
    have htake : (if (f.keepLine line).failed = true then
          pure { out, stack := f.keepLine line :: outer }
        else (f.keepLine line).interpret s line >>= fun g => pure { out, stack := g :: outer }) =
        f.takeLine s line >>= fun g => pure ({ out, stack := g :: outer } : Progress) := by
      unfold Fold.takeLine
      dsimp only
      split
      · rw [pure_bind]
      · rfl
    rw [if_neg (by rw [hstale]; exact Bool.false_ne_true), htake, bind_assoc]
    show _ = (Rest.ofLines (f.stale :: outer.map Fold.stale) (line :: more)).run s
      { out, stack := f.fresh :: outer.map Fold.fresh }
    rw [hstale, Rest.ofLines_own _ _ hstart hdivider hend, Rest.run_prepend_inside _ _ _
      (by rw [Rest.depth_ofLines]; simp), Entry.run]
    refine takeLine_bind_fresh f line fun g hg hending => ?_
    rw [pure_bind, hrest g hg hending, rest, List.map_cons, hstale]
    rfl

/-- What one line does is what the outline of the line and those behind it says. -/
theorem Follows.readLine {more : List String} {k : Progress → m String} (hk : Follows s more k)
    (line : String) : Follows s (line :: more) fun p => p.readLine s line >>= k := by
  intro p hp
  cases hstart : Marker.start? line with
  | some start => exact readLine_start hk hp hstart
  | none =>
    obtain ⟨out, _ | ⟨f, outer⟩⟩ := p
    · exact readLine_text hk out hstart
    · by_cases hdivider : Marker.isDivider line = true
      · simp only [Progress.readLine, hstart, readOwnLine, hdivider, if_true, pure_bind]
        rw [hk]
        · simp only [rest, List.map_cons]
          rw [Rest.ofLines_divider _ _ _ hstart hdivider]
          rfl
        · intro g hg
          rcases List.mem_cons.mp hg with rfl | hg
          · exact hp f List.mem_cons_self
          · exact hp g (List.mem_cons_of_mem _ hg)
      · rw [Bool.not_eq_true] at hdivider
        by_cases hend : Marker.isEnd line = true
        · exact readLine_end hk hp hstart hdivider hend
        · rw [Bool.not_eq_true] at hend
          exact readLine_own hk hp hstart hdivider hend

/-- Reading lines one after the other is carrying out their outline. -/
theorem follows_foldlM (lines : List String) :
    Follows s lines fun p => lines.foldlM (Progress.readLine s) p >>= finish s := by
  induction lines with
  | nil =>
      intro p hp
      show [].foldlM (readLine s) p >>= finish s = _
      rw [List.foldlM_nil, pure_bind]
      exact follows_finish p hp
  | cons line lines ih =>
      intro p hp
      show (line :: lines).foldlM (readLine s) p >>= finish s = _
      rw [List.foldlM_cons, bind_assoc]
      exact ih.readLine line p hp

end Progress

/-! ## Documents without loops -/

theorem Item.runAll_lines (p : Progress) (lines : List String) :
    Item.runAll s p (lines.map fun line => Item.line (trimEnd line)) =
      (lines.map trimEnd).foldlM (Progress.readLine s) p := by
  induction lines generalizing p with
  | nil => rw [List.map_nil, List.map_nil, Item.runAll, List.foldlM_nil]
  | cons line lines ih =>
      rw [List.map_cons, List.map_cons, Item.runAll, Item.run, List.foldlM_cons]
      exact bind_congr fun p => ih p

/-- A document without loops does what its outline says. -/
theorem runLines_eq_outline [LawfulMonad m] {lines : List String} (h : Loopless lines) :
    Document.runLines s lines = (Rest.ofLines [] (lines.map trimEnd)).run s {} := by
  rw [Document.runLines, Document.runItems, Item.ofLines_of_loopless false h, Item.runAll_lines]
  exact Progress.follows_foldlM (lines.map trimEnd) {} fun f hf => absurd hf List.not_mem_nil

end Foldbook
