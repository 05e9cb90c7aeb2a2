import Foldbook.Proofs.Matching
import Foldbook.Proofs.Position

/-!
# A block under two start lines

The lines of a fold do the same whatever its start line says.

* `Fold.headed` gives a fold another start line; reading a line of the fold
  and sending its request do not notice (`interpret_headed`,
  `issuePending_headed`).
* `Item.closes` says which items close a number of folds that are open in
  front of them and besides those only the folds that they open.
* `Besides` relates two runs whose outermost folds differ in their start lines.
  The relation is kept by every item that leaves the outermost folds open
  (`Besides.runAll`).
-/

namespace Foldbook

open Text

/-! ## Folds -/

/-- What a fold has from its start line. -/
structure Fold.Head where
  marker : String
  title : String

namespace Fold

/-- The fold with another start line, not yet rendered. -/
def headed (head : Head) (f : Fold) : Fold :=
  { f with startMarker := head.marker, title := head.title, rendered := false }

section

variable {m : Type → Type} [Monad m] [LawfulMonad m] (s : Services m) (head : Head) (f : Fold)

theorem interpret_headed (line : String) :
    (f.headed head).interpret s line = headed head <$> f.interpret s line :=
  interpret_reframed s
    (fun frame => { frame with startMarker := head.marker, title := head.title, rendered := false })
    f line

theorem issuePending_headed :
    (f.headed head).issuePending s = headed head <$> f.issuePending s :=
  issuePending_reframed s
    (fun frame => { frame with startMarker := head.marker, title := head.title, rendered := false })
    f

end

/-- The same fold under two start lines. -/
def Twins (head head' : Head) (f g : Fold) : Prop := ∃ h : Fold, f = h.headed head ∧ g = h.headed head'

variable {σ τ : Type} {seen : σ → τ} {s : Services (StateM σ)} (hs : s.LooksAt seen)
  {head head' : Head} {f g : Fold}

theorem Twins.failed (h : f.Twins head head' g) : f.failed = g.failed := by
  obtain ⟨fold, rfl, rfl⟩ := h
  rfl

theorem Twins.stale (h : f.Twins head head' g) : f.stale = g.stale := by
  obtain ⟨fold, rfl, rfl⟩ := h
  rfl

theorem Twins.setStale (h : f.Twins head head' g) :
    Twins head head' { f with stale := true } { g with stale := true } := by
  obtain ⟨fold, rfl, rfl⟩ := h
  exact ⟨{ fold with stale := true }, rfl, rfl⟩

theorem Twins.setEndMarker (h : f.Twins head head' g) (line : String) :
    Twins head head' { f with endMarker := line } { g with endMarker := line } := by
  obtain ⟨fold, rfl, rfl⟩ := h
  exact ⟨{ fold with endMarker := line }, rfl, rfl⟩

theorem Twins.keepLine (h : f.Twins head head' g) (line : String) :
    (f.keepLine line).Twins head head' (g.keepLine line) := by
  obtain ⟨fold, rfl, rfl⟩ := h
  exact ⟨fold.keepLine line, rfl, rfl⟩

/-- What a nested block adds can depend on the results so far, which twins share. -/
theorem Twins.absorb (h : f.Twins head head' g) (part : String → Nested) (failed : Bool) :
    (f.absorb (part f.output) failed).Twins head head' (g.absorb (part g.output) failed) := by
  obtain ⟨fold, rfl, rfl⟩ := h
  exact ⟨fold.absorb (part fold.output) failed, rfl, rfl⟩

include hs

theorem Twins.interpret (h : f.Twins head head' g) (line : String) :
    Matches seen (Twins head head') (f.interpret s.recording line) (g.interpret s.recording line) := by
  obtain ⟨fold, rfl, rfl⟩ := h
  rw [interpret_headed, interpret_headed]
  exact (hs.simulates_matches.interpret fold line).map fun a b hab => ⟨a, rfl, hab ▸ rfl⟩

theorem Twins.issuePending (h : f.Twins head head' g) :
    Matches seen (Twins head head') (f.issuePending s.recording) (g.issuePending s.recording) := by
  obtain ⟨fold, rfl, rfl⟩ := h
  rw [issuePending_headed, issuePending_headed]
  exact (hs.simulates_matches.issuePending fold).map fun a b hab => ⟨a, rfl, hab ▸ rfl⟩

end Fold

/-! ## Items that leave a fold open -/

/-- Whether the items close as many folds as are open in front of them, and besides those exactly
the folds that they open. -/
def Item.closes : (count : Nat) → List Item → Bool
  | count, [] => count == 0
  | count, .loop _ _ :: items => closes count items
  | count, .line text :: items =>
    if (Marker.start? text).isSome then closes (count + 1) items
    else if Marker.isDivider text then closes count items
    else if Marker.isEnd text then
      match count with
      | 0 => false
      | count + 1 => closes count items
    else closes count items

/-! ## Two runs -/

/-- Two runs with the same open folds, but for the start lines of the outermost ones. -/
inductive Besides (head head' : Fold.Head) (out out' : String) :
    (count : Nat) → Progress → Progress → Prop
  | outermost {f g : Fold} (htwins : f.Twins head head' g) :
      Besides head head' out out' 0 { out, stack := [f] } { out := out', stack := [g] }
  | inside {count : Nat} {stack stack' : List Fold} (f : Fold)
      (h : Besides head head' out out' count { out, stack } { out := out', stack := stack' }) :
      Besides head head' out out' (count + 1) { out, stack := f :: stack }
        { out := out', stack := f :: stack' }

namespace Besides

variable {σ τ : Type} {seen : σ → τ} {s : Services (StateM σ)} {head head' : Fold.Head}
  {out out' : String} {count : Nat} {p q : Progress}

theorem length_stack (h : Besides head head' out out' count p q) :
    p.stack.length = count + 1 ∧ q.stack.length = count + 1 := by
  induction h with
  | outermost htwins => exact ⟨rfl, rfl⟩
  | inside f h ih => exact ⟨congrArg (· + 1) ih.1, congrArg (· + 1) ih.2⟩

variable (hs : s.LooksAt seen)

include hs

theorem openFold (h : Besides head head' out out' count p q) (start : Marker.Start) :
    Matches seen (Besides head head' out out' (count + 1)) (p.openFold s.recording start)
      (q.openFold s.recording start) := by
  obtain ⟨hp, hq⟩ := h.length_stack
  cases h with
  | outermost htwins =>
      unfold Progress.openFold
      refine (htwins.issuePending hs).bind fun f g hfg => ?_
      rw [pure_bind, pure_bind]
      refine (hs.matches_note _ _).bind fun _ _ _ => ?_
      exact Matches.pure (.inside _ (.outermost hfg))
  | inside f h =>
      unfold Progress.openFold
      refine (hs.simulates_matches.issuePending f).bind fun f g hfg => ?_
      rw [pure_bind, pure_bind]
      refine (hs.matches_note _ _).bind fun _ _ _ => ?_
      rw [hfg, hp, hq]
      exact Matches.pure (.inside _ (.inside _ h))

theorem closeFold (h : Besides head head' out out' (count + 1) p q) :
    Matches seen (Besides head head' out out' count) (p.closeFold s.recording)
      (q.closeFold s.recording) := by
  cases h with
  | inside f h =>
      unfold Progress.closeFold
      refine (hs.simulates_matches.issuePending f).bind fun f g hfg => ?_
      refine (hs.matches_note _ _).bind fun _ _ _ => ?_
      rw [hfg]
      cases h with
      | outermost htwins =>
          exact Matches.pure
            (.outermost (htwins.absorb (fun output => (g.renderNested output).1) g.failed))
      | inside around h => exact Matches.pure (.inside _ h)

/-- Of the lines that open no fold, the end lines leave the outermost folds open only inside of
others. -/
theorem readOwnLine_outermost {f g : Fold} (h : f.Twins head head' g) {line : String}
    (hline : Marker.isDivider line = true ∨ Marker.isEnd line = false) :
    Matches seen (Besides head head' out out' 0)
      (Progress.readOwnLine s.recording { out, stack := [f] } f [] line)
      (Progress.readOwnLine s.recording { out := out', stack := [g] } g [] line) := by
  unfold Progress.readOwnLine
  by_cases hdivider : Marker.isDivider line = true
  · rw [if_pos hdivider, if_pos hdivider]
    exact Matches.pure (.outermost h.setStale)
  · have hend : ¬Marker.isEnd line = true := by
      rw [hline.resolve_left hdivider]
      exact Bool.false_ne_true
    have hkept := h.keepLine line
    rw [if_neg hdivider, if_neg hdivider, if_neg hend, if_neg hend, ← h.stale]
    by_cases hstale : f.stale = true
    · rw [if_pos hstale, if_pos hstale]
      exact Matches.pure (.outermost h)
    · rw [if_neg hstale, if_neg hstale]
      dsimp only
      rw [← hkept.failed]
      by_cases hfailed : (f.keepLine line).failed = true
      · rw [if_pos hfailed, if_pos hfailed]
        exact Matches.pure (.outermost hkept)
      · rw [if_neg hfailed, if_neg hfailed]
        exact (hkept.interpret hs line).bind fun f g hfg => Matches.pure (.outermost hfg)

theorem readOwnLine_inside (f : Fold) {stack stack' : List Fold}
    (h : Besides head head' out out' count { out, stack } { out := out', stack := stack' })
    (line : String) :
    Matches seen
      (Besides head head' out out'
        (if Marker.isDivider line then count + 1 else if Marker.isEnd line then count else count + 1))
      (Progress.readOwnLine s.recording { out, stack := f :: stack } f stack line)
      (Progress.readOwnLine s.recording { out := out', stack := f :: stack' } f stack' line) := by
  unfold Progress.readOwnLine
  split
  · exact Matches.pure (.inside _ h)
  · split
    · exact closeFold hs (.inside _ h)
    · split
      · exact Matches.pure (.inside _ h)
      · dsimp only
        split
        · exact Matches.pure (.inside _ h)
        · refine (hs.simulates_matches.interpret _ line).bind fun f g hfg => ?_
          rw [hfg]
          exact Matches.pure (.inside _ h)

/-- A line that leaves the outermost folds open, in front of others that do so. -/
theorem readLine (h : Besides head head' out out' count p q) {line : String} {items : List Item}
    (hitems : Item.closes count (.line line :: items) = true) :
    Matches seen
      (fun p q => ∃ count, Besides head head' out out' count p q ∧ Item.closes count items = true)
      (p.readLine s.recording line) (q.readLine s.recording line) := by
  unfold Item.closes at hitems
  unfold Progress.readLine
  cases hstart : Marker.start? line with
  | some start =>
      simp only [hstart, Option.isSome_some, if_true] at hitems
      exact (h.openFold hs start).mono fun p q hpq => ⟨_, hpq, hitems⟩
  | none =>
      simp only [hstart, Option.isSome_none, Bool.false_eq_true, if_false] at hitems
      cases h with
      | outermost htwins =>
          have hline : (Marker.isDivider line = true ∨ Marker.isEnd line = false) ∧
              Item.closes 0 items = true := by
            split at hitems
            · exact ⟨.inl ‹_›, hitems⟩
            · split at hitems
              · exact absurd hitems Bool.false_ne_true
              · exact ⟨.inr (by simpa using ‹¬Marker.isEnd line = true›), hitems⟩
          exact (readOwnLine_outermost hs htwins hline.1).mono fun p q hpq => ⟨0, hpq, hline.2⟩
      | inside f h =>
          refine (readOwnLine_inside hs f h line).mono fun p q hpq => ⟨_, hpq, ?_⟩
          split
          · simpa [*] using hitems
          · split <;> simpa [*] using hitems

/-- A loop leaves all folds open. -/
theorem takeLoop (h : Besides head head' out out' count p q) (r : LoopRun) :
    Matches seen (Besides head head' out out' count) (p.takeLoop s.recording r)
      (q.takeLoop s.recording r) := by
  unfold Progress.takeLoop
  cases h with
  | outermost htwins =>
      refine (htwins.issuePending hs).bind fun f g hfg => ?_
      exact Matches.pure (.outermost (hfg.absorb (nest r.output) r.failed))
  | inside f h =>
      refine (hs.simulates_matches.issuePending f).bind fun f g hfg => ?_
      rw [hfg]
      exact Matches.pure (.inside _ h)

/-- Items that leave the outermost folds open do the same whatever these are headed. -/
theorem runAll (h : Besides head head' out out' count p q) {items : List Item}
    (hitems : Item.closes count items = true) :
    Matches seen (Besides head head' out out' 0) (Item.runAll s.recording p items)
      (Item.runAll s.recording q items) := by
  induction items generalizing count p q with
  | nil =>
      have hzero : count = 0 := by simpa [Item.closes] using hitems
      subst hzero
      exact Matches.pure h
  | cons item items ih =>
      rw [Item.runAll, Item.runAll]
      cases item with
      | line text =>
          rw [Item.run, Item.run]
          refine (h.readLine hs hitems).bind fun p q hpq => ?_
          obtain ⟨count, hpq, hrest⟩ := hpq
          exact ih hpq hrest
      | loop block inside =>
          rw [Item.closes] at hitems
          rw [Item.run, Item.run, bind_assoc, bind_assoc]
          have hblock := hs.simulates_matches.runLoop block
            (hs.simulates_matches.bind (hs.simulates_matches.runAll {} inside)
              hs.simulates_matches.finish) s.recording.rounds {}
          refine hblock.bind fun r r' hr => ?_
          rw [hr]
          exact (h.takeLoop hs r').bind fun p q hpq => ih hpq hitems

end Besides

end Foldbook
