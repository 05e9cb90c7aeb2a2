import Foldbook.Document.Run
import Foldbook.Proofs.Yields

/-!
# The frame of an open fold

Some fields of an open fold are only for the stack that it lies on: whether
its old result has begun, its end line, and whether it has been rendered.
Reading a line and sending the request leave them alone
(`interpret_yields`, `issuePending_yields`).  Nor do they read the frame, to
which the start line belongs too (`interpret_reframed`,
`issuePending_reframed`).
-/

namespace Foldbook

open Text

variable {m : Type → Type} [Monad m] [LawfulMonad m] (s : Services m)

namespace Fold

/-! ## What leaves the frame alone -/

/-- Both folds have the same frame. -/
structure SameFrame (f g : Fold) : Prop where
  stale : g.stale = f.stale
  endMarker : g.endMarker = f.endMarker
  rendered : g.rendered = f.rendered

theorem sameFrame_readRequestLine (f : Fold) (line : String) :
    SameFrame f (f.readRequestLine line) := by
  unfold readRequestLine
  cases cutAt? [' '] line.toList <;> exact ⟨rfl, rfl, rfl⟩

theorem sameFrame_readLine (f : Fold) (line : String) : SameFrame f (f.readLine line) := by
  unfold readLine
  split
  · exact ⟨rfl, rfl, rfl⟩
  · split
    · split
      · exact ⟨rfl, rfl, rfl⟩
      · exact sameFrame_readRequestLine f line
    · split
      · exact ⟨rfl, rfl, rfl⟩
      · split <;> exact ⟨rfl, rfl, rfl⟩

theorem interpret_yields (f : Fold) (line : String) :
    Yields (SameFrame f) (f.interpret s line) := by
  unfold interpret
  split
  · refine Yields.bind_trivial fun answer => ?_
    cases answer <;> exact Yields.pure ⟨rfl, rfl, rfl⟩
  · exact Yields.pure (sameFrame_readLine f line)

theorem issue_yields (f : Fold) : Yields (SameFrame f) (f.issue s) := by
  unfold issue
  refine Yields.bind_trivial fun answer => ?_
  cases answer with
  | error e => exact Yields.pure ⟨rfl, rfl, rfl⟩
  | ok reply =>
      dsimp only
      split
      · exact Yields.pure ⟨rfl, rfl, rfl⟩
      · refine Yields.bind_trivial fun kept => ?_
        cases kept <;> exact Yields.pure ⟨rfl, rfl, rfl⟩

theorem issuePending_yields (f : Fold) : Yields (SameFrame f) (f.issuePending s) := by
  unfold issuePending
  split
  · exact issue_yields s f
  · exact Yields.pure ⟨rfl, rfl, rfl⟩

/-! ## What does not read the frame -/

/-- What the rendering of a fold and the stack that it lies on add to its lines. -/
structure Frame where
  startMarker : String
  title : String
  endMarker : String
  stale : Bool
  rendered : Bool

/-- The frame of the fold. -/
def frame (f : Fold) : Frame := ⟨f.startMarker, f.title, f.endMarker, f.stale, f.rendered⟩

/-- The fold in a frame that is made from its own. -/
def reframed (change : Frame → Frame) (f : Fold) : Fold :=
  let frame := change f.frame
  { f with
    startMarker := frame.startMarker
    title := frame.title
    endMarker := frame.endMarker
    stale := frame.stale
    rendered := frame.rendered }

section reframed

variable (change : Frame → Frame) (f : Fold)

theorem readRequestLine_reframed (line : String) :
    (f.reframed change).readRequestLine line = (f.readRequestLine line).reframed change := by
  unfold readRequestLine
  cases cutAt? [' '] line.toList <;> rfl

theorem readLine_reframed (line : String) :
    (f.reframed change).readLine line = (f.readLine line).reframed change := by
  unfold readLine
  simp only [apply_ite (reframed change), ← readRequestLine_reframed]
  rfl

theorem interpret_reframed (line : String) :
    (f.reframed change).interpret s line = reframed change <$> f.interpret s line := by
  unfold interpret
  split
  · rw [map_bind]
    refine bind_congr fun answer => ?_
    cases answer <;> simp [reframed, frame, reportLine]
  · rw [map_pure, readLine_reframed]

theorem issue_reframed : (f.reframed change).issue s = reframed change <$> f.issue s := by
  unfold issue
  rw [map_bind]
  refine bind_congr fun answer => ?_
  cases answer with
  | error e => simp [reframed, frame, reportRequestFailure]
  | ok reply =>
      by_cases hname : f.captureName.isEmpty = true
      · simp [reframed, frame, hname]
      · simp only [reframed, hname, Bool.false_eq_true, if_false, map_bind]
        refine bind_congr fun kept => ?_
        cases kept <;> simp [reframed, frame, reportRequestFailure]

theorem issuePending_reframed :
    (f.reframed change).issuePending s = reframed change <$> f.issuePending s := by
  unfold issuePending
  rw [show (f.reframed change).pending = f.pending from rfl]
  split
  · exact issue_reframed s change f
  · rw [map_pure]

end reframed

/-- The fold with other values for what only the stack of open folds is interested in. -/
def framed (stale : Bool) (ending : String) (f : Fold) : Fold :=
  { f with stale, endMarker := ending }

theorem interpret_framed (stale : Bool) (ending : String) (f : Fold) (line : String) :
    (f.framed stale ending).interpret s line = framed stale ending <$> f.interpret s line :=
  interpret_reframed s (fun frame => { frame with stale, endMarker := ending }) f line

theorem issuePending_framed (stale : Bool) (ending : String) (f : Fold) :
    (f.framed stale ending).issuePending s = framed stale ending <$> f.issuePending s :=
  issuePending_reframed s (fun frame => { frame with stale, endMarker := ending }) f

end Fold

end Foldbook
