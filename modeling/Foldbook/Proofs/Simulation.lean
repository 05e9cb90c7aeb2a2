import Foldbook.Document.Run

/-!
# Runs over two kinds of services

The interpreter assumes nothing about the monad that its services live in.
So a relation between the actions of two monads that holds of the services,
of doing nothing and of doing one thing after another holds of whole runs
(`Simulates.runLines`).  The proof has one lemma for each function of the
interpreter, in the order in which they call each other.
-/

namespace Foldbook

namespace LoopBlock

variable {m : Type → Type} [Monad m] (s : Services m)

/-- What a loop does behind an answer for its condition; `again` makes the further rounds, if any
are allowed. -/
def goOn (b : LoopBlock) (runBlock : m String) (again : Option (LoopRun → m LoopRun))
    (r : LoopRun) : Except Failure String → m LoopRun
  | .error e => do
    s.note {
      level := .warning
      event := "while.condition_failed"
      fields := [("condition", .str b.condition), ("error", .str e.message)] }
    pure { r with failed := true, output := b.synthetic true (e.message ++ "\n") }
  | .ok verdict =>
    if verdict ≠ "true" then b.finish s r
    else
      match again with
      | none => b.finish s { r with failed := true }
      | some again => do
        let output ← runBlock
        let r := { r with output, rounds := r.rounds + 1 }
        if showsError output then b.finish s { r with failed := true }
        else again r

theorem run_zero (b : LoopBlock) (runBlock : m String) (r : LoopRun) :
    b.run s runBlock 0 r = s.condition b.condition >>= b.goOn s runBlock none r := by
  unfold run
  refine congrArg (s.condition b.condition >>= ·) (funext fun answer => ?_)
  cases answer <;> rfl

theorem run_succ (b : LoopBlock) (runBlock : m String) (left : Nat) (r : LoopRun) :
    b.run s runBlock (left + 1) r =
      s.condition b.condition >>= b.goOn s runBlock (some (b.run s runBlock left)) r := by
  rw [run]
  refine congrArg (s.condition b.condition >>= ·) (funext fun answer => ?_)
  cases answer <;> rfl

end LoopBlock

/-- `R` relates the actions of two monads, and the services `t` to the services `s`. -/
structure Simulates {n m : Type → Type} [Monad n] [Monad m]
    (R : ∀ {α : Type}, n α → m α → Prop) (t : Services n) (s : Services m) : Prop where
  pure : ∀ {α : Type} (a : α), R (Pure.pure a) (Pure.pure a)
  bind : ∀ {α β : Type} {x : n α} {y : m α} {f : α → n β} {g : α → m β},
    R x y → (∀ a, R (f a) (g a)) → R (x >>= f) (y >>= g)
  assign : ∀ line, R (t.assign line) (s.assign line)
  send : ∀ request debug verbose, R (t.send request debug verbose) (s.send request debug verbose)
  capture : ∀ name value, R (t.capture name value) (s.capture name value)
  condition : ∀ text, R (t.condition text) (s.condition text)
  note : ∀ record, R (t.note record) (s.note record)
  rounds : t.rounds = s.rounds

namespace Simulates

variable {n m : Type → Type} [Monad n] [Monad m] {R : ∀ {α : Type}, n α → m α → Prop}
  {t : Services n} {s : Services m}

/-! ## Folds -/

theorem interpret (h : Simulates R t s) (f : Fold) (line : String) :
    R (f.interpret t line) (f.interpret s line) := by
  unfold Fold.interpret
  split
  · refine h.bind (h.assign line) fun answer => ?_
    cases answer <;> exact h.pure _
  · exact h.pure _

theorem issue (h : Simulates R t s) (f : Fold) : R (f.issue t) (f.issue s) := by
  unfold Fold.issue
  refine h.bind (h.send _ _ _) fun answer => ?_
  cases answer with
  | error e => exact h.pure _
  | ok reply =>
      dsimp only
      split
      · exact h.pure _
      · refine h.bind (h.capture _ _) fun kept => ?_
        cases kept <;> exact h.pure _

theorem issuePending (h : Simulates R t s) (f : Fold) :
    R (f.issuePending t) (f.issuePending s) := by
  unfold Fold.issuePending
  split
  · exact h.issue f
  · exact h.pure _

/-! ## Lines -/

theorem openFold (h : Simulates R t s) (p : Progress) (start : Marker.Start) :
    R (p.openFold t start) (p.openFold s start) := by
  unfold Progress.openFold
  cases p.stack with
  | nil => exact h.bind (h.pure _) fun p => h.bind (h.note _) fun _ => h.pure _
  | cons around outer =>
      refine h.bind (h.issuePending around) fun around => ?_
      exact h.bind (h.pure _) fun p => h.bind (h.note _) fun _ => h.pure _

theorem closeFold (h : Simulates R t s) (p : Progress) : R (p.closeFold t) (p.closeFold s) := by
  unfold Progress.closeFold
  cases p.stack with
  | nil => exact h.pure _
  | cons fold outer =>
      refine h.bind (h.issuePending fold) fun fold => h.bind (h.note _) fun _ => ?_
      cases outer <;> exact h.pure _

theorem closeFolds (h : Simulates R t s) (count : Nat) (p : Progress) :
    R (Progress.closeFolds t count p) (Progress.closeFolds s count p) := by
  induction count generalizing p with
  | zero => exact h.pure _
  | succ count ih => exact h.bind (h.closeFold p) ih

theorem readOwnLine (h : Simulates R t s) (p : Progress) (fold : Fold) (outer : List Fold)
    (line : String) : R (p.readOwnLine t fold outer line) (p.readOwnLine s fold outer line) := by
  unfold Progress.readOwnLine
  split
  · exact h.pure _
  · split
    · exact h.closeFold _
    · split
      · exact h.pure _
      · dsimp only
        split
        · exact h.pure _
        · exact h.bind (h.interpret _ line) fun _ => h.pure _

theorem readLine (h : Simulates R t s) (p : Progress) (line : String) :
    R (p.readLine t line) (p.readLine s line) := by
  unfold Progress.readLine
  split
  · exact h.openFold p _
  · split
    · exact h.pure _
    · exact h.readOwnLine p _ _ line

theorem takeLoop (h : Simulates R t s) (p : Progress) (r : LoopRun) :
    R (p.takeLoop t r) (p.takeLoop s r) := by
  unfold Progress.takeLoop
  split
  · exact h.pure _
  · exact h.bind (h.issuePending _) fun _ => h.pure _

theorem finish (h : Simulates R t s) (p : Progress) : R (p.finish t) (p.finish s) :=
  h.bind (h.closeFolds _ p) fun _ => h.pure _

/-! ## Loops -/

theorem finishLoop (h : Simulates R t s) (b : LoopBlock) (r : LoopRun) :
    R (b.finish t r) (b.finish s r) :=
  h.bind (h.note _) fun _ => h.pure _

/-- Behind the last round that is allowed. -/
theorem goOn_none (h : Simulates R t s) (b : LoopBlock) (x : n String) (y : m String) (r : LoopRun)
    (answer : Except Failure String) : R (b.goOn t x none r answer) (b.goOn s y none r answer) := by
  cases answer with
  | error e => exact h.bind (h.note _) fun _ => h.pure _
  | ok verdict =>
      unfold LoopBlock.goOn
      dsimp only
      split
      · exact h.finishLoop b r
      · exact h.finishLoop b _

theorem goOn_some (h : Simulates R t s) (b : LoopBlock) {x : n String} {y : m String} (hxy : R x y)
    {again : LoopRun → n LoopRun} {next : LoopRun → m LoopRun} (hnext : ∀ r, R (again r) (next r))
    (r : LoopRun) (answer : Except Failure String) :
    R (b.goOn t x (some again) r answer) (b.goOn s y (some next) r answer) := by
  cases answer with
  | error e => exact h.bind (h.note _) fun _ => h.pure _
  | ok verdict =>
      unfold LoopBlock.goOn
      dsimp only
      split
      · exact h.finishLoop b r
      · refine h.bind hxy fun output => ?_
        split
        · exact h.finishLoop b _
        · exact hnext _

theorem runLoop (h : Simulates R t s) (b : LoopBlock) {x : n String} {y : m String} (hxy : R x y)
    (left : Nat) (r : LoopRun) : R (b.run t x left r) (b.run s y left r) := by
  induction left generalizing r with
  | zero =>
      rw [LoopBlock.run_zero, LoopBlock.run_zero]
      exact h.bind (h.condition _) (h.goOn_none b x y r)
  | succ left ih =>
      rw [LoopBlock.run_succ, LoopBlock.run_succ]
      exact h.bind (h.condition _) (h.goOn_some b hxy ih r)

/-! ## Documents -/

mutual

theorem runItem (h : Simulates R t s) (p : Progress) :
    (item : Item) → R (item.run t p) (item.run s p)
  | .line text => by
      unfold Item.run
      exact h.readLine p text
  | .loop block items => by
      unfold Item.run
      refine h.bind ?_ fun r => h.takeLoop p r
      rw [h.rounds]
      exact h.runLoop block (h.bind (h.runAll {} items) h.finish) _ _

theorem runAll (h : Simulates R t s) (p : Progress) :
    (items : List Item) → R (Item.runAll t p items) (Item.runAll s p items)
  | [] => by
      unfold Item.runAll
      exact h.pure p
  | item :: items => by
      unfold Item.runAll
      exact h.bind (h.runItem p item) fun p => h.runAll p items

end

/-- Services that are related run every document alike. -/
theorem runLines (h : Simulates R t s) (lines : List String) (plainFirst : Bool) :
    R (Document.runLines t lines plainFirst) (Document.runLines s lines plainFirst) :=
  h.bind (h.runAll {} _) h.finish

end Simulates

end Foldbook
