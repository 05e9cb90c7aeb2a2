import Foldbook.Document.Services
import Foldbook.Loop.Block

/-!
# Running a loop

Before each round the condition is filled in; the block runs while it comes out as `true`.  Every
round gives a rendering of the whole block, and the last one stays.  A round whose rendering is
marked as failed ends the loop, and so does a condition that cannot be filled in.
-/

namespace Foldbook

open Text

/-- What a loop has done so far. -/
structure LoopRun where
  /-- The rendering of the block. -/
  output : String := ""
  failed : Bool := false
  /-- Rounds made. -/
  rounds : Nat := 0
  deriving DecidableEq, Repr

/-- Whether the first line of a rendering says that the block failed. -/
def showsError (rendering : String) : Bool :=
  endsWith ((splitLines rendering).headD "") "executed (ERROR)"

namespace LoopBlock

variable {m : Type → Type} [Monad m] (s : Services m)

/-- Ends a run.  A loop without rounds is rendered with no results. -/
def finish (b : LoopBlock) (r : LoopRun) : m LoopRun := do
  s.note {
    level := .debug
    event := "while.finished"
    fields := [("condition", .str b.condition), ("iterations", .int r.rounds),
      ("error", .bool r.failed)] }
  pure (if r.rounds = 0 then { r with output := b.synthetic r.failed "" } else r)

/-- Runs the block while the condition holds, at most `left` more rounds; a loop that has none left
stops as failed. -/
def run (b : LoopBlock) (runBlock : m String) : Nat → LoopRun → m LoopRun
  | left, r => do
    match ← s.condition b.condition with
    | .error e =>
      s.note {
        level := .warning
        event := "while.condition_failed"
        fields := [("condition", .str b.condition), ("error", .str e.message)] }
      pure { r with failed := true, output := b.synthetic true (e.message ++ "\n") }
    | .ok verdict =>
      if verdict ≠ "true" then b.finish s r
      else
        match left with
        | 0 => b.finish s { r with failed := true }
        | left + 1 =>
          let output ← runBlock
          let r := { r with output, rounds := r.rounds + 1 }
          if showsError output then b.finish s { r with failed := true }
          else run b runBlock left r

end LoopBlock

end Foldbook
