import Foldbook.Loop.Block

/-!
# The items of a document

A document is a list of lines, some of which belong to loops.  `Item.ofLines` cuts the loops out,
those inside other loops too, so that running a document is recursion on its items.

The block of a loop is run as a document of its own.  Its start line then opens a plain fold, so
the first loop start is read as an ordinary line; that is the meaning of `plainFirst`.
-/

namespace Foldbook

open Text

/-- A line, trimmed on the right, or a loop with the items of its block. -/
inductive Item where
  | line (text : String)
  | loop (block : LoopBlock) (items : List Item)
  deriving Repr

theorem LoopBlock.length_cut (depth : Nat) (more : List String) :
    (cut depth more).1.length + (cut depth more).2.length = more.length := by
  induction more generalizing depth with
  | nil => rfl
  | cons raw more ih =>
    simp only [cut]
    generalize (if Marker.isLoopStart (trimEnd raw) = true then depth + 1
      else if Marker.isLoopEnd (trimEnd raw) = true then depth - 1 else depth) = next
    by_cases h : next = 0
    · simp [h]; omega
    · simp only [h, if_false, List.length_cons]
      have := ih next
      omega

namespace Item

/-- The items of a list of lines.  The block of a loop is shorter than the lines it is cut from
unless it reaches to their end, and then its first line is plain. -/
def ofLines (plainFirst : Bool) : List String → List Item
  | [] => []
  | raw :: more =>
    if Marker.isLoopStart (trimEnd raw) && !plainFirst then
      let collected := LoopBlock.collect (trimEnd raw) more
      .loop collected.1 (.line (trimEnd raw) :: ofLines false collected.1.rest) ::
        ofLines false collected.2
    else
      .line (trimEnd raw) ::
        ofLines (plainFirst && !Marker.isLoopStart (trimEnd raw)) more
termination_by lines => lines.length
decreasing_by
  · have := LoopBlock.length_cut 1 more
    simp only [LoopBlock.collect, List.length_cons]
    omega
  · have := LoopBlock.length_cut 1 more
    simp only [LoopBlock.collect, List.length_cons]
    omega
  · simp

end Item

end Foldbook
