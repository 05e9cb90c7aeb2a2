import Foldbook.Failure
import Foldbook.Json.Printer
import Foldbook.Template.Span

/-!
# Substitution

One pass replaces every span of a text by the value of its selector.  The values may hold spans
again, or complete spans together with the text around them, so passes are repeated until no span
is left.  `settle` makes at most `limit` passes and fails if spans are left then.

The value of a selector comes from `resolve`, which may have effects in any monad; selectors are
resolved from left to right, and the first one that fails ends the pass.
-/

namespace Foldbook.Template

variable {m : Type → Type} [Monad m]

/-- One pass over the parts of a text. -/
def fill (resolve : String → m (Except Failure Json)) :
    List Part → m (Except Failure (List Char))
  | [] => pure (.ok [])
  | .char c :: ps => do
    match ← fill resolve ps with
    | .ok rest => pure (.ok (c :: rest))
    | .error e => pure (.error e)
  | .span selector :: ps => do
    match ← resolve (String.ofList selector) with
    | .error e => pure (.error e)
    | .ok value =>
      match ← fill resolve ps with
      | .ok rest => pure (.ok (value.inlineText.toList ++ rest))
      | .error e => pure (.error e)

/-- A text without spans, and the passes it took. -/
structure Settled where
  text : String
  passes : Nat
  deriving DecidableEq, Repr

/-- Repeats passes; `passes` have been made, and `left` more are allowed. -/
def settleFrom (resolve : String → m (Except Failure Json)) (passes : Nat) :
    Nat → List Char → m (Except Failure Settled)
  | left, cs =>
    let ps := parts cs
    if (selectors ps).isEmpty then pure (.ok ⟨String.ofList cs, passes⟩)
    else
      match left with
      | 0 => pure (.error (.unsettled passes (String.ofList cs)))
      | left + 1 => do
        match ← fill resolve ps with
        | .ok cs => settleFrom resolve (passes + 1) left cs
        | .error e => pure (.error e)

/-- Replaces spans until none is left, in at most `limit` passes. -/
def settle (resolve : String → m (Except Failure Json)) (limit : Nat) (text : String) :
    m (Except Failure Settled) :=
  settleFrom resolve 0 limit text.toList

/-- Stands for no limit: a text that has not settled after so many passes never does in any time
that could be waited for. -/
def unlimited : Nat := 1000000000000

end Foldbook.Template
