import Foldbook.Query.Fault

/-!
# Outputs of a query

A query gives its outputs one after the other, and each is computed only when it is asked for.  At
the end it has finished, or a fault or a break has stopped it.  `bind` feeds every output to another
query, `append` goes on with another query once the first has finished, and `fold` runs through all
outputs with a state.
-/

namespace Foldbook.Query

/-- How the outputs end. -/
inductive Ending where
  | finished
  | failed (fault : Fault)
  /-- A break to the label with this number. -/
  | stopped (label : Nat)
  deriving Inhabited

/-- Outputs, and how they end. -/
inductive Outputs (α : Type) where
  | ended (e : Ending)
  | more (head : α) (tail : Unit → Outputs α)

namespace Outputs

variable {α β σ : Type}

instance : Inhabited (Outputs α) := ⟨.ended .finished⟩

/-- No outputs. -/
def none : Outputs α := .ended .finished

/-- A single output. -/
def one (a : α) : Outputs α := .more a fun _ => none

/-- A fault before any output. -/
def fail (f : Fault) : Outputs α := .ended (.failed f)

/-- A single output or a fault. -/
def ofExcept : Except Fault α → Outputs α
  | .ok a => one a
  | .error f => fail f

/-- The outputs of a list. -/
def ofList : List α → Outputs α
  | [] => none
  | a :: as => .more a fun _ => ofList as

/-- Goes on with other outputs once the first have finished. -/
def append : Outputs α → (Unit → Outputs α) → Outputs α
  | .ended .finished, next => next ()
  | .ended e, _ => .ended e
  | .more a rest, next => .more a fun _ => append (rest ()) next

/-- Feeds every output to a query. -/
def bind : Outputs α → (α → Outputs β) → Outputs β
  | .ended e, _ => .ended e
  | .more a rest, f => append (f a) fun _ => bind (rest ()) f

/-- Outputs changed one by one. -/
def map (f : α → β) : Outputs α → Outputs β
  | .ended e => .ended e
  | .more a rest => .more (f a) fun _ => map f (rest ())

/-- Replaces the end. -/
def onEnd : Outputs α → (Ending → Outputs α) → Outputs α
  | .ended e, f => f e
  | .more a rest, f => .more a fun _ => onEnd (rest ()) f

/-- Runs through all outputs with a state, unless a step or the outputs stop. -/
def fold (step : σ → α → Except Ending σ) : Outputs α → σ → Except Ending σ
  | .ended .finished, s => .ok s
  | .ended e, _ => .error e
  | .more a rest, s =>
    match step s a with
    | .ok s => fold step (rest ()) s
    | .error e => .error e

/-- The last output; there may be none. -/
def last? (o : Outputs α) : Except Ending (Option α) :=
  fold (fun _ a => .ok (some a)) o Option.none

/-- All outputs. -/
def collect (o : Outputs α) : Except Ending (List α) :=
  (fold (fun found a => .ok (a :: found)) o []).map List.reverse

/-- The first outputs; the others are not computed. -/
def take : Nat → Outputs α → Outputs α
  | 0, _ => none
  | _, .ended e => .ended e
  | 1, .more a _ => one a
  | n + 1, .more a rest => .more a fun _ => take n (rest ())

/-- The outputs behind the first ones. -/
def drop : Nat → Outputs α → Outputs α
  | 0, o => o
  | _, .ended e => .ended e
  | n + 1, .more _ rest => drop n (rest ())

/-- Emits the outputs for every new state, and hands the last state on. -/
def thenLast (emit : σ → Outputs β) (next : σ → Outputs β) :
    Outputs σ → σ → Outputs β
  | .ended .finished, last => next last
  | .ended e, _ => .ended e
  | .more s rest, _ => append (emit s) fun _ => thenLast emit next (rest ()) s

/-- Threads a state through the outputs: each output takes the state to new states, each new state
is emitted, and the last of them, or `reset` if there is none, goes on to the next output. -/
def scan (step : σ → α → Outputs σ) (emit : α → σ → Outputs β) (reset : σ) :
    Outputs α → σ → Outputs β
  | .ended e, _ => .ended e
  | .more a rest, s => thenLast (emit a) (scan step emit reset (rest ())) (step s a) reset

/-! ## The outputs up to the end -/

/-- All outputs. -/
def toList : Outputs α → List α
  | .ended _ => []
  | .more a rest => a :: toList (rest ())

/-- How the outputs end. -/
def ending : Outputs α → Ending
  | .ended e => e
  | .more _ rest => ending (rest ())

end Outputs

end Foldbook.Query
