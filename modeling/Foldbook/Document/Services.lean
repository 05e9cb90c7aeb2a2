import Foldbook.Failure
import Foldbook.Log
import Foldbook.Request

/-!
# Services

What running a document asks of its surroundings: to carry out an assignment, to send a request,
to keep a response in a variable, to fill in the condition of a loop, and to note an event.  The
operations live in a monad `m`, about which the interpreter assumes nothing, so a document means
the same over a store and a network as over any other state.

Each operation that can fail answers its failure as a value.  What a monad itself does to end a run
early is not seen here.
-/

namespace Foldbook

/-- The answer to a request: the text for the document and the value for a variable. -/
structure Reply where
  text : String
  value : Json
  deriving DecidableEq, Repr

/-- The operations a document runs on. -/
structure Services (m : Type → Type) where
  /-- Carries out an assignment line and answers the line with its final value. -/
  assign : String → m (Except Failure String)
  /-- Sends a request, or shows the command that would send it. -/
  send : (request : Request) → (debug verbose : Bool) → m (Except Failure Reply)
  /-- Keeps a value in a variable. -/
  capture : String → Json → m (Except Failure Unit)
  /-- Replaces the selectors of a condition. -/
  condition : String → m (Except Failure String)
  /-- Notes an event. -/
  note : LogRecord → m Unit
  /-- How many rounds a loop may take in one run. -/
  rounds : Nat

end Foldbook
