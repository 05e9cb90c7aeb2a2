import Foldbook.Document.Run
import Foldbook.Runner.Sending
import Foldbook.Template.Assignment

/-!
# Documents on a runner

The services of a document on a runner, and the run of a whole document.  A failure is part of the
document; what no document can report makes the run an error.
-/

namespace Foldbook

namespace Act

/-- Gives a variable a value and keeps the environment. -/
def setVariable (name : String) (value : Json) : Act Unit := do
  let r ← get
  let (outcome, store, disk) := r.store.set r.disk name value
  set { r with store, disk }
  ofExcept outcome
  note { level := .debug, event := "store.set", fields := [("name", .str name)] }

/-- Carries out an assignment line and answers it with its final value. -/
def define (line : String) : Act String := do
  match Template.assignment? line with
  | none => fail (.notAssignment line)
  | some assignment =>
    let text ← settle assignment.value
    let value ← ofExcept ((Json.read text).mapError .json)
    setVariable assignment.name value
    return "@" ++ assignment.name ++ " = " ++ text

/-- The services of a document on a runner with the given limit of rounds. -/
def services (rounds : Nat) : Services Act where
  assign line := attempt (define line)
  send request debug verbose := attempt (Act.send request debug verbose)
  capture name value := attempt (setVariable name value)
  condition text := attempt (settle text)
  note := note
  rounds := rounds

/-- Runs a list of lines and answers them with the results. -/
def runLines (lines : List String) (plainFirst : Bool) : Act String := do
  Document.runLines (services (← get).rounds) lines plainFirst

/-- Runs a loop on its own. -/
def runLoop (block : LoopBlock) (r : LoopRun) : Act LoopRun := do
  block.runAlone (services (← get).rounds) r

end Act

/-- How running a document ended. -/
inductive DocumentOutcome where
  | success (output : String)
  | error (message : String)
  deriving DecidableEq, Repr

/-- The line that reports an error. -/
def DocumentOutcome.report : DocumentOutcome → String
  | .success _ => ""
  | .error message => "InternalError: " ++ (if message.isEmpty then "Unknown error" else message)

namespace Act

/-- Runs a document.  A stop is answered, not passed on. -/
def handle (source : String) : Act DocumentOutcome := do
  let run : Act DocumentOutcome := do
    return .success (← Document.runText (services (← get).rounds) source)
  tryCatch run fun stop => do
    note { level := .error, event := "runtime.failed" }
    return .error stop.message

end Act

end Foldbook
