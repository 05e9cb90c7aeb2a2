import Foldbook.Json.Reader
import Foldbook.Text.Quoted

/-!
# Failures

What can go wrong with one operation of a document.  A failure is written into the document and
marks its fold; the run goes on.  The words of every failure are in `Failure.message`.
-/

namespace Foldbook

/-- Why a program or a remote host could not serve a request. -/
inductive TransportCause where
  /-- A setting for the remote host has to be a text. -/
  | settingNotText (name : String)
  /-- The port of the remote host has to be a whole number. -/
  | portNotNumber
  /-- There is no such program. -/
  | programMissing (program : String)
  /-- The program could not be started. -/
  | startRefused (reason : String)
  /-- The program failed, with these diagnostics. -/
  | diagnostics (text : String)
  /-- The program failed without diagnostics. -/
  | exitStatus (program : String) (status : Int)
  /-- The session to the host has been closed. -/
  | sessionClosed (destination : String)
  deriving DecidableEq, Repr

/-- Why a file could not be written. -/
inductive WriteFault where
  | noSuchPlace (path : String)
  | notADirectory (path : String)
  | isADirectory (path : String)
  /-- The file could not be opened, for another reason. -/
  | refused (reason : String)
  /-- The file was opened, but not all of the octets could be written. -/
  | cutShort (reason : String)
  deriving DecidableEq, Repr

/-- A failed operation. -/
inductive Failure where
  /-- A line that should be an assignment is none. -/
  | notAssignment (line : String)
  /-- A selector yields nothing. -/
  | unresolved (selector : String)
  /-- A selector yields several values. -/
  | ambiguous (count : Nat) (selector : String)
  /-- A selector cannot be read, or stops with an error; the words are its own. -/
  | query (message : String)
  /-- Selectors are still left after the allowed number of passes. -/
  | unsettled (passes : Nat) (text : String)
  /-- A value is not JSON. -/
  | json (fault : Json.Fault)
  | transport (cause : TransportCause)
  /-- The environment is no object, so it has no variables. -/
  | environmentNotObject
  /-- The environment could not be written. -/
  | notSaved (fault : WriteFault)
  deriving DecidableEq, Repr

/-- The kinds of failure. -/
inductive FailureKind where
  | parse
  | substitution
  | json
  | transport
  | store
  deriving DecidableEq, Repr

/-- The words of a cause. -/
def TransportCause.message : TransportCause → String
  | .settingNotText name => name ++ " was not a string"
  | .portNotNumber => "sshPort was not a number"
  | .programMissing program => program ++ ": command not found"
  | .startRefused reason => reason
  | .diagnostics text => text
  | .exitStatus program status =>
    program ++ " exited with status " ++ String.ofList (Decimal.intDigits status)
  | .sessionClosed destination => "session to " ++ destination ++ " is closed"

/-- The words of a fault, with the path as it was given or the words of the system. -/
def WriteFault.message : WriteFault → String
  | .noSuchPlace path => "[Errno 2] No such file or directory: " ++ Text.Quoted.render path
  | .notADirectory path => "[Errno 20] Not a directory: " ++ Text.Quoted.render path
  | .isADirectory path => "[Errno 21] Is a directory: " ++ Text.Quoted.render path
  | .refused reason | .cutShort reason => reason

namespace Failure

/-- The kind of a failure. -/
def kind : Failure → FailureKind
  | .notAssignment _ => .parse
  | .unresolved _ | .ambiguous _ _ | .query _ | .unsettled _ _ => .substitution
  | .json _ => .json
  | .transport _ => .transport
  | .environmentNotObject | .notSaved _ => .store

/-- The text that a failure puts into the document. -/
def message : Failure → String
  | .notAssignment line => "cannot parse line: " ++ line
  | .unresolved selector => "failed to get resource at " ++ selector
  | .ambiguous count selector => s!"selector returned {count} values at " ++ selector
  | .query message => message
  | .unsettled passes text => s!"substitution did not settle after {passes} passes: " ++ text
  | .json fault => fault.message
  | .transport cause => cause.message
  | .environmentNotObject => "cannot modify environment"
  | .notSaved fault => fault.message

end Failure

end Foldbook
