import Foldbook.Runner.Basic
import Foldbook.Text.Lines
import Foldbook.Text.Utf8

/-!
# Starting programs

A program is started by its command line, which the runner keeps, and ends with a status and two
texts.  Octets that are no text are replaced, and carriage returns are dropped.
-/

namespace Foldbook

open Text

/-- What a program left behind. -/
structure Finished where
  status : Int
  output : List UInt8
  diagnostics : List UInt8
  deriving DecidableEq, Repr

/-- Why a program did not run. -/
inductive StartFault where
  | missing
  | refused (reason : String)
  deriving DecidableEq, Repr

/-- The failure of starting a program. -/
def StartFault.failure (program : String) : StartFault → Failure
  | .missing => .transport (.programMissing program)
  | .refused reason => .transport (.startRefused reason)

/-- The text of a program's octets, without replacing line ends. -/
def rawText (octets : List UInt8) : String := Utf8.decodeLossy octets

/-- The text of a program's octets without carriage returns. -/
def plainText (octets : List UInt8) : String := without '\r' (rawText octets)

namespace Act

/-- The file that a command line names for the log of a connection. -/
def logPath? : List String → Option String
  | "-E" :: path :: _ => some path
  | _ :: rest => logPath? rest
  | [] => none

/-- Keeps what a program writes to the log of a connection. -/
def writeLog (path : String) (octets : List UInt8) : Act Unit :=
  modify fun r =>
    { r with
      directories := r.directories.map fun d =>
        if d.name ++ "/master.log" = path then { d with logged := some octets } else d }

/-- Starts a program and waits for its end. -/
def start (program : String) (args : List String) : Act (Except StartFault Finished) := do
  let r ← get
  let conduct := r.programs.headD r.otherwise
  set { r with programs := r.programs.tail, started := (program :: args) :: r.started }
  match conduct with
  | .missing => return .error .missing
  | .refused reason => return .error (.refused reason)
  | .breaks message => throw (.broken message)
  | .runs status output diagnostics logged =>
    if let (some path, some octets) := (logPath? args, logged) then writeLog path octets
    return .ok { status, output, diagnostics }

end Act

end Foldbook
