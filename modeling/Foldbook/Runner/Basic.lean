import Foldbook.Log
import Foldbook.Remote.Pool
import Foldbook.Remote.Target
import Foldbook.Store
import Foldbook.Template.Settle

/-!
# Runners

A runner is all that a sequence of documents shares: the environment, the sessions to remote
hosts, the log, and the programs started for it.  `Act` is the type of what a runner does: it
changes the runner and answers a value, or stops.  A stop is either a failure, which a document
reports, or something that no document can deal with.

A program answers with what `programs` holds for it next, so a run is a function of these answers.
-/

namespace Foldbook

/-- How a program behaves that is started. -/
inductive Conduct where
  /-- It runs and ends with a status, its output, its diagnostics, and what it writes to its log
  file. -/
  | runs (status : Int) (output diagnostics : List UInt8) (logged : Option (List UInt8))
  | missing
  | refused (reason : String)
  /-- Starting it goes wrong in a way that is no fault of the program. -/
  | breaks (message : String)
  deriving DecidableEq, Repr

/-- A program that does nothing and succeeds. -/
def Conduct.quiet : Conduct := .runs 0 [] [] none

/-- A directory for the connection to a remote host, with the log written there. -/
structure ControlDirectory where
  name : String
  logged : Option (List UInt8) := none
  deriving DecidableEq, Repr

/-- A connection to a remote host.  It is open as long as its control directory exists. -/
structure Connection where
  target : Target
  /-- The program that connects. -/
  program : String
  directory : String
  deriving DecidableEq, Repr

/-- All that a sequence of documents shares. -/
structure Runner where
  store : Store := { document := .obj [], backend := .memory 0 }
  disk : Disk := {}
  /-- Environment variables of the process. -/
  environ : List (String × String) := []
  /-- The program that sends requests. -/
  client : String := "curl"
  /-- The program that connects to remote hosts. -/
  shell : String := "ssh"
  /-- How many passes a substitution may take. -/
  passes : Nat := Template.unlimited
  /-- How many rounds a loop may take in one run. -/
  rounds : Nat := Template.unlimited
  pool : Pool Connection := {}
  /-- What the programs started next will do. -/
  programs : List Conduct := []
  /-- What further programs will do. -/
  otherwise : Conduct := .quiet
  /-- The command lines of the programs started so far, last first. -/
  started : List (List String) := []
  /-- The control directories that exist. -/
  directories : List ControlDirectory := []
  /-- How many control directories have been made. -/
  directoriesMade : Nat := 0
  log : Log := {}

/-- Why a runner stops. -/
inductive Stop where
  | failure (f : Failure)
  /-- A session was asked for that is in use. -/
  | doubleLease (destination : String)
  /-- Something broke that no document can report. -/
  | broken (message : String)
  deriving DecidableEq, Repr

/-- The words of a stop. -/
def Stop.message : Stop → String
  | .failure f => f.message
  | .doubleLease destination => "session to " ++ destination ++ " is already leased"
  | .broken message => message

/-- What a runner does. -/
abbrev Act (α : Type) := ExceptT Stop (StateM Runner) α

namespace Act

/-- Does an action on a runner. -/
def perform {α : Type} (act : Act α) (r : Runner) : Except Stop α × Runner :=
  act.run r

/-- Stops with a failure. -/
def fail {α : Type} (f : Failure) : Act α := throw (.failure f)

/-- Answers a value or stops with its failure. -/
def ofExcept {α : Type} : Except Failure α → Act α
  | .ok a => pure a
  | .error f => fail f

/-- Answers a failure as a value; other stops go on. -/
def attempt {α : Type} (act : Act α) : Act (Except Failure α) :=
  fun r =>
    match act r with
    | (.ok a, r) => (.ok (.ok a), r)
    | (.error (.failure f), r) => (.ok (.error f), r)
    | (.error stop, r) => (.error stop, r)

/-- Adds a record to the log. -/
def note (record : LogRecord) : Act Unit :=
  modify fun r => { r with log := r.log.add record }

/-- The home directory. -/
def home : Act String := do return ((← get).environ.lookup "HOME").getD ""

end Act

end Foldbook
