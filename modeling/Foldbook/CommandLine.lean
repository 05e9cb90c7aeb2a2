import Foldbook.Runner.Documents
import Foldbook.Settings

/-!
# The command line

The program takes a document from standard input and prints it with the results of its run.  Its
first argument names the file that keeps the environment.  `execute` gives the whole effect of a
call on a runner; nothing here reads or prints.
-/

namespace Foldbook

open Text

namespace CommandLine

/-- What standard input gives. -/
inductive Source where
  | octets (octets : List UInt8)
  /-- The user interrupts the program while it reads. -/
  | interrupted
  deriving DecidableEq, Repr

/-- How a call ends. -/
structure Ending where
  status : Nat
  output : String := ""
  complaint : String := ""
  deriving DecidableEq, Repr

/-- How a call ends without an answer of its own. -/
inductive Crash where
  | interrupted
  /-- A file is no UTF-8 text. -/
  | undecodable (fault : Utf8.Fault)
  /-- The environment's file is named by a value of this kind, which is no path. -/
  | notPath (kind : String)
  | stopped (stop : Stop)
  deriving DecidableEq, Repr

/-- The words of a crash. -/
def Crash.message : Crash → String
  | .interrupted => ""
  | .undecodable fault => fault.message
  | .notPath kind =>
    "stat: path should be string, bytes, os.PathLike or integer, not " ++ kind
  | .stopped stop => stop.message

/-- The words that ask for the usage. -/
def helpWords : List String := ["-h", "--help"]

/-- Whether the arguments ask for the usage. -/
def asksHelp (arguments : List String) : Bool := arguments.any helpWords.contains

/-- What the usage says. -/
def usage : String := "\n".intercalate [
  "Usage of vim-rest-client:",
  "STDIN | vim-rest-client [-h/--help] [file]",
  "",
  "\t--help/-h\t\tShow this usage message",
  "\tfile\t\t\tThe name to use as the env file (default .env.json)",
  "",
  "Flags:",
  "# @name <name>\t\t\tSaves output from the fold result into the environment under the "
    ++ "given name.",
  "# @form <name>=<val>\t\tAdds multi-form data to the request. Equivalent to -F for curl.",
  "# @debug\t\t\tDoes not execute fold but prints the curl command that would have executed.",
  "# @verbose\t\t\tEnables verbose logs.",
  "# @options <flags>\t\tAdds arguments to the argument list for curl.",
  "",
  "Special Variables:",
  "sshTo\t\tHost to ssh to and run curl command from",
  "sshConfig\tSSH config file path",
  "sshKey\t\tSSH key file path",
  "sshPort\t\tPort of ssh host"]

/-- The overrides that the arguments make: the first one names the environment's file. -/
def overrides (arguments : List String) : List (String × Yaml.Datum) :=
  (arguments.take 1).map fun path => (Setting.envFile.name, .str path)

/-- A setting as a text. -/
def textOf : Yaml.Datum → String
  | .str s => s
  | value => value.quoted

/-- The path in a setting.  Only a text or a number names a file. -/
def pathOf : Yaml.Datum → Except Crash String
  | .str path => .ok path
  | .int n => .ok (String.ofList (Decimal.intDigits n))
  | .bool b => .ok (if b then "1" else "0")
  | value => .error (.notPath value.kindName)

/-- The limit of passes in a setting. -/
def limitOf : Yaml.Datum → Nat
  | .int n => n.toNat
  | _ => Template.unlimited

/-- Whether a setting counts as switched on: all but null, false, zero and what is empty. -/
def isOn : Yaml.Datum → Bool
  | .null => false
  | .bool b => b
  | .int n => n != 0
  | .float x => x != 0.0
  | .str s => !s.isEmpty
  | .sequence items => !items.isEmpty
  | .mapping entries => !entries.isEmpty
  | _ => true

/-- A runner with the given settings and environment. -/
def equip (r : Runner) (settings : Settings) (store : Store) : Runner :=
  { r with
    store
    client := textOf settings.client
    shell := textOf settings.shell
    passes := limitOf settings.passes
    log := {
      threshold := thresholdOf (textOf settings.logLevel)
      asJson := isOn settings.jsonLogs } }

/-- Opens the environment that the settings name. -/
def openStore (disk : Disk) (settings : Settings) : Except Crash Store := do
  let path ← pathOf settings.envFile
  (Store.openFile disk path).mapError .undecodable

/-- The ending for the outcome of a document. -/
def endingOf : DocumentOutcome → Ending
  | .success output => { status := 0, output := output ++ "\n" }
  | .error message =>
    { status := 1, complaint := (DocumentOutcome.error message).report ++ "\n" }

/-- The ending of a call that cannot begin. -/
def refusal (message : String) : Ending :=
  { status := 1, complaint := "Error: " ++ message ++ "\n" }

/-- Runs a document and closes all sessions. -/
def runDocument (text : String) (r : Runner) : Except Crash Ending × Runner :=
  let act : Act DocumentOutcome := do
    let outcome ← Act.handle text
    Act.closeAll
    return outcome
  match act.perform r with
  | (.ok outcome, r) => (.ok (endingOf outcome), r)
  | (.error stop, r) => (.error (.stopped stop), r)

/-- A call whose settings are known. -/
def executeWith (settings : Settings) (source : Source) (r : Runner) :
    Except Crash Ending × Runner :=
  match source with
  | .interrupted => (.error .interrupted, r)
  | .octets octets =>
    match Utf8.decode octets with
    | .error fault => (.ok (refusal fault.message), r)
    | .ok text =>
      match openStore r.disk settings with
      | .error crash => (.error crash, r)
      | .ok store =>
        runDocument (String.ofList (unifyNewlines text.toList)) (equip r settings store)

/-- A call with the given arguments, on the files, variables and programs of a runner. -/
def execute (arguments : List String) (source : Source) (r : Runner) :
    Except Crash Ending × Runner :=
  if asksHelp arguments then (.ok { status := 0, output := usage ++ "\n" }, r)
  else
    match Settings.load r.disk none r.environ (overrides arguments) with
    | .error (.undecodable fault) => (.error (.undecodable fault), r)
    | .error fault => (.ok (refusal fault.message), r)
    | .ok settings => executeWith settings source r

/-- The ending of a call that the user may interrupt. -/
def interruptible : Except Crash Ending → Except Crash Ending
  | .error .interrupted => .ok { status := 130, complaint := "\nExiting.\n" }
  | ending => ending

end CommandLine

end Foldbook
