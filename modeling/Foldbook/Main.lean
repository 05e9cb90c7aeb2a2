import Foldbook.CommandLine

/-!
# The program

Reads the document, the files and the variables of the process, calls `CommandLine.execute`, and
prints and saves what that gives.  No other program is started from here: one that a request needs
counts as missing.
-/

namespace Foldbook.Main

open Text

/-- All octets of a stream, behind those read before. -/
partial def readAll (stream : IO.FS.Stream) (before : ByteArray) : IO ByteArray := do
  let more ← stream.read 65536
  if more.isEmpty then return before else readAll stream (before ++ more)

/-- Puts the directory that a file lies in on the disk, and the file if it is there. -/
def fetch (disk : Disk) (path : String) : IO Disk := do
  let above := Disk.join (Disk.steps path).dropLast
  let found ← if above.isEmpty then pure false else (← IO.FS.realPath above).isDir
  let disk := if found then { disk with directories := above :: disk.directories } else disk
  try
    let octets := (← IO.FS.readBinFile path).toList
    return { disk with files := Disk.put (Disk.join (Disk.steps path)) octets disk.files }
  catch _ => return disk

/-- Saves a file if its octets have changed. -/
def save (before after : Disk) (path : String) : IO Unit :=
  match after.read? path with
  | none => pure ()
  | some octets =>
    if before.read? path == some octets then pure ()
    else IO.FS.writeBinFile path (ByteArray.mk octets.toArray)

/-- The words of a text, any of which may name a variable of the process. -/
def names (text : String) : List String :=
  ((text.map fun c => if isWord c then c else ' ').splitOn " ").filter fun name => !name.isEmpty

/-- The variables of the process with the given names. -/
def fetchVariables (names : List String) : IO (List (String × String)) :=
  names.eraseDups.filterMapM fun name => do
    return (← IO.getEnv name).map fun value => (name, value)

/-- The path of the environment's file, as far as the settings can be read. -/
def storePath? (disk : Disk) (environ : List (String × String)) (arguments : List String) :
    Option String := do
  let settings ← (Settings.load disk none environ (CommandLine.overrides arguments)).toOption
  (CommandLine.pathOf settings.envFile).toOption

end Foldbook.Main

open Foldbook in
/-- Runs the program. -/
def main (arguments : List String) : IO UInt32 := do
  let input ←
    if CommandLine.asksHelp arguments then pure ByteArray.empty
    else Main.readAll (← IO.getStdin) ByteArray.empty
  let known ← Main.fetchVariables
    ("HOME" :: "VIM_REST_CONFIG" :: Setting.ofEnviron.map Prod.fst)
  let disk ← Main.fetch {} (Settings.configPath none known)
  let path? := Main.storePath? disk known arguments
  let disk ← match path? with
    | some path => Main.fetch disk path
    | none => pure disk
  let texts := input.toList :: disk.files.map Prod.snd
  let named ← Main.fetchVariables (texts.flatMap fun octets => Main.names (rawText octets))
  let start : Runner := { disk, environ := known ++ named, otherwise := .missing }
  let (ending, r) := CommandLine.execute arguments (.octets input.toList) start
  if let some path := path? then Main.save disk r.disk path
  for line in r.log.lines do IO.eprintln line
  match ending with
  | .ok ending => do
    IO.eprint ending.complaint
    IO.print ending.output
    return ending.status.toUInt32
  | .error crash => do
    IO.eprintln crash.message
    return 1
