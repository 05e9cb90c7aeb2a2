import Foldbook.Disk
import Foldbook.Json.Printer

/-!
# The environment

The variables of all scripts are the members of one JSON object.  It is loaded once from where it
is kept, and every change writes the whole object back.  A missing, unreadable or wrongly shaped
object counts as empty.
-/

namespace Foldbook

/-- Where the environment is kept. -/
inductive Backend where
  /-- In memory, with the number of times it was saved. -/
  | memory (saves : Nat)
  /-- In a file, indented. -/
  | file (path : String)
  deriving DecidableEq, Repr

/-- The environment and where it is kept. -/
structure Store where
  document : Json
  backend : Backend
  deriving DecidableEq, Repr

namespace Store

/-- A document, if its root is an object, and the empty object otherwise. -/
def rooted : Json → Json
  | .obj members => .obj members
  | _ => .obj []

/-- The document in a file's text. -/
def ofText (text : String) : Json :=
  match Json.read text with
  | .ok document => rooted document
  | .error _ => .obj []

/-- Loads the environment from a file.  Only a file that is no UTF-8 text cannot be loaded. -/
def load (disk : Disk) (path : String) : Except Text.Utf8.Fault Json :=
  match disk.readText? path with
  | none => .ok (.obj [])
  | some (.error fault) => .error fault
  | some (.ok text) => .ok (ofText text)

/-- Opens the environment that is kept in a file. -/
def openFile (disk : Disk) (path : String) : Except Text.Utf8.Fault Store :=
  (load disk path).map fun document => { document, backend := .file path }

/-- The members, if the document is an object. -/
def members? (s : Store) : Option (List (String × Json)) :=
  match s.document with
  | .obj members => some members
  | _ => none

/-- The value of a variable. -/
def get? (s : Store) (name : String) : Option Json := do Json.find? name (← s.members?)

/-- The text that is kept for a document. -/
def savedText (document : Json) : String := Json.render Json.pretty document

/-- Keeps a document. -/
def save (backend : Backend) (document : Json) (disk : Disk) : Except WriteFault Backend × Disk :=
  match backend with
  | .memory saves => (.ok (.memory (saves + 1)), disk)
  | .file path =>
    let (outcome, disk) := disk.write path (Text.Utf8.encode (savedText document))
    (outcome.map fun _ => backend, disk)

/-- Gives a variable a value and keeps the environment.  The variable has its value from then on
even if keeping it fails. -/
def set (s : Store) (disk : Disk) (name : String) (value : Json) :
    Except Failure Unit × Store × Disk :=
  match s.document with
  | .obj members =>
    let s := { s with document := .obj (Json.insert name value members) }
    match save s.backend s.document disk with
    | (.ok backend, disk) => (.ok (), { s with backend }, disk)
    | (.error fault, disk) => (.error (.notSaved fault), s, disk)
  | _ => (.error .environmentNotObject, s, disk)

/-- Names of the variables that send commands to a remote host. -/
def remoteNames : List String := ["sshTo", "sshConfig", "sshKey", "sshPort"]

/-- The variables among `remoteNames` that are set. -/
def remoteSettings (s : Store) : List (String × Json) :=
  remoteNames.filterMap fun name => (s.get? name).map fun value => (name, value)

end Store

end Foldbook
