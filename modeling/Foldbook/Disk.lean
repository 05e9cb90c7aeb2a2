import Foldbook.Failure
import Foldbook.Text.Lines
import Foldbook.Text.Utf8

/-!
# Files

A directory of files with their octets.  A file can be read whole, as octets or as text, and
written whole; writing makes a new file only in a directory that exists.  A directory exists if a
file lies in it or if it is listed.

A file that is written is emptied first.  So a write that fails leaves the file as it was only if it
could not be opened; otherwise the file has the first ones of the octets.  What comes in the way of
the writes is part of the disk (`Mishap`), so a run is a function of it.
-/

namespace Foldbook

open Text

/-- What can come in the way of writing a file in a place where a file can be. -/
inductive Mishap where
  /-- The file cannot be opened. -/
  | refused (reason : String)
  /-- The file is opened and emptied, and takes only so many octets. -/
  | cutShort (kept : Nat) (reason : String)
  deriving DecidableEq, Repr

/-- Files by their paths, whose steps are separated by single slashes. -/
structure Disk where
  files : List (String × List UInt8) := []
  /-- Directories that exist even without a file. -/
  directories : List String := []
  /-- What comes in the way of the writes to come, one after another.  Nothing comes in the way of
  further ones. -/
  mishaps : List (Option Mishap) := []
  deriving DecidableEq, Repr

namespace Disk

/-- The steps of a path.  Empty steps and `.` lead nowhere, but an empty step in front leads to the
root, which is apart from the directory that other paths begin in. -/
def steps (path : String) : List String :=
  let named := ((pieces '/' path.toList).map String.ofList).filter fun step =>
    step != "" && step != "."
  if startsWith path "/" then "" :: named else named

/-- The steps as one path. -/
def join (steps : List String) : String := "/".intercalate steps

/-- Whether the path has to lead to a directory. -/
def namesDirectory (path : String) : Bool := path.toList.getLast? == some '/'

/-- The octets of the file that the steps lead to. -/
def lookup (d : Disk) (steps : List String) : Option (List UInt8) := d.files.lookup (join steps)

/-- The octets of the file at a path. -/
def read? (d : Disk) (path : String) : Option (List UInt8) :=
  if namesDirectory path then none else d.lookup (steps path)

/-- The text of the file at a path, with every line end as a line feed. -/
def readText? (d : Disk) (path : String) : Option (Except Utf8.Fault String) :=
  (d.read? path).map fun octets =>
    (Utf8.decode octets).map fun s => String.ofList (unifyNewlines s.toList)

/-- Whether a list of steps leads to a directory: to the top, to the root, to a step before some
file, or to a listed directory. -/
def isDirectory (d : Disk) (steps : List String) : Bool :=
  steps == [] || steps == [""] || d.directories.any (Disk.steps · == steps) ||
    d.files.any fun (path, _) =>
      let file := Disk.steps path
      steps.isPrefixOf file && steps.length < file.length

/-- Replaces the octets of a file, or adds the file at the end. -/
def put (path : String) (octets : List UInt8) :
    List (String × List UInt8) → List (String × List UInt8)
  | [] => [(path, octets)]
  | (p, o) :: rest =>
    if p = path then (p, octets) :: rest else (p, o) :: put path octets rest

/-- Why there can be no file at a path. -/
def misplaced? (d : Disk) (path : String) : Option WriteFault :=
  let target := steps path
  let above := target.dropLast
  if path.isEmpty then some (.noSuchPlace path)
  else if d.isDirectory target then some (.isADirectory path)
  else if (List.range above.length).any fun n => (d.lookup (above.take (n + 1))).isSome then
    some (.notADirectory path)
  else if !d.isDirectory above then some (.noSuchPlace path)
  else if namesDirectory path then
    some (if (d.lookup target).isSome then .notADirectory path else .isADirectory path)
  else none

/-- What comes in the way of the next write. -/
def mishap? (d : Disk) : Option Mishap := d.mishaps.head?.join

/-- The disk behind the next write, with the files as they are. -/
def passed (d : Disk) : Disk := { d with mishaps := d.mishaps.tail }

/-- The disk with the octets in the file at a path. -/
def holding (d : Disk) (path : String) (octets : List UInt8) : Disk :=
  { d with files := put (join (steps path)) octets d.files }

/-- Writes a whole file.  A file that has been opened does not get back what it had. -/
def write (d : Disk) (path : String) (octets : List UInt8) : Except WriteFault Unit × Disk :=
  match d.misplaced? path with
  | some fault => (.error fault, d.passed)
  | none =>
    match d.mishap? with
    | none => (.ok (), d.passed.holding path octets)
    | some (.refused reason) => (.error (.refused reason), d.passed)
    | some (.cutShort kept reason) =>
      (.error (.cutShort reason), d.passed.holding path (octets.take kept))

theorem lookup_put (path : String) (octets : List UInt8) (files : List (String × List UInt8)) :
    (put path octets files).lookup path = some octets := by
  induction files with
  | nil => simp [put]
  | cons f files ih =>
    obtain ⟨p, o⟩ := f
    by_cases h : p = path
    · simp [put, h]
    · have hne : (path == p) = false := by simpa using fun e : path = p => h e.symm
      simp [put, h, List.lookup_cons, hne, ih]

end Disk

end Foldbook
