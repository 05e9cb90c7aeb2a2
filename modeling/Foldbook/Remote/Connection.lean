import Foldbook.Runner.Program
import Foldbook.Text.Shell

/-!
# Connections

A connection to a remote host is kept open by a control master, whose socket and log lie in a
directory made for it.  Commands run over the open connection.  Closing asks the master to exit and
removes the directory, whatever the master answers.
-/

namespace Foldbook

open Text

namespace Connection

/-- The control socket. -/
def socket (c : Connection) : String := c.directory ++ "/master"

/-- Makes a directory for a connection. -/
def makeDirectory : Act String := do
  let r ← get
  let name := s!"CTL{r.directoriesMade + 1}"
  let directory : ControlDirectory := { name }
  set { r with
    directories := r.directories ++ [directory]
    directoriesMade := r.directoriesMade + 1 }
  return name

/-- Removes a directory with its log. -/
def removeDirectory (name : String) : Act Unit :=
  modify fun r => { r with directories := r.directories.filter fun d => d.name != name }

/-- Whether the connection has not been closed. -/
def isOpen (c : Connection) : Act Bool := do
  return (← get).directories.any fun d => d.name == c.directory

/-- What the master wrote to its log, with every line end as a line feed. -/
def loggedText? (name : String) : Act (Option String) := do
  let found := (← get).directories.find? fun d => d.name == name
  return (found.bind (·.logged)).map fun octets =>
    String.ofList (unifyNewlines (rawText octets).toList)

/-- What breaks when a path has a null character in the name of a user. -/
def nullName : Stop := .broken "embedded null byte"

/-- Connects to a host.  A master that does not start leaves no directory, but a path that cannot be
written out does. -/
def connect (target : Target) (program : String) : Act Connection := do
  let directory ← makeDirectory
  let connection : Connection := { target, program, directory }
  if !target.expands then throw nullName
  let options := target.connectOptions (← Act.home)
  let args := ["-E", directory ++ "/master.log", "-S", connection.socket, "-M", "-f", "-N",
    "-o", "ControlPersist=yes", "-o", "BatchMode=yes"] ++ options ++ [target.destination]
  Act.note {
    level := .info
    event := "ssh.connect"
    fields := [("destination", .str target.destination)] }
  match ← Act.start program args with
  | .error fault => do
    removeDirectory directory
    Act.fail (fault.failure program)
  | .ok finished =>
    if finished.status ≠ 0 then
      let cause : TransportCause := match ← loggedText? directory with
        | some text => .diagnostics text
        | none => .exitStatus program finished.status
      removeDirectory directory
      Act.fail (.transport cause)
    else return connection

/-- Runs a command line on the host and answers its output and diagnostics. -/
def run (c : Connection) (line : String) : Act (String × String) := do
  if !(← c.isOpen) then Act.fail (.transport (.sessionClosed c.target.destination))
  else
    match ← Act.start c.program ["-S", c.socket, c.target.destination, line] with
    | .error fault => Act.fail (fault.failure c.program)
    | .ok finished =>
      let diagnostics := plainText finished.diagnostics
      if finished.status ≠ 0 then Act.fail (.transport (.diagnostics diagnostics))
      else return (plainText finished.output, diagnostics)

/-- Runs a program on the host with the given arguments, unchanged by the remote shell. -/
def command (c : Connection) (program : String) (args : List String) : Act (String × String) :=
  c.run (Shell.command (program :: args))

/-- Runs a command line that the remote shell expands, and answers its output. -/
def raw (c : Connection) (line : String) : Act String := do
  return (← c.run line).1

/-- Asks the master to exit and removes its directory.  Closing again does nothing. -/
def close (c : Connection) : Act Unit := do
  if !(← c.isOpen) then return
  let destination := c.target.destination
  let words := ["-S", c.socket, "-O", "exit", destination]
  let outcome ← tryCatch (some <$> Act.start c.program words)
    fun stop => do
      removeDirectory c.directory
      throw stop
  if let some (.error _) := outcome then
    Act.note {
      level := .warning
      event := "ssh.close_failed"
      fields := [("destination", .str destination)] }
  removeDirectory c.directory
  Act.note {
    level := .info
    event := "ssh.closed"
    fields := [("destination", .str destination)] }

end Connection

namespace Act

/-- Runs `body` with a leased session, which goes back to the pool afterwards.  If the body stops,
the session is closed instead. -/
def useSession {α : Type} (destination : String) (connection : Connection)
    (body : Connection → Act α) : Act α := do
  note {
    level := .debug
    event := "ssh.lease"
    fields := [("destination", .str destination)] }
  let answer ← tryCatch (body connection) fun stop => do
    modify fun r => { r with pool := r.pool.forget destination }
    connection.close
    throw stop
  modify fun r => { r with pool := r.pool.giveBack destination connection }
  return answer

/-- Leases a session to the host, which is connected if none is idle, and runs `body` with it. -/
def withSession {α : Type} (target : Target) (body : Connection → Act α) : Act α := do
  let r ← get
  let destination := target.destination
  let connect : Act (Except Stop Connection) :=
    fun r =>
      let (outcome, r) := (Connection.connect target r.shell).perform r
      (.ok outcome, r)
  match ← r.pool.lease connect destination with
  | .error (.alreadyLeased destination) => throw (.doubleLease destination)
  | .error (.notConnected stop) => throw stop
  | .ok (connection, pool) =>
    modify fun r => { r with pool }
    useSession destination connection body

/-- Closes connections one after another. -/
def closeEach : List Connection → Act Unit
  | [] => pure ()
  | c :: cs => do
    c.close
    closeEach cs

/-- Closes all idle sessions. -/
def closeAll : Act Unit := do
  let (connections, pool) := (← get).pool.drain
  modify fun r => { r with pool }
  closeEach connections

end Act

end Foldbook
