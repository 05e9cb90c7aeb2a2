import Foldbook.Query.Selection
import Foldbook.Remote.Connection

/-!
# Resolving selectors

A selector is a query over the environment, or a dollar sign and the name of a variable of the
process.  When the environment names a remote host, that host's shell tells the variable instead.
-/

namespace Foldbook

/-- The name in a selector for a variable of the process: all of one line behind the dollar sign. -/
def variableName? (selector : String) : Option String :=
  match selector.toList with
  | '$' :: rest =>
    let name := rest.takeWhile (· ≠ '\n')
    match rest.drop name.length with
    | [] | ['\n'] => some (String.ofList name)
    | _ => none
  | _ => none

/-- The one value that a query gives; null counts as none. -/
def singleValue (selector : String) (values : List Json) : Except Failure Json :=
  match values with
  | [] | [.null] => .error (.unresolved selector)
  | [v] => .ok v
  | vs => .error (.ambiguous vs.length selector)

/-- The value of a query over a document. -/
def queryDocument (environ : List (String × String)) (selector : String) (document : Json) :
    Except Failure Json :=
  match Query.select environ selector document with
  | .error problem => .error (.query (problem.message selector))
  | .ok values => singleValue selector values

namespace Act

/-- The remote host that the environment names. -/
def target? : Act (Option Target) := do
  ofExcept ((Target.ofSettings (← get).store.remoteSettings).mapError .transport)

/-- A variable of the process, or of the remote host. -/
def processVariable (selector name : String) : Act Json := do
  match ← target? with
  | some target =>
    let told ← withSession target fun connection => connection.raw ("echo " ++ selector)
    return .str (Text.without '\n' told)
  | none => return .str (((← get).environ.lookup name).getD "")

/-- The value of a selector. -/
def resolve (selector : String) : Act Json := do
  match variableName? selector with
  | some name => processVariable selector name
  | none =>
    let r ← get
    ofExcept (queryDocument r.environ selector r.store.document)

/-- A text with its selectors replaced. -/
def settle (text : String) : Act String := do
  let settled ← ofExcept
    (← Template.settle (fun s => attempt (resolve s)) (← get).passes text)
  if settled.passes > 0 then
    note {
      level := .debug
      event := "template.substituted"
      fields := [("passes", .int settled.passes)] }
  return settled.text

end Act

end Foldbook
