import Foldbook.Query.Evaluation

/-!
# Selecting from a document

`Query.select` reads a query, checks its names, and evaluates it at a JSON document.
-/

namespace Foldbook.Query

/-- Why a query gives no values. -/
inductive Problem where
  /-- The text is no query, or uses unknown names. -/
  | faulty (reports : List Report)
  /-- The text holds no query at all. -/
  | missing
  /-- The evaluation stopped. -/
  | failed (fault : Fault)

/-- The words of a problem with the given query. -/
def Problem.message (text : String) : Problem → String
  | .faulty reports => renderReports text reports
  | .missing => noProgramMessage
  | .failed fault => fault.message

/-- Queries are evaluated up to this depth. -/
def nestingLimit : Nat := 5000

/-- Whether a name is known without being defined in the query. -/
def isKnown : Name → Bool
  | .function name arity =>
    (findInLibrary? name arity).isSome || Run.isForm name arity ||
      (Function.find? name arity).isSome
  | .variable name => name == Env.processVariable
  | .label _ => false

/-- The query that a text spells. -/
def compile (text : String) : Except Problem Expr :=
  match Grammar.program text with
  | .error rejection => .error (.faulty rejection.reports)
  | .ok none => .error .missing
  | .ok (some e) =>
    match unknownUses isKnown e with
    | [] => .ok e
    | reports => .error (.faulty reports)

/-- The outputs up to the end, as JSON.  A raised null ends them without a fault. -/
def gather (outputs : Outputs Focus) : Except Problem (List Json) :=
  let found := outputs.toList.map fun f => f.value.toJson
  match outputs.ending with
  | .failed (.raised .null) | .finished | .stopped _ => .ok found
  | .failed fault => .error (.failed fault)

/-- The values of a query at a document. -/
def select (environ : List (String × String)) (text : String) (document : Json) :
    Except Problem (List Json) := do
  let e ← compile text
  let env := Env.outermost (.obj (environ.map fun (k, v) => (k, .str v)))
  gather (eval nestingLimit env e (.plain (.ofJson document)))

end Foldbook.Query
