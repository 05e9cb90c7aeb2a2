import Foldbook.Query.Complaint

/-!
# Names in a query

A query uses functions, variables and labels that it does not define itself: its free uses.  A
definition that nothing behind it uses does not count.
-/

namespace Foldbook.Query

/-- A name that stands for something. -/
inductive Name where
  | function (name : String) (arity : Nat)
  | variable (name : String)
  | label (name : String)
  deriving DecidableEq, Repr

/-- A name and where it is used. -/
structure Use where
  name : Name
  place : Extent
  deriving DecidableEq, Repr

namespace Use

/-- The uses that are left when the names are defined. -/
def without (names : List Name) (uses : List Use) : List Use :=
  uses.filter fun u => !names.contains u.name

end Use

/-- What a parameter defines: a function, and a variable if it is passed by value. -/
def Parameter.names (p : Parameter) : List Name :=
  .function p.name 0 :: (if p.byValue then [.variable p.name] else [])

mutual

/-- The variables that a pattern binds. -/
def Pattern.bound : Pattern → List Name
  | .variable name => [.variable name]
  | .array items => itemVariables items
  | .object entries => entryVariables entries

/-- The variables of several patterns. -/
def itemVariables : List Pattern → List Name
  | [] => []
  | p :: ps => p.bound ++ itemVariables ps

/-- The variables of the entries of a pattern. -/
def entryVariables : List (Expr × Option String × Option Pattern) → List Name
  | [] => []
  | (_, name, none) :: rest => (name.map Name.variable).toList ++ entryVariables rest
  | (_, name, some p) :: rest =>
    (name.map Name.variable).toList ++ p.bound ++ entryVariables rest

end

mutual

/-- The free uses of a query, in the order of the text. -/
def Expr.uses : Expr → List Use
  | .here | .literal _ | .format _ => []
  | .template _ _ holes => holeUses holes
  | .variable name place => [⟨.variable name, place⟩]
  | .call name args place => ⟨.function name args.length, place⟩ :: allUses args
  | .index target key _ => target.uses ++ key.uses
  | .slice target start finish _ => target.uses ++ optionalUses start ++ optionalUses finish
  | .each target _ => target.uses
  | .attempt body handler => body.uses ++ optionalUses handler
  | .negate body => body.uses
  | .pipe a b | .comma a b | .binary _ a b | .and a b | .or a b | .alternative a b
  | .assign a b | .update a b | .updateWith _ a b | .updateAlternative a b => a.uses ++ b.uses
  | .array body => optionalUses body
  | .object entries => pairUses entries
  | .conditional c yes no => c.uses ++ yes.uses ++ no.uses
  | .bind source patterns body =>
    source.uses ++ patternUses patterns ++ Use.without (itemVariables patterns) body.uses
  | .reduce source patterns start update =>
    source.uses ++ patternUses patterns ++ start.uses ++
      Use.without (itemVariables patterns) update.uses
  | .foreach source patterns start update extract =>
    source.uses ++ patternUses patterns ++ start.uses ++
      Use.without (itemVariables patterns) (update.uses ++ extract.uses)
  | .define name params body rest =>
    let own := Name.function name params.length
    let later := rest.uses
    if later.any (·.name == own) then
      Use.without (own :: params.flatMap Parameter.names) body.uses ++ Use.without [own] later
    else later
  | .label name body => Use.without [.label name] body.uses
  | .break name place => [⟨.label name, place⟩]

/-- The free uses of several queries. -/
def allUses : List Expr → List Use
  | [] => []
  | e :: es => e.uses ++ allUses es

/-- The free uses of a query that may be missing. -/
def optionalUses : Option Expr → List Use
  | none => []
  | some e => e.uses

/-- The free uses of the holes of a text. -/
def holeUses : List (Expr × String) → List Use
  | [] => []
  | (e, _) :: rest => e.uses ++ holeUses rest

/-- The free uses of keys and values. -/
def pairUses : List (Expr × Expr) → List Use
  | [] => []
  | (k, v) :: rest => k.uses ++ v.uses ++ pairUses rest

/-- The free uses of the keys in a pattern. -/
def Pattern.uses : Pattern → List Use
  | .variable _ => []
  | .array items => patternUses items
  | .object entries => entryUses entries

/-- The free uses of several patterns. -/
def patternUses : List Pattern → List Use
  | [] => []
  | p :: ps => p.uses ++ patternUses ps

/-- The free uses of the entries of a pattern. -/
def entryUses : List (Expr × Option String × Option Pattern) → List Use
  | [] => []
  | (k, _, none) :: rest => k.uses ++ entryUses rest
  | (k, _, some p) :: rest => k.uses ++ p.uses ++ entryUses rest

end

/-- What is wrong with a use of an unknown name. -/
def Name.complaint : Name → Complaint
  | .function name arity => .unknownFunction name arity
  | .variable name => .unknownVariable name
  | .label name => .unknownLabel name

/-- The reports on the uses of names that are not known. -/
def unknownUses (known : Name → Bool) (e : Expr) : List Report :=
  (e.uses.filter fun u => !known u.name).map fun u => ⟨u.name.complaint, u.place⟩

end Foldbook.Query
