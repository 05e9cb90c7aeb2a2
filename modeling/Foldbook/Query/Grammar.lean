import Foldbook.Query.Complaint

/-!
# The grammar of queries

Reads lexemes into a query.  Operators bind by level: `|` least, then `,`, `//`, the assignments,
`or`, `and`, comparisons, sums and products.  A definition, a label and a binding of variables
reach as far to the right as they can.  `fuel` bounds the depth of recursion; `Expr.ofText` starts
with more than the lexemes can use.
-/

namespace Foldbook.Query.Grammar

/-- Why lexemes are no query.  A rejection that is settled lies between brackets that close, or has
been attributed to a statement; no further statement around it is to blame. -/
structure Rejection where
  reports : List Report
  settled : Bool
  deriving Repr

/-- What reading gives unless it is rejected. -/
abbrev Reading := Except Rejection

/-- The next lexeme. -/
def next (ls : List Lexeme) : Lexeme := ls.headD default

/-- The token of the next lexeme. -/
def peek (ls : List Lexeme) : Token := (next ls).token

/-- Rejects the next lexeme where only the named ones could stand. -/
def rejectWith {α : Type} (expecting : List String) (ls : List Lexeme) : Reading α :=
  .error ⟨[⟨.unexpected (peek ls) expecting, (next ls).extent⟩], false⟩

/-- Rejects the next lexeme where many others could stand. -/
def reject {α : Type} (ls : List Lexeme) : Reading α := rejectWith [] ls

/-- What is behind a token that has to come next. -/
def expect (t : Token) (expecting : List String) (ls : List Lexeme) :
    Reading (List Lexeme) :=
  if peek ls = t then .ok ls.tail else rejectWith expecting ls

/-- The token of a symbol. -/
def symbol (s : String) : Token := .symbol s

/-- What is read between brackets: a rejection is no fault of a statement around them. -/
def between {α : Type} (p : Reading (α × List Lexeme)) : Reading (α × List Lexeme) :=
  match p with
  | .error r => .error { r with settled := true }
  | ok => ok

/-- What is read as a part of a statement that began at `start`. -/
def within {α : Type} (keyword : String) (start : Nat) (p : Reading (α × List Lexeme)) :
    Reading (α × List Lexeme) :=
  match p with
  | .error r =>
    if r.settled then .error r
    else
      let stop := (r.reports.getLast?.map fun r => r.extent.stop).getD start
      .error ⟨r.reports ++ [⟨.unterminated keyword, ⟨start, stop⟩⟩], true⟩
  | ok => ok

/-! ## Operators -/

/-- How operators of one level group. -/
inductive Grouping where
  | left
  | right
  | none
  deriving DecidableEq

/-- An operator between two queries. -/
structure Connective where
  level : Nat
  grouping : Grouping
  join : Expr → Expr → Expr

/-- The operator that a token stands for. -/
def connective? (t : Token) : Option Connective :=
  match t with
  | .symbol "|" => some ⟨0, .right, .pipe⟩
  | .symbol "," => some ⟨1, .left, .comma⟩
  | .symbol "//" => some ⟨2, .right, .alternative⟩
  | .symbol "?//" => some ⟨2, .right, fun a b => .alternative (.attempt a Option.none) b⟩
  | .symbol "=" => some ⟨3, .none, .assign⟩
  | .symbol "|=" => some ⟨3, .none, .update⟩
  | .symbol "+=" => some ⟨3, .none, .updateWith .add⟩
  | .symbol "-=" => some ⟨3, .none, .updateWith .subtract⟩
  | .symbol "*=" => some ⟨3, .none, .updateWith .multiply⟩
  | .symbol "/=" => some ⟨3, .none, .updateWith .divide⟩
  | .symbol "%=" => some ⟨3, .none, .updateWith .modulo⟩
  | .symbol "//=" => some ⟨3, .none, .updateAlternative⟩
  | .keyword "or" => some ⟨4, .left, .or⟩
  | .keyword "and" => some ⟨5, .left, .and⟩
  | .symbol "==" => some ⟨6, .none, .binary .equal⟩
  | .symbol "!=" => some ⟨6, .none, .binary .notEqual⟩
  | .symbol "<" => some ⟨6, .none, .binary .less⟩
  | .symbol "<=" => some ⟨6, .none, .binary .lessEqual⟩
  | .symbol ">" => some ⟨6, .none, .binary .greater⟩
  | .symbol ">=" => some ⟨6, .none, .binary .greaterEqual⟩
  | .symbol "+" => some ⟨7, .left, .binary .add⟩
  | .symbol "-" => some ⟨7, .left, .binary .subtract⟩
  | .symbol "*" => some ⟨8, .left, .binary .multiply⟩
  | .symbol "/" => some ⟨8, .left, .binary .divide⟩
  | .symbol "%" => some ⟨8, .left, .binary .modulo⟩
  | _ => Option.none

/-- The level of products, which a sign reaches over. -/
def productLevel : Nat := 8

/-- The least level of a member's value: everything but `|` and `,`. -/
def memberLevel : Nat := 2

/-! ## Names -/

/-- What a pattern can begin with. -/
def patternStarts : List String := ["BINDING", "'['", "'\x7b'"]

/-- The name that a token gives as a key: keywords are names there. -/
def keyName? : Token → Option String
  | .name s | .keyword s => some s
  | _ => none

/-- Names that are values. -/
def constant? (name : String) : Option Value :=
  match name with
  | "null" => some .null
  | "true" => some (.bool true)
  | "false" => some (.bool false)
  | _ => none

/-- A text as a query. -/
def textLiteral (s : String) : Expr := .literal (.str s)

/-- Where a variable stands that tells its own line. -/
def lineValue (text : String) (place : Extent) : Value :=
  let (number, _, _) := lineAt place.start 1 0 (textLines text)
  .obj [("file", .str "<top-level>"), ("line", .ofInt number)]

/-- The variable of a binding lexeme. -/
def variableAt (text : String) (name : String) (place : Extent) : Expr :=
  if name = "__loc__" then .literal (lineValue text place) else .variable name place

/-- An access that a question mark behind it makes lenient. -/
def lenient (access : Bool → Expr) (ls : List Lexeme) : Expr × List Lexeme :=
  if peek ls = symbol "?" then (access true, ls.tail) else (access false, ls)

/-! ## Reading -/

mutual

/-- A query whose operators have at least the given level. -/
def query (text : String) : Nat → Nat → List Lexeme → Reading (Expr × List Lexeme)
  | 0, _, ls => reject ls
  | fuel + 1, level, ls => do
    let (e, ls) ← operand text fuel ls
    more text fuel level e ls

/-- The operators and operands behind a query. -/
def more (text : String) : Nat → Nat → Expr → List Lexeme → Reading (Expr × List Lexeme)
  | 0, _, _, ls => reject ls
  | fuel + 1, level, left, ls =>
    match connective? (peek ls) with
    | some op =>
      if op.level < level then .ok (left, ls)
      else do
        let (right, rest) ← query text fuel
          (if op.grouping = .right then op.level else op.level + 1) ls.tail
        match op.grouping, connective? (peek rest) with
        | .none, some again =>
          if again.level = op.level then reject rest
          else more text fuel level (op.join left right) rest
        | _, _ => more text fuel level (op.join left right) rest
    | none => .ok (left, ls)

/-- What an operator can stand between. -/
def operand (text : String) : Nat → List Lexeme → Reading (Expr × List Lexeme)
  | 0, ls => reject ls
  | fuel + 1, ls =>
    match peek ls with
    | .symbol "-" => do
      let (e, ls) ← query text fuel productLevel ls.tail
      return (.negate e, ls)
    | .keyword "def" => do
      let ((name, params, body), ls) ← definition text fuel ls
      let (rest, ls) ← query text fuel 0 ls
      return (.define name params body rest, ls)
    | .keyword "label" =>
      match peek ls.tail with
      | .binding name => do
        let ls ← expect (symbol "|") ["'|'"] ls.tail.tail
        let (body, ls) ← query text fuel 0 ls
        return (.label name body, ls)
      | _ => rejectWith ["BINDING"] ls.tail
    | .keyword "try" => do
      let start := (next ls).extent.start
      let (body, ls) ← guarded text fuel ls.tail
      match peek ls with
      | .keyword "catch" =>
        let (handler, ls) ← within "try" start (guarded text fuel ls.tail)
        return (.attempt body (some handler), ls)
      | _ => return (.attempt body none, ls)
    | _ => do
      let (e, ls) ← term text fuel ls
      match peek ls with
      | .keyword "as" =>
        let (patterns, ls) ← alternatives text fuel ls.tail
        let ls ← expect (symbol "|") ["?//", "'|'"] ls
        let (body, ls) ← query text fuel 0 ls
        return (.bind e patterns body, ls)
      | _ => return (e, ls)

/-- What a `try` or `catch` covers. -/
def guarded (text : String) : Nat → List Lexeme → Reading (Expr × List Lexeme)
  | 0, ls => reject ls
  | fuel + 1, ls =>
    match peek ls with
    | .symbol "-" | .keyword "def" | .keyword "label" | .keyword "try" => operand text fuel ls
    | _ => term text fuel ls

/-- A definition: name, parameters and body. -/
def definition (text : String) : Nat → List Lexeme →
    Reading ((String × List Parameter × Expr) × List Lexeme)
  | 0, ls => reject ls
  | fuel + 1, ls =>
    match keyName? (peek ls.tail) with
    | none => reject ls.tail
    | some name => do
      let ls := ls.tail.tail
      let (params, ls) ← match peek ls with
        | .symbol "(" => parameters fuel ls.tail
        | .symbol ":" => pure ([], ls)
        | _ => rejectWith ["':'", "'('"] ls
      let ls ← expect (symbol ":") ["':'"] ls
      let (body, ls) ← query text fuel 0 ls
      let ls ← expect (symbol ";") [] ls
      return ((name, params, body), ls)

/-- Parameters up to the closing parenthesis. -/
def parameters : Nat → List Lexeme → Reading (List Parameter × List Lexeme)
  | 0, ls => reject ls
  | fuel + 1, ls => do
    let param : Parameter ← match peek ls with
      | .name s | .keyword s => pure ⟨s, false⟩
      | .binding s => pure ⟨s, true⟩
      | _ => rejectWith ["IDENT", "BINDING"] ls
    match peek ls.tail with
    | .symbol ";" =>
      let (params, ls) ← parameters fuel ls.tail.tail
      return (param :: params, ls)
    | .symbol ")" => return ([param], ls.tail.tail)
    | _ => rejectWith ["';'", "')'"] ls.tail

/-- A query that needs no brackets, with the accesses behind it. -/
def term (text : String) : Nat → List Lexeme → Reading (Expr × List Lexeme)
  | 0, ls => reject ls
  | fuel + 1, ls => do
    let (e, ls) ← primary text fuel ls
    accesses text fuel e ls

/-- The accesses behind a query. -/
def accesses (text : String) : Nat → Expr → List Lexeme → Reading (Expr × List Lexeme)
  | 0, _, ls => reject ls
  | fuel + 1, e, ls =>
    match peek ls with
    | .field name =>
      let (e, ls) := lenient (.index e (textLiteral name)) ls.tail
      accesses text fuel e ls
    | .symbol "." =>
      match peek ls.tail with
      | .quote | .format _ => do
        let (key, ls) ← quoted text fuel ls.tail
        let (e, ls) := lenient (.index e key) ls
        accesses text fuel e ls
      | .symbol "[" => do
        let (e, ls) ← bracket text fuel e ls.tail.tail
        accesses text fuel e ls
      | _ => rejectWith ["FORMAT", "QQSTRING_START", "'['"] ls.tail
    | .symbol "[" => do
      let (e, ls) ← bracket text fuel e ls.tail
      accesses text fuel e ls
    | .symbol "?" => accesses text fuel (.attempt e none) ls.tail
    | _ => .ok (e, ls)

/-- An access whose opening bracket has been read. -/
def bracket (text : String) : Nat → Expr → List Lexeme → Reading (Expr × List Lexeme)
  | 0, _, ls => reject ls
  | fuel + 1, e, ls =>
    let close := fun (access : Bool → Expr) (ls : List Lexeme) => do
      let ls ← expect (symbol "]") [] ls
      return lenient access ls
    between <|
      match peek ls with
      | .symbol "]" => .ok (lenient (.each e) ls.tail)
      | .symbol ":" => do
        let (finish, ls) ← query text fuel 0 ls.tail
        close (.slice e none (some finish)) ls
      | _ => do
        let (start, ls) ← query text fuel 0 ls
        match peek ls with
        | .symbol ":" =>
          match peek ls.tail with
          | .symbol "]" => close (.slice e (some start) none) ls.tail
          | _ =>
            let (finish, ls) ← query text fuel 0 ls.tail
            close (.slice e (some start) (some finish)) ls
        | _ => close (.index e start) ls

/-- A text between quotes, possibly behind a format. -/
def quoted (text : String) : Nat → List Lexeme → Reading (Expr × List Lexeme)
  | 0, ls => reject ls
  | fuel + 1, ls => do
    let (format, ls) := match peek ls with
      | .format f => (some f, ls.tail)
      | _ => (none, ls)
    let ls ← expect .quote ["QQSTRING_START"] ls
    let (start, holes, ls) ← pieces text fuel ls
    let whole := if holes.isEmpty then textLiteral start
      else .template (format.getD "text") start holes
    return (whole, ls)

/-- The pieces of a text up to its closing quote: the text before the first hole, and the holes
with the texts behind them. -/
def pieces (text : String) : Nat → List Lexeme →
    Reading (String × List (Expr × String) × List Lexeme)
  | 0, ls => reject ls
  | fuel + 1, ls =>
    match peek ls with
    | .text s => do
      let (start, holes, ls) ← pieces text fuel ls.tail
      return (s ++ start, holes, ls)
    | .openHole => do
      let (e, ls) ← query text fuel 0 ls.tail
      let ls ← expect .closeHole [] ls
      let (start, holes, ls) ← pieces text fuel ls
      return ("", (e, start) :: holes, ls)
    | .unquote => .ok ("", [], ls.tail)
    | _ => rejectWith ["QQSTRING_TEXT", "QQSTRING_INTERP_START", "QQSTRING_END"] ls

/-- A query without accesses behind it. -/
def primary (text : String) : Nat → List Lexeme → Reading (Expr × List Lexeme)
  | 0, ls => reject ls
  | fuel + 1, ls =>
    let place := (next ls).extent
    match peek ls with
    | .symbol "." =>
      match peek ls.tail with
      | .quote => do
        let (key, ls) ← quoted text fuel ls.tail
        return lenient (.index .here key) ls
      | _ => .ok (.here, ls.tail)
    | .symbol ".." => .ok (.call "recurse" [] place, ls.tail)
    | .field name => .ok (lenient (.index .here (textLiteral name)) ls.tail)
    | .binding name => .ok (variableAt text name place, ls.tail)
    | .number d => .ok (.literal (.num (.ofDecimal d)), ls.tail)
    | .quote => quoted text fuel ls
    | .format name =>
      match peek ls.tail with
      | .quote => quoted text fuel ls
      | _ => .ok (.format name, ls.tail)
    | .symbol "(" => between do
      let (e, ls) ← query text fuel 0 ls.tail
      let ls ← expect (symbol ")") [] ls
      return (e, ls)
    | .symbol "[" =>
      match peek ls.tail with
      | .symbol "]" => .ok (.array none, ls.tail.tail)
      | _ => between do
        let (e, ls) ← query text fuel 0 ls.tail
        let ls ← expect (symbol "]") [] ls
        return (.array (some e), ls)
    | .symbol "\x7b" => between do
      let (entries, ls) ← members text fuel ls.tail
      return (.object entries, ls)
    | .keyword "if" => do
      let (e, ls) ← branches text fuel place.start ls.tail
      return (e, ls)
    | .keyword "reduce" => do
      let (source, ls) ← term text fuel ls.tail
      let ls ← expect (.keyword "as") [] ls
      let (patterns, ls) ← alternatives text fuel ls
      let ls ← expect (symbol "(") ["?//", "'('"] ls
      let (start, ls) ← query text fuel 0 ls
      let ls ← expect (symbol ";") [] ls
      let (update, ls) ← query text fuel 0 ls
      let ls ← expect (symbol ")") [] ls
      return (.reduce source patterns start update, ls)
    | .keyword "foreach" => do
      let (source, ls) ← term text fuel ls.tail
      let ls ← expect (.keyword "as") [] ls
      let (patterns, ls) ← alternatives text fuel ls
      let ls ← expect (symbol "(") ["?//", "'('"] ls
      let (start, ls) ← query text fuel 0 ls
      let ls ← expect (symbol ";") [] ls
      let (update, ls) ← query text fuel 0 ls
      match peek ls with
      | .symbol ";" =>
        let (extract, ls) ← query text fuel 0 ls.tail
        let ls ← expect (symbol ")") [] ls
        return (.foreach source patterns start update extract, ls)
      | _ =>
        let ls ← expect (symbol ")") [] ls
        return (.foreach source patterns start update .here, ls)
    | .keyword "break" =>
      match peek ls.tail with
      | .binding name =>
        .ok (.break name ⟨place.start, (next ls.tail).extent.stop⟩, ls.tail.tail)
      | _ => rejectWith ["BINDING"] ls.tail
    | .name name =>
      match peek ls.tail with
      | .symbol "(" => do
        let (args, ls) ← arguments text fuel ls.tail.tail
        return (.call name args place, ls)
      | _ =>
        match constant? name with
        | some v => .ok (.literal v, ls.tail)
        | none => .ok (.call name [] place, ls.tail)
    | _ => reject ls

/-- The branches behind an `if` or `elif`, up to the `end`. -/
def branches (text : String) : Nat → Nat → List Lexeme → Reading (Expr × List Lexeme)
  | 0, _, ls => reject ls
  | fuel + 1, start, ls => do
    let (condition, ls) ← query text fuel 0 ls
    let ls ← expect (.keyword "then") [] ls
    within "if" start do
      let (yes, ls) ← query text fuel 0 ls
      match peek ls with
      | .keyword "else" =>
        let (no, ls) ← query text fuel 0 ls.tail
        let ls ← expect (.keyword "end") [] ls
        return (.conditional condition yes no, ls)
      | .keyword "elif" =>
        let (no, ls) ← branches text fuel start ls.tail
        return (.conditional condition yes no, ls)
      | _ =>
        let ls ← expect (.keyword "end") [] ls
        return (.conditional condition yes .here, ls)

/-- The arguments up to the closing parenthesis. -/
def arguments (text : String) : Nat → List Lexeme → Reading (List Expr × List Lexeme)
  | 0, ls => reject ls
  | fuel + 1, ls => do
    let (e, ls) ← query text fuel 0 ls
    match peek ls with
    | .symbol ";" =>
      let (args, ls) ← arguments text fuel ls.tail
      return (e :: args, ls)
    | _ =>
      let ls ← expect (symbol ")") [] ls
      return ([e], ls)

/-- The members of an object up to the closing bracket. -/
def members (text : String) : Nat → List Lexeme → Reading (List (Expr × Expr) × List Lexeme)
  | 0, ls => reject ls
  | fuel + 1, ls =>
    match peek ls with
    | .symbol "\x7d" => .ok ([], ls.tail)
    | _ => do
      let (entry, ls) ← member text fuel ls
      match peek ls with
      | .symbol "," =>
        let (entries, ls) ← members text fuel ls.tail
        return (entry :: entries, ls)
      | _ =>
        let ls ← expect (symbol "\x7d") ["'\x7d'"] ls
        return ([entry], ls)

/-- A member of an object: its key, and its value or what stands at the key. -/
def member (text : String) : Nat → List Lexeme → Reading ((Expr × Expr) × List Lexeme)
  | 0, ls => reject ls
  | fuel + 1, ls => do
    let value := fun (key whole : Expr) (ls : List Lexeme) =>
      match peek ls with
      | .symbol ":" => do
        let (v, ls) ← memberValue text fuel ls.tail
        return ((key, v), ls)
      | _ => .ok ((key, whole), ls)
    match peek ls with
    | .binding name =>
      let v := variableAt text name (next ls).extent
      match peek ls.tail with
      | .symbol ":" => value v v ls.tail
      | _ => return ((textLiteral name, v), ls.tail)
    | .quote | .format _ =>
      let (key, ls) ← quoted text fuel ls
      value key (.index .here key false) ls
    | .symbol "(" =>
      let (key, ls) ← between do
        let (key, ls) ← query text fuel 0 ls.tail
        let ls ← expect (symbol ")") [] ls
        return (key, ls)
      let ls ← expect (symbol ":") ["':'"] ls
      let (v, ls) ← memberValue text fuel ls
      return ((key, v), ls)
    | t =>
      match keyName? t with
      | some name =>
        value (textLiteral name) (.index .here (textLiteral name) false) ls.tail
      | none => reject ls

/-- The value of a member: anything without a comma. -/
def memberValue (text : String) : Nat → List Lexeme → Reading (Expr × List Lexeme)
  | 0, ls => reject ls
  | fuel + 1, ls => do
    let (e, ls) ← query text fuel memberLevel ls
    match peek ls with
    | .symbol "|" =>
      let (second, ls) ← memberValue text fuel ls.tail
      return (.pipe e second, ls)
    | _ => return (e, ls)

/-- Patterns that are tried one after the other. -/
def alternatives (text : String) : Nat → List Lexeme → Reading (List Pattern × List Lexeme)
  | 0, ls => reject ls
  | fuel + 1, ls => do
    let (p, ls) ← pattern text fuel ls
    match peek ls with
    | .symbol "?//" =>
      let (ps, ls) ← alternatives text fuel ls.tail
      return (p :: ps, ls)
    | _ => return ([p], ls)

/-- A pattern. -/
def pattern (text : String) : Nat → List Lexeme → Reading (Pattern × List Lexeme)
  | 0, ls => reject ls
  | fuel + 1, ls =>
    match peek ls with
    | .binding name => .ok (.variable name, ls.tail)
    | .symbol "[" => do
      let (items, ls) ← patterns text fuel ls.tail
      return (.array items, ls)
    | .symbol "\x7b" => do
      let (entries, ls) ← patternMembers text fuel ls.tail
      return (.object entries, ls)
    | _ => rejectWith patternStarts ls

/-- Patterns up to the closing bracket. -/
def patterns (text : String) : Nat → List Lexeme → Reading (List Pattern × List Lexeme)
  | 0, ls => reject ls
  | fuel + 1, ls => do
    let (p, ls) ← pattern text fuel ls
    match peek ls with
    | .symbol "," =>
      let (ps, ls) ← patterns text fuel ls.tail
      return (p :: ps, ls)
    | _ =>
      let ls ← expect (symbol "]") ["','", "']'"] ls
      return ([p], ls)

/-- The members of a pattern up to the closing bracket. -/
def patternMembers (text : String) : Nat → List Lexeme →
    Reading (List (Expr × Option String × Option Pattern) × List Lexeme)
  | 0, ls => reject ls
  | fuel + 1, ls => do
    let (entry, ls) ← patternMember text fuel ls
    match peek ls with
    | .symbol "," =>
      let (entries, ls) ← patternMembers text fuel ls.tail
      return (entry :: entries, ls)
    | _ =>
      let ls ← expect (symbol "\x7d") ["','", "'\x7d'"] ls
      return ([entry], ls)

/-- A member of a pattern. -/
def patternMember (text : String) : Nat → List Lexeme →
    Reading ((Expr × Option String × Option Pattern) × List Lexeme)
  | 0, ls => reject ls
  | fuel + 1, ls => do
    match peek ls with
    | .binding name =>
      match peek ls.tail with
      | .symbol ":" =>
        let (p, ls) ← pattern text fuel ls.tail.tail
        return ((textLiteral name, some name, some p), ls)
      | _ => return ((textLiteral name, some name, none), ls.tail)
    | .quote | .format _ =>
      let (key, ls) ← quoted text fuel ls
      let ls ← expect (symbol ":") ["':'"] ls
      let (p, ls) ← pattern text fuel ls
      return ((key, none, some p), ls)
    | .symbol "(" =>
      let (key, ls) ← between do
        let (key, ls) ← query text fuel 0 ls.tail
        let ls ← expect (symbol ")") [] ls
        return (key, ls)
      let ls ← expect (symbol ":") ["':'"] ls
      let (p, ls) ← pattern text fuel ls
      return ((key, none, some p), ls)
    | t =>
      match keyName? t with
      | some name =>
        let ls ← expect (symbol ":") ["':'"] ls.tail
        let (p, ls) ← pattern text fuel ls
        return ((textLiteral name, none, some p), ls)
      | none => reject ls

end

/-- Whether a query can begin with the token. -/
def beginsQuery : Token → Bool
  | .name _ | .field _ | .binding _ | .number _ | .format _ | .quote => true
  | .symbol s => [".", "..", "(", "[", "\x7b", "-"].contains s
  | .keyword s => ["def", "if", "try", "reduce", "foreach", "label", "break"].contains s
  | _ => false

/-- A definition of a library, or of a text that goes on behind it. -/
structure Definition where
  name : String
  parameters : List Parameter
  body : Expr

/-- Definitions at the beginning of a text. -/
def definitions (text : String) : Nat → List Lexeme → Reading (List Definition × List Lexeme)
  | 0, ls => reject ls
  | fuel + 1, ls =>
    match peek ls with
    | .keyword "def" => do
      let ((name, parameters, body), ls) ← definition text fuel ls
      let (defs, ls) ← definitions text fuel ls
      return (⟨name, parameters, body⟩ :: defs, ls)
    | _ => .ok ([], ls)

/-- The whole of a text: definitions, and a query behind them unless there is none. -/
def program (text : String) : Reading (Option Expr) := do
  let ls := Lexeme.ofText text
  let fuel := 16 * (ls.length + 1)
  let (defs, ls) ← definitions text fuel ls
  let atEnd := fun (ls : List Lexeme) =>
    if peek ls = .finish then .ok () else rejectWith ["end of file"] ls
  if beginsQuery (peek ls) then
    let (e, ls) ← query text fuel 0 ls
    atEnd ls
    return some (defs.foldr (fun d rest => .define d.name d.parameters d.body rest) e)
  else
    atEnd ls
    return none

end Foldbook.Query.Grammar
