import Foldbook.Query.Function
import Foldbook.Query.Library
import Foldbook.Query.Outputs
import Foldbook.Query.Scope

/-!
# Evaluating queries

A query is evaluated at a focus: a value, and, where paths are asked for, the path that leads to
it.  Every construct of the language is a function over the evaluation of its parts (`Run`);
`step` picks the one for a query, and `eval` ties the knot with a bound on nesting.
-/

namespace Foldbook.Query

/-- What is known of the way to a value. -/
inductive Trail where
  /-- Nobody asks for it. -/
  | off
  /-- The keys that lead to the value, last first. -/
  | along (keys : List Value)
  /-- The value does not stand anywhere in the input. -/
  | lost

/-- A value and the way to it. -/
structure Focus where
  value : Value
  trail : Trail

namespace Focus

/-- A value whose place is of no interest. -/
def plain (v : Value) : Focus := ⟨v, .off⟩

/-- A value that is computed at a focus, and so has no place of its own. -/
def derived (f : Focus) (v : Value) : Focus :=
  match f.trail with
  | .off => ⟨v, .off⟩
  | _ => ⟨v, .lost⟩

/-- The value at a key, reached from the focus. -/
def reach (f : Focus) (key v : Value) : Focus :=
  match f.trail with
  | .along keys => ⟨v, .along (key :: keys)⟩
  | trail => ⟨v, trail⟩

/-- The value at the end of a path. -/
def follow (f : Focus) (path : List Value) (v : Value) : Focus :=
  path.foldl (fun f key => f.reach key v) ⟨v, f.trail⟩

/-- Whether a value has left the places of the document. -/
def isLost (f : Focus) : Bool :=
  match f.trail with
  | .lost => true
  | _ => false

/-- What stands at a key. -/
def access (lenient : Bool) (f : Focus) (key : Value) : Outputs Focus :=
  if f.isLost then .fail (.noPathAt key f.value)
  else
    match f.value.get key with
    | .ok v => .one (f.reach key v)
    | .error e => if lenient then .none else .fail e

/-- All items or member values. -/
def items (lenient : Bool) (f : Focus) : Outputs Focus :=
  if f.isLost then .fail (.noPathThrough f.value)
  else
    match f.value with
    | .arr vs => .ofList (vs.zipIdx.map fun (v, i) => f.reach (.num (.ofNat i)) v)
    | .obj ms => .ofList (ms.map fun (k, v) => f.reach (.str k) v)
    | v => if lenient then .none else .fail (.cannotIterate v)

end Focus

/-! ## Environments -/

/-- What names stand for, innermost first. -/
inductive Env where
  /-- The outermost: only the variables of the process are known. -/
  | outermost (process : Value)
  | value (name : String) (v : Value) (outer : Env)
  /-- A parameter: a query with the names of the place it was written at. -/
  | closure (name : String) (body : Expr) (scope : Env) (outer : Env)
  | function (name : String) (parameters : List Parameter) (body : Expr) (outer : Env)
  | label (name : String) (number : Nat) (outer : Env)

/-- What a function name stands for. -/
inductive Callee where
  | closure (body : Expr) (scope : Env)
  | function (parameters : List Parameter) (body : Expr) (scope : Env)

namespace Env

/-- The variable that holds the variables of the process. -/
def processVariable : String := "ENV"

/-- The value of a variable. -/
def lookupVariable? (name : String) : Env → Option Value
  | .outermost process => if name = processVariable then some process else none
  | .value n v outer => if n = name then some v else outer.lookupVariable? name
  | .closure _ _ _ outer | .function _ _ _ outer | .label _ _ outer => outer.lookupVariable? name

/-- The number of a label. -/
def label? (name : String) : Env → Option Nat
  | .outermost _ => none
  | .label n number outer => if n = name then some number else outer.label? name
  | .value _ _ outer | .closure _ _ _ outer | .function _ _ _ outer => outer.label? name

/-- The environment outside of all definitions. -/
def base : Env → Env
  | .outermost process => .outermost process
  | .value _ _ outer | .label _ _ outer | .closure _ _ _ outer | .function _ _ _ outer => outer.base

/-- The function of a name and number of arguments that the environment defines. -/
def callee? (name : String) (arity : Nat) : Env → Option Callee
  | .outermost _ => none
  | .closure n body scope outer =>
    if n = name && arity == 0 then some (.closure body scope) else outer.callee? name arity
  | .function n params body outer =>
    if n = name && params.length == arity then
      some (.function params body (.function n params body outer))
    else outer.callee? name arity
  | .value _ _ outer | .label _ _ outer => outer.callee? name arity

end Env

/-! ## Constructs -/

/-- The evaluation of the parts of a query. -/
abbrev Run := Env → Expr → Focus → Outputs Focus

namespace Run

variable (run : Run) (env : Env)

/-- The values of a part, wherever they stand. -/
def values (e : Expr) (v : Value) : Outputs Value :=
  (run env e (.plain v)).map Focus.value

/-- The values of a part that need not be there. -/
def optionalValues (e : Option Expr) (v : Value) : Outputs Value :=
  match e with
  | none => .one .null
  | some e => values run env e v

/-- The paths of a part. -/
def paths (e : Expr) (v : Value) : Outputs (List Value) :=
  (run env e ⟨v, .along []⟩).bind fun f =>
    match f.trail with
    | .along keys => .one keys.reverse
    | _ => .fail (.noPath f.value)

/-- The texts of holes and of what is behind them; the last hole changes slowest. -/
def holeTexts (format : String) (v : Value) : List (Expr × String) → Outputs String
  | [] => .one ""
  | (e, text) :: rest =>
    (holeTexts format v rest).bind fun later =>
      (values run env e v).bind fun x =>
        (Outputs.ofExcept (Format.apply format x)).map fun s => s ++ text ++ later

/-- The objects that entries build; the first entry changes slowest. -/
def objects (v : Value) (built : List (String × Value)) : List (Expr × Expr) → Outputs Value
  | [] => .one (.obj built)
  | (key, value) :: rest =>
    (values run env key v).bind fun k =>
      (values run env value v).bind fun x =>
        match k with
        | .str name => objects v (Value.insert name x built) rest
        | k => .fail (.notAKey k)

/-- An operator on two parts; the left one changes fastest. -/
def binary (o : Operator) (left right : Expr) (v : Value) : Outputs Value :=
  (values run env right v).bind fun b =>
    (values run env left v).bind fun a => .ofExcept (o.apply a b)

/-- The right part decides where the left one does not: `decided` is the truth that settles it. -/
def logical (decided : Bool) (left right : Expr) (v : Value) : Outputs Value :=
  (values run env left v).bind fun a =>
    if a.isTrue = decided then .one (.bool decided)
    else (values run env right v).map fun b => .bool b.isTrue

/-- The true outputs; if there are none, other outputs. -/
def orElse (second : Unit → Outputs Focus) (found : Bool) : Outputs Focus → Outputs Focus
  | .ended .finished => if found then .none else second ()
  | .ended e => .ended e
  | .more f rest =>
    if f.value.isTrue then .more f fun _ => orElse second true (rest ())
    else orElse second found (rest ())

/-- The outputs up to a fault, and then what the handler makes of the fault. -/
def attempt (handler : Option Expr) (f : Focus) (outputs : Outputs Focus) : Outputs Focus :=
  outputs.onEnd fun
    | .failed .outOfFuel => .ended (.failed .outOfFuel)
    | .failed fault =>
      match handler with
      | none => .none
      | some handler => run env handler (f.derived fault.toValue)
    | e => .ended e

/-! ### Taking values apart -/

mutual

/-- The environments that a pattern gives a value. -/
def destructure : Pattern → Value → Env → Outputs Env
  | .variable name, v, env => .one (.value name v env)
  | .array items, v, env => destructureItems items 0 v env
  | .object entries, v, env => destructureEntries entries v env

/-- Binds the patterns to the items from the given one on. -/
def destructureItems : List Pattern → Nat → Value → Env → Outputs Env
  | [], _, _, env => .one env
  | p :: ps, i, v, env =>
    (Outputs.ofExcept (v.get (.num (.ofNat i)))).bind fun x =>
      (destructure p x env).bind fun env => destructureItems ps (i + 1) v env

/-- Binds the patterns to the members that the keys name. -/
def destructureEntries : List (Expr × Option String × Option Pattern) → Value → Env → Outputs Env
  | [], _, env => .one env
  | (key, name, none) :: rest, v, env =>
    (values run env key v).bind fun k =>
      (Outputs.ofExcept (v.get k)).bind fun x =>
        destructureEntries rest v (name.elim env fun n => .value n x env)
  | (key, name, some p) :: rest, v, env =>
    (values run env key v).bind fun k =>
      (Outputs.ofExcept (v.get k)).bind fun x =>
        (destructure p x (name.elim env fun n => .value n x env)).bind fun env =>
          destructureEntries rest v env

end

/-- The environment in which the variables of several patterns are null until one fits. -/
def unset (patterns : List Pattern) (env : Env) : Env :=
  match patterns with
  | [_] => env
  | patterns =>
    (itemVariables patterns).foldl (fun env n =>
      match n with
      | .variable name => .value name .null env
      | _ => env) env

/-- What a body makes of a value taken apart by the first pattern, and after a fault by the next
one. -/
def boundBy {α : Type} (body : Env → Outputs α) (v : Value) (env : Env) :
    List Pattern → Outputs α
  | [] => .none
  | [p] => (destructure run p v env).bind body
  | p :: rest =>
    ((destructure run p v env).bind body).onEnd fun
      | .failed .outOfFuel => .ended (.failed .outOfFuel)
      | .failed _ => boundBy body v env rest
      | e => .ended e

/-- What a body makes of a value taken apart by one of the patterns. -/
def bound {α : Type} (body : Env → Outputs α) (patterns : List Pattern) (v : Value) :
    Outputs α :=
  boundBy run body v (unset patterns env) patterns

/-- The environments of a `reduce` or `foreach`, one for every value taken apart. -/
def rounds (source : Expr) (patterns : List Pattern) (v : Value) : Outputs Env :=
  (values run env source v).bind fun x => bound run env .one patterns x

/-! ### Loops -/

/-- The states that the source leads the start to, each update giving its last output. -/
def reduce (source : Expr) (patterns : List Pattern) (start update : Expr) (f : Focus) :
    Outputs Focus :=
  (run env start f).bind fun s =>
    match (rounds run env source patterns f.value).fold (fun s env =>
        (run env update s).last?.map fun last => last.getD (f.derived .null)) s with
    | .ok s => .one s
    | .error e => .ended e

/-- Like `reduce`, but with an extract of every state on the way. -/
def foreach (source : Expr) (patterns : List Pattern) (start update extract : Expr) (f : Focus) :
    Outputs Focus :=
  (run env start f).bind fun s =>
    Outputs.scan (fun s env => run env update s) (fun env s => run env extract s)
      (f.derived .null) (rounds run env source patterns f.value) s

/-! ### Assignments -/

/-- The value with one value written at all places of a target. -/
def assign (target : Expr) (v x : Value) : Outputs Value :=
  match (paths run env target v).fold (fun v path =>
      (v.setPath path x).mapError .failed) v with
  | .ok v => .one v
  | .error e => .ended e

/-- The value with the places of a target changed to the first output there; a place without an
output is removed. -/
def modify (target : Expr) (change : Value → Outputs Value) (v : Value) : Outputs Value :=
  let changed := (paths run env target v).fold (fun (v, removed) path =>
    match v.getPath path with
    | .error f => .error (.failed f)
    | .ok x =>
      match change x with
      | .more y _ => ((v.setPath path y).mapError .failed).map fun v => (v, removed)
      | .ended .finished => .ok (v, .arr path :: removed)
      | .ended e => .error e) (v, ([] : List Value))
  match changed with
  | .ok (v, removed) => .ofExcept (v.removePaths removed)
  | .error e => .ended e

/-! ### Calls -/

/-- The environments in which a function's parameters stand for the arguments, which belong to the
environment `env` and, where their values are passed, see the input `v`. -/
def enter (v : Value) : List (Parameter × Expr) → Env → Outputs Env
  | [], inner => .one inner
  | (p, arg) :: rest, inner =>
    if p.byValue then
      (values run env arg v).bind fun x =>
        enter v rest (.value p.name x (.closure p.name (.literal x) env inner))
    else enter v rest (.closure p.name arg env inner)

/-- The values of all arguments; the last changes slowest. -/
def argumentValues (v : Value) : List Expr → Outputs (List Value)
  | [] => .one []
  | e :: es =>
    (argumentValues v es).bind fun rest => (values run env e v).map fun x => x :: rest

/-- The numbers from `x` on that are `inside`, at most `count` of them. -/
def numbersFrom (inside : Float → Bool) (stride : Float) : Nat → Float → Outputs Value
  | 0, _ => .none
  | count + 1, x =>
    if inside x then .more (Value.ofFloat x) fun _ => numbersFrom inside stride count (x + stride)
    else .none

/-- The numbers from one value up or down to another. -/
def range (start finish stride : Value) : Outputs Value :=
  match start, finish, stride with
  | .num a, .num b, .num d =>
    let inside := fun (x : Float) => if d.value > 0.0 then x < b.value else x > b.value
    if d.value == 0.0 || d.value.isNaN then .none
    else
      let count := Number.truncate (((b.value - a.value) / d.value).ceil) + 2
      numbersFrom inside d.value count.toNat a.value
  | _, _, _ => .fail (.demand .rangeBounds)

/-- Whether a value asks for outputs at all: it must not be below zero in the order of values. -/
def isCount (operation : String) (v : Value) : Except Fault Bool :=
  match v.compare (.ofInt 0) with
  | .gt => .ok true
  | .eq => .ok false
  | .lt => .error (.demand (.negativeCount operation))

/-- As many outputs as a value says; a value above all numbers asks for all of them. -/
def limit (operation : String) (count : Value) (outputs : Outputs Focus) : Outputs Focus :=
  (Outputs.ofExcept (isCount operation count)).bind fun
    | false => .none
    | true =>
      match count with
      | .num n => outputs.take (Number.truncate n.value.ceil).toNat
      | _ => outputs

/-- The outputs behind as many as a value says. -/
def skip (operation : String) (count : Value) (outputs : Outputs Focus) : Outputs Focus :=
  (Outputs.ofExcept (isCount operation count)).bind fun
    | false => outputs
    | true =>
      match count with
      | .num n => outputs.drop (Number.truncate n.value).toNat
      | v => outputs.bind fun _ => .fail (.mismatch v (.ofInt 1) .difference)

/-- Functions that treat an argument as a query, by name. -/
def form? (name : String) (args : List Expr) (f : Focus) : Option (Outputs Focus) :=
  let value := fun (o : Outputs Value) => o.map f.derived
  match name, args with
  | "empty", [] => some .none
  | "path", [e] => some (value ((paths run env e f.value).map .arr))
  | "getpath", [e] => some <|
    (values run env e f.value).bind fun
      | .arr keys =>
        if f.isLost then .fail (.noPathAt (.arr keys) f.value)
        else (Outputs.ofExcept (f.value.getPath keys)).map (f.follow keys)
      | _ => .fail (.demand .pathArray)
  | "first", [e] => some ((run env e f).take 1)
  | "last", [e] => some <|
    match (run env e f).last? with
    | .ok (some last) => .one last
    | .ok none => .none
    | .error e => .ended e
  | "limit", [n, e] => some <|
    (values run env n f.value).bind fun n => limit name n (run env e f)
  | "skip", [n, e] => some <|
    (values run env n f.value).bind fun n => skip name n (run env e f)
  | "range", [finish] => some <| value <|
    (values run env finish f.value).bind fun b => range (.ofInt 0) b (.ofInt 1)
  | "range", [start, finish] => some <| value <|
    (values run env start f.value).bind fun a =>
      (values run env finish f.value).bind fun b => range a b (.ofInt 1)
  | "range", [start, finish, stride] => some <| value <|
    (values run env start f.value).bind fun a =>
      (values run env finish f.value).bind fun b =>
        (values run env stride f.value).bind fun d => range a b d
  | name, [e] =>
    (Function.keyed? name).map fun keyed => value <|
      match f.value.items? with
      | none => .fail (.cannotIterate f.value)
      | some items =>
        let pairs := items.mapM fun x =>
          ((values run env e x).collect).map fun keys => (Value.arr keys, x)
        match pairs with
        | .ok pairs => .ofExcept (keyed.applyTo f.value pairs)
        | .error e => .ended e
  | _, _ => none

/-- The names and numbers of arguments that `form?` knows. -/
def isForm (name : String) (arity : Nat) : Bool :=
  [("empty", 0), ("path", 1), ("getpath", 1), ("first", 1), ("last", 1), ("limit", 2),
    ("skip", 2), ("range", 1), ("range", 2), ("range", 3)].contains (name, arity) ||
  (arity == 1 && (Function.keyed? name).isSome)

/-- Calls a function: one that the environment defines, one of the library, or one on values. -/
def call (name : String) (args : List Expr) (f : Focus) : Outputs Focus :=
  let enterWith := fun (params : List Parameter) (body : Expr) (scope : Env) =>
    (enter run env f.value (params.zip args) scope).bind fun inner => run inner body f
  match env.callee? name args.length with
  | some (.closure body scope) => run scope body f
  | some (.function params body scope) => enterWith params body scope
  | none =>
    match findInLibrary? name args.length with
    | some d => enterWith d.parameters d.body env.base
    | none =>
      match form? run env name args f with
      | some outputs => outputs
      | none =>
        match Function.find? name args.length with
        | some g =>
          (argumentValues run env f.value args).bind fun xs =>
            (Outputs.ofExcept (g f.value xs)).map f.derived
        | none => .none

end Run

/-! ## All queries -/

/-- Evaluates a query over the evaluation of its parts.  `number` is a number for a label that no
label around it has. -/
def step (number : Nat) (run : Run) (env : Env) (e : Expr) (f : Focus) : Outputs Focus :=
  let value := fun (o : Outputs Value) => o.map f.derived
  match e with
  | .here => .one f
  | .literal v => .one (f.derived v)
  | .template format start holes =>
    value ((run.holeTexts env format f.value holes).map fun s => .str (start ++ s))
  | .format name => value ((Outputs.ofExcept (Format.apply name f.value)).map .str)
  | .variable name _ => value (.ofList (env.lookupVariable? name).toList)
  | .call name args _ => run.call env name args f
  | .index target key lenient =>
    (run.values env key f.value).bind fun k =>
      (run env target f).bind fun g => g.access lenient k
  | .slice target start finish lenient =>
    (run.optionalValues env finish f.value).bind fun b =>
      (run.optionalValues env start f.value).bind fun a =>
        (run env target f).bind fun g => g.access lenient (Value.sliceKey a b)
  | .each target lenient => (run env target f).bind fun g => g.items lenient
  | .attempt body handler => run.attempt env handler f (run env body f)
  | .pipe a b => (run env a f).bind fun g => run env b g
  | .comma a b => (run env a f).append fun _ => run env b f
  | .negate body => value ((run.values env body f.value).bind fun v => .ofExcept v.negate)
  | .binary o a b => value (run.binary env o a b f.value)
  | .and a b => value (run.logical env false a b f.value)
  | .or a b => value (run.logical env true a b f.value)
  | .alternative a b => Run.orElse (fun _ => run env b f) false (run env a f)
  | .assign target x =>
    value ((run.values env x f.value).bind fun x => run.assign env target f.value x)
  | .update target change =>
    value (run.modify env target (fun v => run.values env change v) f.value)
  | .updateWith o target x =>
    value ((run.values env x f.value).bind fun x =>
      run.modify env target (fun v => .ofExcept (o.apply v x)) f.value)
  | .updateAlternative target x =>
    value ((run.values env x f.value).bind fun x =>
      run.modify env target (fun v => .one (if v.isTrue then v else x)) f.value)
  | .array none => .one (f.derived (.arr []))
  | .array (some body) =>
    match (run.values env body f.value).collect with
    | .ok items => .one (f.derived (.arr items))
    | .error e => .ended e
  | .object entries => value (run.objects env f.value [] entries)
  | .conditional c yes no =>
    (run.values env c f.value).bind fun v => run env (if v.isTrue then yes else no) f
  | .bind source patterns body =>
    (run.values env source f.value).bind fun x =>
      run.bound env (fun env => run env body f) patterns x
  | .reduce source patterns start update => run.reduce env source patterns start update f
  | .foreach source patterns start update extract =>
    run.foreach env source patterns start update extract f
  | .define name params body rest => run (.function name params body env) rest f
  | .label name body =>
    (run (.label name number env) body f).onEnd fun
      | .stopped n => if n = number then .none else .ended (.stopped n)
      | e => .ended e
  | .break name _ =>
    match env.label? name with
    | some n => .ended (.stopped n)
    | none => .none

/-- Evaluates a query nested at most `fuel` deep. -/
def eval : Nat → Run
  | 0 => fun _ _ _ => .fail .outOfFuel
  | fuel + 1 => step fuel (eval fuel)

end Foldbook.Query
