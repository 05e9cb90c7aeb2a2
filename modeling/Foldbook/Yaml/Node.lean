import Foldbook.Yaml.Token

/-!
# Nodes of a configuration text

The tree that the tokens of a text describe.  Every node has its full tag, if it is tagged; aliases
are replaced by the nodes they stand for.  A text holds at most one document.
-/

namespace Foldbook.Yaml

/-- A node with its tag. -/
inductive Node where
  /-- A scalar; an untagged plain one gets its tag from its text. -/
  | scalar (tag : Option String) (plain : Bool) (text : String)
  | sequence (tag : Option String) (items : List Node)
  | mapping (tag : Option String) (entries : List (Node × Node))
  deriving Inhabited, Repr

/-- Why a text describes no value. -/
inductive Fault where
  | malformed
  /-- A node that holds itself. -/
  | circular
  /-- A value of a kind that JSON does not have. -/
  | noJson (kind : String)
  /-- A key of a kind that has no name in JSON. -/
  | noJsonName (kind : String)
  deriving DecidableEq, Repr

/-- The words of a fault in the text from the given source. -/
def Fault.message (source : String) : Fault → String
  | .malformed => "invalid YAML in " ++ source
  | .circular => "Circular reference detected"
  | .noJson kind => "Object of type " ++ kind ++ " is not JSON serializable"
  | .noJsonName kind => "keys must be str, int, float, bool or None, not " ++ kind

namespace Node

/-- An empty node. -/
def empty : Node := .scalar none true ""

/-- What reading needs to know: the meaning of tag handles, and the nodes with anchors.  The node
of an anchor is missing as long as it is being read. -/
structure Context where
  handles : List (String × String) := []
  anchors : List (String × Option Node) := []

/-- What reading gives. -/
abbrev Reading := Except Fault

/-- Refuses a text. -/
def malformed {α : Type} : Reading α := .error .malformed

/-- The full tag of a mark.  A lone exclamation mark asks for the tag of the text or collection. -/
def fullTag (ctx : Context) (mark : TagMark) : Reading String :=
  match mark.handle with
  | none => .ok mark.suffix
  | some handle =>
    match ctx.handles.lookup handle with
    | some replacement => .ok (replacement ++ mark.suffix)
    | none => malformed

/-- Anchor and tag before a node, in either order. -/
def properties (ts : List Token) : Option String × Option TagMark × List Token :=
  match ts with
  | .anchor a :: .tag t :: ts | .tag t :: .anchor a :: ts => (some a, some t, ts)
  | .anchor a :: ts => (some a, none, ts)
  | .tag t :: ts => (none, some t, ts)
  | ts => (none, none, ts)

/-- Notes that an anchored node is being read. -/
def beginAnchor (ctx : Context) (name : Option String) : Reading Context :=
  match name with
  | none => .ok ctx
  | some name =>
    if (ctx.anchors.lookup name).isSome then malformed
    else .ok { ctx with anchors := (name, none) :: ctx.anchors }

/-- Keeps an anchored node that has been read. -/
def endAnchor (ctx : Context) (name : Option String) (node : Node) : Context :=
  match name with
  | none => ctx
  | some name => { ctx with anchors := (name, some node) :: ctx.anchors }

/-- Where a node stands, which decides on the collections it may be. -/
inductive Place where
  | flow
  | block
  /-- Behind the key of a block mapping, where a sequence need not be indented. -/
  | entry
  deriving DecidableEq

/-- Whether an item of a sequence that is not indented comes next. -/
def startsUnindented (place : Place) : List Token → Bool
  | .blockEntry :: _ => place == .entry
  | _ => false

/-- Whether the next token ends a part of a node, so that an empty node stands there. -/
def atEnd (ends : List Token) : List Token → Bool
  | t :: _ => ends.contains t
  | [] => true

mutual

/-- A node. -/
def read (fuel : Nat) (place : Place) (ts : List Token) (ctx : Context) :
    Reading (Node × List Token × Context) :=
  match fuel with
  | 0 => malformed
  | fuel + 1 =>
    match ts with
    | .alias name :: ts =>
      match ctx.anchors.lookup name with
      | some (some node) => .ok (node, ts, ctx)
      | some none => .error .circular
      | none => malformed
    | ts => do
      let (anchor, mark, ts) := properties ts
      let tag ← mark.mapM (fullTag ctx)
      let given := tag.filter (· ≠ "!")
      let ctx ← beginAnchor ctx anchor
      let finish := fun (node : Node) (ts : List Token) (ctx : Context) =>
        (node, ts, endAnchor ctx anchor node)
      if startsUnindented place ts then
        let (items, ts, ctx) ← unindented fuel ts ctx
        return finish (.sequence given items) ts ctx
      else
        match ts with
        | .scalar style text :: ts =>
          let plain := tag == some "!" || (tag.isNone && style == .plain)
          return finish (.scalar given plain text) ts ctx
        | .flowSequenceStart :: ts =>
          let (items, ts, ctx) ← flowItems fuel true ts ctx
          return finish (.sequence given items) ts ctx
        | .flowMappingStart :: ts =>
          let (entries, ts, ctx) ← flowEntries fuel true ts ctx
          return finish (.mapping given entries) ts ctx
        | .blockSequenceStart :: ts =>
          if place == .flow then malformed
          else
            let (items, ts, ctx) ← blockItems fuel ts ctx
            return finish (.sequence given items) ts ctx
        | .blockMappingStart :: ts =>
          if place == .flow then malformed
          else
            let (entries, ts, ctx) ← blockEntries fuel ts ctx
            return finish (.mapping given entries) ts ctx
        | ts =>
          if anchor.isSome || tag.isSome then
            return finish (.scalar given (tag.isNone || tag == some "!") "") ts ctx
          else malformed

/-- A node, or an empty one if one of the tokens comes next. -/
def readUnless (fuel : Nat) (ends : List Token) (place : Place) (ts : List Token)
    (ctx : Context) : Reading (Node × List Token × Context) :=
  match fuel with
  | 0 => malformed
  | fuel + 1 => if atEnd ends ts then .ok (empty, ts, ctx) else read fuel place ts ctx

/-- The items of a block sequence, up to its end. -/
def blockItems (fuel : Nat) (ts : List Token) (ctx : Context) :
    Reading (List Node × List Token × Context) :=
  match fuel with
  | 0 => malformed
  | fuel + 1 =>
    match ts with
    | .blockEntry :: ts => do
      let (item, ts, ctx) ← readUnless fuel [.blockEntry, .blockEnd] .block ts ctx
      let (items, ts, ctx) ← blockItems fuel ts ctx
      return (item :: items, ts, ctx)
    | .blockEnd :: ts => .ok ([], ts, ctx)
    | _ => malformed

/-- The items of a sequence that is not indented. -/
def unindented (fuel : Nat) (ts : List Token) (ctx : Context) :
    Reading (List Node × List Token × Context) :=
  match fuel with
  | 0 => malformed
  | fuel + 1 =>
    match ts with
    | .blockEntry :: ts => do
      let (item, ts, ctx) ← readUnless fuel [.blockEntry, .key, .value, .blockEnd] .block ts ctx
      let (items, ts, ctx) ← unindented fuel ts ctx
      return (item :: items, ts, ctx)
    | ts => .ok ([], ts, ctx)

/-- The entries of a block mapping, up to its end. -/
def blockEntries (fuel : Nat) (ts : List Token) (ctx : Context) :
    Reading (List (Node × Node) × List Token × Context) :=
  match fuel with
  | 0 => malformed
  | fuel + 1 =>
    match ts with
    | .key :: ts => do
      let (key, ts, ctx) ← readUnless fuel [.key, .value, .blockEnd] .entry ts ctx
      let (value, ts, ctx) ← match ts with
        | .value :: ts => readUnless fuel [.key, .value, .blockEnd] .entry ts ctx
        | ts => pure (empty, ts, ctx)
      let (entries, ts, ctx) ← blockEntries fuel ts ctx
      return ((key, value) :: entries, ts, ctx)
    | .blockEnd :: ts => .ok ([], ts, ctx)
    | _ => malformed

/-- The items of a flow sequence, up to its end.  An item may be a mapping with one entry. -/
def flowItems (fuel : Nat) (first : Bool) (ts : List Token) (ctx : Context) :
    Reading (List Node × List Token × Context) :=
  match fuel with
  | 0 => malformed
  | fuel + 1 =>
    match ts with
    | .flowSequenceEnd :: ts => .ok ([], ts, ctx)
    | ts => do
      let ts ← if first then pure ts else match ts with
        | .flowEntry :: ts => pure ts
        | _ => malformed
      match ts with
      | .flowSequenceEnd :: ts => return ([], ts, ctx)
      | .key :: ts =>
        let (key, ts, ctx) ← readUnless fuel [.value, .flowEntry, .flowSequenceEnd] .flow ts ctx
        let (value, ts, ctx) ← match ts with
          | .value :: ts => readUnless fuel [.flowEntry, .flowSequenceEnd] .flow ts ctx
          | ts => pure (empty, ts, ctx)
        let (items, ts, ctx) ← flowItems fuel false ts ctx
        return (.mapping none [(key, value)] :: items, ts, ctx)
      | ts =>
        let (item, ts, ctx) ← read fuel .flow ts ctx
        let (items, ts, ctx) ← flowItems fuel false ts ctx
        return (item :: items, ts, ctx)

/-- The entries of a flow mapping, up to its end.  An entry may be a key alone. -/
def flowEntries (fuel : Nat) (first : Bool) (ts : List Token) (ctx : Context) :
    Reading (List (Node × Node) × List Token × Context) :=
  match fuel with
  | 0 => malformed
  | fuel + 1 =>
    match ts with
    | .flowMappingEnd :: ts => .ok ([], ts, ctx)
    | ts => do
      let ts ← if first then pure ts else match ts with
        | .flowEntry :: ts => pure ts
        | _ => malformed
      match ts with
      | .flowMappingEnd :: ts => return ([], ts, ctx)
      | .key :: ts =>
        let (key, ts, ctx) ← readUnless fuel [.value, .flowEntry, .flowMappingEnd] .flow ts ctx
        let (value, ts, ctx) ← match ts with
          | .value :: ts => readUnless fuel [.flowEntry, .flowMappingEnd] .flow ts ctx
          | ts => pure (empty, ts, ctx)
        let (entries, ts, ctx) ← flowEntries fuel false ts ctx
        return ((key, value) :: entries, ts, ctx)
      | ts =>
        let (key, ts, ctx) ← read fuel .flow ts ctx
        let (entries, ts, ctx) ← flowEntries fuel false ts ctx
        return ((key, empty) :: entries, ts, ctx)

end

/-- The tag handles that are always known. -/
def usualHandles : List (String × String) := [("!", "!"), ("!!", "tag:yaml.org,2002:")]

/-- The directives before a document: at most one version, whose major number is one, and
shorthands for different handles. -/
def directives (versioned : Bool) (handles : List (String × String)) :
    List Token → Reading (List (String × String) × List Token)
  | .version major :: ts =>
    if versioned || major ≠ 1 then malformed else directives true handles ts
  | .tagShorthand handle replacement :: ts =>
    if (handles.lookup handle).isSome then malformed
    else directives versioned ((handle, replacement) :: handles) ts
  | .otherDirective :: ts => directives versioned handles ts
  | ts => .ok (handles, ts)

/-- Nothing but ends of documents. -/
def endsThere : List Token → Bool
  | .documentEnd :: ts => endsThere ts
  | [.finish] => true
  | _ => false

/-- The node of the only document that tokens describe, if there is one. -/
def document? (ts : List Token) : Reading (Option Node) := do
  let fuel := 4 * ts.length + 4
  let (ts, node) ← match ts with
    | [.finish] => pure (ts, none)
    | .version _ :: _ | .tagShorthand _ _ :: _ | .otherDirective :: _ | .documentStart :: _ => do
      let (handles, ts) ← directives false [] ts
      match ts with
      | .documentStart :: ts =>
        let ctx : Context := { handles := handles ++ usualHandles }
        match ts with
        | .version _ :: _ | .tagShorthand _ _ :: _ | .otherDirective :: _ | .documentStart :: _
        | .documentEnd :: _ | .finish :: _ => pure (ts, some empty)
        | ts =>
          let (node, ts, _) ← read fuel .block ts ctx
          pure (ts, some node)
      | _ => malformed
    | ts => do
      let (node, ts, _) ← read fuel .block ts { handles := usualHandles }
      pure (ts, some node)
  if endsThere ts then return node else malformed

/-- The node of the only document in a text, if there is one. -/
def ofText? (text : String) : Reading (Option Node) :=
  match Token.ofText? text with
  | none => malformed
  | some ts => document? ts

end Node

end Foldbook.Yaml
