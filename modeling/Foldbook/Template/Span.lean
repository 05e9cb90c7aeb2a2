import Foldbook.Text.Blank

/-!
# Selector spans

A span is a selector between `{{` and `}}`, without braces of its own.  `parts` cuts a text into
spans and the text between them, taking the leftmost span each time; joining the parts again gives
the text (`join_parts`).
-/

namespace Foldbook.Template

/-- A stretch of a template. -/
inductive Part where
  /-- A character that belongs to no span. -/
  | char (c : Char)
  /-- The selector of a span. -/
  | span (selector : List Char)
  deriving DecidableEq, Repr

/-- Characters that may stand in a selector. -/
def isSelectorChar (c : Char) : Bool := c != '\x7b' && c != '\x7d'

/-- The span at the head, and what follows it: two opening braces, at least one character that is
no brace, and two closing braces. -/
def spanAt? : List Char → Option (List Char × List Char)
  | '\x7b' :: '\x7b' :: cs =>
    match cs.dropWhile isSelectorChar with
    | '\x7d' :: '\x7d' :: rest =>
      if (cs.takeWhile isSelectorChar).isEmpty then none
      else some (cs.takeWhile isSelectorChar, rest)
    | _ => none
  | _ => none

theorem eq_of_spanAt? {cs selector rest : List Char} (h : spanAt? cs = some (selector, rest)) :
    cs = '\x7b' :: '\x7b' :: (selector ++ '\x7d' :: '\x7d' :: rest) := by
  unfold spanAt? at h
  split at h
  · rename_i tail
    split at h
    · rename_i behind heq
      split at h
      · cases h
      · cases h
        rw [← heq, List.takeWhile_append_dropWhile]
    · cases h
  · cases h

theorem length_of_spanAt? {cs selector rest : List Char} (h : spanAt? cs = some (selector, rest)) :
    rest.length < cs.length := by
  rw [eq_of_spanAt? h]
  simp only [List.length_cons, List.length_append]
  omega

/-- The spans of a text and the characters between them. -/
def parts (cs : List Char) : List Part :=
  match _h : spanAt? cs with
  | some (selector, rest) => .span selector :: parts rest
  | none =>
    match cs with
    | [] => []
    | c :: rest => .char c :: parts rest
termination_by cs.length
decreasing_by
  · exact length_of_spanAt? _h
  · simp

/-- The text of a part. -/
def Part.text : Part → List Char
  | .char c => [c]
  | .span selector => '\x7b' :: '\x7b' :: (selector ++ ['\x7d', '\x7d'])

/-- The text of a list of parts. -/
def join (ps : List Part) : List Char := ps.flatMap Part.text

/-- No character is lost or added by cutting a text into parts. -/
theorem join_parts (cs : List Char) : join (parts cs) = cs := by
  fun_induction parts cs with
  | case1 cs selector rest h ih =>
    rw [join, List.flatMap_cons, ← join, ih, eq_of_spanAt? h]
    simp [Part.text]
  | case2 => rfl
  | case3 c rest h ih =>
    rw [join, List.flatMap_cons, ← join, ih]
    rfl

/-- The selectors of the spans, in order. -/
def selectors (ps : List Part) : List (List Char) :=
  ps.filterMap fun
    | .char _ => none
    | .span selector => some selector

/-- Whether a text holds a span. -/
def hasSpan (cs : List Char) : Bool := !(selectors (parts cs)).isEmpty

end Foldbook.Template
