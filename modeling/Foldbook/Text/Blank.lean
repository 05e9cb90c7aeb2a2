/-!
# Blank characters

White space in the wide sense: the ASCII blanks, the four information separators, and the space
separators of Unicode.  Lines lose their blanks on the right before anything reads them
(`trimEnd`), and several line forms allow a run of blanks (`afterBlanks`).
-/

namespace Foldbook.Text

/-- White space, including U+001C to U+001F, U+0085 and the Unicode space separators. -/
def isBlank (c : Char) : Bool :=
  let n := c.toNat
  (9 ≤ n && n ≤ 13) || (28 ≤ n && n ≤ 32) || n == 0x85 || n == 0xA0 || n == 0x1680 ||
    (0x2000 ≤ n && n ≤ 0x200A) || n == 0x2028 || n == 0x2029 || n == 0x202F || n == 0x205F ||
    n == 0x3000

/-- The characters without the blanks at their end. -/
def dropBlanksEnd : List Char → List Char
  | [] => []
  | c :: cs =>
    match dropBlanksEnd cs with
    | [] => if isBlank c then [] else [c]
    | kept => c :: kept

/-- The text without the blanks at its end. -/
def trimEnd (s : String) : String :=
  String.ofList (dropBlanksEnd s.toList)

/-- The text without the blanks at either end. -/
def trim (s : String) : String :=
  String.ofList (dropBlanksEnd (s.toList.dropWhile isBlank))

/-- Skips a run of blanks, possibly empty, and reads `next` behind it.  Where `next` fails behind
the whole run, shorter runs are tried, longest first. -/
def afterBlanks {α : Type} (next : List Char → Option α) : List Char → Option α
  | [] => next []
  | c :: cs =>
    if isBlank c then (afterBlanks next cs).or (next (c :: cs)) else next (c :: cs)

/-- Like `afterBlanks`, for a run of at least one blank. -/
def afterSomeBlanks {α : Type} (next : List Char → Option α) : List Char → Option α
  | [] => none
  | c :: cs => if isBlank c then afterBlanks next cs else none

/-- The maximal pieces without blanks, in order. -/
def blankSeparated (s : String) : List String :=
  let rec go (word : List Char) : List Char → List String
    | [] => if word.isEmpty then [] else [String.ofList word.reverse]
    | c :: cs =>
      if isBlank c then
        if word.isEmpty then go [] cs else String.ofList word.reverse :: go [] cs
      else go (c :: word) cs
  go [] s.toList

/-! ## Facts about trimming -/

@[simp] theorem dropBlanksEnd_nil : dropBlanksEnd [] = [] := rfl

theorem dropBlanksEnd_cons (c : Char) (cs : List Char) :
    dropBlanksEnd (c :: cs) =
      if dropBlanksEnd cs = [] then (if isBlank c then [] else [c]) else c :: dropBlanksEnd cs := by
  rw [dropBlanksEnd]
  split <;> simp_all

theorem dropBlanksEnd_idem (cs : List Char) :
    dropBlanksEnd (dropBlanksEnd cs) = dropBlanksEnd cs := by
  induction cs with
  | nil => rfl
  | cons c cs ih =>
    rw [dropBlanksEnd_cons]
    by_cases h : dropBlanksEnd cs = []
    · by_cases hc : isBlank c = true <;> simp [h, hc, dropBlanksEnd_cons]
    · simp [h, dropBlanksEnd_cons, ih]

@[simp] theorem trimEnd_idem (s : String) : trimEnd (trimEnd s) = trimEnd s := by
  simp [trimEnd, dropBlanksEnd_idem]

end Foldbook.Text
