/-!
# Shell words

Writing arguments so that a POSIX shell reads them back unchanged (`Shell.command`), and reading
a command line into words by the quoting rules (`Shell.words?`).  An argument made of safe
characters stands as it is; any other is put between single quotes, and a single quote inside it
becomes `'"'"'`.
-/

namespace Foldbook.Text.Shell

/-- Characters that no shell gives a meaning to: letters, digits and a few marks of ASCII. -/
def isSafe (c : Char) : Bool :=
  c.isAlphanum || "_@%+=:,./-".toList.contains c

/-- The body of a single-quoted word. -/
def quoteBody : List Char → List Char
  | [] => []
  | '\'' :: cs => '\'' :: '"' :: '\'' :: '"' :: '\'' :: quoteBody cs
  | c :: cs => c :: quoteBody cs

/-- One argument as a shell word. -/
def quote (arg : List Char) : List Char :=
  if arg.isEmpty then ['\'', '\'']
  else if arg.all isSafe then arg
  else '\'' :: (quoteBody arg ++ ['\''])

/-- The arguments as one command line, separated by single spaces. -/
def commandChars : List (List Char) → List Char
  | [] => []
  | [arg] => quote arg
  | arg :: rest => quote arg ++ ' ' :: commandChars rest

/-- The arguments as one command line. -/
def command (args : List String) : String :=
  String.ofList (commandChars (args.map String.toList))

/-! ## Reading a command line -/

/-- Where the reader of a command line stands. -/
inductive Mode where
  /-- Between words. -/
  | between
  /-- In an unquoted stretch of a word. -/
  | plain
  /-- Between single quotes. -/
  | single
  /-- Between double quotes. -/
  | double
  deriving DecidableEq, Repr

/-- Unquoted characters that are not literal: they separate commands, redirect, expand, match file
names or begin a comment. -/
def isMeta (c : Char) : Bool :=
  "|&;<>()$\x60\\\"'*?[]#~!\x7b\x7d\n\t ".toList.contains c

/-- Characters that keep a meaning between double quotes. -/
def isDoubleMeta (c : Char) : Bool :=
  c == '$' || c == '\x60' || c == '\\' || c == '!'

/-- Reads words of literal characters.  Any unquoted character with a meaning of its own, and any
expansion between double quotes, makes the reading fail, so a result contains literal text only.
`word` holds the characters of the current word, last first. -/
def scan (mode : Mode) (word : List Char) : List Char → Option (List (List Char))
  | [] =>
    match mode with
    | .between => some []
    | .plain => some [word.reverse]
    | .single | .double => none
  | c :: cs =>
    match mode with
    | .between =>
      if c = ' ' then scan .between [] cs
      else if c = '\'' then scan .single [] cs
      else if c = '"' then scan .double [] cs
      else if isMeta c then none
      else scan .plain [c] cs
    | .plain =>
      if c = ' ' then (scan .between [] cs).map (word.reverse :: ·)
      else if c = '\'' then scan .single word cs
      else if c = '"' then scan .double word cs
      else if isMeta c then none
      else scan .plain (c :: word) cs
    | .single => if c = '\'' then scan .plain word cs else scan .single (c :: word) cs
    | .double =>
      if c = '"' then scan .plain word cs
      else if isDoubleMeta c then none
      else scan .double (c :: word) cs

/-- The words of a command line, if it holds literal text only. -/
def words? (line : String) : Option (List String) :=
  (scan .between [] line.toList).map (·.map String.ofList)

end Foldbook.Text.Shell
