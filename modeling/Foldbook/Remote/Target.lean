import Foldbook.Failure
import Foldbook.Text.Blank
import Foldbook.Text.Digit
import Foldbook.Text.Lines

/-!
# Remote hosts

Where commands run when the environment names a remote host: its destination, and optionally a
configuration file, a key file and a port.
-/

namespace Foldbook

open Text

/-- A remote host as the environment describes it. -/
structure Target where
  destination : String
  configFile : Option String := none
  keyFile : Option String := none
  port : Option Int := none
  deriving DecidableEq, Repr

namespace Target

/-- Digits of any script, with single low lines allowed between them. -/
def digitsValue? (n : Nat) : List Char → Option Nat
  | [] => some n
  | '_' :: c :: cs => do
    let d ← digitValue? c
    digitsValue? (n * 10 + d) cs
  | c :: cs => do
    let d ← digitValue? c
    digitsValue? (n * 10 + d) cs

/-- A whole number without sign, which begins with a digit and has at most the digits that can be
read. -/
def naturalOf? : List Char → Option Nat
  | [] => none
  | c :: cs => do
    let d ← digitValue? c
    if (c :: cs).countP (· != '_') > Json.digitLimit then none else digitsValue? d cs

/-- A blank that may stand around a number: all but the four separators U+001C to U+001F. -/
def isMargin (c : Char) : Bool := isBlank c && !(0x1C ≤ c.toNat && c.toNat ≤ 0x1F)

/-- The characters without margins. -/
def dropMargins (cs : List Char) : List Char :=
  ((cs.dropWhile isMargin).reverse.dropWhile isMargin).reverse

/-- A whole number in a text: an optional sign and digits, with margins around them. -/
def integerOf? (s : String) : Option Int :=
  match dropMargins s.toList with
  | '-' :: cs => (naturalOf? cs).map fun n => -(n : Int)
  | '+' :: cs => (naturalOf? cs).map fun n => (n : Int)
  | cs => (naturalOf? cs).map fun n => (n : Int)

/-- A setting that has to be a text if it is there. -/
def textSetting (name : String) (settings : List (String × Json)) :
    Except TransportCause (Option String) :=
  match settings.lookup name with
  | none => .ok none
  | some (.str s) => .ok (some s)
  | some _ => .error (.settingNotText name)

/-- The port, as a number or as the text of one. -/
def portSetting (settings : List (String × Json)) : Except TransportCause (Option Int) :=
  match settings.lookup "sshPort" with
  | none | some .null => .ok none
  | some (.int n) => .ok (some n)
  | some (.str s) =>
    match integerOf? s with
    | some n => .ok (some n)
    | none => .error .portNotNumber
  | some _ => .error .portNotNumber

/-- The host that the settings describe, if they name a destination. -/
def ofSettings (settings : List (String × Json)) : Except TransportCause (Option Target) := do
  match ← textSetting "sshTo" settings with
  | none => return none
  | some destination =>
    let configFile ← textSetting "sshConfig" settings
    let keyFile ← textSetting "sshKey" settings
    let port ← portSetting settings
    return some { destination, configFile, keyFile, port }

/-- A path whose leading `~` stands for the home directory.  The home of another user is unknown,
so `~name` stays. -/
def expandHome (home : String) (path : String) : String :=
  match path.toList with
  | '~' :: rest =>
    if rest.isEmpty || rest.head? == some '/' then
      let home := (home.toList.reverse.dropWhile (· == '/')).reverse
      let whole := home ++ rest
      if whole.isEmpty then "/" else String.ofList whole
    else path
  | _ => path

/-- Whether a path can be written out.  Looking up the home of a user breaks if the name has a
null character. -/
def expandable (path : String) : Bool :=
  match path.toList with
  | '~' :: rest => !(rest.takeWhile (· != '/')).contains '\x00'
  | _ => true

/-- An option with its value, unless the value is empty. -/
def fileOption (flag : String) (home : String) : Option String → List String
  | none => []
  | some path => if path.isEmpty then [] else [flag, expandHome home path]

/-- Whether the paths of the host's files can be written out. -/
def expands (t : Target) : Bool :=
  t.configFile.all expandable && t.keyFile.all expandable

/-- The arguments that describe the host to the remote shell program. -/
def connectOptions (t : Target) (home : String) : List String :=
  fileOption "-F" home t.configFile ++ fileOption "-i" home t.keyFile ++
    match t.port with
    | none => []
    | some port => ["-p", String.ofList (Decimal.intDigits port)]

end Target

end Foldbook
