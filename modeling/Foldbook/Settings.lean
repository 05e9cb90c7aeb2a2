import Foldbook.Disk
import Foldbook.Yaml.Value

/-!
# Settings

What the program can be told apart from the document.  A setting has a default, which the entries
of a configuration file replace; those give way to variables of the process, and these to
overrides.  Within a layer the last entry for a setting counts.

A configuration file is a mapping in YAML.  Its values are taken as they are, the limit of passes
apart, which has to be a positive whole number or null.
-/

namespace Foldbook

open Yaml (Datum)

/-- What can be set. -/
inductive Setting where
  /-- The file that keeps the environment. -/
  | envFile
  /-- The program that sends requests. -/
  | client
  /-- The program that connects to remote hosts. -/
  | shell
  | logLevel
  /-- Whether log records are written as JSON. -/
  | jsonLogs
  /-- How many passes a substitution may take; null for no limit. -/
  | passes
  deriving DecidableEq, Repr

namespace Setting

/-- All settings. -/
def all : List Setting := [.envFile, .client, .shell, .logLevel, .jsonLogs, .passes]

/-- The name of a setting. -/
def name : Setting → String
  | .envFile => "env_file"
  | .client => "curl_program"
  | .shell => "ssh_program"
  | .logLevel => "log_level"
  | .jsonLogs => "json_logs"
  | .passes => "max_substitution_passes"

/-- The setting that a key spells.  A hyphen counts as a low line. -/
def ofKey? : Datum → Option Setting
  | .str key =>
    let spelled := key.map fun c => if c = '-' then '_' else c
    all.find? fun setting => setting.name == spelled
  | _ => none

/-- The variables of the process that set something, unless they are empty. -/
def ofEnviron : List (String × Setting) := [
  ("VIM_REST_ENV_FILE", .envFile),
  ("VIM_REST_LOG_LEVEL", .logLevel),
  ("VIM_REST_CURL", .client),
  ("VIM_REST_SSH", .shell)]

end Setting

/-- A value for every setting. -/
structure Settings where
  envFile : Datum := .str ".env.json"
  client : Datum := .str "curl"
  shell : Datum := .str "ssh"
  logLevel : Datum := .str "WARNING"
  jsonLogs : Datum := .bool false
  passes : Datum := .null
  deriving Repr

/-- Why settings cannot be used. -/
inductive SettingsFault where
  /-- A key that spells no setting. -/
  | unknownKey (key : Datum) (source : String)
  | passesNotPositive (source : String)
  | notMapping (path : String)
  /-- The configuration file is not YAML. -/
  | notYaml (fault : Yaml.Fault) (path : String)
  /-- The configuration file is no UTF-8 text. -/
  | undecodable (fault : Text.Utf8.Fault)
  deriving Repr

/-- The words of a fault. -/
def SettingsFault.message : SettingsFault → String
  | .unknownKey key source => "unknown config key " ++ key.quoted ++ " in " ++ source
  | .passesNotPositive source =>
    "max-substitution-passes must be a positive integer in " ++ source
  | .notMapping path => path ++ " must contain a mapping"
  | .notYaml fault path => fault.message path
  | .undecodable fault => fault.message

/-- Values for some settings. -/
abbrev Layer := List (Setting × Datum)

namespace Layer

/-- The settings that entries spell, in order. -/
def spelled (source : String) : List (Datum × Datum) → Except SettingsFault Layer
  | [] => .ok []
  | (key, value) :: rest =>
    match Setting.ofKey? key with
    | none => .error (.unknownKey key source)
    | some setting => (spelled source rest).map fun layer => (setting, value) :: layer

/-- The value that a layer gives to a setting: that of its last entry. -/
def value? (layer : Layer) (setting : Setting) : Option Datum := layer.reverse.lookup setting

/-- The first entry counts where no other one does. -/
theorem value?_cons (known : Setting) (value : Datum) (layer : Layer) (setting : Setting) :
    value? ((known, value) :: layer) setting =
      (layer.value? setting).or (if setting = known then some value else none) := by
  rw [value?, List.reverse_cons, List.lookup_append, List.lookup_cons]
  split <;> simp_all [value?]

/-- Whether a value is a limit of passes. -/
def isLimit : Datum → Bool
  | .null => true
  | .int n => 1 ≤ n
  | _ => false

/-- The layer that entries make. -/
def ofEntries (source : String) (entries : List (Datum × Datum)) : Except SettingsFault Layer :=
  match spelled source entries with
  | .error fault => .error fault
  | .ok layer =>
    if ((layer.value? .passes).map isLimit).getD true then .ok layer
    else .error (.passesNotPositive source)

/-- The layer in the text of a configuration file. -/
def ofText (path text : String) : Except SettingsFault Layer :=
  match Datum.read text with
  | .error fault => .error (.notYaml fault path)
  | .ok .null => .ok []
  | .ok (.mapping entries) => ofEntries path entries
  | .ok _ => .error (.notMapping path)

/-- The layer in a configuration file.  A file that is not there sets nothing. -/
def ofFile (disk : Disk) (path : String) : Except SettingsFault Layer :=
  match disk.readText? path with
  | none => .ok []
  | some (.error fault) => .error (.undecodable fault)
  | some (.ok text) => ofText path text

/-- The layer in the variables of the process. -/
def ofEnviron (environ : List (String × String)) : Layer :=
  Setting.ofEnviron.filterMap fun (name, setting) =>
    match environ.lookup name with
    | some text => if text.isEmpty then none else some (setting, .str text)
    | none => none

/-- The layer of overrides.  Null overrides nothing. -/
def ofOverrides (overrides : List (String × Datum)) : Except SettingsFault Layer :=
  ofEntries "overrides" <| overrides.filterMap fun (key, value) =>
    match value with
    | .null => none
    | value => some (.str key, value)

end Layer

namespace Settings

/-- The value of a setting. -/
def get (s : Settings) : Setting → Datum
  | .envFile => s.envFile
  | .client => s.client
  | .shell => s.shell
  | .logLevel => s.logLevel
  | .jsonLogs => s.jsonLogs
  | .passes => s.passes

/-- Gives a setting a value. -/
def set (s : Settings) (value : Datum) : Setting → Settings
  | .envFile => { s with envFile := value }
  | .client => { s with client := value }
  | .shell => { s with shell := value }
  | .logLevel => { s with logLevel := value }
  | .jsonLogs => { s with jsonLogs := value }
  | .passes => { s with passes := value }

/-- Puts a layer over the settings. -/
def apply (s : Settings) (layer : Layer) : Settings :=
  layer.foldl (fun s (setting, value) => s.set value setting) s

/-- The configuration file: the given one, or the one that a variable of the process names, or the
usual one.  An empty path names none. -/
def configPath (path : Option String) (environ : List (String × String)) : String :=
  let named := fun (path : Option String) => path.filter fun path => !path.isEmpty
  ((named path).or (named (environ.lookup "VIM_REST_CONFIG"))).getD ".vim-rest-client.yaml"

/-- The settings from all layers. -/
def load (disk : Disk) (path : Option String) (environ : List (String × String))
    (overrides : List (String × Datum)) : Except SettingsFault Settings := do
  let file ← Layer.ofFile disk (configPath path environ)
  let explicit ← Layer.ofOverrides overrides
  return ((({} : Settings).apply file).apply (Layer.ofEnviron environ)).apply explicit

@[simp] theorem get_set (s : Settings) (value : Datum) (setting other : Setting) :
    (s.set value setting).get other = if other = setting then value else s.get other := by
  cases setting <;> cases other <;> rfl

/-- A layer decides the settings that it has entries for. -/
theorem get_apply (s : Settings) (layer : Layer) (setting : Setting) :
    (s.apply layer).get setting = (layer.value? setting).getD (s.get setting) := by
  induction layer generalizing s with
  | nil => rfl
  | cons entry layer ih =>
    obtain ⟨known, value⟩ := entry
    have step : s.apply ((known, value) :: layer) = (s.set value known).apply layer := rfl
    rw [step, ih, get_set, Layer.value?_cons]
    cases Layer.value? layer setting with
    | some value => rfl
    | none => split <;> rfl

end Settings

end Foldbook
