import Foldbook.Settings
import Mathlib.Data.List.Basic

/-!
# Where settings come from

What the settings of a run are, said about the entries of the configuration
file, the variables of the process and the overrides alone.

* Keys.  `Setting.SpelledBy` says which keys mean a setting, and
  `Setting.ofKey?` finds it (`Setting.ofKey?_eq_some_iff`).
* Entries.  Among entries the last one for a setting counts (`LastFor`), and
  `Faults` says which fault entries have: `Layer.ofEntries_eq_error_iff` and
  `Layer.value?_eq_some_iff` say that a layer is made of entries like this.
* Layers.  `Holds` is the order in which the layers decide, and
  `Settings.load_holds` shows that loading follows it.
-/

namespace Foldbook

open Yaml (Datum)

variable {setting : Setting} {entries : List (Datum × Datum)} {source : String} {layer : Layer}

/-! ## Keys -/

namespace Setting

/-- The key is the name of the setting, perhaps with hyphens for low lines. -/
def SpelledBy (setting : Setting) (key : Datum) : Prop :=
  ∃ text, key = .str text ∧ (text.map fun c => if c = '-' then '_' else c) = setting.name

/-- The key means some setting. -/
def Known (key : Datum) : Prop := ∃ setting : Setting, setting.SpelledBy key

theorem find?_name (setting : Setting) :
    all.find? (fun other => other.name == setting.name) = some setting := by
  cases setting <;> decide

theorem ofKey?_eq_some_iff {key : Datum} : ofKey? key = some setting ↔ setting.SpelledBy key := by
  constructor
  · intro h
    cases key with
    | str text =>
        unfold ofKey? at h
        have hname := List.find?_some h
        exact ⟨text, rfl, (beq_iff_eq.mp hname).symm⟩
    | _ => cases h
  · rintro ⟨text, rfl, hname⟩
    simp only [ofKey?, hname]
    exact find?_name setting

theorem ofKey?_eq_none_iff {key : Datum} : ofKey? key = none ↔ ¬Known key := by
  simp only [Option.eq_none_iff_forall_ne_some, ne_eq, ofKey?_eq_some_iff, Known, not_exists]

/-- A key means no more than one setting. -/
theorem spelledBy_iff_eq {known : Setting} {key : Datum} (h : ofKey? key = some known) :
    setting.SpelledBy key ↔ setting = known := by
  rw [← ofKey?_eq_some_iff, h, Option.some.injEq, eq_comm]

end Setting

/-! ## Entries -/

/-- None of the entries is for the setting. -/
def NoneFor (setting : Setting) (entries : List (Datum × Datum)) : Prop :=
  ∀ e ∈ entries, ¬setting.SpelledBy e.1

/-- The last of the entries for the setting has the value. -/
def LastFor (setting : Setting) (entries : List (Datum × Datum)) (value : Datum) : Prop :=
  ∃ before key behind, entries = before ++ (key, value) :: behind ∧ setting.SpelledBy key ∧
    NoneFor setting behind

/-- The value is a limit of passes, or sets none. -/
def IsLimit (value : Datum) : Prop := value = .null ∨ ∃ n : Int, value = .int n ∧ 1 ≤ n

/-- What is wrong with entries: the first key that means no setting, or else the limit of passes. -/
inductive Faults (source : String) (entries : List (Datum × Datum)) : SettingsFault → Prop
  | unknown {before behind : List (Datum × Datum)} {key value : Datum}
    (eq : entries = before ++ (key, value) :: behind) (known : ∀ e ∈ before, Setting.Known e.1)
    (h : ¬Setting.Known key) : Faults source entries (.unknownKey key source)
  | limit {value : Datum} (known : ∀ e ∈ entries, Setting.Known e.1)
    (last : LastFor .passes entries value) (h : ¬IsLimit value) :
    Faults source entries (.passesNotPositive source)

/-- Something is wrong with the entries. -/
def Faulty (entries : List (Datum × Datum)) : Prop :=
  (∃ e ∈ entries, ¬Setting.Known e.1) ∨ ∃ value, LastFor .passes entries value ∧ ¬IsLimit value

theorem noneFor_cons_iff {e : Datum × Datum} :
    NoneFor setting (e :: entries) ↔ ¬setting.SpelledBy e.1 ∧ NoneFor setting entries :=
  List.forall_mem_cons

theorem not_lastFor_nil {value : Datum} : ¬LastFor setting [] value := by
  rintro ⟨before, key, behind, hnil, -⟩
  exact List.append_ne_nil_of_right_ne_nil _ (List.cons_ne_nil _ _) hnil.symm

theorem lastFor_cons_iff {key value other : Datum} :
    LastFor setting ((key, other) :: entries) value ↔
      LastFor setting entries value ∨
        NoneFor setting entries ∧ setting.SpelledBy key ∧ other = value := by
  constructor
  · rintro ⟨before, key', behind, heq, hspelled, hbehind⟩
    cases before with
    | nil =>
        obtain ⟨hentry, rfl⟩ := List.cons.inj heq
        obtain ⟨rfl, rfl⟩ := Prod.mk.inj hentry
        exact .inr ⟨hbehind, hspelled, rfl⟩
    | cons first before =>
        obtain ⟨-, rfl⟩ := List.cons.inj heq
        exact .inl ⟨before, key', behind, rfl, hspelled, hbehind⟩
  · rintro (⟨before, key', behind, rfl, hspelled, hbehind⟩ | ⟨hentries, hspelled, rfl⟩)
    · exact ⟨(key, other) :: before, key', behind, rfl, hspelled, hbehind⟩
    · exact ⟨[], key, entries, rfl, hspelled, hentries⟩

theorem isLimit_iff {value : Datum} : Layer.isLimit value = true ↔ IsLimit value := by
  cases value <;> simp [Layer.isLimit, IsLimit]

namespace Layer

theorem spelled_cons_eq_ok_iff {key value : Datum} :
    spelled source ((key, value) :: entries) = .ok layer ↔
      ∃ known behind, Setting.ofKey? key = some known ∧ spelled source entries = .ok behind ∧
        layer = (known, value) :: behind := by
  rw [spelled]
  cases Setting.ofKey? key with
  | none => simp
  | some known =>
      cases spelled source entries with
      | error fault => simp [Except.map]
      | ok behind => simp [Except.map, eq_comm]

/-- Entries are read to a layer only if every key means something. -/
theorem known_of_spelled (h : spelled source entries = .ok layer) :
    ∀ e ∈ entries, Setting.Known e.1 := by
  induction entries generalizing layer with
  | nil => exact List.forall_mem_nil _
  | cons e entries ih =>
      obtain ⟨known, behind, hkey, hbehind, rfl⟩ := spelled_cons_eq_ok_iff.mp h
      exact List.forall_mem_cons.mpr ⟨⟨known, Setting.ofKey?_eq_some_iff.mp hkey⟩, ih hbehind⟩

/-- The value and the absence of a value in the layer that entries are read to. -/
theorem value?_of_spelled (h : spelled source entries = .ok layer) (setting : Setting) :
    (∀ value, layer.value? setting = some value ↔ LastFor setting entries value) ∧
      (layer.value? setting = none ↔ NoneFor setting entries) := by
  induction entries generalizing layer with
  | nil =>
      obtain rfl : [] = layer := Except.ok.inj h
      exact ⟨fun value => iff_of_false (by simp [value?]) not_lastFor_nil,
        iff_of_true rfl (List.forall_mem_nil _)⟩
  | cons e entries ih =>
      obtain ⟨known, behind, hkey, hbehind, rfl⟩ := spelled_cons_eq_ok_iff.mp h
      obtain ⟨hsome, hnone⟩ := ih hbehind
      have hspelled : setting.SpelledBy e.1 ↔ setting = known := Setting.spelledBy_iff_eq hkey
      constructor
      · intro value
        rw [value?_cons, Option.or_eq_some_iff, hsome, hnone, lastFor_cons_iff, hspelled,
          Option.ite_none_right_eq_some, Option.some.injEq]
      · rw [value?_cons, Option.or_eq_none_iff, hnone, noneFor_cons_iff, hspelled, and_comm,
          ite_eq_right_iff]
        exact and_congr_left' (by simp)

theorem spelled_eq_error_iff {fault : SettingsFault} :
    spelled source entries = .error fault ↔
      ∃ before key value behind, entries = before ++ (key, value) :: behind ∧
        (∀ e ∈ before, Setting.Known e.1) ∧ ¬Setting.Known key ∧
        fault = .unknownKey key source := by
  induction entries with
  | nil => simp [spelled]
  | cons e entries ih =>
      obtain ⟨key, value⟩ := e
      rw [spelled]
      cases hkey : Setting.ofKey? key with
      | none =>
          have hunknown := Setting.ofKey?_eq_none_iff.mp hkey
          constructor
          · intro h
            exact ⟨[], key, value, entries, rfl, List.forall_mem_nil _, hunknown,
              (Except.error.inj h).symm⟩
          · rintro ⟨before, key', value', behind, heq, hknown, -, rfl⟩
            cases before with
            | nil => rw [(Prod.mk.inj (List.cons.inj heq).1).1]
            | cons first before =>
                obtain ⟨rfl, -⟩ := List.cons.inj heq
                exact absurd (hknown _ List.mem_cons_self) hunknown
      | some known =>
          have hmeans : Setting.Known key := ⟨known, Setting.ofKey?_eq_some_iff.mp hkey⟩
          have hmap : (spelled source entries).map (fun layer => (known, value) :: layer) =
              .error fault ↔ spelled source entries = .error fault := by
            cases spelled source entries <;> simp [Except.map]
          rw [hmap, ih]
          constructor
          · rintro ⟨before, key', value', behind, rfl, hknown, hfault⟩
            exact ⟨(key, value) :: before, key', value', behind, rfl,
              List.forall_mem_cons.mpr ⟨hmeans, hknown⟩, hfault⟩
          · rintro ⟨before, key', value', behind, heq, hknown, hunknown, hfault⟩
            cases before with
            | nil =>
                rw [(Prod.mk.inj (List.cons.inj heq).1).1] at hmeans
                exact absurd hmeans hunknown
            | cons first before =>
                obtain ⟨-, rfl⟩ := List.cons.inj heq
                exact ⟨before, key', value', behind, rfl, (List.forall_mem_cons.mp hknown).2,
                  hunknown, hfault⟩

/-- The limit of passes in a layer is looked at if it has one. -/
theorem limited_iff (h : spelled source entries = .ok layer) :
    ((layer.value? .passes).map isLimit).getD true = true ↔
      ∀ value, LastFor .passes entries value → IsLimit value := by
  have hvalue := (value?_of_spelled h .passes).1
  simp only [← hvalue, ← isLimit_iff]
  cases layer.value? .passes <;> simp

theorem ofEntries_of_spelled (h : spelled source entries = .ok layer) :
    ofEntries source entries =
      if ((layer.value? .passes).map isLimit).getD true then .ok layer
      else .error (.passesNotPositive source) := by
  rw [ofEntries, h]

theorem ofEntries_of_spelled_error {fault : SettingsFault}
    (h : spelled source entries = .error fault) : ofEntries source entries = .error fault := by
  rw [ofEntries, h]

theorem spelled_of_ofEntries (h : ofEntries source entries = .ok layer) :
    spelled source entries = .ok layer := by
  cases hspelled : spelled source entries with
  | error fault =>
      rw [ofEntries_of_spelled_error hspelled] at h
      cases h
  | ok behind =>
      rw [ofEntries_of_spelled hspelled] at h
      split at h
      · exact h
      · cases h

/-- Entries are refused for what is wrong with them. -/
theorem ofEntries_eq_error_iff {fault : SettingsFault} :
    ofEntries source entries = .error fault ↔ Faults source entries fault := by
  cases hspelled : spelled source entries with
  | error other =>
      rw [ofEntries_of_spelled_error hspelled, ← hspelled, spelled_eq_error_iff]
      constructor
      · rintro ⟨before, key, value, behind, heq, hknown, hunknown, rfl⟩
        exact .unknown heq hknown hunknown
      · rintro (⟨heq, hknown, hunknown⟩ | ⟨hall, -, -⟩)
        · exact ⟨_, _, _, _, heq, hknown, hunknown, rfl⟩
        · obtain ⟨before, key, value, behind, rfl, -, hunknown, -⟩ :=
            spelled_eq_error_iff.mp hspelled
          exact absurd (hall (key, value) (by simp)) hunknown
  | ok layer =>
      have hknown := known_of_spelled hspelled
      have hlimit := limited_iff hspelled
      rw [ofEntries_of_spelled hspelled]
      constructor
      · intro h
        split at h
        · cases h
        · rename_i hnot
          obtain rfl := Except.error.inj h
          rw [hlimit] at hnot
          push Not at hnot
          obtain ⟨value, hlast, hbad⟩ := hnot
          exact .limit hknown hlast hbad
      · intro hfault
        cases hfault with
        | @unknown before behind key value heq _ hunknown =>
            refine absurd (hknown (key, value) ?_) hunknown
            rw [heq]
            exact List.mem_append_right _ List.mem_cons_self
        | limit _ hlast hbad => rw [if_neg fun h => hbad (hlimit.mp h _ hlast)]

end Layer

/-- Some fault is told if something is wrong. -/
theorem exists_faults_iff : (∃ fault, Faults source entries fault) ↔ Faulty entries := by
  constructor
  · rintro ⟨fault, ⟨rfl, -, hunknown⟩ | ⟨-, hlast, hbad⟩⟩
    · exact .inl ⟨(_, _), List.mem_append_right _ List.mem_cons_self, hunknown⟩
    · exact .inr ⟨_, hlast, hbad⟩
  · intro hfaulty
    cases hread : Layer.ofEntries source entries with
    | error fault => exact ⟨fault, Layer.ofEntries_eq_error_iff.mp hread⟩
    | ok layer =>
        have hspelled := Layer.spelled_of_ofEntries hread
        rw [Layer.ofEntries_of_spelled hspelled] at hread
        split at hread
        · rename_i hlimit
          rcases hfaulty with ⟨e, he, hunknown⟩ | ⟨value, hlast, hbad⟩
          · exact absurd (Layer.known_of_spelled hspelled e he) hunknown
          · exact absurd ((Layer.limited_iff hspelled).mp hlimit value hlast) hbad
        · cases hread

theorem Layer.exists_ofEntries_eq_ok_iff :
    (∃ layer, Layer.ofEntries source entries = .ok layer) ↔ ¬Faulty entries := by
  have hfaulty : Faulty entries ↔ ∃ fault, Layer.ofEntries source entries = .error fault := by
    simp only [Layer.ofEntries_eq_error_iff, exists_faults_iff]
  rw [hfaulty]
  cases Layer.ofEntries source entries <;> simp

/-! ## Layers -/

/-- The variable of the process for the setting has the text, and the text is not empty. -/
def VariableFor (setting : Setting) (environ : List (String × String)) (text : String) : Prop :=
  ∃ name, (name, setting) ∈ Setting.ofEnviron ∧ environ.lookup name = some text ∧ text ≠ ""

/-- The overrides that are not null, with their keys as texts. -/
def given (overrides : List (String × Datum)) : List (Datum × Datum) :=
  overrides.filterMap fun (key, value) =>
    match value with
    | .null => none
    | value => some (.str key, value)

/-- A setting has its value from the highest layer that gives it one: from the overrides, from the
variables of the process, from the entries of the configuration file, or by default. -/
inductive Holds (setting : Setting) (overrides : List (String × Datum))
    (environ : List (String × String)) (entries : List (Datum × Datum)) : Datum → Prop
  | override {value : Datum} (h : LastFor setting (given overrides) value) :
    Holds setting overrides environ entries value
  | variable {text : String} (free : NoneFor setting (given overrides))
    (h : VariableFor setting environ text) : Holds setting overrides environ entries (.str text)
  | file {value : Datum} (free : NoneFor setting (given overrides))
    (unset : ∀ text, ¬VariableFor setting environ text) (h : LastFor setting entries value) :
    Holds setting overrides environ entries value
  | default (free : NoneFor setting (given overrides))
    (unset : ∀ text, ¬VariableFor setting environ text)
    (unwritten : NoneFor setting entries) :
    Holds setting overrides environ entries (({} : Settings).get setting)

/-- The entries that the configuration file holds: none if it is not there or holds no value. -/
inductive FileHolds (disk : Disk) (path : String) : List (Datum × Datum) → Prop
  | absent (h : disk.readText? path = none) : FileHolds disk path []
  | empty {text : String} (h : disk.readText? path = some (.ok text))
    (hread : Datum.read text = .ok .null) : FileHolds disk path []
  | mapping {text : String} {entries : List (Datum × Datum)}
    (h : disk.readText? path = some (.ok text))
    (hread : Datum.read text = .ok (.mapping entries)) : FileHolds disk path entries

namespace Layer

theorem ofOverrides_eq (overrides : List (String × Datum)) :
    ofOverrides overrides = ofEntries "overrides" (given overrides) := rfl

theorem ofFile_of_fileHolds {disk : Disk} {path : String} (h : FileHolds disk path entries) :
    ofFile disk path = ofEntries path entries := by
  cases h with
  | absent h => rw [ofFile, h]; rfl
  | empty h hread =>
      rw [ofFile, h]
      show ofText path _ = _
      rw [ofText, hread]
      rfl
  | mapping h hread =>
      rw [ofFile, h]
      show ofText path _ = _
      rw [ofText, hread]

theorem value?_eq_none_of_forall_ne (h : ∀ e ∈ layer, setting ≠ e.1) :
    layer.value? setting = none := by
  rw [value?, List.lookup_eq_none_iff]
  simpa using h

/-- A layer without two entries for one setting gives what stands in it. -/
theorem value?_eq_some_iff_mem (h : layer.Pairwise fun e f => e.1 ≠ f.1) {value : Datum} :
    layer.value? setting = some value ↔ (setting, value) ∈ layer := by
  induction layer with
  | nil => simp [value?]
  | cons e layer ih =>
      obtain ⟨known, other⟩ := e
      obtain ⟨hdistinct, hlayer⟩ := List.pairwise_cons.mp h
      rw [value?_cons, Option.or_eq_some_iff, ih hlayer, List.mem_cons, Prod.mk.injEq,
        Option.ite_none_right_eq_some, Option.some.injEq]
      constructor
      · rintro (hmem | ⟨-, rfl, rfl⟩)
        · exact .inr hmem
        · exact .inl ⟨rfl, rfl⟩
      · rintro (⟨rfl, rfl⟩ | hmem)
        · exact .inr ⟨value?_eq_none_of_forall_ne hdistinct, rfl, rfl⟩
        · exact .inl hmem

/-- What a variable of the process gives. -/
theorem variable_eq_some_iff {environ : List (String × String)} {name : String} {known : Setting}
    {e : Setting × Datum} :
    (match environ.lookup name with
      | some text => if text.isEmpty then none else some (known, Datum.str text)
      | none => none) = some e ↔
      known = e.1 ∧ ∃ text, e.2 = .str text ∧ environ.lookup name = some text ∧ text ≠ "" := by
  obtain ⟨setting, value⟩ := e
  cases environ.lookup name with
  | none => simp
  | some text =>
      simp only [Option.ite_none_left_eq_some, Option.some.injEq, Prod.mk.injEq]
      constructor
      · rintro ⟨hne, rfl, rfl⟩
        exact ⟨rfl, text, rfl, rfl, by simpa using hne⟩
      · rintro ⟨rfl, text', rfl, rfl, hne⟩
        exact ⟨by simpa using hne, rfl, rfl⟩

/-- The variables of the process give texts. -/
theorem value?_ofEnviron_eq_some_iff {environ : List (String × String)} {value : Datum} :
    (ofEnviron environ).value? setting = some value ↔
      ∃ text, value = .str text ∧ VariableFor setting environ text := by
  have htable : Setting.ofEnviron.Pairwise fun e f => e.2 ≠ f.2 := by decide
  have hdistinct : (ofEnviron environ).Pairwise fun e f => e.1 ≠ f.1 := by
    refine List.Pairwise.filterMap _ ?_ htable
    rintro ⟨name, known⟩ ⟨name', known'⟩ hne e he f hf
    rw [← (variable_eq_some_iff.mp he).1, ← (variable_eq_some_iff.mp hf).1]
    exact hne
  rw [value?_eq_some_iff_mem hdistinct, ofEnviron, List.mem_filterMap]
  constructor
  · rintro ⟨⟨name, known⟩, hmem, h⟩
    obtain ⟨rfl, text, rfl, hlookup, hne⟩ := variable_eq_some_iff.mp h
    exact ⟨text, rfl, name, hmem, hlookup, hne⟩
  · rintro ⟨text, rfl, name, hmem, hlookup, hne⟩
    exact ⟨(name, setting), hmem, variable_eq_some_iff.mpr ⟨rfl, text, rfl, hlookup, hne⟩⟩

end Layer

namespace Settings

variable {disk : Disk} {path : Option String} {environ : List (String × String)}

theorem load_eq_ok_iff {overrides : List (String × Datum)} {settings : Settings} :
    load disk path environ overrides = .ok settings ↔
      ∃ file explicit, Layer.ofFile disk (configPath path environ) = .ok file ∧
        Layer.ofOverrides overrides = .ok explicit ∧
        ((({} : Settings).apply file).apply (Layer.ofEnviron environ)).apply explicit = settings := by
  unfold load
  cases Layer.ofFile disk (configPath path environ) with
  | error fault => simp [bind, Except.bind]
  | ok file =>
      cases Layer.ofOverrides overrides with
      | error fault => simp [bind, Except.bind]
      | ok explicit => simp [bind, Except.bind, pure, Except.pure]

theorem load_eq_error_iff {overrides : List (String × Datum)} {fault : SettingsFault} :
    load disk path environ overrides = .error fault ↔
      Layer.ofFile disk (configPath path environ) = .error fault ∨
        (∃ file, Layer.ofFile disk (configPath path environ) = .ok file) ∧
          Layer.ofOverrides overrides = .error fault := by
  unfold load
  cases Layer.ofFile disk (configPath path environ) with
  | error other => simp [bind, Except.bind]
  | ok file =>
      cases Layer.ofOverrides overrides with
      | error other => simp [bind, Except.bind]
      | ok explicit => simp [bind, Except.bind, pure, Except.pure]

/-- Layers over each other give every setting the value of the highest one. -/
theorem holds_of_layers {file explicit : Layer} {overrides : List (String × Datum)}
    (hfile : Layer.spelled source entries = .ok file)
    (hexplicit : Layer.spelled "overrides" (given overrides) = .ok explicit)
    (environ : List (String × String)) (setting : Setting) :
    Holds setting overrides environ entries
      (((({} : Settings).apply file).apply (Layer.ofEnviron environ)).apply explicit |>.get
        setting) := by
  obtain ⟨hwritten, hunwritten⟩ := Layer.value?_of_spelled hfile setting
  obtain ⟨hgiven, hfree⟩ := Layer.value?_of_spelled hexplicit setting
  rw [get_apply, get_apply, get_apply]
  cases hover : explicit.value? setting with
  | some value => exact .override ((hgiven value).mp hover)
  | none =>
      have hfree := hfree.mp hover
      cases henv : (Layer.ofEnviron environ).value? setting with
      | some value =>
          obtain ⟨text, rfl, hvariable⟩ := Layer.value?_ofEnviron_eq_some_iff.mp henv
          exact .variable hfree hvariable
      | none =>
          have hunset : ∀ text, ¬VariableFor setting environ text := by
            intro text hvariable
            rw [Layer.value?_ofEnviron_eq_some_iff.mpr ⟨text, rfl, hvariable⟩] at henv
            cases henv
          cases hentry : file.value? setting with
          | some value => exact .file hfree hunset ((hwritten value).mp hentry)
          | none => exact .default hfree hunset (hunwritten.mp hentry)

/-- Loading finds for every setting the value that the highest layer gives it, or tells what is
wrong with the configuration file or, if nothing is, with the overrides. -/
theorem load_holds (h : FileHolds disk (configPath path environ) entries)
    (overrides : List (String × Datum)) :
    (∀ settings, load disk path environ overrides = .ok settings →
        ∀ setting, Holds setting overrides environ entries (settings.get setting)) ∧
      (∀ fault, load disk path environ overrides = .error fault ↔
        Faults (configPath path environ) entries fault ∨
          ¬Faulty entries ∧ Faults "overrides" (given overrides) fault) ∧
      ((∃ fault, load disk path environ overrides = .error fault) ↔
        Faulty entries ∨ Faulty (given overrides)) := by
  have hfile := Layer.ofFile_of_fileHolds h
  have herror : ∀ fault, load disk path environ overrides = .error fault ↔
      Faults (configPath path environ) entries fault ∨
        ¬Faulty entries ∧ Faults "overrides" (given overrides) fault := by
    intro fault
    rw [load_eq_error_iff, hfile, Layer.ofOverrides_eq, Layer.ofEntries_eq_error_iff,
      Layer.ofEntries_eq_error_iff, Layer.exists_ofEntries_eq_ok_iff]
  refine ⟨?_, herror, ?_⟩
  · intro settings hsettings setting
    obtain ⟨file, explicit, hread, hexplicit, rfl⟩ := load_eq_ok_iff.mp hsettings
    rw [hfile] at hread
    rw [Layer.ofOverrides_eq] at hexplicit
    exact holds_of_layers (Layer.spelled_of_ofEntries hread)
      (Layer.spelled_of_ofEntries hexplicit) environ setting
  · simp only [herror, exists_or, exists_and_left, exists_faults_iff]
    tauto

/-- A directory with a configuration file. -/
def shellDisk : Disk where
  files := [(".vim-rest-client.yaml", "ssh-program: s".toUTF8.toList)]

/-- What its configuration file holds. -/
def shellEntries : List (Datum × Datum) := [(.str "ssh-program", .str "s")]

/-- A variable for one program. -/
def clientVariable : List (String × String) := [("VIM_REST_CURL", "c")]

/-- An override, and one that is null. -/
def levelOverride : List (String × Datum) := [("log-level", .str "INFO"), ("curl_program", .null)]

/-- Every layer decides the setting that it has a value for. -/
theorem load_holds_shellDisk :
    FileHolds shellDisk (configPath none clientVariable) shellEntries ∧
      (∀ settings, load shellDisk none clientVariable levelOverride = .ok settings →
          ∀ setting, Holds setting levelOverride clientVariable shellEntries
            (settings.get setting)) ∧
      (∀ fault, load shellDisk none clientVariable levelOverride = .error fault ↔
          Faults (configPath none clientVariable) shellEntries fault ∨
            ¬Faulty shellEntries ∧ Faults "overrides" (given levelOverride) fault) ∧
      ((∃ fault, load shellDisk none clientVariable levelOverride = .error fault) ↔
          Faulty shellEntries ∨ Faulty (given levelOverride)) ∧
      load shellDisk none clientVariable levelOverride =
        .ok { client := .str "c", shell := .str "s", logLevel := .str "INFO" } := by
  have htokens : Yaml.Token.ofText? "ssh-program: s" =
      some [.blockMappingStart, .key, .scalar .plain "ssh-program", .value, .scalar .plain "s",
        .blockEnd, .finish] := by decide +kernel
  have hread : Datum.read "ssh-program: s" = .ok (.mapping shellEntries) := by
    rw [Datum.read, Yaml.Node.ofText?, htokens]
    rfl
  have hfile : FileHolds shellDisk (configPath none clientVariable) shellEntries :=
    .mapping (by decide +kernel) hread
  have hshell : ∀ path, Layer.spelled path shellEntries = .ok [(.shell, .str "s")] := by
    intro path
    cbv
  have hlevel : Layer.spelled "overrides" (given levelOverride) =
      .ok [(.logLevel, .str "INFO")] := by cbv
  have hlayer : Layer.ofFile shellDisk (configPath none clientVariable) =
      .ok [(.shell, .str "s")] :=
    (Layer.ofFile_of_fileHolds hfile).trans (Layer.ofEntries_of_spelled (hshell _))
  have hexplicit : Layer.ofOverrides levelOverride = .ok [(.logLevel, .str "INFO")] :=
    Layer.ofEntries_of_spelled hlevel
  have hload := load_holds hfile levelOverride
  exact ⟨hfile, hload.1, hload.2.1, hload.2.2,
    load_eq_ok_iff.mpr ⟨_, _, hlayer, hexplicit, rfl⟩⟩

end Settings
end Foldbook
