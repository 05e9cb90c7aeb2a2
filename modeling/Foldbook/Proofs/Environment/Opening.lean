import Foldbook.Proofs.Utf8
import Foldbook.Store

/-!
# Opening the environment

What a start makes of whatever is in the file of the environment.

* `Store.Legible`: there is no file, or its octets are a UTF-8 text.
* `Store.Holds`: the file is a UTF-8 text, and the text is JSON for an
  object.  It is for one object at most (`Holds.unique`).
* `load_eq_ok_iff`: exactly what is legible is loaded, as the object that
  the file holds, and as the empty object if it holds none.
* `openFile_iff`: the same for the environment that is opened.  A file with
  octets that are no text is the only thing that cannot be opened; nothing
  makes up for it, unlike for a text that is no JSON.
-/

namespace Foldbook.Store

open Text

/-- If there is a file, then its octets are those of a text. -/
def Legible (disk : Disk) (path : String) : Prop :=
  ∀ octets, disk.read? path = some octets → ∃ text, octets = Utf8.encode text

/-- The file is a text, and the text is JSON for the object with these members. -/
def Holds (disk : Disk) (path : String) (members : List (String × Json)) : Prop :=
  ∃ text, disk.read? path = some (Utf8.encode text) ∧
    Json.read (String.ofList (unifyNewlines text.toList)) = .ok (.obj members)

section

variable {disk : Disk} {path text : String} {document : Json}
  {members others : List (String × Json)}

/-! ## What a path leads to

Either to no file, or to the octets of a text, or to other octets. -/

theorem load_of_none (h : disk.read? path = none) : load disk path = .ok (.obj []) := by
  rw [load, Disk.readText?, h]
  rfl

theorem load_of_text (h : disk.read? path = some (Utf8.encode text)) :
    load disk path = .ok (ofText (String.ofList (unifyNewlines text.toList))) := by
  rw [load, Disk.readText?, h, Option.map_some, Utf8.decode_encode]
  rfl

theorem exists_load_of_not_legible (h : ¬Legible disk path) :
    ∃ fault, load disk path = .error fault := by
  simp only [Legible, not_forall, not_exists] at h
  obtain ⟨octets, hread, hoctets⟩ := h
  rw [load, Disk.readText?, hread, Option.map_some]
  cases hdecode : Utf8.decode octets with
  | error fault => exact ⟨fault, rfl⟩
  | ok text => exact absurd (Utf8.decode_eq_ok_iff.mp hdecode) (hoctets text)

/-! ## What a text is taken for -/

/-- A text is taken for the object that it is JSON for. -/
theorem ofText_eq_obj (h : Json.read text = .ok (.obj members)) : ofText text = .obj members := by
  rw [ofText, h]
  rfl

/-- Any other text is taken for the empty object. -/
theorem ofText_eq_empty (h : ∀ members, Json.read text ≠ .ok (.obj members)) :
    ofText text = .obj [] := by
  unfold ofText
  cases hread : Json.read text with
  | error => rfl
  | ok document =>
      cases document with
      | obj members => exact absurd hread (h members)
      | _ => rfl

theorem load_of_holds (h : Holds disk path members) : load disk path = .ok (.obj members) := by
  obtain ⟨text, hread, hjson⟩ := h
  rw [load_of_text hread, ofText_eq_obj hjson]

theorem load_of_not_holds (hlegible : Legible disk path) (h : ∀ members, ¬Holds disk path members) :
    load disk path = .ok (.obj []) := by
  cases hread : disk.read? path with
  | none => exact load_of_none hread
  | some octets =>
      obtain ⟨text, rfl⟩ := hlegible octets hread
      rw [load_of_text hread, ofText_eq_empty fun members hjson => h members ⟨text, hread, hjson⟩]

theorem Holds.unique (h : Holds disk path members) (hothers : Holds disk path others) :
    members = others := by
  have hload := load_of_holds h
  rw [load_of_holds hothers] at hload
  cases hload
  rfl

/-! ## Opening -/

/-- A legible file is loaded. -/
theorem exists_load_of_legible (h : Legible disk path) :
    ∃ document, load disk path = .ok document ∧
      ((∃ members, Holds disk path members ∧ document = .obj members) ∨
        (∀ members, ¬Holds disk path members) ∧ document = .obj []) := by
  by_cases hholds : ∃ members, Holds disk path members
  · obtain ⟨members, hmembers⟩ := hholds
    exact ⟨_, load_of_holds hmembers, .inl ⟨members, hmembers, rfl⟩⟩
  · have hnone := not_exists.mp hholds
    exact ⟨_, load_of_not_holds h hnone, .inr ⟨hnone, rfl⟩⟩

theorem load_eq_error_iff : (∃ fault, load disk path = .error fault) ↔ ¬Legible disk path := by
  refine ⟨?_, exists_load_of_not_legible⟩
  rintro ⟨fault, h⟩ hlegible
  obtain ⟨document, hload, -⟩ := exists_load_of_legible hlegible
  rw [h] at hload
  cases hload

theorem load_eq_ok_iff :
    load disk path = .ok document ↔ Legible disk path ∧
      ((∃ members, Holds disk path members ∧ document = .obj members) ∨
        (∀ members, ¬Holds disk path members) ∧ document = .obj []) := by
  constructor
  · intro h
    have hlegible : Legible disk path := by
      by_contra hillegible
      obtain ⟨fault, hfault⟩ := exists_load_of_not_legible hillegible
      rw [hfault] at h
      cases h
    obtain ⟨loaded, hload, hdocument⟩ := exists_load_of_legible hlegible
    rw [h] at hload
    cases hload
    exact ⟨hlegible, hdocument⟩
  · rintro ⟨hlegible, ⟨members, hmembers, rfl⟩ | ⟨hnone, rfl⟩⟩
    · exact load_of_holds hmembers
    · exact load_of_not_holds hlegible hnone

end

/-- Opening the environment fails exactly if there is a file whose octets are no UTF-8 text.
Otherwise the environment is the object that the file holds, and it is empty if there is no file,
if its text is not JSON, and if the JSON is not an object. -/
theorem openFile_iff (disk : Disk) (path : String) :
    ((∃ fault, openFile disk path = .error fault) ↔ ¬Legible disk path) ∧
    ∀ s, openFile disk path = .ok s ↔ Legible disk path ∧ s.backend = .file path ∧
      ((∃ members, Holds disk path members ∧ s.document = .obj members) ∨
        (∀ members, ¬Holds disk path members) ∧ s.document = .obj []) := by
  constructor
  · rw [← load_eq_error_iff, openFile]
    cases load disk path <;> simp [Except.map]
  · rintro ⟨document, backend⟩
    rw [and_left_comm, ← load_eq_ok_iff, openFile]
    cases load disk path <;> simp [Except.map, and_comm, eq_comm]

/-- One octet that begins no character, in the place of the file, stops the start. -/
theorem openFile_iff_singleOctet :
    openFile { files := [("env.json", [0xFF])] } "env.json" = .error ⟨.start, 0, 0xFF, 1⟩ ∧
      ¬Legible { files := [("env.json", [0xFF])] } "env.json" := by
  have hopen : openFile { files := [("env.json", [0xFF])] } "env.json" =
      .error ⟨.start, 0, 0xFF, 1⟩ := rfl
  exact ⟨hopen, (openFile_iff _ _).1.mp ⟨_, hopen⟩⟩

end Foldbook.Store
