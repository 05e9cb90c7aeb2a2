import Foldbook.Proofs.Environment.Opening
import Foldbook.Proofs.Json.CutShort
import Foldbook.Proofs.Keeping

/-!
# An environment that is broken off

Keeping the environment empties its file first.  If the write is broken off,
then the file has a beginning of the text (`Store.BrokenOff`), and unless it
is all of the text, no variable is left in the file: the next start takes it
for the empty environment, or stops if it ends inside of a character
(`Store.Lost`).

The reason is `Json.read?_of_cut`: the text of an object is no JSON without
its last brace.
-/

namespace Foldbook.Store

open Text

variable {path : String} {kept : Nat} {s : Store} {disk : Disk} {members : List (String × Json)}

/-- The next start cannot read the file, or finds no variables. -/
def Lost (disk : Disk) (path : String) : Prop :=
  (∃ fault, openFile disk path = .error fault) ∨
    openFile disk path = .ok { document := .obj [], backend := .file path }

/-- What is left of an environment whose write is broken off after so many octets: those octets.
If they are not all, the variables are lost for the next start. -/
structure BrokenOff (path : String) (kept : Nat) (s : Store) (disk : Disk) : Prop where
  octets : disk.read? path = some ((Utf8.encode (savedText s.document)).take kept)
  lost : kept < (Utf8.encode (savedText s.document)).length → Lost disk path
  whole : (Utf8.encode (savedText s.document)).length ≤ kept → s.Kept path disk

/-- No part of the text of an object is taken for anything but the empty object. -/
theorem ofText_of_cut {text : String} (hbegin : text.toList <+: (savedText (.obj members)).toList)
    (hne : text ≠ savedText (.obj members)) : ofText text = .obj [] := by
  obtain ⟨more, hmore⟩ := hbegin
  have hcut : more ≠ [] := by
    rintro rfl
    rw [List.append_nil] at hmore
    exact hne (String.toList_injective hmore)
  have hread : Json.read? text = none := by
    rw [savedText, Json.render, String.toList_ofList] at hmore
    rw [← Json.read?_of_cut Json.legible_pretty hmore.symm hcut, String.ofList_toList]
  rw [ofText_eq, hread]
  rfl

theorem lost_of_cut (hdocument : s.document = .obj members)
    (hread : disk.read? path = some ((Utf8.encode (savedText s.document)).take kept))
    (hkept : kept < (Utf8.encode (savedText s.document)).length) : Lost disk path := by
  rw [Lost, openFile, load, Disk.readText?, hread, Option.map_some]
  cases hdecode : Utf8.decode ((Utf8.encode (savedText s.document)).take kept) with
  | error fault => exact .inl ⟨fault, rfl⟩
  | ok text =>
      have htext := Utf8.decode_eq_ok_iff.mp hdecode
      have hbegin : text.toList <+: (savedText s.document).toList :=
        Utf8.prefix_of_encode_prefix (htext ▸ List.take_prefix _ _)
      have hne : text ≠ savedText s.document := by
        rintro rfl
        have hlength := congrArg List.length htext
        rw [List.length_take] at hlength
        omega
      have hreturn : '\r' ∉ text.toList := fun hmem =>
        carriageReturn_notMem_savedText s.document (hbegin.subset hmem)
      rw [hdocument] at hbegin hne
      right
      simp only [Except.map, unifyNewlines_of_notMem hreturn, String.ofList_toList,
        ofText_of_cut hbegin hne]

theorem brokenOff_of_read? (hdocument : s.document = .obj members)
    (hbackend : s.backend = .file path)
    (hread : disk.read? path = some ((Utf8.encode (savedText s.document)).take kept)) :
    s.BrokenOff path kept disk := by
  refine ⟨hread, lost_of_cut hdocument hread, fun hwhole => ⟨hbackend, ?_⟩⟩
  rw [List.take_of_length_le hwhole] at hread
  exact Disk.readText?_of_read? (carriageReturn_notMem_savedText _) hread

end Foldbook.Store
