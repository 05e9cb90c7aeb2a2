import Foldbook.Proofs.Acting
import Foldbook.Proofs.Disk
import Foldbook.Runner.Documents

/-!
# Setting a variable

`Store.Sets` lists the three things that setting a variable can end with, and
`Act.setVariable_sets` says that a runner does one of them and changes nothing
else but its log.
-/

namespace Foldbook

namespace Store

variable {s s' : Store} {disk disk' : Disk} {name : String} {value : Json}

/-- What setting a variable ends with: it is set and the environment is kept, or it is set and the
environment cannot be kept, or there is no object that it could be a member of. -/
inductive Sets (s : Store) (disk : Disk) (name : String) (value : Json) :
    Except Failure Unit → Store → Disk → Prop where
  | saved (members : List (String × Json)) (backend : Backend) (disk' : Disk)
      (document : s.document = .obj members)
      (saves : save s.backend (.obj (Json.insert name value members)) disk = (.ok backend, disk')) :
    Sets s disk name value (.ok ()) ⟨.obj (Json.insert name value members), backend⟩ disk'
  | unsaved (members : List (String × Json)) (fault : WriteFault) (disk' : Disk)
      (document : s.document = .obj members)
      (fails : save s.backend (.obj (Json.insert name value members)) disk =
        (.error fault, disk')) :
    Sets s disk name value (.error (.notSaved fault))
      ⟨.obj (Json.insert name value members), s.backend⟩ disk'
  | rootless (document : ∀ members, s.document ≠ .obj members) :
    Sets s disk name value (.error .environmentNotObject) s disk

theorem sets_of_set {outcome : Except Failure Unit}
    (h : s.set disk name value = (outcome, s', disk')) :
    Sets s disk name value outcome s' disk' := by
  unfold set at h
  split at h
  · rename_i members hdocument
    dsimp only at h
    split at h
    · rename_i backend _ hsave
      cases h
      exact .saved members backend _ hdocument hsave
    · rename_i fault _ hsave
      cases h
      exact .unsaved members fault _ hdocument hsave
  · rename_i hdocument
    cases h
    exact .rootless hdocument

/-- Setting a variable that fails does not change where the environment is kept. -/
theorem backend_of_sets {failure : Failure}
    (h : s.Sets disk name value (.error failure) s' disk') : s'.backend = s.backend := by
  cases h <;> rfl

/-- An environment is kept in a file by one write. -/
theorem writes_of_save {path : String} {document : Json} {outcome : Except WriteFault Backend}
    (h : save (.file path) document disk = (outcome, disk')) :
    ∃ written, disk.Writes path (Text.Utf8.encode (savedText document)) written disk' ∧
      outcome = written.map fun _ => .file path := by
  obtain ⟨written, behind, hwrite⟩ : ∃ written behind,
      disk.write path (Text.Utf8.encode (savedText document)) = (written, behind) := ⟨_, _, rfl⟩
  simp only [save, hwrite] at h
  cases h
  exact ⟨written, Disk.writes_of_write hwrite, rfl⟩

end Store

/-- Only the environment, the files and the log change. -/
theorem Act.setVariable_sets (name : String) (value : Json) (r : Runner) :
    (setVariable name value).Ends r fun answer behind =>
      ∃ (outcome : Except Failure Unit) (store : Store) (disk : Disk) (log : Log),
        answer = outcome.mapError .failure ∧ behind = { r with store, disk, log } ∧
          r.store.Sets r.disk name value outcome store disk := by
  obtain ⟨outcome, store, disk, hset⟩ : ∃ outcome store disk,
      r.store.set r.disk name value = (outcome, store, disk) := ⟨_, _, _, rfl⟩
  simp only [setVariable, ends_bind, ends_get, hset, ends_set, ends_ofExcept]
  cases outcome with
  | error f => exact ⟨.error f, store, disk, r.log, rfl, rfl, Store.sets_of_set hset⟩
  | ok _ => exact ⟨.ok (), store, disk, _, rfl, rfl, Store.sets_of_set hset⟩

end Foldbook
