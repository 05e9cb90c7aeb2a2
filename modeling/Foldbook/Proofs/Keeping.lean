import Foldbook.Proofs.Environment.Setting
import Foldbook.Proofs.Json.Characters
import Foldbook.Proofs.Json.Reading
import Foldbook.Proofs.Json.Rereading
import Foldbook.Proofs.Text
import Foldbook.Proofs.Utf8

/-!
# The environment in its file

An environment that is kept in a file, through a run of changes
(`Store.setEach`).

* `Store.Kept`: the file holds the text of the document.  Every change that
  succeeds makes it so (`kept_of_set`), so it holds after any run of changes
  that is not empty (`kept_of_setEach`).
* `openFile_of_kept`: what the next start makes of such a file.
* `openFile_of_setEach`: an environment without floating-point numbers is
  opened as it is in memory, after each of the changes.
* `read_kept_iff_finite`: the text is accepted on the next start exactly if
  all floating-point numbers in the environment are finite.  If one is not,
  the next start finds no variables at all.
-/

namespace Foldbook

/-! ## Files -/

/-- The text of a file whose line ends are all line feeds. -/
theorem Disk.readText?_of_read? {disk : Disk} {path text : String} (h : '\r' ∉ text.toList)
    (hread : disk.read? path = some (Text.Utf8.encode text)) :
    disk.readText? path = some (.ok text) := by
  rw [Disk.readText?, hread, Option.map_some, Text.Utf8.decode_encode]
  simp [Except.map, Text.unifyNewlines_of_notMem h]

namespace Store

open Json (Every)

/-- Sets variables one after another, up to the first that cannot be set or kept. -/
def setEach : List (String × Json) → Store → Disk → Except Failure (Store × Disk)
  | [], s, disk => .ok (s, disk)
  | (name, value) :: changes, s, disk =>
    match s.set disk name value with
    | (.ok (), s, disk) => setEach changes s disk
    | (.error failure, _, _) => .error failure

/-- The environment is kept in the file, as the text of its document. -/
structure Kept (path : String) (s : Store) (disk : Disk) : Prop where
  backend : s.backend = .file path
  text : disk.readText? path = some (.ok (savedText s.document))

section

variable {path name : String} {value : Json} {s s' : Store} {disk disk' : Disk}
  {changes : List (String × Json)}

/-! ## Changes -/

/-- A variable that is set is a member of the document. -/
theorem document_of_set (h : s.set disk name value = (.ok (), s', disk')) :
    ∃ members, s.document = .obj members ∧ s'.document = .obj (Json.insert name value members) := by
  cases sets_of_set h with
  | saved members backend _ hdocument hsave => exact ⟨members, hdocument, rfl⟩

theorem carriageReturn_notMem_savedText (document : Json) :
    '\r' ∉ (savedText document).toList := by
  rw [savedText, Json.render, String.toList_ofList]
  exact Json.carriageReturn_notMem_chars (by decide) (by decide) 0 document

/-- A change that succeeds writes the whole document. -/
theorem kept_of_set (hbackend : s.backend = .file path)
    (h : s.set disk name value = (.ok (), s', disk')) : Kept path s' disk' := by
  cases sets_of_set h with
  | saved members backend _ hdocument hsave =>
      rw [hbackend] at hsave
      obtain ⟨written, hwrites, hwritten⟩ := writes_of_save hsave
      cases written with
      | error fault => cases hwritten
      | ok done =>
          cases hwritten
          exact ⟨rfl, Disk.readText?_of_read? (carriageReturn_notMem_savedText _)
            (Disk.read?_of_writes hwrites)⟩

/-- A run of changes that succeeds is a first change and a run behind it. -/
theorem exists_set_of_setEach_cons (h : setEach ((name, value) :: changes) s disk = .ok (s', disk')) :
    ∃ next nextDisk, s.set disk name value = (.ok (), next, nextDisk) ∧
      setEach changes next nextDisk = .ok (s', disk') := by
  rw [setEach] at h
  split at h
  · rename_i next nextDisk hset
    exact ⟨next, nextDisk, hset, h⟩
  · exact absurd h (by simp)

theorem exists_setEach_of_append {before after : List (String × Json)}
    (h : setEach (before ++ after) s disk = .ok (s', disk')) :
    ∃ between betweenDisk, setEach before s disk = .ok (between, betweenDisk) ∧
      setEach after between betweenDisk = .ok (s', disk') := by
  induction before generalizing s disk with
  | nil => exact ⟨s, disk, rfl, h⟩
  | cons change before ih =>
      obtain ⟨next, nextDisk, hset, hrest⟩ := exists_set_of_setEach_cons h
      obtain ⟨between, betweenDisk, hbefore, hafter⟩ := ih hrest
      exact ⟨between, betweenDisk, by rw [setEach, hset]; exact hbefore, hafter⟩

/-- After a run of changes the file holds the document. -/
theorem kept_of_setEach (hbackend : s.backend = .file path) (hne : changes ≠ [])
    (h : setEach changes s disk = .ok (s', disk')) : Kept path s' disk' := by
  induction changes generalizing s disk with
  | nil => exact absurd rfl hne
  | cons change changes ih =>
      obtain ⟨next, nextDisk, hset, hrest⟩ := exists_set_of_setEach_cons h
      have hkept := kept_of_set hbackend hset
      cases changes with
      | nil =>
          cases hrest
          exact hkept
      | cons change changes => exact ih hkept.backend (List.cons_ne_nil _ _) hrest

theorem exists_members_of_setEach (hdocument : ∃ members, s.document = .obj members)
    (h : setEach changes s disk = .ok (s', disk')) : ∃ members, s'.document = .obj members := by
  induction changes generalizing s disk with
  | nil =>
      cases h
      exact hdocument
  | cons change changes ih =>
      obtain ⟨next, nextDisk, hset, hrest⟩ := exists_set_of_setEach_cons h
      obtain ⟨members, -, hnext⟩ := document_of_set hset
      exact ih ⟨_, hnext⟩ hrest

/-- What holds of all parts of the document and of the values goes on to hold, if members can be
added to objects. -/
theorem every_of_setEach {P : Json → Prop}
    (hinsert : ∀ {name value members}, P (.obj members) → P (.obj (Json.insert name value members)))
    (hdocument : s.document.Every P) (hchanges : ∀ change ∈ changes, change.2.Every P)
    (h : setEach changes s disk = .ok (s', disk')) : s'.document.Every P := by
  induction changes generalizing s disk with
  | nil =>
      cases h
      exact hdocument
  | cons change changes ih =>
      obtain ⟨hchange, hchanges⟩ := List.forall_mem_cons.mp hchanges
      obtain ⟨next, nextDisk, hset, hrest⟩ := exists_set_of_setEach_cons h
      obtain ⟨members, hobj, hnext⟩ := document_of_set hset
      rw [hobj, Json.every_obj] at hdocument
      refine ih ?_ hchanges hrest
      rw [hnext, Json.every_obj]
      exact ⟨hinsert hdocument.1, Json.forall_mem_insert hchange hdocument.2⟩

/-! ## Opening -/

theorem ofText_eq (text : String) : ofText text = ((Json.read? text).map rooted).getD (.obj []) := by
  unfold ofText Json.read?
  cases Json.read text <;> rfl

/-- The next start finds the document as it is read from its own text. -/
theorem openFile_of_kept (h : Kept path s disk) :
    openFile disk path =
      .ok { document := ((Json.reread s.document).map rooted).getD (.obj [])
            backend := .file path } := by
  rw [openFile, load, h.text]
  simp only [ofText_eq, savedText, Json.read?_render Json.legible_pretty]
  rfl

/-- What is opened is an object that was read, or the empty object. -/
theorem of_openFile (h : openFile disk path = .ok s) :
    s.backend = .file path ∧ (∃ members, s.document = .obj members) ∧ s.document.WellRead := by
  have hempty : (Json.obj []).WellRead := by simp [Json.WellRead, Json.ShortInt, Json.DistinctNames]
  have hrooted (v : Json) (hv : v.WellRead) :
      (∃ members, rooted v = .obj members) ∧ (rooted v).WellRead := by
    cases v with
    | obj members => exact ⟨⟨members, rfl⟩, hv⟩
    | _ => exact ⟨⟨[], rfl⟩, hempty⟩
  unfold openFile load at h
  split at h
  · cases h
    exact ⟨rfl, ⟨[], rfl⟩, hempty⟩
  · exact absurd h (by simp [Except.map])
  · cases h
    refine ⟨rfl, ?_⟩
    dsimp only
    unfold ofText
    split
    · rename_i document hread
      exact hrooted document (Json.wellRead_of_read hread)
    · exact ⟨⟨[], rfl⟩, hempty⟩

/-- The file always holds the environment: after each of any number of changes the next start
opens the same document, with the same order of names at every level.  The environment was opened
without floating-point numbers, and the values have none. -/
theorem openFile_of_setEach {before after : List (String × Json)}
    (hopen : openFile disk path = .ok s) (hdocument : s.document.Every Json.NotFloat)
    (hchanges : ∀ change ∈ before ++ after,
      change.2.Every fun p => p.ShortInt ∧ p.DistinctNames ∧ p.NotFloat)
    (hne : before ≠ []) (h : setEach (before ++ after) s disk = .ok (s', disk')) :
    ∃ between betweenDisk, setEach before s disk = .ok (between, betweenDisk) ∧
      openFile betweenDisk path = .ok between := by
  obtain ⟨between, betweenDisk, hbefore, -⟩ := exists_setEach_of_append h
  refine ⟨between, betweenDisk, hbefore, ?_⟩
  obtain ⟨hbackend, hobj, hread⟩ := of_openFile hopen
  have hkept := kept_of_setEach hbackend hne hbefore
  obtain ⟨members, hmembers⟩ := exists_members_of_setEach hobj hbefore
  have hevery : between.document.Every fun p => p.ShortInt ∧ p.DistinctNames ∧ p.NotFloat := by
    refine every_of_setEach (fun ⟨_, hnames, _⟩ => ⟨trivial, Json.nodup_insert hnames, trivial⟩) ?_
      (fun change hmem => hchanges change (List.mem_append_left _ hmem)) hbefore
    exact fun p hp => ⟨(hread p hp).1, (hread p hp).2, hdocument p hp⟩
  rw [openFile_of_kept hkept, Json.reread_eq_self hevery, ← hkept.backend]
  obtain ⟨document, backend⟩ := between
  cases hmembers
  rfl

theorem openFile_of_setEach_overwritten :
    ∃ between betweenDisk,
      setEach [("b", .int (-10)), ("a", .arr [.null, .str "\r\n"]), ("b", .obj [("", .bool true)])]
        { document := .obj [], backend := .file "env.json" } {} = .ok (between, betweenDisk) ∧
      openFile betweenDisk "env.json" = .ok between := by
  refine openFile_of_setEach (show openFile {} "env.json" = .ok _ from rfl) (by decide) ?_
    (List.cons_ne_nil _ _)
    (show setEach ([("b", .int (-10)), ("a", .arr [.null, .str "\r\n"]),
        ("b", .obj [("", .bool true)])] ++ []) _ _ = .ok (_, _) from rfl)
  decide

/-- Whether the text that the last change wrote is JSON for the next start.  It is exactly if no
floating-point number in the environment is infinite or no number; then the next start has the same
variables in the same order, and otherwise it has none. -/
theorem read_kept_iff_finite (hopen : openFile disk path = .ok s)
    (hchanges : ∀ change ∈ changes, ∃ text, Json.read text = .ok change.2) (hne : changes ≠ [])
    (h : setEach changes s disk = .ok (s', disk')) :
    (∃ text, disk'.readText? path = some (.ok text) ∧
      ((∃ v, Json.read text = .ok v) ↔ s'.document.Every Json.Finite)) ∧
    (s'.document.Every Json.Finite → ∃ reopened, openFile disk' path = .ok reopened ∧
      reopened.members?.map (·.map Prod.fst) = s'.members?.map (·.map Prod.fst)) ∧
    (¬s'.document.Every Json.Finite →
      openFile disk' path = .ok { document := .obj [], backend := .file path }) := by
  obtain ⟨hbackend, hobj, hread⟩ := of_openFile hopen
  have hkept := kept_of_setEach hbackend hne h
  obtain ⟨members, hmembers⟩ := exists_members_of_setEach hobj h
  have hwell : s'.document.WellRead := by
    refine every_of_setEach (fun ⟨_, hnames⟩ => ⟨trivial, Json.nodup_insert hnames⟩) hread ?_ h
    intro change hmem
    obtain ⟨text, htext⟩ := hchanges change hmem
    exact Json.wellRead_of_read htext
  have hiff : (Json.reread s'.document).isSome = true ↔ s'.document.Every Json.Finite := by
    rw [Json.isSome_reread_iff]
    exact ⟨Every.mono fun _ hp => hp.2, fun hfinite p hp => ⟨(hwell p hp).1, hfinite p hp⟩⟩
  refine ⟨⟨_, hkept.text, ?_⟩, fun hfinite => ?_, fun hinfinite => ?_⟩
  · rw [← hiff, ← Json.read?_render Json.legible_pretty, ← savedText, Json.read?]
    cases Json.read (savedText s'.document) <;> simp
  · obtain ⟨w, hw⟩ := Option.isSome_iff_exists.mp (hiff.mpr hfinite)
    refine ⟨_, openFile_of_kept hkept, ?_⟩
    rw [hmembers, Json.reread, Option.map_eq_some_iff] at hw
    obtain ⟨read, hreread, hw⟩ := hw
    have hnames := Json.map_fst_rereadMembers hreread
    have hdistinct : (members.map Prod.fst).Nodup := by
      rw [hmembers] at hwell
      exact (Json.every_obj.mp hwell).1.2
    have hread : Json.ofMembers read = read := Json.ofMembers_eq_self (hnames ▸ hdistinct)
    simp only [members?, hmembers, Json.reread, hreread]
    simp [rooted, hread, hnames]
  · have hnone : Json.reread s'.document = none := by
      rw [← Option.not_isSome_iff_eq_none, hiff]
      exact hinfinite
    rw [openFile_of_kept hkept, hnone]
    rfl

/-- A number beyond the doubles is read as infinity, and what is written for infinity is not read:
the next start has lost the other variable too. -/
theorem variables_lost_behind_infinity :
    ∃ s disk,
      setEach [("keep", .int 1), ("big", .float (1.0 / 0.0))]
        { document := .obj [], backend := .file "env.json" } {} = .ok (s, disk) ∧
      Json.read "1e400" = .ok (.float (1.0 / 0.0)) ∧ s.get? "keep" = some (.int 1) ∧
      openFile disk "env.json" = .ok { document := .obj [], backend := .file "env.json" } := by
  have hchanges : ∀ change ∈ [("keep", Json.int 1), ("big", Json.float (1.0 / 0.0))],
      ∃ text, Json.read text = .ok change.2 := by
    simp only [List.forall_mem_cons, List.not_mem_nil, false_imp_iff, implies_true, and_true]
    exact ⟨⟨"1", rfl⟩, ⟨"1e400", rfl⟩⟩
  refine ⟨_, _, rfl, rfl, rfl, ?_⟩
  exact (read_kept_iff_finite (show openFile {} "env.json" = .ok _ from rfl) hchanges
    (List.cons_ne_nil _ _) rfl).2.2 (by decide)

end

end Store
end Foldbook
