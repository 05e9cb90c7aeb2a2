import Foldbook.Proofs.Environment.BrokenOff
import Foldbook.Proofs.Environment.Reading
import Foldbook.Proofs.Substitution

/-!
# What changes the environment

Two things set variables: an assignment line, and the request of a fold that
keeps its response (`Change`).

* `Change.define_leaves` and `Change.issue_leaves`: they either leave
  everything as it was, or what setting the variable ends with.
* `Change.environment_of_fails`: what is left by a change that fails.  The
  document has changed exactly if the variable was about to get a new value:
  it is set before it is kept, and stays when it cannot be kept
  (`Store.Unsaved`).  A file has changed exactly if the write was broken off
  (`Store.BrokenOff`): then the environment that it held is gone.
* `Act.members_of_runLines`: whatever else a document does, the environment
  stays an object, and its names stay in their places.
-/

namespace Foldbook

/-! ## Setting a variable -/

namespace Store

variable {s s' : Store} {disk disk' : Disk} {name : String} {value : Json}

/-- The variable has been set, but the file could not be written. -/
structure Unsaved (s : Store) (disk : Disk) (name : String) (value : Json) (s' : Store)
    (disk' : Disk) : Prop where
  document : ∃ members, s.document = .obj members ∧
    s'.document = .obj (Json.insert name value members)
  backend : s'.backend = s.backend
  writes : ∃ path fault, s.backend = .file path ∧
    disk.Writes path (Text.Utf8.encode (savedText s'.document)) (.error fault) disk'

/-- A change that fails has changed the document if there is an object that did not have the
member. -/
theorem document_ne_iff_of_sets {failure : Failure}
    (h : s.Sets disk name value (.error failure) s' disk') :
    s'.document ≠ s.document ↔
      ∃ members, s.document = .obj members ∧ Json.find? name members ≠ some value := by
  cases h with
  | unsaved members fault _ hobject hfails =>
      simp only [hobject, Json.obj.injEq, ne_eq, Json.insert_eq_self_iff, exists_eq_left']
  | rootless hrootless =>
      refine ⟨fun hne => absurd rfl hne, ?_⟩
      rintro ⟨members, hobject, -⟩
      exact absurd hobject (hrootless members)

/-- Setting a variable adds its name at the end, or leaves all names in their places. -/
theorem members_of_sets {outcome : Except Failure Unit}
    {members : List (String × Json)} (h : s.Sets disk name value outcome s' disk')
    (hdocument : s.document = .obj members) :
    ∃ now, s'.document = .obj now ∧ members.map Prod.fst <+: now.map Prod.fst := by
  have hinsert : members.map Prod.fst <+: (Json.insert name value members).map Prod.fst := by
    rw [Json.map_fst_insert]
    split
    · exact List.prefix_refl _
    · exact List.prefix_append _ _
  cases h with
  | saved known _ _ hknown =>
      cases hdocument.symm.trans hknown
      exact ⟨_, rfl, hinsert⟩
  | unsaved known _ _ hknown =>
      cases hdocument.symm.trans hknown
      exact ⟨_, rfl, hinsert⟩
  | rootless hrootless => exact absurd hdocument (hrootless members)

/-- If the environment is an object, then only keeping it can fail. -/
theorem unsaved_of_sets {failure : Failure}
    (h : s.Sets disk name value (.error failure) s' disk')
    (hdocument : ∃ members, s.document = .obj members) : s.Unsaved disk name value s' disk' := by
  cases h with
  | unsaved members fault _ hobject hfails =>
      refine ⟨⟨members, hobject, rfl⟩, rfl, ?_⟩
      cases hbackend : s.backend with
      | memory saves =>
          rw [hbackend] at hfails
          cases hfails
      | file path =>
          rw [hbackend] at hfails
          obtain ⟨written, hwrites, hwritten⟩ := writes_of_save hfails
          cases written with
          | error fault => exact ⟨path, fault, rfl, hwrites⟩
          | ok done => cases hwritten
  | rootless hrootless =>
      obtain ⟨members, hobject⟩ := hdocument
      exact absurd hobject (hrootless members)

namespace Unsaved

theorem get? (h : s.Unsaved disk name value s' disk') : s'.get? name = some value := by
  obtain ⟨members, -, hset⟩ := h.document
  simp [Store.get?, members?, hset]

/-- The next change that succeeds keeps the variable with its own. -/
theorem kept_of_set (h : s.Unsaved disk name value s' disk') {later disk'' : Disk} {other : String}
    {v : Json} {s'' : Store} (hother : other ≠ name)
    (hset : s'.set later other v = (.ok (), s'', disk'')) :
    s''.get? name = some value ∧ ∃ path, s''.Kept path disk'' := by
  obtain ⟨path, -, hpath, -⟩ := h.writes
  refine ⟨?_, path, Store.kept_of_set (h.backend.trans hpath) hset⟩
  obtain ⟨members, hdocument, hdocument'⟩ := document_of_set hset
  have hget := h.get?
  simp only [Store.get?, members?, hdocument, hdocument', Option.bind_eq_bind,
    Option.bind_some] at hget ⊢
  rw [Json.find?_insert_of_ne hother.symm, hget]

/-- If it was the write that was broken off, then the file has only what had been written. -/
theorem brokenOff (h : s.Unsaved disk name value s' disk') {path : String} {kept : Nat}
    (hbackend : s.backend = .file path) (hcut : disk.CutsShort path kept) :
    s'.BrokenOff path kept disk' := by
  obtain ⟨members, -, hdocument⟩ := h.document
  obtain ⟨path', fault, hpath, hwrites⟩ := h.writes
  cases hbackend.symm.trans hpath
  exact brokenOff_of_read? hdocument (h.backend.trans hbackend)
    (Disk.read?_of_cutsShort hcut hwrites)

theorem files_ne_iff (h : s.Unsaved disk name value s' disk') :
    disk'.files ≠ disk.files ↔ ∃ path kept, s.backend = .file path ∧ disk.CutsShort path kept ∧
      disk.read? path ≠ some ((Text.Utf8.encode (savedText s'.document)).take kept) := by
  obtain ⟨path, fault, hpath, hwrites⟩ := h.writes
  rw [Disk.files_ne_iff_of_writes hwrites]
  simp only [hpath, Backend.file.injEq, exists_and_left, exists_eq_left']

end Unsaved

/-- Only a variable that is given to an object can end up in a file. -/
theorem files_ne_iff_of_sets {failure : Failure}
    (h : s.Sets disk name value (.error failure) s' disk') :
    disk'.files ≠ disk.files ↔ ∃ members path kept, s.document = .obj members ∧
      s.backend = .file path ∧ disk.CutsShort path kept ∧ disk.read? path ≠
        some ((Text.Utf8.encode (savedText (.obj (Json.insert name value members)))).take kept) := by
  by_cases hobject : ∃ members, s.document = .obj members
  · obtain ⟨members, hmembers⟩ := hobject
    have hunsaved := unsaved_of_sets h ⟨members, hmembers⟩
    obtain ⟨_, hknown, hdocument⟩ := hunsaved.document
    cases hmembers.symm.trans hknown
    rw [hunsaved.files_ne_iff, hdocument]
    simp only [hmembers, Json.obj.injEq, exists_and_left, exists_eq_left']
  · cases h with
    | unsaved members _ _ hmembers _ => exact absurd ⟨members, hmembers⟩ hobject
    | rootless hrootless =>
        refine ⟨fun hne => absurd rfl hne, ?_⟩
        rintro ⟨members, -, -, hmembers, -⟩
        exact absurd hmembers (hrootless members)

end Store

/-! ## Changes -/

/-- What can change the environment: an assignment line, and the request of a fold. -/
inductive Change where
  | assignment (line : String)
  | request (fold : Fold)

namespace Change

variable {change : Change} {r behind : Runner} {name : String} {value : Json}

/-- The variable and its value, if the change goes as far as setting it. -/
def given? (r : Runner) : Change → Option (String × Json)
  | assignment line => do
    let assignment ← Template.assignment? line
    let text ← ((Act.settle assignment.value).perform r).1.toOption
    let value ← (Json.read text).toOption
    return (assignment.name, value)
  | request fold => do
    let reply ← ((Act.send fold.request fold.debug fold.verbose).perform r).1.toOption
    if fold.captureName.isEmpty then none else return (fold.captureName, reply.value)

/-- The change ends with a failure, which a fold reports in its results. -/
def Fails (r behind : Runner) : Change → Prop
  | assignment line => ∃ f, (Act.define line).perform r = (.error (.failure f), behind)
  | request fold => fold.failed = false ∧
      ∃ g, (fold.issue (Act.services r.rounds)).perform r = (.ok g, behind) ∧ g.failed = true

/-- What a change leaves that succeeds or fails: everything as it was, or what setting the variable
ends with. -/
def Leaves (change : Change) (r behind : Runner) (succeeds : Bool) : Prop :=
  match change.given? r with
  | none => behind.store = r.store ∧ behind.disk = r.disk
  | some (name, value) => ∃ outcome : Except Failure Unit, succeeds = outcome.isOk ∧
      r.store.Sets r.disk name value outcome behind.store behind.disk

open Act

theorem define_leaves (line : String) (r : Runner) :
    (define line).Ends r fun answer behind => (assignment line).Leaves r behind answer.isOk := by
  simp only [Leaves, given?]
  unfold define
  cases Template.assignment? line with
  | none => exact ⟨rfl, rfl⟩
  | some found =>
      obtain ⟨settled, between, hsettle⟩ : ∃ settled between,
          (settle found.value).perform r = (settled, between) := ⟨_, _, rfl⟩
      -- Settling only reads, so the variable is set in the environment of `r`.
      obtain ⟨hstore, hdisk⟩ := same_of_keeps (fun _ => keeps_settle _) hsettle
      simp only [ends_bind, Option.bind_eq_bind, Option.bind_some]
      rw [Ends, hsettle]
      cases settled with
      | error stop => exact ⟨hstore, hdisk⟩
      | ok text =>
          simp only [ends_ofExcept, Except.toOption, Option.bind_some]
          cases Json.read text with
          | error fault => exact ⟨hstore, hdisk⟩
          | ok value =>
              have hsets := setVariable_sets found.name value between
              rw [hstore, hdisk] at hsets
              refine hsets.mono ?_
              rintro _ _ ⟨outcome, store, disk, log, rfl, rfl, houtcome⟩
              cases outcome with
              | error f => exact ⟨.error f, rfl, houtcome⟩
              | ok done => exact ⟨.ok done, rfl, houtcome⟩

theorem issue_leaves {fold : Fold} (hfold : fold.failed = false) (rounds : Nat) (r : Runner) :
    (fold.issue (services rounds)).Ends r fun answer behind =>
      ∀ g, answer = .ok g → (request fold).Leaves r behind !g.failed := by
  obtain ⟨answer, between, hsend⟩ : ∃ answer between,
      (Act.send fold.request fold.debug fold.verbose).perform r = (answer, between) := ⟨_, _, rfl⟩
  obtain ⟨hstore, hdisk⟩ := same_of_keeps (fun _ => keeps_send _ _ _) hsend
  simp only [Leaves, given?, hsend]
  unfold Fold.issue
  -- `f` is the fold marked as sent.  Sending it is sending `fold`, and it has failed as little.
  extract_lets f
  have hrequest : (Act.send f.request f.debug f.verbose).perform r = (answer, between) := hsend
  have hfailed : f.failed = false := hfold
  have hname : f.captureName = fold.captureName := rfl
  clear_value f
  simp only [services, ends_bind, ends_attempt]
  rw [Ends, hrequest, ← hname]
  rcases answer with (e | destination | message) | reply
  · rintro g ⟨⟩
    exact ⟨hstore, hdisk⟩
  · rintro g ⟨⟩
  · rintro g ⟨⟩
  · simp only [Except.toOption, Option.bind_eq_bind, Option.bind_some]
    split
    · rintro g ⟨⟩
      exact ⟨hstore, hdisk⟩
    · have hsets := setVariable_sets f.captureName reply.value between
      rw [hstore, hdisk] at hsets
      simp only [ends_bind, ends_attempt]
      refine hsets.mono ?_
      rintro _ _ ⟨outcome, store, disk, log, rfl, rfl, houtcome⟩
      cases outcome with
      | error e =>
          rintro g ⟨⟩
          exact ⟨.error e, rfl, houtcome⟩
      | ok done =>
          rintro g ⟨⟩
          exact ⟨.ok done, congrArg not hfailed, houtcome⟩

theorem leaves_of_fails (h : change.Fails r behind) : change.Leaves r behind false := by
  cases change with
  | assignment line =>
      obtain ⟨f, hdefine⟩ := h
      have hleaves := define_leaves line r
      rw [Ends, hdefine] at hleaves
      exact hleaves
  | request fold =>
      obtain ⟨hfold, g, hissue, hfailed⟩ := h
      have hleaves := issue_leaves hfold r.rounds r
      rw [Ends, hissue] at hleaves
      have hrequest := hleaves g rfl
      rw [hfailed] at hrequest
      exact hrequest

/-- The change goes as far as giving a member of the document its value. -/
structure Gives (change : Change) (r : Runner) (name : String) (value : Json)
    (members : List (String × Json)) : Prop where
  given : change.given? r = some (name, value)
  document : r.store.document = .obj members

/-- A change that fails leaves the environment as it was unless it goes as far as giving a member of
the document a new value, which can then not be kept.  The variable has that value from then on, and
the next change that succeeds puts it into the file.

The files are left as they were unless the write is broken off.  Then the file has only the first
octets of the new text, and without the others the next start finds no variables. -/
theorem environment_of_fails (h : change.Fails r behind) :
    behind.store.backend = r.store.backend ∧
    (behind.store.document ≠ r.store.document ↔ ∃ name value members,
      change.Gives r name value members ∧ Json.find? name members ≠ some value) ∧
    (behind.disk.files ≠ r.disk.files ↔ ∃ name value members path kept,
      change.Gives r name value members ∧ r.store.backend = .file path ∧
      r.disk.CutsShort path kept ∧ r.disk.read? path ≠ some ((Text.Utf8.encode
        (Store.savedText (.obj (Json.insert name value members)))).take kept)) ∧
    ∀ name value members, change.Gives r name value members →
      r.store.Unsaved r.disk name value behind.store behind.disk ∧
      behind.store.get? name = some value ∧
      (∀ path kept, r.store.backend = .file path → r.disk.CutsShort path kept →
        behind.store.BrokenOff path kept behind.disk) ∧
      ∀ later other v s' disk', other ≠ name →
        behind.store.set later other v = (.ok (), s', disk') →
          s'.get? name = some value ∧ ∃ path, s'.Kept path disk' := by
  have hleaves := leaves_of_fails h
  unfold Leaves at hleaves
  cases hgiven : change.given? r with
  | none =>
      rw [hgiven] at hleaves
      obtain ⟨hstore, hdisk⟩ := hleaves
      have hnone {name value members} : ¬change.Gives r name value members := by
        rintro ⟨hsome, -⟩
        cases hgiven.symm.trans hsome
      simp [hstore, hdisk, hnone]
  | some given =>
      obtain ⟨name, value⟩ := given
      rw [hgiven] at hleaves
      obtain ⟨outcome | _, hfailed, hsets⟩ := hleaves
      case ok => cases hfailed
      -- Setting the variable is what has failed.
      refine ⟨Store.backend_of_sets hsets, ?_, ?_, ?_⟩
      · rw [Store.document_ne_iff_of_sets hsets]
        constructor
        · rintro ⟨members, hobject, hnew⟩
          exact ⟨name, value, members, ⟨hgiven, hobject⟩, hnew⟩
        · rintro ⟨_, _, members, ⟨hsame, hobject⟩, hnew⟩
          cases hgiven.symm.trans hsame
          exact ⟨members, hobject, hnew⟩
      · rw [Store.files_ne_iff_of_sets hsets]
        constructor
        · rintro ⟨members, path, kept, hobject, hwritten⟩
          exact ⟨name, value, members, path, kept, ⟨hgiven, hobject⟩, hwritten⟩
        · rintro ⟨_, _, members, path, kept, ⟨hsame, hobject⟩, hwritten⟩
          cases hgiven.symm.trans hsame
          exact ⟨members, path, kept, hobject, hwritten⟩
      · rintro _ _ members ⟨hsame, hobject⟩
        cases hgiven.symm.trans hsame
        have hunsaved := Store.unsaved_of_sets hsets ⟨members, hobject⟩
        exact ⟨hunsaved, hunsaved.get?, fun path kept => hunsaved.brokenOff,
          fun later other v s' disk'' => hunsaved.kept_of_set⟩

/-- A runner whose environment is to be kept in a directory that does not exist. -/
def homelessRunner (members : List (String × Json)) : Runner :=
  { store := { document := .obj members, backend := .file "missing/env.json" } }

/-- A runner whose environment has its file, but there is no space left. -/
def crampedRunner (members : List (String × Json)) : Runner :=
  { store := { document := .obj members, backend := .file "env.json" }
    disk :=
      { files := [("env.json", Text.Utf8.encode (Store.savedText (.obj members)))]
        mishaps := [some (.cutShort 0 "[Errno 28] No space left on device")] } }

/-- An assignment whose variable cannot be kept fails. -/
theorem fails_of_setVariable {f : Failure}
    (h : (setVariable "a" (.int 1)).perform r = (.error (.failure f), behind)) :
    (assignment ("@" ++ "a" ++ " = " ++ "1")).Fails r behind ∧
      (assignment ("@" ++ "a" ++ " = " ++ "1")).given? r = some ("a", .int 1) := by
  have hread : Json.read "1" = .ok (.int 1) := by decide +kernel
  have hbegins : ∃ c ∈ "1".toList.head?, Text.isBlank c = false := ⟨'1', rfl, by decide⟩
  have hspan : Template.hasSpan "1".toList = false :=
    Template.hasSpan_eq_false_of_unpaired (Json.unpaired_of_notMem (by decide))
  constructor
  · refine ⟨f, ?_⟩
    rw [perform_define (by decide) (by decide) ⟨hbegins, by decide, hspan⟩ hread, perform_bind, h]
  · rw [given?, Template.assignment?_spaced (by decide) (by decide) hbegins (by decide)]
    simp [perform_settle_of_not_hasSpan hspan, hread, Except.toOption]

/-- In both places the variable is in the document although it could not be kept, and in the second
one the variable that had been kept before is lost. -/
theorem environment_of_fails_unkept :
    (∃ behind, (assignment ("@" ++ "a" ++ " = " ++ "1")).Fails (homelessRunner []) behind ∧
      behind.store.document = .obj [("a", .int 1)]) ∧
    ∃ behind, (assignment ("@" ++ "a" ++ " = " ++ "1")).Fails (crampedRunner [("b", .int 2)])
        behind ∧
      behind.store.document = .obj [("b", .int 2), ("a", .int 1)] ∧
      Store.Lost behind.disk "env.json" := by
  constructor
  · have hset : (setVariable "a" (.int 1)).perform (homelessRunner []) =
        (.error (.failure (.notSaved (.noSuchPlace "missing/env.json"))),
          homelessRunner [("a", .int 1)]) := rfl
    obtain ⟨hfails, hgiven⟩ := fails_of_setVariable hset
    obtain ⟨-, -, -, hgives⟩ := environment_of_fails hfails
    obtain ⟨hunsaved, -⟩ := hgives "a" (.int 1) [] ⟨hgiven, rfl⟩
    obtain ⟨members, hmembers, hdocument⟩ := hunsaved.document
    cases hmembers
    exact ⟨_, hfails, hdocument⟩
  · have hset : (setVariable "a" (.int 1)).perform (crampedRunner [("b", .int 2)]) =
        (.error (.failure (.notSaved (.cutShort "[Errno 28] No space left on device"))),
          { crampedRunner [("b", .int 2), ("a", .int 1)] with
            disk := { files := [("env.json", [])] } }) := rfl
    obtain ⟨hfails, hgiven⟩ := fails_of_setVariable hset
    obtain ⟨-, -, -, hgives⟩ := environment_of_fails hfails
    obtain ⟨hunsaved, -, hbroken, -⟩ := hgives "a" (.int 1) [("b", .int 2)] ⟨hgiven, rfl⟩
    obtain ⟨members, hmembers, hdocument⟩ := hunsaved.document
    cases hmembers
    have hbrokenOff := hbroken "env.json" 0 rfl ⟨rfl, _, rfl⟩
    exact ⟨_, hfails, hdocument, hbrokenOff.lost (by decide +kernel)⟩

end Change

/-! ## Documents -/

namespace Act

/-- Behind a document the environment is still an object, and no variable has left its place. -/
theorem members_of_runLines {members : List (String × Json)} {r : Runner}
    (h : r.store.document = .obj members) (lines : List String) (plainFirst : Bool) :
    (runLines lines plainFirst).Ends r fun _ behind =>
      ∃ now, behind.store.document = .obj now ∧ members.map Prod.fst <+: now.map Prod.fst := by
  refine keeps_runLines (I := fun s _ =>
    ∃ now, s.document = .obj now ∧ members.map Prod.fst <+: now.map Prod.fst) ?_ lines plainFirst r
    ⟨members, h, List.prefix_refl _⟩
  rintro name value r ⟨now, hnow, hprefix⟩
  refine (setVariable_sets name value r).mono ?_
  rintro _ _ ⟨outcome, store, disk, log, -, rfl, hsets⟩
  obtain ⟨next, hnext, hnames⟩ := Store.members_of_sets hsets hnow
  exact ⟨next, hnext, hprefix.trans hnames⟩

end Act

end Foldbook
