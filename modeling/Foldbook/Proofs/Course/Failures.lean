import Foldbook.Proofs.Course.Run
import Foldbook.Proofs.Rewriting

/-!
# How far failures reach

A failed operation marks the fold that it was tried for and every fold around
that one, and nothing else.

* `Services.raising` has operations that raise their failures.
  `run_runLines_raising`: no failure gets out of a run.
* `Course.Inside.failed_eq` and `Course.Inside.read_iff` say of one fold when
  it has failed and which of its lines are read.
* `FoldCourse.Faithful` puts together what holds of a fold with all that
  happened in it, and `runLines_failures` says that it holds of every fold
  of every run.
-/

namespace Foldbook

open Text

/-! ## Operations that raise -/

section Raising

variable {m : Type → Type} [Monad m] {α : Type}

/-- Carries out an operation and catches the failure that it raises. -/
def catching (x : ExceptT Failure m α) : ExceptT Failure m (Except Failure α) :=
  tryCatch (Except.ok <$> x) fun e => pure (.error e)

/-- Services whose operations raise their failures, which are caught where the interpreter asks. -/
def Services.raising (s : Services m) : Services (ExceptT Failure m) where
  assign line := catching (ExceptT.mk (s.assign line))
  send request debug verbose := catching (ExceptT.mk (s.send request debug verbose))
  capture name value := catching (ExceptT.mk (s.capture name value))
  condition text := catching (ExceptT.mk (s.condition text))
  note entry := ExceptT.lift (s.note entry)
  rounds := s.rounds

variable [LawfulMonad m]

theorem run_catching (x : m (Except Failure α)) :
    (catching (ExceptT.mk x)).run = Except.ok <$> x := by
  rw [catching, ExceptT.run_tryCatch, ExceptT.run_map, ExceptT.run_mk, bind_map_left,
    map_eq_pure_bind]
  refine bind_congr fun answer => ?_
  cases answer <;> rfl

theorem simulates_raising (s : Services m) :
    Simulates (fun x y => x.run = Except.ok <$> y) s.raising s where
  pure a := by simp
  bind hxy hfg := by
    rw [ExceptT.run_bind, hxy, bind_map_left, map_bind]
    exact bind_congr hfg
  assign line := run_catching _
  send request debug verbose := run_catching _
  capture name value := run_catching _
  condition text := run_catching _
  note entry := by simp [Services.raising]
  rounds := rfl

/-- Every failure that is raised is caught, and the run comes to its end. -/
theorem run_runLines_raising (s : Services m) (lines : List String) (plainFirst : Bool) :
    (Document.runLines s.raising lines plainFirst).run =
      Except.ok <$> Document.runLines s lines plainFirst :=
  (simulates_raising s).runLines lines plainFirst

end Raising

/-! ## One fold -/

namespace Step

/-- Something failed in this step. -/
def failed : Step → Bool
  | line _ reading => (reading.getD []).any Attempt.failed
  | request events => events.any Event.failed
  | nested result => result.failed

/-- The step is passing the divider. -/
def isDivider : Step → Bool
  | line text _ => Marker.isDivider text
  | request _ => false
  | nested _ => false

@[simp] theorem failed_line (text : String) (reading : Option (List Attempt)) :
    (line text reading).failed = (reading.getD []).any Attempt.failed := rfl

@[simp] theorem failed_request (events : List Event) :
    (request events).failed = events.any Event.failed := rfl

@[simp] theorem failed_nested (result : Fold) : (nested result).failed = result.failed := rfl

@[simp] theorem isDivider_line (text : String) (reading : Option (List Attempt)) :
    (line text reading).isDivider = Marker.isDivider text := rfl

@[simp] theorem isDivider_request (events : List Event) : (request events).isDivider = false := rfl

@[simp] theorem isDivider_nested (result : Fold) : (nested result).isDivider = false := rfl

end Step

theorem Fold.failed_enclose (f inner : Fold) :
    (f.enclose inner).failed = (f.failed || inner.failed) := rfl

namespace Course

variable {depth : Nat} {old : Bool} {f g : Fold} {c : Course}

/-- A fold has failed behind its course if it had failed before or if anything in the course did. -/
theorem Inside.failed_eq (h : c.Inside depth old f g) :
    g.failed = (f.failed || c.attempts.any Attempt.failed) := by
  induction h with
  | empty => simp [attempts]
  | divider _ _ ih => simpa [attempts] using ih
  | stale _ _ ih => simpa [attempts] using ih
  | own _ htakes _ ih => rw [ih, htakes.failed_eq, attempts, List.any_append, Bool.or_assoc]
  | @fold depth old f around inner result g before last start inside ending more hbefore _ hlast _
      ihinside ih =>
      have hinner : inner.failed = inside.attempts.any Attempt.failed := ihinside
      have hresult : result.failed =
          (inside.attempts.any Attempt.failed || last.any Event.failed) := by
        rw [hlast.failed_eq, ← hinner]
        rfl
      rw [ih, Fold.failed_enclose, hbefore.failed_eq, hresult, attempts]
      simp only [List.any_append, Attempt.any_failed_map_asked, Bool.or_assoc]

/-- An own line is read exactly if no divider and no failure comes before it. -/
theorem Inside.read_iff (h : c.Inside depth old f g) {before after : List Step} {text : String}
    {reading : Option (List Attempt)} (hsteps : c.steps = before ++ .line text reading :: after) :
    reading.isSome = true ↔
      old = false ∧ f.failed = false ∧ Marker.isDivider text = false ∧
        ∀ step ∈ before, step.isDivider = false ∧ step.failed = false := by
  induction h generalizing before with
  | empty => simp [steps] at hsteps
  | divider hdivider _ ih =>
      -- neither the divider nor anything behind it is read
      rcases List.cons_eq_append_iff.mp hsteps with ⟨rfl, hline⟩ | ⟨before, rfl, hmore⟩
      · obtain ⟨⟨rfl, rfl⟩, -⟩ := by simpa using hline
        simp [hdivider]
      · simp [ih hmore, hdivider]
  | stale _ _ ih =>
      rcases List.cons_eq_append_iff.mp hsteps with ⟨rfl, hline⟩ | ⟨before, rfl, hmore⟩
      · obtain ⟨⟨rfl, rfl⟩, -⟩ := by simpa using hline
        simp
      · simp [ih hmore]
  | own hdivider htakes _ ih =>
      rcases List.cons_eq_append_iff.mp hsteps with ⟨rfl, hline⟩ | ⟨before, rfl, hmore⟩
      · obtain ⟨⟨rfl, rfl⟩, -⟩ := by simpa using hline
        cases htakes with
        | kept hfailed => simp [hfailed]
        | read hfailed => simp [hfailed, hdivider]
      · rw [ih hmore, htakes.failed_eq, List.forall_mem_cons]
        simp [hdivider, and_assoc, and_left_comm]
  | fold hbefore _ hlast _ _ ih =>
      rcases List.cons_eq_append_iff.mp hsteps with ⟨rfl, hline⟩ | ⟨before, rfl, hmore⟩
      · simp at hline
      · rcases List.cons_eq_append_iff.mp hmore with ⟨rfl, hline⟩ | ⟨before, rfl, hbehind⟩
        · simp at hline
        · rw [ih hbehind, List.forall_mem_cons, List.forall_mem_cons, Fold.failed_enclose,
            hbefore.failed_eq]
          simp [and_assoc, and_left_comm]

end Course

/-! ## Folds inside of folds -/

/-- The fold has the inner one among its lines, under a header with its status, and among its
results, under a line with its label. -/
structure Fold.Shows (f inner : Fold) : Prop where
  echo : ∃ before behind, f.echo =
    before ++ (inner.header ++ inner.echo ++ inner.closingMarker ++ "\n") ++ behind
  output : ∃ before behind, endsOpen before = false ∧ f.output =
    before ++ ("### " ++ inner.title ++ inner.resultLabel ++ "\n" ++ closeLine inner.output ++
      "###\n") ++ behind

theorem Fold.shows_enclose (f : Fold) {inner : Fold} (hrendered : inner.rendered = false) :
    (f.enclose inner).Shows inner := by
  rw [enclose, absorb, renderNested, hrendered, if_neg Bool.false_ne_true]
  refine ⟨⟨f.echo, "", String.append_empty.symm⟩, closeLine f.output, "", endsOpen_closeLine _, ?_⟩
  dsimp only
  rw [← append_sectionGap f.output]
  simp only [String.append_assoc, String.append_empty]

theorem Fold.Shows.extends {f g inner : Fold} (h : f.Shows inner) (hfg : f.Extends g) :
    g.Shows inner := by
  obtain ⟨before, behind, hecho⟩ := h.echo
  obtain ⟨results, others, hclosed, houtput⟩ := h.output
  obtain ⟨lines, hlines⟩ := hfg.echo
  obtain ⟨more, hmore⟩ := hfg.output
  refine ⟨⟨before, behind ++ lines, ?_⟩, results, others ++ more, hclosed, ?_⟩
  · rw [hlines, hecho]
    simp only [String.append_assoc]
  · rw [hmore, houtput]
    simp only [String.append_assoc]

namespace Course

variable {depth : Nat} {old : Bool} {f g : Fold} {c : Course}

/-- Every fold inside is shown. -/
theorem Inside.shows (h : c.Inside depth old f g) : ∀ inner ∈ c.results, g.Shows inner := by
  induction h with
  | empty => exact fun inner hinner => absurd hinner List.not_mem_nil
  | divider _ _ ih => exact ih
  | stale _ _ ih => exact ih
  | own _ _ _ ih => exact ih
  | @fold depth old f around opened result g before last start inside ending more _ hinside hlast
      hmore _ ih =>
      have hran : FoldCourse.Ran ⟨start, inside, last, ending, result⟩ :=
        ⟨depth, opened, hinside, hlast⟩
      intro inner hinner
      rcases List.mem_cons.mp hinner with rfl | hinner
      · exact (around.shows_enclose hran.rendered).extends hmore.extends
      · exact ih inner hinner

/-- Every fold of a course runs from its start to its end. -/
theorem Inside.ran (h : c.Inside depth old f g) : ∀ fold ∈ c.folds, fold.Ran := by
  induction h with
  | empty => exact fun fold hfold => absurd hfold List.not_mem_nil
  | divider _ _ ih => exact ih
  | stale _ _ ih => exact ih
  | own _ _ _ ih => exact ih
  | fold _ hinside hlast _ ihinside ih =>
      intro fold hfold
      rcases List.mem_cons.mp hfold with rfl | hfold
      · exact ⟨_, _, hinside, hlast⟩
      · rcases List.mem_append.mp hfold with hfold | hfold
        · exact ihinside fold hfold
        · exact ih fold hfold

theorem Outside.ran (h : c.Outside) : ∀ fold ∈ c.folds, fold.Ran := by
  induction h with
  | empty => exact fun fold hfold => absurd hfold List.not_mem_nil
  | line _ ih => exact ih
  | fold hinside hlast _ ih =>
      intro fold hfold
      rcases List.mem_cons.mp hfold with rfl | hfold
      · exact ⟨_, _, hinside, hlast⟩
      · rcases List.mem_append.mp hfold with hfold | hfold
        · exact hinside.ran fold hfold
        · exact ih fold hfold

end Course

/-! ## Every fold of a run -/

/-- The folds at any depth, from the first start line to the last one: the start line, what stands
inside, and the end line. -/
def Contents.folds : Contents → List (String × Contents × Option String)
  | empty => []
  | line _ more => more.folds
  | fold start inside ending more => (start, inside, ending) :: (inside.folds ++ more.folds)

/-- No fold is left out of a course. -/
theorem Course.map_folds (c : Course) :
    c.folds.map (fun fold => (fold.start, fold.inside.contents, fold.ending)) =
      c.contents.folds := by
  induction c with
  | empty => rfl
  | line text reading more ih => exact ih
  | fold before start inside last ending result more ihinside ih =>
      rw [folds, List.map_cons, List.map_append, ihinside, ih]
      rfl

namespace FoldCourse

/-- A fold is written back as what happened in it and in the folds inside of it says. -/
structure Faithful (fold : FoldCourse) : Prop where
  /-- It began fresh and went to its end. -/
  ran : fold.Ran
  /-- Its header says that it failed exactly if something in it failed. -/
  status_iff : fold.result.status = "ERROR" ↔
    ∃ attempt ∈ fold.attempts, attempt.failed = true
  /-- So does the label of its results. -/
  label_iff : fold.result.resultLabel = "ERROR" ↔
    ∃ attempt ∈ fold.attempts, attempt.failed = true
  /-- A line of its own is read exactly if it stands before the divider and nothing that was tried
  for the fold before it, and no fold that ended inside before it, has failed. -/
  read_iff : ∀ before text reading after,
    fold.inside.steps = before ++ .line text reading :: after →
      (reading.isSome = true ↔ Marker.isDivider text = false ∧
        ∀ step ∈ before, step.isDivider = false ∧ step.failed = false)
  /-- The folds inside of it are written into it. -/
  shows : ∀ inner ∈ fold.inside.results, fold.result.Shows inner
  /-- Outside of other folds it is written with its header and its label. -/
  render_eq : fold.result.render.1 = fold.result.header ++ closeLine fold.result.echo ++
    Marker.divider ++ " " ++ fold.result.title ++ fold.result.resultLabel ++ "\n" ++
      (closeLine fold.result.output ++ fold.result.closingMarker)

theorem Ran.failed_iff {fold : FoldCourse} (h : fold.Ran) :
    fold.result.failed = true ↔ ∃ attempt ∈ fold.attempts, attempt.failed = true := by
  obtain ⟨depth, inner, hinside, hlast⟩ := h
  have hinner : inner.failed = fold.inside.attempts.any Attempt.failed := hinside.failed_eq
  have hresult : fold.result.failed = fold.attempts.any Attempt.failed := by
    rw [hlast.failed_eq, attempts, List.any_append, Attempt.any_failed_map_asked, ← hinner]
    rfl
  rw [hresult, List.any_eq_true]

theorem Ran.faithful {fold : FoldCourse} (h : fold.Ran) : fold.Faithful where
  ran := h
  status_iff := by
    rw [← h.failed_iff, Fold.status]
    cases fold.result.failed <;> decide
  label_iff := by
    rw [← h.failed_iff, Fold.resultLabel]
    cases fold.result.failed <;> decide
  read_iff := by
    obtain ⟨depth, inner, hinside, -⟩ := h
    intro before text reading after hsteps
    rw [hinside.read_iff hsteps]
    exact ⟨fun hread => hread.2.2, fun hread => ⟨rfl, rfl, hread⟩⟩
  shows := by
    obtain ⟨depth, around, hinside, hlast⟩ := h
    intro inner hinner
    have hshows : (around.ended (fold.ending.getD Marker.finish)).Shows inner := by
      obtain ⟨hecho, houtput⟩ := hinside.shows inner hinner
      exact ⟨hecho, houtput⟩
    exact hshows.extends (.of_reported hlast.reported)
  render_eq := by
    rw [Fold.render, h.rendered]
    rfl

end FoldCourse

/-- From every state the run of a document without loops takes a course, with the questions and the
text of the run. -/
theorem Contents.Represents.exists_course {σ : Type} (s : Services (StateM σ)) {c : Contents}
    {document : List String} (hc : c.Represents document) (h : Loopless document) (state : σ) :
    ∃ course : Course, course.contents = c ∧ course.Outside ∧
      course.events = asked (Document.runLines s.recording document) state ∧
      course.text = ((Document.runLines s document).run state).1 := by
  obtain ⟨course, hcontents, hevents, houtside, htext⟩ := (hc.asks_runLines s h).run state
  have hanswer : answered (Document.runLines s.recording document) state =
      ((Document.runLines s document).run state).1 := by
    rw [← map_fst_runLines_recording s document false []]
    rfl
  exact ⟨course, hcontents, houtside, hevents, htext.trans hanswer⟩

/-- No failure gets out of the run of a document without loops.  The run takes a course in which
every fold of the document is carried out and written back faithfully, at any depth and whatever
failed before it. -/
theorem runLines_failures {σ : Type} (s : Services (StateM σ)) {document : List String}
    (h : Loopless document) (state : σ) :
    (Document.runLines s.raising document).run = Except.ok <$> Document.runLines s document ∧
      (∃ c : Contents, c.Represents document) ∧
      ∀ c : Contents, c.Represents document →
        ∃ course : Course, course.contents = c ∧ course.Outside ∧
          course.events = asked (Document.runLines s.recording document) state ∧
          course.text = ((Document.runLines s document).run state).1 ∧
          course.folds.map (fun fold => (fold.start, fold.inside.contents, fold.ending)) =
            c.folds ∧
          ∀ fold ∈ course.folds, fold.Faithful := by
  refine ⟨run_runLines_raising s document false, Contents.exists_represents document, ?_⟩
  intro c hc
  obtain ⟨course, hcontents, houtside, hevents, htext⟩ := hc.exists_course s h state
  refine ⟨course, hcontents, houtside, hevents, htext, ?_, fun fold hfold => ?_⟩
  · rw [course.map_folds, hcontents]
  · exact (houtside.ran fold hfold).faithful

theorem runLines_failures_nested :
    Loopless (documentLines Document.nestedDocument) ∧
      ∃ course : Course,
        course.contents.Represents (documentLines Document.nestedDocument) ∧ course.Outside ∧
        course.events = asked (Document.runLines Document.countingServices.recording
          (documentLines Document.nestedDocument)) 0 ∧
        course.text = ((Document.runLines Document.countingServices
          (documentLines Document.nestedDocument)).run 0).1 ∧
        ∀ fold ∈ course.folds, fold.Faithful := by
  have hloopless : Loopless (documentLines Document.nestedDocument) := by decide +kernel
  obtain ⟨-, ⟨c, hc⟩, hall⟩ := runLines_failures Document.countingServices hloopless 0
  obtain ⟨course, hcontents, houtside, hevents, htext, -, hfaithful⟩ := hall c hc
  exact ⟨hloopless, course, hcontents ▸ hc, houtside, hevents, htext, hfaithful⟩

end Foldbook
