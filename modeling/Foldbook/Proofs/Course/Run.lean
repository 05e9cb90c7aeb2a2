import Foldbook.Proofs.Asks
import Foldbook.Proofs.Contents.Evaluation
import Foldbook.Proofs.Course.Basic

/-!
# Every run takes a course

`asks_evaluateInside` follows the evaluator through the contents of a fold:
what it asks the services and the fold that it leaves are those of a course.
`Contents.Represents.asks_runLines` says so of the run of a document.
-/

namespace Foldbook

open Text

variable {m : Type → Type} [Monad m] [LawfulMonad m] (s : Services m)

namespace Fold

theorem asks_interpret (f : Fold) (line : String) :
    Asks (fun events g => ∃ attempts, attempts.filterMap Attempt.event? = events ∧
      f.Hears line attempts g) (f.interpret s.recording line) := by
  unfold interpret
  split
  · rename_i hline
    refine (Asks.assign s line).bind fun events answer hevents => ?_
    subst hevents
    cases answer with
    | ok text => exact .pure ⟨_, rfl, .assigned text hline⟩
    | error e => exact .pure ⟨_, rfl, .refused e hline⟩
  · rename_i hline
    rw [Bool.not_eq_true] at hline
    refine .pure ⟨_, ?_, .own hline⟩
    unfold splitting
    split <;> rfl

theorem asks_takeLine (f : Fold) (line : String) :
    Asks (fun events g => ∃ reading, (reading.getD []).filterMap Attempt.event? = events ∧
      f.Takes line reading g) (f.takeLine s.recording line) := by
  unfold takeLine
  dsimp only
  split
  · rename_i hfailed
    exact .pure ⟨none, rfl, .kept hfailed⟩
  · rename_i hfailed
    rw [Bool.not_eq_true] at hfailed
    refine (asks_interpret s _ line).mono fun events g hg => ?_
    obtain ⟨attempts, hevents, hhears⟩ := hg
    exact ⟨some attempts, hevents, .read hfailed hhears⟩

theorem asks_issue (f : Fold) : Asks f.Sends (f.issue s.recording) := by
  unfold issue
  refine (Asks.send s _ _ _).bind fun events answer hevents => ?_
  subst hevents
  cases answer with
  | error e => exact .pure (.failed e)
  | ok reply =>
      dsimp only
      split
      · rename_i hname
        exact .pure (.shown reply hname)
      · rename_i hname
        rw [Bool.not_eq_true] at hname
        refine (Asks.capture s _ _).bind fun later answer hlater => ?_
        subst hlater
        cases answer with
        | error e => exact .pure (.lost reply e hname)
        | ok done => exact .pure (.kept reply hname)

theorem asks_issuePending (f : Fold) : Asks f.SendsPending (f.issuePending s.recording) := by
  unfold issuePending
  split
  · rename_i hpending
    exact (asks_issue s f).mono fun events g hsends => .sends hpending hsends
  · rename_i hpending
    rw [Bool.not_eq_true] at hpending
    exact .pure (.rests hpending)

theorem asks_conclude (f : Fold) (ending : String) :
    Asks (f.ended ending).SendsPending (f.conclude s.recording ending) := by
  unfold conclude
  refine (asks_issuePending s (f.ended ending)).bind fun events g hg => ?_
  refine (Asks.note s _).bind fun later _ hlater => ?_
  subst hlater
  refine .pure ?_
  rwa [List.append_nil, List.append_nil]

end Fold

theorem Marker.Heading.asks_openFold (heading : Heading) (depth : Nat) :
    Asks (fun events f => events = [] ∧ f = heading.fold depth)
      (heading.openFold s.recording depth) := by
  unfold openFold
  refine (Asks.note s _).bind fun events _ hevents => ?_
  subst hevents
  exact .pure ⟨rfl, rfl⟩

namespace Contents

/-- Carrying out what stands in a fold takes a course. -/
theorem asks_evaluateInside (c : Contents) (depth : Nat) (old : Bool) (f : Fold) :
    Asks (fun events g => ∃ course : Course, course.contents = c ∧ course.events = events ∧
      course.Inside depth old f g) (c.evaluateInside s.recording depth old f) := by
  induction c generalizing depth old f with
  | empty => exact .pure ⟨.empty, rfl, rfl, .empty⟩
  | line text more ih =>
      unfold evaluateInside
      split
      · rename_i hdivider
        refine (ih depth true f).mono fun events g hg => ?_
        obtain ⟨course, rfl, hevents, hinside⟩ := hg
        exact ⟨.line text none course, rfl, hevents, .divider hdivider hinside⟩
      · rename_i hdivider
        rw [Bool.not_eq_true] at hdivider
        cases old with
        | true =>
            refine (ih depth true f).mono fun events g hg => ?_
            obtain ⟨course, rfl, hevents, hinside⟩ := hg
            exact ⟨.line text none course, rfl, hevents, .stale hdivider hinside⟩
        | false =>
            refine (f.asks_takeLine s text).bind fun events taken htaken => ?_
            obtain ⟨reading, rfl, htakes⟩ := htaken
            refine (ih depth false taken).mono fun later g hg => ?_
            obtain ⟨course, rfl, rfl, hinside⟩ := hg
            exact ⟨.line text reading course, rfl, Course.events_line ..,
              .own hdivider htakes hinside⟩
  | fold start inside ending more ihinside ih =>
      unfold evaluateInside
      refine (f.asks_issuePending s).bind fun before around hbefore => ?_
      refine ((Marker.headingOf start).asks_openFold s depth).bind fun opening opened hopened => ?_
      obtain ⟨rfl, rfl⟩ := hopened
      refine (ihinside (depth + 1) false _).bind fun events inner hinner => ?_
      obtain ⟨course, rfl, rfl, hinside⟩ := hinner
      refine (inner.asks_conclude s _).bind fun last result hlast => ?_
      refine (ih depth old (around.enclose result)).mono fun later g hg => ?_
      obtain ⟨others, rfl, rfl, hmore⟩ := hg
      refine ⟨.fold before start course last ending result others, rfl, ?_,
        .fold hbefore hinside hlast hmore⟩
      exact Course.events_fold ..

/-- So does carrying out a document. -/
theorem asks_segments (c : Contents) :
    Asks (fun events segments => ∃ course : Course, course.contents = c ∧ course.events = events ∧
      course.Outside ∧ course.segments = segments) (c.segments s.recording) := by
  induction c with
  | empty => exact .pure ⟨.empty, rfl, rfl, .empty, rfl⟩
  | line text more ih =>
      unfold segments
      refine ih.bind fun events segments hsegments => ?_
      obtain ⟨course, rfl, rfl, houtside, rfl⟩ := hsegments
      refine .pure ⟨.line text none course, rfl, ?_, .line houtside, rfl⟩
      rw [List.append_nil]
      rfl
  | fold start inside ending more _ ih =>
      unfold segments
      refine ((Marker.headingOf start).asks_openFold s 0).bind fun opening opened hopened => ?_
      obtain ⟨rfl, rfl⟩ := hopened
      refine (inside.asks_evaluateInside s 1 false _).bind fun events inner hinner => ?_
      obtain ⟨course, rfl, rfl, hinside⟩ := hinner
      refine (inner.asks_conclude s _).bind fun last result hlast => ?_
      refine ih.bind fun later segments hsegments => ?_
      obtain ⟨others, rfl, rfl, houtside, rfl⟩ := hsegments
      refine .pure ⟨.fold [] start course last ending result others, rfl, ?_,
        .fold hinside hlast houtside, rfl⟩
      rw [Course.events_fold, List.append_nil]

/-- The run of a document without loops takes a course: its questions are those that the course
names, and its text is that of the lines and folds of the course. -/
theorem Represents.asks_runLines {c : Contents} {document : List String}
    (hc : c.Represents document) (h : Loopless document) :
    Asks (fun events text => ∃ course : Course, course.contents = c ∧ course.events = events ∧
      course.Outside ∧ course.text = text) (Document.runLines s.recording document) := by
  rw [hc.runLines_eq s.recording h, evaluate]
  refine (c.asks_segments s).bind fun events segments hsegments => ?_
  obtain ⟨course, hcontents, hevents, houtside, rfl⟩ := hsegments
  refine .pure ⟨course, hcontents, ?_, houtside, rfl⟩
  rw [hevents, List.append_nil]

/-- In any monad only the texts of courses come out of a run. -/
theorem Represents.runLines_yields {c : Contents} {document : List String}
    (hc : c.Represents document) (h : Loopless document) :
    Yields (fun text => ∃ course : Course, course.contents = c ∧ course.Outside ∧
      course.text = text) (Document.runLines s document) := by
  rw [← map_fst_runLines_recording s document false []]
  refine (hc.asks_runLines s h).yields.mono fun text htext => ?_
  obtain ⟨events, course, hcontents, -, houtside, htext⟩ := htext
  exact ⟨course, hcontents, houtside, htext⟩

end Contents

end Foldbook
