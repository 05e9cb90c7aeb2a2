import Foldbook.Proofs.Contents.Evaluation
import Foldbook.Proofs.Course.Step

/-!
# The course of a run

A course is the record of one run of a document without loops, kept where it
belongs: beside each line of a fold what was tried when the line was read, and
with each fold the state in which it ended.  `Course.Inside` and
`Course.Outside` say which courses a run can take.
-/

namespace Foldbook

open Text

/-- What happened to the contents of a document or of a fold.  A line of a fold that was read has
what was tried for it.  A fold has what was asked to send the request of the fold around it, what
happened inside, what was asked to send its own request at the end, and how it ended. -/
inductive Course where
  | empty
  | line (text : String) (reading : Option (List Attempt)) (more : Course)
  | fold (before : List Event) (start : String) (inside : Course) (last : List Event)
      (ending : Option String) (result : Fold) (more : Course)

/-- What happened while one fold was open, as it is seen from there: a line of its own, sending its
request, or a fold inside of it. -/
inductive Step where
  | line (text : String) (reading : Option (List Attempt))
  | request (events : List Event)
  | nested (result : Fold)

/-- One fold of a course. -/
structure FoldCourse where
  start : String
  inside : Course
  /-- What was asked to send its request at the end. -/
  last : List Event
  ending : Option String
  /-- How it ended. -/
  result : Fold

namespace Course

/-- What it happened to. -/
def contents : Course → Contents
  | empty => .empty
  | line text _ more => .line text more.contents
  | fold _ start inside _ ending _ more => .fold start inside.contents ending more.contents

/-- Everything that was tried, in order. -/
def attempts : Course → List Attempt
  | empty => []
  | line _ reading more => reading.getD [] ++ more.attempts
  | fold before _ inside last _ _ more =>
    before.map .asked ++ (inside.attempts ++ (last.map .asked ++ more.attempts))

/-- Everything that the services were asked, in order. -/
def events (c : Course) : List Event := c.attempts.filterMap Attempt.event?

/-- How the folds ended that are not inside of another one. -/
def results : Course → List Fold
  | empty => []
  | line _ _ more => more.results
  | fold _ _ _ _ _ result more => result :: more.results

/-- The steps of the fold that it is the course of. -/
def steps : Course → List Step
  | empty => []
  | line text reading more => .line text reading :: more.steps
  | fold before _ _ _ _ result more => .request before :: .nested result :: more.steps

/-- The folds at any depth, from the first start line to the last one. -/
def folds : Course → List FoldCourse
  | empty => []
  | line _ _ more => more.folds
  | fold _ start inside last ending result more =>
    ⟨start, inside, last, ending, result⟩ :: (inside.folds ++ more.folds)

/-- The lines of a document, with the renderings of its folds. -/
def segments : Course → List String
  | empty => []
  | line text _ more => text :: more.segments
  | fold _ _ _ _ _ result more => result.render.1 :: more.segments

/-- The text that a document with this course leaves. -/
def text (c : Course) : String := joinSegments c.segments

/-- The course that takes an open fold from `f` to `g`, behind its divider if `old`.  A line
behind the divider is passed over, and any other line is taken.  A nested fold begins like every
other one, whatever happened before. -/
inductive Inside : (depth : Nat) → (old : Bool) → Fold → Course → Fold → Prop
  | empty {depth : Nat} {old : Bool} {f : Fold} : Inside depth old f .empty f
  | divider {depth : Nat} {old : Bool} {f g : Fold} {text : String} {more : Course}
      (hdivider : Marker.isDivider text = true) (hmore : Inside depth true f more g) :
      Inside depth old f (.line text none more) g
  | stale {depth : Nat} {f g : Fold} {text : String} {more : Course}
      (hdivider : Marker.isDivider text = false) (hmore : Inside depth true f more g) :
      Inside depth true f (.line text none more) g
  | own {depth : Nat} {f taken g : Fold} {text : String} {reading : Option (List Attempt)}
      {more : Course} (hdivider : Marker.isDivider text = false)
      (htakes : f.Takes text reading taken) (hmore : Inside depth false taken more g) :
      Inside depth false f (.line text reading more) g
  | fold {depth : Nat} {old : Bool} {f around inner result g : Fold} {before last : List Event}
      {start : String} {inside : Course} {ending : Option String} {more : Course}
      (hbefore : f.SendsPending before around)
      (hinside : Inside (depth + 1) false ((Marker.headingOf start).fold depth) inside inner)
      (hlast : (inner.ended (ending.getD Marker.finish)).SendsPending last result)
      (hmore : Inside depth old (around.enclose result) more g) :
      Inside depth old f (.fold before start inside last ending result more) g

/-- The course of a document. -/
inductive Outside : Course → Prop
  | empty : Outside .empty
  | line {text : String} {more : Course} (hmore : Outside more) : Outside (.line text none more)
  | fold {inner result : Fold} {last : List Event} {start : String} {inside : Course}
      {ending : Option String} {more : Course}
      (hinside : Inside 1 false ((Marker.headingOf start).fold 0) inside inner)
      (hlast : (inner.ended (ending.getD Marker.finish)).SendsPending last result)
      (hmore : Outside more) : Outside (.fold [] start inside last ending result more)

theorem events_line (text : String) (reading : Option (List Attempt)) (more : Course) :
    (line text reading more).events =
      (reading.getD []).filterMap Attempt.event? ++ more.events := by
  rw [events, attempts, List.filterMap_append]
  rfl

theorem events_fold (before : List Event) (start : String) (inside : Course) (last : List Event)
    (ending : Option String) (result : Fold) (more : Course) :
    (fold before start inside last ending result more).events =
      before ++ (inside.events ++ (last ++ more.events)) := by
  rw [events, attempts]
  simp only [List.filterMap_append, Attempt.filterMap_event?_map_asked]
  rfl

end Course

/-- The fold went from its start line to its end as a course says. -/
def FoldCourse.Ran (fold : FoldCourse) : Prop :=
  ∃ depth inner,
    Course.Inside (depth + 1) false ((Marker.headingOf fold.start).fold depth) fold.inside inner ∧
    (inner.ended (fold.ending.getD Marker.finish)).SendsPending fold.last fold.result

/-- Everything that was tried in the fold, and in the folds inside of it. -/
def FoldCourse.attempts (fold : FoldCourse) : List Attempt :=
  fold.inside.attempts ++ fold.last.map .asked

/-! ## What a course leaves as it is -/

namespace Fold

/-- The fold `g` is `f` with more lines and more results. -/
structure Extends (f g : Fold) : Prop where
  title : g.title = f.title
  startMarker : g.startMarker = f.startMarker
  rendered : g.rendered = f.rendered
  echo : ∃ more, g.echo = f.echo ++ more
  output : ∃ more, g.output = f.output ++ more

namespace Extends

variable {f g h : Fold}

theorem refl (f : Fold) : Extends f f :=
  ⟨rfl, rfl, rfl, ⟨"", String.append_empty.symm⟩, ⟨"", String.append_empty.symm⟩⟩

theorem trans (hfg : Extends f g) (hgh : Extends g h) : Extends f h := by
  obtain ⟨lines, hlines⟩ := hfg.echo
  obtain ⟨more, hmore⟩ := hgh.echo
  obtain ⟨results, hresults⟩ := hfg.output
  obtain ⟨others, hothers⟩ := hgh.output
  refine ⟨hgh.title.trans hfg.title, hgh.startMarker.trans hfg.startMarker,
    hgh.rendered.trans hfg.rendered, ⟨lines ++ more, ?_⟩, ⟨results ++ others, ?_⟩⟩
  · rw [hmore, hlines, String.append_assoc]
  · rw [hothers, hresults, String.append_assoc]

theorem of_reported (hfg : Reported f g) : Extends f g :=
  ⟨hfg.title, hfg.startMarker, hfg.rendered, ⟨"", by rw [hfg.echo, String.append_empty]⟩,
    hfg.output⟩

theorem keepLine (f : Fold) (line : String) : Extends f (f.keepLine line) :=
  ⟨rfl, rfl, rfl, ⟨_, closeLine_append f.echo line⟩, ⟨"", String.append_empty.symm⟩⟩

theorem enclose (f inner : Fold) : Extends f (f.enclose inner) :=
  ⟨rfl, rfl, rfl, ⟨_, rfl⟩, ⟨_, rfl⟩⟩

end Extends

theorem Takes.extends {f g : Fold} {line : String} {reading : Option (List Attempt)}
    (h : f.Takes line reading g) : Extends f g :=
  (Extends.keepLine f line).trans (.of_reported h.reported)

end Fold

theorem Course.Inside.extends {depth : Nat} {old : Bool} {f g : Fold} {c : Course}
    (h : c.Inside depth old f g) : f.Extends g := by
  induction h with
  | empty => exact .refl _
  | divider _ _ ih => exact ih
  | stale _ _ ih => exact ih
  | own _ htakes _ ih => exact htakes.extends.trans ih
  | fold hbefore _ _ _ _ ih =>
      exact ((Fold.Extends.of_reported hbefore.reported).trans (.enclose _ _)).trans ih

namespace FoldCourse.Ran

variable {fold : FoldCourse} (h : fold.Ran)

include h

theorem rendered : fold.result.rendered = false := by
  obtain ⟨depth, inner, hinside, hlast⟩ := h
  rw [hlast.reported.rendered]
  exact hinside.extends.rendered

theorem header_eq :
    fold.result.header = (Marker.headingOf fold.start).header fold.result.failed ++ "\n" := by
  obtain ⟨depth, inner, hinside, hlast⟩ := h
  refine Fold.header_eq ?_
  rw [hlast.reported.startMarker]
  exact hinside.extends.startMarker

theorem closingMarker_eq (hend : Marker.isEnd (fold.ending.getD Marker.finish) = true) :
    fold.result.closingMarker = fold.ending.getD Marker.finish := by
  obtain ⟨depth, inner, hinside, hlast⟩ := h
  exact Fold.closingMarker_of_isEnd hlast.reported.endMarker hend

end FoldCourse.Ran

end Foldbook
