import Mathlib.Data.List.Forall2
import Foldbook.Proofs.Course.Run

/-!
# The lines that a run writes back

The lines of a fold are written back whatever its operations come to.
`runLines_echo` compares two runs of one document over any two kinds of
services: for every top-level fold both write the lines that
`WrittenInside` says, and the two differ in nothing but the statuses of
nested folds.
-/

namespace Foldbook

open Text

/-! ## The lines of a fold -/

/-- The insides of the folds of a document. -/
def Contents.insides : Contents → List Contents
  | empty => []
  | line _ more => more.insides
  | fold _ inside _ more => inside :: more.insides

/-- The fold is written with these lines between its header and its divider. -/
def Fold.Echoes (f : Fold) (lines : List String) : Prop :=
  f.render.1 = f.header ++ unlines lines ++
    (Marker.divider ++ " " ++ f.title ++ f.resultLabel ++ "\n" ++
      closeLine f.output ++ f.closingMarker)

theorem Fold.echoes_of_echo {f : Fold} {lines : List String} (hrendered : f.rendered = false)
    (h : f.echo = unlines lines) : f.Echoes lines := by
  have hecho : closeLine f.echo = unlines lines := by
    rw [h, closeLine_of_closed (endsOpen_unlines lines)]
  rw [Echoes, render, hrendered, hecho]
  simp [String.append_assoc]

namespace Course

/-- What a fold around it takes in of a fold that ended. -/
theorem echo_enclose {fold : FoldCourse} (h : fold.Ran) (around : Fold) :
    (around.enclose fold.result).echo = around.echo ++
      ((Marker.headingOf fold.start).header fold.result.failed ++ "\n" ++ fold.result.echo ++
        fold.result.closingMarker ++ "\n") := by
  rw [Fold.enclose, Fold.absorb, Fold.renderNested, h.rendered, ← h.header_eq]
  rfl

/-- A course adds to the lines of a fold what is written for the contents. -/
theorem Inside.exists_echo {depth : Nat} {old : Bool} {f g : Fold} {c : Course}
    (h : c.Inside depth old f g) (hshaped : ∃ unended, c.contents.Shaped true unended)
    (hclosed : endsOpen f.echo = false) :
    ∃ lines, WrittenInside (c.contents.entries old) lines ∧ g.echo = f.echo ++ unlines lines := by
  -- the lines are closed behind every step, so what comes next begins a line of its own
  induction h with
  | empty => exact ⟨[], .nil, String.append_empty.symm⟩
  | divider hdivider _ ih =>
      obtain ⟨unended, hshaped⟩ := hshaped
      rw [contents, Contents.entries, if_pos hdivider]
      exact ih ⟨unended, hshaped.of_line⟩ hclosed
  | stale hdivider _ ih =>
      obtain ⟨unended, hshaped⟩ := hshaped
      rw [contents, Contents.entries, hdivider]
      exact ih ⟨unended, hshaped.of_line⟩ hclosed
  | @own depth f taken g text reading more hdivider htakes _ ih =>
      obtain ⟨unended, hshaped⟩ := hshaped
      have htaken : taken.echo = f.echo ++ text ++ "\n" := by
        rw [htakes.reported.echo, Fold.keepLine, closeLine, hclosed]
        rfl
      have hline : endsOpen taken.echo = false := by
        rw [htaken]
        exact endsOpen_append_newline _
      obtain ⟨lines, hwritten, hecho⟩ := ih ⟨unended, hshaped.of_line⟩ hline
      rw [contents, Contents.entries, hdivider]
      refine ⟨text :: lines, .line text hwritten, ?_⟩
      rw [hecho, htaken, unlines_cons]
      simp only [String.append_assoc]
  | @fold depth old f around inner result g before last start inside ending more hbefore hinside
      hlast _ ihinside ih =>
      obtain ⟨unended, hshaped⟩ := hshaped
      obtain ⟨hshapedInside, hend, hshapedMore⟩ := hshaped.of_fold
      have hran : FoldCourse.Ran ⟨start, inside, last, ending, result⟩ :=
        ⟨depth, inner, hinside, hlast⟩
      obtain ⟨lines, hwritten, hlines⟩ := ihinside hshapedInside rfl
      have hresult : result.echo = unlines lines := by
        rw [hlast.reported.echo]
        exact hlines.trans String.empty_append
      have henclosed : (around.enclose result).echo = f.echo ++
          unlines ((Marker.headingOf start).header result.failed ::
            lines ++ [ending.getD Marker.finish]) := by
        rw [echo_enclose hran, hbefore.reported.echo, hresult, hran.closingMarker_eq hend]
        simp [unlines_append, String.append_assoc]
      have hclosed : endsOpen (around.enclose result).echo = false := by
        rw [henclosed]
        exact endsOpen_append hclosed (endsOpen_unlines _)
      obtain ⟨others, hothers, hecho⟩ := ih hshapedMore hclosed
      rw [contents, Contents.entries]
      refine ⟨(Marker.headingOf start).header result.failed :: lines ++
        ending.getD Marker.finish :: others, .fold _ _ _ hwritten hothers, ?_⟩
      rw [hecho, henclosed]
      simp [unlines_append, String.append_assoc]

/-- In the course of a document every top-level fold is written with the lines of its contents. -/
theorem Outside.exists_echoes {c : Course} (h : c.Outside)
    (hshaped : ∃ unended, c.contents.Shaped false unended) :
    ∃ echoes, List.Forall₂ Fold.Echoes c.results echoes ∧
      List.Forall₂ (fun inside lines => WrittenInside (inside.entries false) lines)
        c.contents.insides echoes := by
  induction h with
  | empty => exact ⟨[], .nil, .nil⟩
  | line _ ih =>
      obtain ⟨unended, hshaped⟩ := hshaped
      exact ih ⟨unended, hshaped.of_line⟩
  | @fold inner result last start inside ending more hinside hlast _ ih =>
      obtain ⟨unended, hshaped⟩ := hshaped
      obtain ⟨hshapedInside, -, hshapedMore⟩ := hshaped.of_fold
      have hran : FoldCourse.Ran ⟨start, inside, last, ending, result⟩ := ⟨0, inner, hinside, hlast⟩
      obtain ⟨lines, hwritten, hlines⟩ := hinside.exists_echo hshapedInside rfl
      have hresult : result.echo = unlines lines := by
        rw [hlast.reported.echo]
        exact hlines.trans String.empty_append
      obtain ⟨echoes, hechoes, hothers⟩ := ih hshapedMore
      exact ⟨lines :: echoes, .cons (Fold.echoes_of_echo hran.rendered hresult) hechoes,
        .cons hwritten hothers⟩

end Course

/-! ## Two runs -/

/-- The lines are the same, or headers of one fold with different statuses. -/
def SameButStatus (line other : String) : Prop :=
  line = other ∨ ∃ (heading : Marker.Heading) (failed failed' : Bool),
    line = heading.header failed ∧ other = heading.header failed'

/-- What is written for the same entries differs in nothing but statuses. -/
theorem WrittenInside.sameButStatus {entries : List Entry} {lines others : List String}
    (h : WrittenInside entries lines) (hothers : WrittenInside entries others) :
    List.Forall₂ SameButStatus lines others := by
  induction h generalizing others with
  | nil =>
      cases hothers with
      | nil => exact .nil
  | line text _ ih =>
      cases hothers with
      | line _ hrest => exact .cons (.inl rfl) (ih hrest)
  | fold heading ending failed _ _ ihinner ih =>
      cases hothers with
      | fold _ _ failed' hinner hrest =>
          refine .cons (.inr ⟨heading, failed, failed', rfl, rfl⟩) ?_
          exact List.rel_append (ihinner hinner) (.cons (.inl rfl) (ih hrest))

/-- The text is that of a course of the document, in which these are the lines of the top-level
folds. -/
def Contents.EchoedIn (c : Contents) (text : String) (echoes : List (List String)) : Prop :=
  ∃ course : Course, course.contents = c ∧ course.Outside ∧ course.text = text ∧
    List.Forall₂ Fold.Echoes course.results echoes ∧
    List.Forall₂ (fun inside lines => WrittenInside (inside.entries false) lines) c.insides echoes

theorem Contents.EchoedIn.sameButStatus {c : Contents} {text text' : String}
    {echoes echoes' : List (List String)} (h : c.EchoedIn text echoes)
    (h' : c.EchoedIn text' echoes') : List.Forall₂ (List.Forall₂ SameButStatus) echoes echoes' := by
  obtain ⟨-, -, -, -, -, hwritten⟩ := h
  obtain ⟨-, -, -, -, -, hwritten'⟩ := h'
  generalize c.insides = insides at hwritten hwritten'
  induction hwritten generalizing echoes' with
  | nil =>
      cases hwritten' with
      | nil => exact .nil
  | cons hlines _ ih =>
      cases hwritten' with
      | cons hlines' hothers' => exact .cons (hlines.sameButStatus hlines') (ih hothers')

/-- A run that comes to its end echoes the document. -/
theorem Contents.Represents.exists_echoedIn {ε σ : Type} (s : Services (ExceptT ε (StateM σ)))
    {c : Contents} {document : List String} (hc : c.Represents document) (h : Loopless document)
    {before behind : σ} {text : String}
    (hrun : (Document.runLines s document).run.run before = (.ok text, behind)) :
    ∃ echoes, c.EchoedIn text echoes := by
  obtain ⟨course, hcontents, houtside, htext⟩ := (hc.runLines_yields s h).run_ok hrun
  obtain ⟨echoes, hechoes, hwritten⟩ := houtside.exists_echoes (hcontents ▸ hc.shaped)
  exact ⟨echoes, course, hcontents, houtside, htext, hechoes, hcontents ▸ hwritten⟩

/-- Two runs of a document without loops that come to their ends, over whatever services and from
whatever states, write the same lines for every top-level fold, up to the statuses in headers. -/
theorem runLines_echo {ε δ σ τ : Type} (s : Services (ExceptT ε (StateM σ)))
    (t : Services (ExceptT δ (StateM τ))) {document : List String} (h : Loopless document)
    {before behind : σ} {before' behind' : τ} {text text' : String}
    (hrun : (Document.runLines s document).run.run before = (.ok text, behind))
    (hrun' : (Document.runLines t document).run.run before' = (.ok text', behind')) :
    (∃ c : Contents, c.Represents document) ∧
      ∀ c : Contents, c.Represents document →
        ∃ echoes echoes', c.EchoedIn text echoes ∧ c.EchoedIn text' echoes' ∧
          List.Forall₂ (List.Forall₂ SameButStatus) echoes echoes' := by
  refine ⟨Contents.exists_represents document, fun c hc => ?_⟩
  obtain ⟨echoes, hechoes⟩ := hc.exists_echoedIn s h hrun
  obtain ⟨echoes', hechoes'⟩ := hc.exists_echoedIn t h hrun'
  exact ⟨echoes, echoes', hechoes, hechoes', hechoes.sameButStatus hechoes'⟩

/-- Services over a counter that grant everything or refuse everything.  A request to `stop` ends
the whole run. -/
def strictServices (refuses : Bool) : Services (ExceptT String (StateM Nat)) where
  assign line := do
    modify (· + 1)
    pure (if refuses then .error .environmentNotObject else .ok line)
  send request _ _ := do
    if request.url = "stop" then throw "stopped"
    modify (· + 1)
    pure (if refuses then .error (.transport .portNotNumber) else .ok ⟨"answer", .null⟩)
  capture _ _ := pure (.ok ())
  condition text := pure (.ok text)
  note _ := pure ()
  rounds := 0

theorem runLines_echo_refused :
    ∃ text text' behind behind', Loopless unendedDocument ∧
      (Document.runLines (strictServices false) unendedDocument).run.run 0 = (.ok text, behind) ∧
      (Document.runLines (strictServices true) unendedDocument).run.run 0 = (.ok text', behind') ∧
      ∃ c : Contents, c.Represents unendedDocument ∧
        ∃ echoes echoes', c.EchoedIn text echoes ∧ c.EchoedIn text' echoes' ∧
          List.Forall₂ (List.Forall₂ SameButStatus) echoes echoes' := by
  have hloopless : Loopless unendedDocument := by decide
  have hends : ∀ refuses, ∃ text behind,
      (Document.runLines (strictServices refuses) unendedDocument).run.run 0 =
        (.ok text, behind) := by
    intro refuses
    have hok : ((Document.runLines (strictServices refuses) unendedDocument).run.run 0).1.isOk =
        true := by
      revert refuses
      decide +kernel
    generalize (Document.runLines (strictServices refuses) unendedDocument).run.run 0 = run at hok
    obtain ⟨e | text, behind⟩ := run
    · exact absurd hok Bool.false_ne_true
    · exact ⟨text, behind, rfl⟩
  obtain ⟨text, behind, hrun⟩ := hends false
  obtain ⟨text', behind', hrun'⟩ := hends true
  obtain ⟨⟨c, hc⟩, hecho⟩ :=
    runLines_echo (strictServices false) (strictServices true) hloopless hrun hrun'
  exact ⟨text, text', behind, behind', hloopless, hrun, hrun', c, hc, hecho c hc⟩

end Foldbook
