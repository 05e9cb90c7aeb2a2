import Foldbook.Proofs.Outline.Results

/-!
# The steps of an open fold

An open fold does two things that the services take part in: it reads a line,
and it sends its request.  `Fold.Hears` and `Fold.Sends` say what operations
are tried then, and what they leave in the fold.

Both keep the lines of the fold (`Fold.Reported`), and both leave the fold
failed if one of the operations failed or if it had failed before.
-/

namespace Foldbook

open Text

/-! ## Operations -/

/-- The answer is a failure. -/
def Event.failed : Event → Bool
  | assigned _ answer => !answer.isOk
  | sent _ _ _ answer => !answer.isOk
  | captured _ _ answer => !answer.isOk
  | decided _ answer => !answer.isOk

/-- An operation that was tried: a question to the services, or taking a request line apart, which
can find no address. -/
inductive Attempt where
  | asked (event : Event)
  | split (line : String) (found : Bool)

namespace Attempt

def failed : Attempt → Bool
  | asked event => event.failed
  | split _ found => !found

/-- The question, if it is one. -/
def event? : Attempt → Option Event
  | asked event => some event
  | split _ _ => none

theorem filterMap_event?_map_asked (events : List Event) :
    (events.map asked).filterMap event? = events := by
  induction events with
  | nil => rfl
  | cons event events ih =>
      show event :: (events.map asked).filterMap event? = event :: events
      rw [ih]

theorem any_failed_map_asked (events : List Event) :
    (events.map asked).any failed = events.any Event.failed := by
  rw [List.any_map]
  rfl

end Attempt

/-! ## What an open fold does -/

namespace Fold

/-- What is tried for a line that is no assignment: if it is the request line, to take it apart. -/
def splitting (f : Fold) (line : String) : List Attempt :=
  if startsWith line "#" || f.requestStarted || line.isEmpty then []
  else [.split line (cutAt? [' '] line.toList).isSome]

/-- The fold reads a line, for which these operations are tried. -/
inductive Hears (f : Fold) (line : String) : List Attempt → Fold → Prop
  | assigned (text : String) (hline : startsWith line "@" = true) :
      Hears f line [.asked (.assigned line (.ok text))] (f.reportLine text)
  | refused (e : Failure) (hline : startsWith line "@" = true) :
      Hears f line [.asked (.assigned line (.error e))]
        { f.reportLine e.message with failed := true }
  | own (hline : startsWith line "@" = false) : Hears f line (f.splitting line) (f.readLine line)

/-- The fold keeps a line, and reads it unless something in the fold has failed. -/
inductive Takes (f : Fold) (line : String) : Option (List Attempt) → Fold → Prop
  | kept (hfailed : f.failed = true) : Takes f line none (f.keepLine line)
  | read {attempts : List Attempt} {g : Fold} (hfailed : f.failed = false)
      (hhears : (f.keepLine line).Hears line attempts g) : Takes f line (some attempts) g

/-- The fold sends its request, with these questions. -/
inductive Sends (f : Fold) : List Event → Fold → Prop
  | failed (e : Failure) :
      Sends f [.sent f.request f.debug f.verbose (.error e)]
        (({ f with sent := true } : Fold).reportRequestFailure e)
  | shown (reply : Reply) (hname : f.captureName.isEmpty = true) :
      Sends f [.sent f.request f.debug f.verbose (.ok reply)]
        { f with sent := true, output := f.output ++ reply.text }
  | kept (reply : Reply) (hname : f.captureName.isEmpty = false) :
      Sends f [.sent f.request f.debug f.verbose (.ok reply),
          .captured f.captureName reply.value (.ok ())]
        { f with sent := true, output := f.output ++ reply.text }
  | lost (reply : Reply) (e : Failure) (hname : f.captureName.isEmpty = false) :
      Sends f [.sent f.request f.debug f.verbose (.ok reply),
          .captured f.captureName reply.value (.error e)]
        (({ f with sent := true } : Fold).reportRequestFailure e)

/-- The fold sends its request if it is still to be sent. -/
inductive SendsPending (f : Fold) : List Event → Fold → Prop
  | sends {events : List Event} {g : Fold} (hpending : f.pending = true)
      (hsends : f.Sends events g) : SendsPending f events g
  | rests (hpending : f.pending = false) : SendsPending f [] f

/-- The fold with the line that ends it. -/
def ended (f : Fold) (ending : String) : Fold := { f with endMarker := ending }

end Fold

/-! ## What an open fold leaves as it is -/

namespace Fold

/-- A line that is added to a text stands behind the text and its last line end. -/
theorem closeLine_append (before line : String) :
    closeLine before ++ line ++ "\n" = before ++ (sectionGap before ++ line ++ "\n") := by
  rw [← append_sectionGap]
  simp only [String.append_assoc]

/-- The fold `g` is `f` with more results at most. -/
structure Reported (f g : Fold) : Prop where
  echo : g.echo = f.echo
  title : g.title = f.title
  startMarker : g.startMarker = f.startMarker
  endMarker : g.endMarker = f.endMarker
  rendered : g.rendered = f.rendered
  output : ∃ more, g.output = f.output ++ more

namespace Reported

theorem refl (f : Fold) : Reported f f := by
  refine ⟨rfl, rfl, rfl, rfl, rfl, "", ?_⟩
  rw [String.append_empty]

/-- A line is added to the results. -/
theorem line (f : Fold) (text : String) : Reported f (f.reportLine text) :=
  ⟨rfl, rfl, rfl, rfl, rfl, _, closeLine_append f.output text⟩

/-- Text is added to the results while the request is sent. -/
theorem sent (f : Fold) (text : String) :
    Reported f { f with sent := true, output := f.output ++ text } :=
  ⟨rfl, rfl, rfl, rfl, rfl, text, rfl⟩

/-- A failure changes nothing else. -/
theorem fail {f g : Fold} (h : Reported f g) : Reported f { g with failed := true } := { h with }

end Reported

theorem reported_readRequestLine (f : Fold) (line : String) :
    Reported f (f.readRequestLine line) := by
  unfold readRequestLine
  split
  · exact { Reported.line f ("Could not parse line: " ++ line) with }
  · exact { Reported.refl f with }

theorem reported_readLine (f : Fold) (line : String) : Reported f (f.readLine line) := by
  unfold readLine
  split
  · exact { Reported.refl f with }
  · split
    · split
      · exact { Reported.refl f with output := ⟨"\n", rfl⟩ }
      · exact reported_readRequestLine f line
    · split
      · exact { Reported.refl f with }
      · split <;> exact { Reported.refl f with }

theorem reported_reportRequestFailure (f : Fold) (e : Failure) :
    Reported f (({ f with sent := true } : Fold).reportRequestFailure e) := by
  refine ⟨rfl, rfl, rfl, rfl, rfl, e.message ++ "\n", ?_⟩
  exact String.append_assoc ..

variable {f g : Fold} {line : String} {attempts : List Attempt} {reading : Option (List Attempt)}
  {events : List Event}

theorem Hears.reported (h : f.Hears line attempts g) : Reported f g := by
  cases h with
  | assigned text => exact Reported.line f text
  | refused e => exact (Reported.line f e.message).fail
  | own => exact reported_readLine f line

theorem Takes.reported (h : f.Takes line reading g) : Reported (f.keepLine line) g := by
  cases h with
  | kept => exact Reported.refl _
  | read _ hhears => exact hhears.reported

theorem Sends.reported (h : f.Sends events g) : Reported f g := by
  cases h with
  | failed e => exact reported_reportRequestFailure f e
  | shown reply => exact Reported.sent f reply.text
  | kept reply => exact Reported.sent f reply.text
  | lost reply e => exact reported_reportRequestFailure f e

theorem SendsPending.reported (h : f.SendsPending events g) : Reported f g := by
  cases h with
  | sends _ hsends => exact hsends.reported
  | rests => exact Reported.refl f

/-! ## When an open fold has failed -/

theorem failed_readRequestLine (f : Fold) (line : String) :
    (f.readRequestLine line).failed = (f.failed || !(cutAt? [' '] line.toList).isSome) := by
  unfold readRequestLine
  cases cutAt? [' '] line.toList with
  | none => exact (Bool.or_true _).symm
  | some cut => exact (Bool.or_false _).symm

theorem failed_readLine (f : Fold) (line : String) :
    (f.readLine line).failed = (f.failed || (f.splitting line).any Attempt.failed) := by
  by_cases hsplit : (startsWith line "#" || f.requestStarted || line.isEmpty) = true
  · have hnothing : f.splitting line = [] := if_pos hsplit
    rw [hnothing, List.any_nil, Bool.or_false, readLine]
    split
    · rfl
    · split
      · split
        · rfl
        · rename_i hflags hstarted hempty
          rw [Bool.not_eq_true'] at hstarted
          simp [hflags, hstarted, hempty] at hsplit
      · split
        · rfl
        · split <;> rfl
  · have htaken : f.splitting line = [.split line (cutAt? [' '] line.toList).isSome] :=
      if_neg hsplit
    simp only [Bool.or_eq_true, not_or, Bool.not_eq_true] at hsplit
    obtain ⟨⟨hflags, hstarted⟩, hempty⟩ := hsplit
    have hreads : f.readLine line = f.readRequestLine line := by
      simp [readLine, hflags, hstarted, hempty]
    rw [htaken, hreads, failed_readRequestLine, List.any_cons, List.any_nil, Bool.or_false,
      Attempt.failed]

theorem Hears.failed_eq (h : f.Hears line attempts g) :
    g.failed = (f.failed || attempts.any Attempt.failed) := by
  cases h with
  | assigned text => simp [reportLine, Attempt.failed, Event.failed, Except.isOk, Except.toBool]
  | refused e => simp [Attempt.failed, Event.failed, Except.isOk, Except.toBool]
  | own => exact failed_readLine f line

theorem Takes.failed_eq (h : f.Takes line reading g) :
    g.failed = (f.failed || (reading.getD []).any Attempt.failed) := by
  cases h with
  | kept => exact (Bool.or_false _).symm
  | read _ hhears => exact hhears.failed_eq

theorem Sends.failed_eq (h : f.Sends events g) :
    g.failed = (f.failed || events.any Event.failed) := by
  cases h <;> simp [reportRequestFailure, Event.failed, Except.isOk, Except.toBool]

theorem SendsPending.failed_eq (h : f.SendsPending events g) :
    g.failed = (f.failed || events.any Event.failed) := by
  cases h with
  | sends _ hsends => exact hsends.failed_eq
  | rests => exact (Bool.or_false _).symm

end Fold

end Foldbook
