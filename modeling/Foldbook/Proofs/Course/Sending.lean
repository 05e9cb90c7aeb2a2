import Foldbook.Proofs.Course.Described
import Foldbook.Proofs.Course.Failures

/-!
# A fold sends its request once

A fold can send its request before each fold inside of it, and at its end.

* `Fold.Works` goes through the entries of an open fold and lists what was
  asked at each of these places.
* `Fold.Works.issues`: a fold that does not fail asks nothing in front of
  its request line, asks what its lines describe at the first place behind
  it, and asks nothing from there on.
* `runLines_requests` says so of every fold of every run, and that nothing
  else is sent.
-/

namespace Foldbook

open Text

/-! ## The lines that describe the request -/

namespace Entry

def isLine : Entry → Bool
  | line _ => true
  | fold .. => false

/-- The text, if it is a line. -/
def line? : Entry → Option String
  | line text => some text
  | fold .. => none

/-- The line is a request line, unless one stands before it. -/
def opensRequest : Entry → Bool
  | line text => isPart text && !text.isEmpty
  | fold .. => false

end Entry

/-- The entries of a fold in front of its request line. -/
def beforeRequest (entries : List Entry) : List Entry := entries.takeWhile (!·.opensRequest)

/-- The entries from the request line to the next fold inside. -/
def fromRequest (entries : List Entry) : List Entry :=
  (entries.dropWhile (!·.opensRequest)).takeWhile Entry.isLine

/-- The own lines of a fold in front of the first fold inside that stands behind the request
line. -/
def describing (entries : List Entry) : List String :=
  (beforeRequest entries ++ fromRequest entries).filterMap Entry.line?

/-- How many folds stand in front of the request line. -/
def foldsBeforeRequest (entries : List Entry) : Nat :=
  (beforeRequest entries).countP (!·.isLine)

section Equations

variable {entry : Entry} {entries : List Entry}

theorem beforeRequest_of_opensRequest (h : entry.opensRequest = true) :
    beforeRequest (entry :: entries) = [] :=
  List.takeWhile_cons_of_neg (by simp [h])

theorem beforeRequest_cons (h : entry.opensRequest = false) :
    beforeRequest (entry :: entries) = entry :: beforeRequest entries :=
  List.takeWhile_cons_of_pos (by simp [h])

theorem fromRequest_of_opensRequest (h : entry.opensRequest = true) :
    fromRequest (entry :: entries) = (entry :: entries).takeWhile Entry.isLine := by
  rw [fromRequest, List.dropWhile_cons_of_neg (by simp [h])]

theorem fromRequest_cons (h : entry.opensRequest = false) :
    fromRequest (entry :: entries) = fromRequest entries := by
  rw [fromRequest, fromRequest, List.dropWhile_cons_of_pos (by simp [h])]

/-- Without a request line nothing stands behind it. -/
theorem fromRequest_eq_nil (h : ∀ entry ∈ entries, entry.opensRequest = false) :
    fromRequest entries = [] := by
  rw [fromRequest, List.dropWhile_eq_nil_iff.mpr fun entry hentry => by simp [h entry hentry]]
  rfl

/-- Without a request line all lines of the request are blank. -/
theorem isEmpty_of_mem_describing (h : ∀ entry ∈ entries, entry.opensRequest = false) :
    ∀ line ∈ describing entries, isPart line = true → line.isEmpty = true := by
  intro line hline hpart
  rw [describing, fromRequest_eq_nil h, List.append_nil, List.mem_filterMap] at hline
  obtain ⟨entry, hentry, hline⟩ := hline
  have hopens := h entry ((List.takeWhile_prefix _).subset hentry)
  cases entry with
  | line text =>
      obtain rfl := Option.some.inj hline
      simpa [Entry.opensRequest, hpart] using hopens
  | fold heading inside ending => exact absurd hline (by simp [Entry.line?])

theorem describing_of_opensRequest (h : entry.opensRequest = true) :
    describing (entry :: entries) =
      ((entry :: entries).takeWhile Entry.isLine).filterMap Entry.line? := by
  rw [describing, beforeRequest_of_opensRequest h, fromRequest_of_opensRequest h, List.nil_append]

theorem describing_line {text : String} (h : (Entry.line text).opensRequest = false) :
    describing (.line text :: entries) = text :: describing entries := by
  rw [describing, beforeRequest_cons h, fromRequest_cons h]
  exact List.filterMap_cons_some rfl

theorem describing_fold (heading : Marker.Heading) (inside : List Entry) (ending : String) :
    describing (.fold heading inside ending :: entries) = describing entries := by
  rw [describing, beforeRequest_cons rfl, fromRequest_cons rfl]
  exact List.filterMap_cons_none rfl

theorem foldsBeforeRequest_of_opensRequest (h : entry.opensRequest = true) :
    foldsBeforeRequest (entry :: entries) = 0 := by
  rw [foldsBeforeRequest, beforeRequest_of_opensRequest h]
  rfl

theorem foldsBeforeRequest_line {text : String} (h : (Entry.line text).opensRequest = false) :
    foldsBeforeRequest (.line text :: entries) = foldsBeforeRequest entries := by
  rw [foldsBeforeRequest, beforeRequest_cons h]
  exact List.countP_cons_of_neg Bool.false_ne_true

theorem foldsBeforeRequest_fold (heading : Marker.Heading) (inside : List Entry)
    (ending : String) :
    foldsBeforeRequest (.fold heading inside ending :: entries) =
      foldsBeforeRequest entries + 1 := by
  rw [foldsBeforeRequest, beforeRequest_cons rfl]
  exact List.countP_cons_of_pos rfl

end Equations

/-! ## Where a fold can send its request -/

/-- The question is to send a request. -/
def Event.isSent : Event → Bool
  | sent .. => true
  | assigned .. | captured .. | decided .. => false

/-- What was asked before each fold inside to send the request of the fold around it. -/
def Course.sendings : Course → List (List Event)
  | empty => []
  | line _ _ more => more.sendings
  | fold before _ _ _ _ _ more => before :: more.sendings

namespace FoldCourse

/-- What was asked to send its request, before each fold inside and at the end. -/
def sendings (fold : FoldCourse) : List (List Event) := fold.inside.sendings ++ [fold.last]

/-- The entries of the fold, without an old result. -/
def entries (fold : FoldCourse) : List Entry := fold.inside.contents.entries false

end FoldCourse

namespace Fold

/-- The open fold goes through its entries to its end line.  The lists of events are what it asks
to send its request, before each fold inside and at the end. -/
inductive Works (ending : String) : Fold → List Entry → List (List Event) → Fold → Prop
  | ended {f result : Fold} {last : List Event}
      (hlast : (f.ended ending).SendsPending last result) : Works ending f [] [last] result
  | line {f taken result : Fold} {text : String} {reading : Option (List Attempt)}
      {entries : List Entry} {sendings : List (List Event)} (htakes : f.Takes text reading taken)
      (hmore : Works ending taken entries sendings result) :
      Works ending f (.line text :: entries) sendings result
  | fold {f around inner result : Fold} {before : List Event} {heading : Marker.Heading}
      {inside : List Entry} {finish : String} {entries : List Entry}
      {sendings : List (List Event)} (hbefore : f.SendsPending before around)
      (hmore : Works ending (around.enclose inner) entries sendings result) :
      Works ending f (.fold heading inside finish :: entries) (before :: sendings) result

end Fold

/-- Every fold of a course works so. -/
theorem Course.Inside.works {depth : Nat} {old : Bool} {f g result : Fold} {c : Course}
    {ending : String} {last : List Event} (h : c.Inside depth old f g)
    (hlast : (g.ended ending).SendsPending last result) :
    f.Works ending (c.contents.entries old) (c.sendings ++ [last]) result := by
  induction h with
  | empty => exact .ended hlast
  | divider hdivider _ ih =>
      rw [contents, Contents.entries, if_pos hdivider]
      exact ih hlast
  | stale hdivider _ ih =>
      rw [contents, Contents.entries, hdivider]
      exact ih hlast
  | own hdivider htakes _ ih =>
      rw [contents, Contents.entries, hdivider]
      exact .line htakes (ih hlast)
  | fold hbefore _ _ _ _ ih => exact .fold hbefore (ih hlast)

/-! ## What a fold that does not fail asks -/

namespace Fold

variable {f g result : Fold} {line ending : String} {reading : Option (List Attempt)}
  {events : List Event} {entries : List Entry} {sendings : List (List Event)} {own : List String}

/-- Behind the request line no line is read as another one. -/
theorem requested_readLine (hstarted : f.requestStarted = true) :
    (f.readLine line).requestStarted = true ∧ (f.readLine line).sent = f.sent := by
  rw [readLine]
  split
  · exact ⟨hstarted, rfl⟩
  · rw [if_neg (by simp [hstarted])]
    split
    · exact ⟨hstarted, rfl⟩
    · split <;> exact ⟨hstarted, rfl⟩

theorem unsent_readLine (hsent : f.sent = false) : (f.readLine line).sent = false := by
  rw [readLine]
  split
  · exact hsent
  · split
    · split
      · exact hsent
      · rw [readRequestLine]
        split
        · exact hsent
        · rfl
    · split
      · exact hsent
      · split <;> exact hsent

theorem Takes.requested (h : f.Takes line reading g) (hstarted : f.requestStarted = true) :
    g.requestStarted = true ∧ g.sent = f.sent := by
  cases h with
  | kept => exact ⟨hstarted, rfl⟩
  | read _ hhears =>
      cases hhears with
      | assigned text => exact ⟨hstarted, rfl⟩
      | refused e => exact ⟨hstarted, rfl⟩
      | own => exact requested_readLine (f := f.keepLine line) hstarted

theorem Takes.unsent (h : f.Takes line reading g) (hsent : f.sent = false) : g.sent = false := by
  cases h with
  | kept => exact hsent
  | read _ hhears =>
      cases hhears with
      | assigned text => exact hsent
      | refused e => exact hsent
      | own => exact unsent_readLine (f := f.keepLine line) hsent

/-- The request begins with the first line that opens one. -/
theorem Drafts.opensRequest_eq (h : f.Drafts own) (hg : g.Drafts (own ++ [line]))
    (hstarted : f.requestStarted = false) :
    g.requestStarted = (Entry.line line).opensRequest := by
  have hnone : (requestLines own).isEmpty = true := by
    rw [h.gathered.started, Bool.not_eq_false'] at hstarted
    exact hstarted
  rw [hg.gathered.started, Entry.opensRequest]
  cases hpart : isPart line with
  | false =>
      rw [requestLines_snoc_of_not_isPart hpart, hnone]
      rfl
  | true =>
      rw [requestLines_snoc_of_isPart hpart, if_pos hnone]
      cases line.isEmpty <;> rfl

theorem pending_of_not_started (h : f.requestStarted = false) : f.pending = false := by
  simp [pending, h]

theorem pending_of_sent (h : f.sent = true) : f.pending = false := by
  simp [pending, h]

theorem SendsPending.nothing (h : f.SendsPending events g) (hpending : f.pending = false) :
    events = [] ∧ g = f := by
  cases h with
  | sends hsends => exact absurd (hpending.symm.trans hsends) Bool.false_ne_true
  | rests => exact ⟨rfl, rfl⟩

/-- A request that is sent without a failure is the one that the fold has. -/
theorem Sends.questions (h : f.Sends events g) (hfailed : g.failed = false) :
    (g.requestStarted = f.requestStarted ∧ g.sent = true) ∧
      ∃ reply, events = f.description.questions reply := by
  cases h with
  | failed e => exact absurd hfailed (by simp [reportRequestFailure])
  | shown reply hname =>
      exact ⟨⟨rfl, rfl⟩, reply, by simp [Description.questions, description, hname]⟩
  | kept reply hname =>
      exact ⟨⟨rfl, rfl⟩, reply, by simp [Description.questions, description, hname]⟩
  | lost reply e => exact absurd hfailed (by simp [reportRequestFailure])

theorem SendsPending.questions (h : f.SendsPending events g) (hstarted : f.requestStarted = true)
    (hsent : f.sent = false) (hfailed : g.failed = false) :
    (g.requestStarted = true ∧ g.sent = true) ∧
      ∃ reply, events = f.description.questions reply := by
  cases h with
  | sends _ hsends => exact hstarted ▸ hsends.questions hfailed
  | rests hpending => simp [pending, hstarted, hsent, hfailed] at hpending

namespace Works

theorem failed_of_result (h : f.Works ending entries sendings result)
    (hfailed : result.failed = false) : f.failed = false := by
  induction h with
  | ended hlast =>
      rw [hlast.failed_eq, Bool.or_eq_false_iff] at hfailed
      exact hfailed.1
  | line htakes _ ih =>
      have htaken := ih hfailed
      rw [htakes.failed_eq, Bool.or_eq_false_iff] at htaken
      exact htaken.1
  | fold hbefore _ ih =>
      have henclosed := ih hfailed
      rw [failed_enclose, hbefore.failed_eq, Bool.or_eq_false_iff, Bool.or_eq_false_iff]
        at henclosed
      exact henclosed.1.1

/-- A request that was sent is not sent again. -/
theorem nothing_of_sent (h : f.Works ending entries sendings result)
    (hstarted : f.requestStarted = true) (hsent : f.sent = true) :
    ∀ events ∈ sendings, events = [] := by
  induction h with
  | ended hlast =>
      exact List.forall_mem_singleton.mpr (hlast.nothing (pending_of_sent hsent)).1
  | line htakes _ ih =>
      obtain ⟨hstarted, hstill⟩ := htakes.requested hstarted
      exact ih hstarted (hstill.trans hsent)
  | fold hbefore _ ih =>
      obtain ⟨rfl, rfl⟩ := hbefore.nothing (pending_of_sent hsent)
      exact List.forall_mem_cons.mpr ⟨rfl, ih hstarted hsent⟩

/-- A request that was not sent is sent at the next place, with the lines up to there. -/
theorem once_of_started (h : f.Works ending entries sendings result) (hdrafts : f.Drafts own)
    (hstarted : f.requestStarted = true) (hsent : f.sent = false)
    (hfailed : result.failed = false) :
    ∃ d reply others,
      Description.ofLines? (own ++ (entries.takeWhile Entry.isLine).filterMap Entry.line?) =
          some d ∧
        sendings = d.questions reply :: others ∧ ∀ events ∈ others, events = [] := by
  induction h generalizing own with
  | @ended f result last hlast =>
      rw [List.takeWhile_nil, List.filterMap_nil, List.append_nil]
      obtain ⟨-, reply, rfl⟩ := hlast.questions hstarted hsent hfailed
      exact ⟨f.description, reply, [], hdrafts.ofLines?_eq hstarted, rfl, by simp⟩
  | @line f taken result text reading entries sendings htakes hmore ih =>
      have htaken := hdrafts.takes htakes (hmore.failed_of_result hfailed)
      obtain ⟨hstill, hunsent⟩ := htakes.requested hstarted
      obtain ⟨d, reply, others, hd, hsendings⟩ :=
        ih htaken hstill (hunsent.trans hsent) hfailed
      refine ⟨d, reply, others, ?_, hsendings⟩
      rw [List.append_assoc] at hd
      exact hd
  | @fold f around inner result before heading inside finish entries sendings hbefore hmore ih =>
      have hlines : ((Entry.fold heading inside finish :: entries).takeWhile Entry.isLine) = [] :=
        rfl
      rw [hlines, List.filterMap_nil, List.append_nil]
      have henclosed := hmore.failed_of_result hfailed
      rw [failed_enclose, Bool.or_eq_false_iff] at henclosed
      obtain ⟨⟨hstill, hdone⟩, reply, rfl⟩ := hbefore.questions hstarted hsent henclosed.1
      exact ⟨f.description, reply, sendings, hdrafts.ofLines?_eq hstarted, rfl,
        hmore.nothing_of_sent hstill hdone⟩

/-- A fold without a request line sends nothing.  With one it sends the request at the first place
behind that line, as the lines up to there describe it. -/
theorem issues (h : f.Works ending entries sendings result) (hdrafts : f.Drafts own)
    (hstarted : f.requestStarted = false) (hsent : f.sent = false)
    (hfailed : result.failed = false) :
    ((∀ entry ∈ entries, entry.opensRequest = false) ∧ ∀ events ∈ sendings, events = []) ∨
      ∃ d reply others, Description.ofLines? (own ++ describing entries) = some d ∧
        sendings = List.replicate (foldsBeforeRequest entries) [] ++ d.questions reply :: others ∧
        ∀ events ∈ others, events = [] := by
  induction h generalizing own with
  | ended hlast =>
      have hnothing := (hlast.nothing (pending_of_not_started hstarted)).1
      exact .inl ⟨by simp, List.forall_mem_singleton.mpr hnothing⟩
  | @line f taken result text reading entries sendings htakes hmore ih =>
      have htaken := hdrafts.takes htakes (hmore.failed_of_result hfailed)
      have hunsent := htakes.unsent hsent
      have hopens := hdrafts.opensRequest_eq htaken hstarted
      cases htext : (Entry.line text).opensRequest with
      | true =>
          obtain ⟨d, reply, others, hd, hsendings, hothers⟩ :=
            hmore.once_of_started htaken (hopens.trans htext) hunsent hfailed
          rw [foldsBeforeRequest_of_opensRequest htext, describing_of_opensRequest htext]
          rw [List.append_assoc] at hd
          exact .inr ⟨d, reply, others, hd, hsendings, hothers⟩
      | false =>
          rw [describing_line htext, foldsBeforeRequest_line htext]
          rcases ih htaken (hopens.trans htext) hunsent hfailed with ⟨hnone, hnothing⟩ | hissues
          · exact .inl ⟨List.forall_mem_cons.mpr ⟨htext, hnone⟩, hnothing⟩
          · rw [List.append_assoc] at hissues
            exact .inr hissues
  | @fold f around inner result before heading inside finish entries sendings hbefore hmore ih =>
      obtain ⟨rfl, rfl⟩ := hbefore.nothing (pending_of_not_started hstarted)
      rw [describing_fold, foldsBeforeRequest_fold, List.replicate_succ]
      rcases ih ⟨{ hdrafts.flagged with }, { hdrafts.gathered with }⟩ hstarted hsent hfailed
        with ⟨hnone, hnothing⟩ | ⟨d, reply, others, hd, hsendings, hothers⟩
      · exact .inl ⟨List.forall_mem_cons.mpr ⟨rfl, hnone⟩,
          List.forall_mem_cons.mpr ⟨rfl, hnothing⟩⟩
      · exact .inr ⟨d, reply, others, hd, by rw [hsendings, List.cons_append], hothers⟩

end Works

/-- No line of a fold sends a request. -/
theorem Takes.filter_isSent (h : f.Takes line reading g) :
    ((reading.getD []).filterMap Attempt.event?).filter Event.isSent = [] := by
  cases h with
  | kept => rfl
  | read _ hhears =>
      cases hhears with
      | assigned text => rfl
      | refused e => rfl
      | own =>
          unfold splitting
          split <;> rfl

end Fold

/-! ## Every request of a run -/

namespace FoldCourse

/-- The requests that were sent for the fold. -/
def requests (fold : FoldCourse) : List Event := fold.sendings.flatten.filter Event.isSent

/-- The fold sends the request that its lines describe, once. -/
structure Issues (fold : FoldCourse) : Prop where
  /-- It asks nothing if all of these lines are blank. -/
  nothing : (∀ line ∈ describing fold.entries, isPart line = true → line.isEmpty = true) →
    ∀ events ∈ fold.sendings, events = []
  /-- Otherwise it asks for what they describe, before the first fold inside that stands behind the
  request line or at its end, and nothing before that or behind it. -/
  once : (∃ line ∈ describing fold.entries, isPart line = true ∧ line.isEmpty = false) →
    ∃ d reply others, Description.ofLines? (describing fold.entries) = some d ∧
      fold.sendings =
        List.replicate (foldsBeforeRequest fold.entries) [] ++ d.questions reply :: others ∧
      ∀ events ∈ others, events = []

theorem Ran.failed_eq_false_iff {fold : FoldCourse} (h : fold.Ran) :
    fold.result.failed = false ↔ ∀ attempt ∈ fold.attempts, attempt.failed = false := by
  rw [← Bool.not_eq_true, h.failed_iff]
  simp

theorem Ran.issues {fold : FoldCourse} (h : fold.Ran) (hfailed : fold.result.failed = false) :
    fold.Issues := by
  obtain ⟨depth, inner, hinside, hlast⟩ := h
  have hworks : Fold.Works _ _ fold.entries fold.sendings fold.result := hinside.works hlast
  rcases hworks.issues (.of_heading _ _) rfl rfl hfailed with ⟨hnone, hnothing⟩ | hissues
  · have hblank := isEmpty_of_mem_describing hnone
    refine ⟨fun _ => hnothing, ?_⟩
    rintro ⟨line, hline, hpart, hempty⟩
    exact absurd ((hblank line hline hpart).symm.trans hempty) (by decide)
  · refine ⟨fun hblank => ?_, fun _ => hissues⟩
    obtain ⟨d, reply, others, hd, -⟩ := hissues
    rw [List.nil_append, Description.ofLines?, requestLines_eq_nil_iff.mpr hblank] at hd
    exact absurd hd (by simp)

end FoldCourse

namespace Course

variable {depth : Nat} {old : Bool} {f g : Fold} {c : Course}

/-- With the request at the end of a fold, nothing is sent inside but for it and the folds in it. -/
theorem perm_requests_fold {inside : Course}
    (h : (inside.events.filter Event.isSent).Perm
      (inside.sendings.flatten.filter Event.isSent ++ inside.folds.flatMap FoldCourse.requests))
    (start : String) (last : List Event) (ending : Option String) (result : Fold) :
    (inside.events.filter Event.isSent ++ last.filter Event.isSent).Perm
      (FoldCourse.requests ⟨start, inside, last, ending, result⟩ ++
        inside.folds.flatMap FoldCourse.requests) := by
  have hrequests : FoldCourse.requests ⟨start, inside, last, ending, result⟩ =
      inside.sendings.flatten.filter Event.isSent ++ last.filter Event.isSent := by
    simp [FoldCourse.requests, FoldCourse.sendings]
  rw [hrequests, List.append_assoc]
  refine (h.append_right _).trans ?_
  rw [List.append_assoc]
  exact List.perm_append_comm.append_left _

/-- What is sent inside of a fold is sent for it or for a fold in it. -/
theorem Inside.perm_requests (h : c.Inside depth old f g) :
    (c.events.filter Event.isSent).Perm
      (c.sendings.flatten.filter Event.isSent ++ c.folds.flatMap FoldCourse.requests) := by
  induction h with
  | empty => exact .refl _
  | divider _ _ ih => exact ih
  | stale _ _ ih => exact ih
  | own _ htakes _ ih =>
      rw [events_line, List.filter_append, htakes.filter_isSent]
      exact ih
  | @fold depth old f around inner result g before last start inside ending more _ _ _ _ ihinside
      ih =>
      have hfold := (perm_requests_fold ihinside start last ending result).append ih
      rw [events_fold, sendings, folds]
      simp only [List.filter_append, List.flatten_cons, List.flatMap_cons, List.flatMap_append,
        List.append_assoc] at hfold ⊢
      refine (hfold.trans ?_).append_left _
      simpa only [List.append_assoc] using List.perm_append_comm_assoc (_ ++ _) _ _

/-- What is sent in a document is sent for a fold of it. -/
theorem Outside.perm_requests (h : c.Outside) :
    (c.events.filter Event.isSent).Perm (c.folds.flatMap FoldCourse.requests) := by
  induction h with
  | empty => exact .refl _
  | line _ ih => exact ih
  | @fold inner result last start inside ending more hinside _ _ ih =>
      have hfold := (perm_requests_fold hinside.perm_requests start last ending result).append ih
      rw [events_fold, folds, List.nil_append]
      simpa only [List.filter_append, List.flatMap_cons, List.flatMap_append, List.append_assoc]
        using hfold

end Course

/-- The text of a document of one fold begins with the header of the fold, which says whether the
fold failed. -/
theorem Course.Outside.exists_fold {c : Course} (h : c.Outside) {start : String}
    {inside : Contents} {ending : Option String}
    (hcontents : c.contents = .fold start inside ending .empty) :
    ∃ fold ∈ c.folds, fold.inside.contents = inside ∧
      startsWith c.text ((Marker.headingOf start).header fold.result.failed) = true := by
  cases h with
  | empty => exact nomatch hcontents
  | line => exact nomatch hcontents
  | @fold inner result last start inside ending more hinside hlast _ =>
      obtain ⟨rfl, hinsideContents, -, hmore⟩ := Contents.fold.inj hcontents
      obtain rfl : more = .empty := by
        cases more with
        | empty => rfl
        | line => exact nomatch hmore
        | fold => exact nomatch hmore
      have hran : FoldCourse.Ran ⟨start, inside, last, ending, result⟩ := ⟨0, inner, hinside, hlast⟩
      refine ⟨⟨start, inside, last, ending, result⟩, List.mem_cons_self, hinsideContents, ?_⟩
      rw [text, segments, segments, joinSegments_singleton, Fold.render, hran.rendered,
        if_neg Bool.false_ne_true, hran.header_eq]
      simp only [String.append_assoc]
      exact startsWith_append _ _

/-- Every fold of a document without loops in which nothing fails succeeds.  It sends the request that
its lines describe, once and at its place, or none if they describe none.  No other request is
sent. -/
theorem runLines_requests {σ : Type} (s : Services (StateM σ)) {document : List String}
    (h : Loopless document) (state : σ) :
    (∃ c : Contents, c.Represents document) ∧
      ∀ c : Contents, c.Represents document →
        ∃ course : Course, course.contents = c ∧ course.Outside ∧
          course.events = asked (Document.runLines s.recording document) state ∧
          course.text = ((Document.runLines s document).run state).1 ∧
          course.folds.map (fun fold => (fold.start, fold.inside.contents, fold.ending)) =
            c.folds ∧
          (course.events.filter Event.isSent).Perm (course.folds.flatMap FoldCourse.requests) ∧
          ∀ fold ∈ course.folds, (∀ attempt ∈ fold.attempts, attempt.failed = false) →
            fold.result.failed = false ∧ fold.Issues := by
  refine ⟨Contents.exists_represents document, fun c hc => ?_⟩
  obtain ⟨course, hcontents, houtside, hevents, htext⟩ := hc.exists_course s h state
  refine ⟨course, hcontents, houtside, hevents, htext, ?_, houtside.perm_requests, ?_⟩
  · rw [course.map_folds, hcontents]
  · intro fold hfold hattempts
    have hran := houtside.ran fold hfold
    have hfailed := hran.failed_eq_false_iff.mpr hattempts
    exact ⟨hfailed, hran.issues hfailed⟩

/-- A fold with its request in front of another fold, and a line behind that. -/
def enclosingDocument : List String :=
  ["###\x7b a", "#@name r", "POST u", "h: 1", "###\x7b b", "###\x7d", "late", "###\x7d"]

/-- What stands in the fold of `enclosingDocument`. -/
def enclosingInside : Contents :=
  .line "#@name r" <| .line "POST u" <| .line "h: 1" <|
    .fold "###\x7b b" .empty (some "###\x7d") <| .line "late" .empty

theorem represents_enclosing :
    Contents.Represents (.fold "###\x7b a" enclosingInside (some "###\x7d") .empty)
      enclosingDocument := by
  have hstart : ∀ title ∈ ["a", "b"],
      Marker.start? ("###\x7b " ++ title) = some ⟨"###\x7b " ++ title, title⟩ := by decide
  refine ⟨by decide, false, .fold (hstart "a" (by decide)) ?_ rfl .empty⟩
  refine .line rfl (by decide) (.line rfl (by decide) (.line rfl (by decide) ?_))
  exact .fold (hstart "b" (by decide)) .empty rfl (.line rfl (by decide) .empty)

theorem runLines_requests_enclosing :
    Loopless enclosingDocument ∧
      ∃ course : Course, course.contents.Represents enclosingDocument ∧ course.Outside ∧
        course.events = asked (Document.runLines silentServices.recording enclosingDocument) () ∧
        ∃ fold ∈ course.folds, (∀ attempt ∈ fold.attempts, attempt.failed = false) ∧
          fold.Issues ∧ ∃ reply others, fold.sendings =
            [.sent { method := "POST", url := "u", headers := ["h: 1"] } false false (.ok reply),
              .captured "r" reply.value (.ok ())] :: others := by
  have hloopless : Loopless enclosingDocument := by decide
  obtain ⟨-, hall⟩ := runLines_requests silentServices hloopless ()
  obtain ⟨course, hcontents, houtside, hevents, htext, -, -, hissues⟩ :=
    hall _ represents_enclosing
  obtain ⟨fold, hmem, hinside, hheader⟩ := houtside.exists_fold hcontents
  have hfailed : fold.result.failed = false := by
    rw [htext] at hheader
    cases hfailed : fold.result.failed with
    | false => rfl
    | true =>
        rw [hfailed] at hheader
        exact absurd hheader (by decide +kernel)
  have hattempts := (houtside.ran fold hmem).failed_eq_false_iff.mp hfailed
  obtain ⟨-, hissued⟩ := hissues fold hmem hattempts
  refine ⟨hloopless, course, hcontents ▸ represents_enclosing, houtside, hevents, fold, hmem,
    hattempts, hissued, ?_⟩
  have hentries : fold.entries = enclosingInside.entries false :=
    congrArg (Contents.entries false) hinside
  have honce := hissued.once
  rw [hentries] at honce
  obtain ⟨d, reply, others, hd, hsendings, -⟩ := honce ⟨"POST u", by decide, rfl, rfl⟩
  obtain rfl : (⟨{ method := "POST", url := "u", headers := ["h: 1"] }, false, false, "r"⟩ :
      Description) = d := Option.some.inj hd
  exact ⟨reply, others, hsendings⟩

end Foldbook
