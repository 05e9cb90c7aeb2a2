import Foldbook.Proofs.Course.Sending
import Foldbook.Proofs.Nesting

/-!
# The ledger of an open fold

The results of an open fold are one text.  Something is added to it when the fold reads a line,
when it sends its request, and when a fold inside of it ends.  A ledger lists what was added.

* `layBelow` puts texts below each other, every one at the beginning of a line, and `BeginsLine`
  says that a text stands so in another one.
* `Ledger.Takes`, `Ledger.Sends` and `Ledger.enclose` are what happens to an open fold, with what
  each of them adds.
* `Ledger.Orderly` is what holds of an open fold at any time: its lines are whole and no dividers,
  it has not been rendered, and its results are those of the ledger below each other.
* `Ledger.Orderly.closed_output`: only a response leaves the results in the middle of a line.
-/

namespace Foldbook

open Text

/-! ## Texts below each other -/

namespace Text

/-- Puts texts below the first one.  Every one of them begins a line. -/
def layBelow (first : String) (texts : List String) : String :=
  texts.foldl (fun above text => closeLine above ++ text) first

/-- The text stands in the whole one at the beginning of a line. -/
def BeginsLine (part whole : String) : Prop :=
  ∃ front behind, endsOpen front = false ∧ whole = front ++ part ++ behind

theorem layBelow_append (first : String) (texts more : List String) :
    layBelow first (texts ++ more) = layBelow (layBelow first texts) more :=
  List.foldl_append

theorem exists_layBelow_eq (first : String) (texts : List String) :
    ∃ behind, layBelow first texts = first ++ behind := by
  induction texts generalizing first with
  | nil => exact ⟨"", String.append_empty.symm⟩
  | cons text texts ih =>
      obtain ⟨behind, hbehind⟩ := ih (closeLine first ++ text)
      refine ⟨Fold.sectionGap first ++ text ++ behind, ?_⟩
      rw [layBelow, List.foldl_cons]
      refine hbehind.trans ?_
      rw [← Fold.append_sectionGap]
      simp only [String.append_assoc]

/-- Texts that end with their lines leave no open line. -/
theorem endsOpen_layBelow {first : String} (hfirst : endsOpen first = false) {texts : List String}
    (h : ∀ text ∈ texts, endsOpen text = false) : endsOpen (layBelow first texts) = false := by
  induction texts generalizing first with
  | nil => exact hfirst
  | cons text texts ih =>
      obtain ⟨htext, htexts⟩ := List.forall_mem_cons.mp h
      exact ih (endsOpen_append (endsOpen_closeLine first) htext) htexts

namespace BeginsLine

variable {part whole : String}

theorem append (h : BeginsLine part whole) (more : String) : BeginsLine part (whole ++ more) := by
  obtain ⟨front, behind, hfront, rfl⟩ := h
  exact ⟨front, behind ++ more, hfront, String.append_assoc⟩

/-- Text that ends with its last line can be put in front. -/
theorem below (h : BeginsLine part whole) {above : String} (habove : endsOpen above = false) :
    BeginsLine part (above ++ whole) := by
  obtain ⟨front, behind, hfront, rfl⟩ := h
  refine ⟨above ++ front, behind, endsOpen_append habove hfront, ?_⟩
  simp only [String.append_assoc]

theorem trans (h : BeginsLine part whole) {text : String} (hwhole : BeginsLine whole text) :
    BeginsLine part text := by
  obtain ⟨front, behind, hfront, rfl⟩ := hwhole
  exact (h.below hfront).append behind

end BeginsLine

theorem beginsLine_layBelow (first : String) {texts : List String} {text : String}
    (h : text ∈ texts) : BeginsLine text (layBelow first texts) := by
  induction texts generalizing first with
  | nil => exact absurd h List.not_mem_nil
  | cons next texts ih =>
      rcases List.mem_cons.mp h with rfl | hlater
      · obtain ⟨behind, hbehind⟩ := exists_layBelow_eq (closeLine first ++ text) texts
        exact ⟨closeLine first, behind, endsOpen_closeLine first, hbehind⟩
      · exact ih (closeLine first ++ next) hlater

theorem isEmpty_of_startsWith {s mark : String} (h : startsWith s mark = true) (hmark : mark ≠ "") :
    s.isEmpty = false := by
  rw [Bool.eq_false_iff]
  intro hempty
  rw [startsWith_iff, String.isEmpty_iff.mp hempty] at h
  exact hmark (String.toList_eq_nil_iff.mp (List.prefix_nil.mp h))

/-- What holds of the lines of two texts holds of the lines of the one below the other. -/
theorem forall_mem_splitLines_append {P : String → Prop} {s t : String}
    (hclosed : endsOpen s = false) (hs : ∀ line ∈ splitLines s, P line)
    (ht : ∀ line ∈ splitLines t, P line) : ∀ line ∈ splitLines (s ++ t), P line := by
  rw [splitLines_append_of_closed hclosed]
  exact List.forall_mem_append.mpr ⟨fun line hline => hs line (closedLines_subset s hline), ht⟩

end Text

/-! ## Results -/

/-- One text that is added to the results of an open fold. -/
inductive Result where
  /-- A blank line in front of the request line. -/
  | blank
  /-- What an assignment is answered with: its line with the final value, or why it failed. -/
  | assigned (answer : Except Failure String)
  /-- The complaint about a request line without an address. -/
  | unread (line : String)
  /-- The response to the request. -/
  | response (reply : Reply)
  /-- Why the request failed, or why its response could not be kept. -/
  | refused (e : Failure)
  /-- The results of a fold inside that has ended. -/
  | nested (inner : Fold)

namespace Result

def text : Result → String
  | blank => "\n"
  | assigned answer => answerText answer ++ "\n"
  | unread line => "Could not parse line: " ++ line ++ "\n"
  | response reply => reply.text
  | refused e => e.message ++ "\n"
  | nested inner =>
    "### " ++ inner.title ++ inner.resultLabel ++ "\n" ++ closeLine inner.output ++ "###\n"

theorem text_nested (inner : Fold) : (nested inner).text =
    "### " ++ inner.title ++ inner.resultLabel ++ "\n" ++ closeLine inner.output ++ "###\n" := rfl

/-- Everything but a response ends with its last line. -/
theorem endsOpen_text {result : Result} (h : ∀ reply, result ≠ response reply) :
    endsOpen result.text = false := by
  cases result with
  | blank => rfl
  | assigned answer => exact endsOpen_append_newline _
  | unread line => exact endsOpen_append_newline _
  | response reply => exact absurd rfl (h reply)
  | refused e => exact endsOpen_append_newline _
  | nested inner =>
      refine endsOpen_append ?_ (by decide)
      exact endsOpen_append (endsOpen_append_newline _) (endsOpen_closeLine inner.output)

/-- What sending a request adds, by what was asked. -/
def ofRequest : List Event → List Result
  | .sent _ _ _ (.error e) :: _ => [refused e]
  | .sent _ _ _ (.ok _) :: .captured _ _ (.error e) :: _ => [refused e]
  | .sent _ _ _ (.ok reply) :: _ => [response reply]
  | _ => []

end Result

/-- What an operation adds that was tried for a line. -/
def Attempt.result? : Attempt → Option Result
  | asked (.assigned _ answer) => some (.assigned answer)
  | split line false => some (.unread line)
  | _ => none

namespace Fold

/-- What a line of its own adds to the results of the fold, by what was tried for it. -/
def resultsOf (f : Fold) (line : String) : Option (List Attempt) → List Result
  | none => []
  | some attempts =>
    if !f.requestStarted && line.isEmpty then [.blank] else attempts.filterMap Attempt.result?

variable {f g : Fold} {line : String} {attempts : List Attempt} {reading : Option (List Attempt)}
  {events : List Event}

/-- Behind the request line nothing is added but for assignments. -/
theorem output_readLine (hstarted : f.requestStarted = true) :
    (f.readLine line).output = f.output := by
  rw [readLine]
  split
  · rfl
  · rw [if_neg (by simp [hstarted])]
    split
    · rfl
    · split <;> rfl

theorem output_readRequestLine (f : Fold) (line : String) :
    (f.readRequestLine line).output = layBelow f.output
      (([.split line (cutAt? [' '] line.toList).isSome].filterMap Attempt.result?).map
        Result.text) := by
  unfold readRequestLine
  cases cutAt? [' '] line.toList with
  | none => exact String.append_assoc
  | some cut => rfl

/-- What a line adds stands below the results that there are. -/
theorem Hears.output_eq (h : f.Hears line attempts g)
    (hclosed : f.requestStarted = false → endsOpen f.output = false) :
    g.output = layBelow f.output ((f.resultsOf line (some attempts)).map Result.text) := by
  cases h with
  | assigned text hline =>
      rw [resultsOf, isEmpty_of_startsWith hline (by decide), Bool.and_false,
        if_neg Bool.false_ne_true]
      exact String.append_assoc
  | refused e hline =>
      rw [resultsOf, isEmpty_of_startsWith hline (by decide), Bool.and_false,
        if_neg Bool.false_ne_true]
      exact String.append_assoc
  | own hline =>
      rw [resultsOf, splitting]
      cases hstarted : f.requestStarted with
      | true =>
          rw [output_readLine hstarted, Bool.or_true, Bool.true_or]
          rfl
      | false =>
          cases hempty : line.isEmpty with
          | true =>
              have hhash : startsWith line "#" = false := by
                rw [String.isEmpty_iff.mp hempty]
                decide
              have hreads : f.readLine line = { f with output := f.output ++ "\n" } := by
                simp [readLine, hhash, hstarted, hempty]
              rw [hreads]
              exact congrArg (· ++ "\n") (closeLine_of_closed (hclosed hstarted)).symm
          | false =>
              cases hhash : startsWith line "#" with
              | true =>
                  rw [readLine, if_pos hhash]
                  rfl
              | false =>
                  have hreads : f.readLine line = f.readRequestLine line := by
                    simp [readLine, hhash, hstarted, hempty]
                  rw [hreads]
                  exact output_readRequestLine f line

theorem Takes.output_eq (h : f.Takes line reading g)
    (hclosed : f.requestStarted = false → endsOpen f.output = false) :
    g.output = layBelow f.output ((f.resultsOf line reading).map Result.text) := by
  cases h with
  | kept => rfl
  | read _ hhears => exact hhears.output_eq (f := f.keepLine line) hclosed

/-- The response, or what failed, stands below the results that there are. -/
theorem Sends.output_eq (h : f.Sends events g) (hclosed : endsOpen f.output = false) :
    g.output = layBelow f.output ((Result.ofRequest events).map Result.text) := by
  have hbelow : ∀ text, f.output ++ text = layBelow f.output [text] := fun text =>
    congrArg (· ++ text) (closeLine_of_closed hclosed).symm
  cases h with
  | failed e => exact String.append_assoc.trans (hbelow (e.message ++ "\n"))
  | shown reply => exact hbelow reply.text
  | kept reply => exact hbelow reply.text
  | lost reply e => exact String.append_assoc.trans (hbelow (e.message ++ "\n"))

theorem SendsPending.output_eq (h : f.SendsPending events g)
    (hclosed : f.sent = false → endsOpen f.output = false) :
    g.output = layBelow f.output ((Result.ofRequest events).map Result.text) := by
  cases h with
  | sends hpending hsends =>
      simp only [pending, Bool.and_eq_true, Bool.not_eq_true'] at hpending
      exact hsends.output_eq (hclosed hpending.1.2)
  | rests => rfl

/-- Where there is a response, the request has been sent. -/
theorem SendsPending.answered (h : f.SendsPending events g) {reply : Reply}
    (hreply : f.requestStarted = true ∧ f.sent = true ∨ .response reply ∈ Result.ofRequest events) :
    g.requestStarted = true ∧ g.sent = true := by
  cases h with
  | sends hpending hsends =>
      simp only [pending, Bool.and_eq_true] at hpending
      cases hsends <;> exact ⟨hpending.1.1, rfl⟩
  | rests => exact hreply.resolve_right List.not_mem_nil

/-- The section of a fold inside stands below the results that there are. -/
theorem output_enclose (f : Fold) {inner : Fold} (hrendered : inner.rendered = false) :
    (f.enclose inner).output = layBelow f.output [(Result.nested inner).text] := by
  have hbelow : layBelow f.output [(Result.nested inner).text] =
      closeLine f.output ++ (Result.nested inner).text := rfl
  rw [hbelow, ← append_sectionGap f.output, Result.text_nested, enclose,
    renderNested_eq hrendered, absorb]
  simp only [String.append_assoc]

end Fold

/-! ## Whole lines -/

/-- The end line stays with more results. -/
theorem Fold.Reported.closingMarker {f g : Fold} (h : f.Reported g) :
    g.closingMarker = f.closingMarker := by
  rw [Fold.closingMarker, h.endMarker, Fold.closingMarker]

namespace Fold.Lined

variable {f g : Fold}

theorem of_reported (hf : f.Lined) (h : f.Reported g) : g.Lined where
  unrendered := h.rendered.trans hf.unrendered
  oneLine_startMarker := h.startMarker ▸ hf.oneLine_startMarker
  startsWith_startMarker := h.startMarker ▸ hf.startsWith_startMarker
  oneLine_title := h.title ▸ hf.oneLine_title
  oneLine_endMarker := h.endMarker ▸ hf.oneLine_endMarker
  closed_echo := h.echo ▸ hf.closed_echo
  plain_echo := h.echo ▸ hf.plain_echo

theorem oneLine_closingMarker (hf : f.Lined) : OneLine f.closingMarker := by
  unfold closingMarker
  split
  · decide
  · exact hf.oneLine_endMarker

theorem plain_line {line : String} (hline : OneLine line) (hplain : Marker.isDivider line = false) :
    ∀ part ∈ splitLines (line ++ "\n"), Marker.isDivider part = false := by
  have hsplit := splitLines_append line ""
  rw [String.append_empty, splitLines_of_oneLine hline] at hsplit
  rw [hsplit]
  exact List.forall_mem_append.mpr ⟨List.forall_mem_singleton.mpr hplain, by decide⟩

/-- The header is a line that is no divider. -/
theorem plain_header (hf : f.Lined) :
    ∀ line ∈ splitLines f.header, Marker.isDivider line = false := by
  rw [header_eq_line]
  exact plain_line (hf.oneLine_startMarker.append (Marker.oneLine_statusEnding _))
    (Marker.isDivider_header hf.startsWith_startMarker _)

theorem endsOpen_header (f : Fold) : endsOpen f.header = false := by
  rw [header_eq_line]
  exact endsOpen_append_newline _

/-- A line that is no divider can be kept. -/
theorem keepLine (hf : f.Lined) {line : String} (hline : OneLine line)
    (hplain : Marker.isDivider line = false) : (f.keepLine line).Lined := by
  have hecho : (f.keepLine line).echo = f.echo ++ (line ++ "\n") := by
    rw [← String.append_assoc]
    exact congrArg (· ++ line ++ "\n") (closeLine_of_closed hf.closed_echo)
  exact { hf with
    closed_echo := endsOpen_append_newline _
    plain_echo := by
      rw [hecho]
      exact forall_mem_splitLines_append hf.closed_echo hf.plain_echo (plain_line hline hplain) }

/-- The lines of a fold inside can be kept, with its header and its end line. -/
theorem enclose (hf : f.Lined) {inner : Fold} (hinner : inner.Lined)
    (hend : Marker.isEnd inner.closingMarker = true) : (f.enclose inner).Lined := by
  have hecho : (f.enclose inner).echo =
      f.echo ++ (inner.header ++ (inner.echo ++ (inner.closingMarker ++ "\n"))) := by
    rw [Fold.enclose, renderNested_eq hinner.unrendered]
    show f.echo ++ (inner.header ++ inner.echo ++ (inner.closingMarker ++ "\n")) = _
    rw [String.append_assoc]
  have hclosing := endsOpen_append_newline inner.closingMarker
  have hending := plain_line hinner.oneLine_closingMarker (Marker.startsWith_of_isEnd hend).2
  exact { hf with
    closed_echo := by
      rw [hecho]
      exact endsOpen_append hf.closed_echo (endsOpen_append (endsOpen_header inner)
        (endsOpen_append hinner.closed_echo hclosing))
    plain_echo := by
      rw [hecho]
      refine forall_mem_splitLines_append hf.closed_echo hf.plain_echo ?_
      refine forall_mem_splitLines_append (endsOpen_header inner) hinner.plain_header ?_
      exact forall_mem_splitLines_append hinner.closed_echo hinner.plain_echo hending }

/-- A fold that a line of a document opens has whole lines. -/
theorem ofStart {line : String} (hline : OneLine line) {start : Marker.Start}
    (hstart : Marker.start? line = some start) (depth : Nat) :
    (Fold.ofStart start depth).Lined := by
  obtain ⟨rest, hrest⟩ := Marker.exists_rest_of_start? hstart
  have hmarker : start.marker = line := by
    rw [Marker.start?_eq hline hrest, Option.some.injEq] at hstart
    rw [← hstart]
  have hheading : start.heading.marker = Marker.withoutStatus line :=
    congrArg Marker.withoutStatus hmarker
  have htitle : OneLine start.heading.title :=
    Marker.oneLine_withoutStatus (Marker.oneLine_title hstart)
  rw [Marker.Start.ofStart_eq_fold]
  exact {
    unrendered := rfl
    oneLine_startMarker := by
      rw [Marker.Heading.fold, hheading]
      exact Marker.oneLine_withoutStatus hline
    startsWith_startMarker := by
      rw [Marker.Heading.fold, hheading]
      exact Marker.startsWith_withoutStatus hline hstart
    oneLine_title := (Marker.Heading.tidy_fold htitle depth).oneLine_title
    oneLine_endMarker := List.not_mem_nil
    closed_echo := rfl
    plain_echo := List.forall_mem_singleton.mpr rfl }

end Fold.Lined

/-! ## Ledgers -/

/-- An open fold, and all that was added to its results, in order. -/
structure Ledger where
  fold : Fold
  results : List Result

namespace Ledger

/-- The fold takes a line of its own. -/
structure Takes (l : Ledger) (line : String) (events : List Event) (taken : Ledger) : Prop where
  exists_reading : ∃ reading, (reading.getD []).filterMap Attempt.event? = events ∧
    l.fold.Takes line reading taken.fold ∧
    taken.results = l.results ++ l.fold.resultsOf line reading

/-- The fold sends its request, if it is still to be sent. -/
structure Sends (l : Ledger) (events : List Event) (sent : Ledger) : Prop where
  fold : l.fold.SendsPending events sent.fold
  results : sent.results = l.results ++ Result.ofRequest events

/-- Its divider has been read. -/
def divided (l : Ledger) : Ledger := { l with fold := { l.fold with stale := true } }

/-- Its end line has been read. -/
def ended (l : Ledger) (line : String) : Ledger := { l with fold := l.fold.ended line }

/-- A fold inside has ended. -/
def enclose (l : Ledger) (inner : Fold) : Ledger :=
  { fold := l.fold.enclose inner, results := l.results ++ [.nested inner] }

/-- An open fold is in order. -/
structure Orderly (l : Ledger) : Prop where
  lined : l.fold.Lined
  isEnd_closingMarker : Marker.isEnd l.fold.closingMarker = true
  /-- A response is there once the request has been sent. -/
  answered : ∀ reply, .response reply ∈ l.results →
    l.fold.requestStarted = true ∧ l.fold.sent = true
  /-- The results are those of the ledger, each at the beginning of a line. -/
  laid : l.fold.output = layBelow "" (l.results.map Result.text)

namespace Orderly

variable {l taken sent : Ledger} {line : String} {events : List Event}

/-- As long as there is no response, the results end with their last line. -/
theorem closed_output (h : l.Orderly) (hnone : ∀ reply, .response reply ∉ l.results) :
    endsOpen l.fold.output = false := by
  rw [h.laid]
  refine endsOpen_layBelow rfl (List.forall_mem_map.mpr fun result hresult => ?_)
  exact Result.endsOpen_text fun reply hreply => hnone reply (hreply ▸ hresult)

/-- So it is before the request is sent. -/
theorem closed_of_unsent (h : l.Orderly)
    (hunsent : l.fold.requestStarted = false ∨ l.fold.sent = false) :
    endsOpen l.fold.output = false := by
  refine h.closed_output fun reply hreply => ?_
  obtain ⟨hstarted, hsent⟩ := h.answered reply hreply
  rcases hunsent with hunstarted | hunsent
  · exact absurd (hstarted.symm.trans hunstarted) (by decide)
  · exact absurd (hsent.symm.trans hunsent) (by decide)

/-- Every result of the ledger begins a line. -/
theorem beginsLine (h : l.Orderly) {result : Result} (hresult : result ∈ l.results) :
    BeginsLine result.text l.fold.output := by
  rw [h.laid]
  exact beginsLine_layBelow "" (List.mem_map_of_mem hresult)

theorem opened (hline : OneLine line) {start : Marker.Start}
    (hstart : Marker.start? line = some start) (depth : Nat) :
    Orderly { fold := Fold.ofStart start depth, results := [] } where
  lined := .ofStart hline hstart depth
  isEnd_closingMarker := by
    show Marker.isEnd Marker.finish = true
    decide
  answered reply hreply := absurd hreply List.not_mem_nil
  laid := rfl

/-- No line adds a response. -/
theorem response_notMem_resultsOf (f : Fold) (line : String) (reading : Option (List Attempt))
    (reply : Reply) : .response reply ∉ f.resultsOf line reading := by
  intro hreply
  cases reading with
  | none => exact absurd hreply List.not_mem_nil
  | some attempts =>
      rw [Fold.resultsOf] at hreply
      split at hreply
      · exact absurd (List.mem_singleton.mp hreply) (by simp)
      · obtain ⟨attempt, -, hattempt⟩ := List.mem_filterMap.mp hreply
        unfold Attempt.result? at hattempt
        split at hattempt <;> exact nomatch hattempt

theorem takes (h : l.Orderly) (htakes : l.Takes line events taken) (hline : OneLine line)
    (hplain : Marker.isDivider line = false) : taken.Orderly := by
  obtain ⟨reading, -, hfold, hresults⟩ := htakes
  have hreported := hfold.reported
  exact {
    lined := (h.lined.keepLine hline hplain).of_reported hreported
    isEnd_closingMarker := hreported.closingMarker ▸ h.isEnd_closingMarker
    answered := by
      intro reply hreply
      rw [hresults, List.mem_append] at hreply
      rcases hreply with hreply | hreply
      · obtain ⟨hstarted, hsent⟩ := h.answered reply hreply
        obtain ⟨hstarted', hsent'⟩ := hfold.requested hstarted
        exact ⟨hstarted', hsent'.trans hsent⟩
      · exact absurd hreply (response_notMem_resultsOf _ _ _ reply)
    laid := by
      rw [hresults, List.map_append, layBelow_append, ← h.laid]
      exact hfold.output_eq fun hstarted => h.closed_of_unsent (.inl hstarted) }

theorem sends (h : l.Orderly) (hsends : l.Sends events sent) : sent.Orderly := by
  obtain ⟨hfold, hresults⟩ := hsends
  have hreported := hfold.reported
  exact {
    lined := h.lined.of_reported hreported
    isEnd_closingMarker := hreported.closingMarker ▸ h.isEnd_closingMarker
    answered := by
      intro reply hreply
      rw [hresults, List.mem_append] at hreply
      exact hfold.answered (hreply.imp_left (h.answered reply))
    laid := by
      rw [hresults, List.map_append, layBelow_append, ← h.laid]
      exact hfold.output_eq fun hsent => h.closed_of_unsent (.inr hsent) }

theorem divided (h : l.Orderly) : l.divided.Orderly where
  lined := { h.lined with }
  isEnd_closingMarker := h.isEnd_closingMarker
  answered := h.answered
  laid := h.laid

theorem ended (h : l.Orderly) (hline : OneLine line) (hend : Marker.isEnd line = true) :
    (l.ended line).Orderly where
  lined := { h.lined with oneLine_endMarker := hline }
  isEnd_closingMarker := by
    rw [Fold.closingMarker_of_isEnd rfl hend]
    exact hend
  answered := h.answered
  laid := h.laid

theorem enclose (h : l.Orderly) {inner : Ledger} (hinner : inner.Orderly) :
    (l.enclose inner.fold).Orderly where
  lined := h.lined.enclose hinner.lined hinner.isEnd_closingMarker
  isEnd_closingMarker := h.isEnd_closingMarker
  answered := by
    intro reply hreply
    rcases List.mem_append.mp hreply with hreply | hreply
    · exact h.answered reply hreply
    · exact absurd (List.mem_singleton.mp hreply) (by simp)
  laid := by
    rw [Ledger.enclose, List.map_append, layBelow_append, ← h.laid]
    exact l.fold.output_enclose hinner.lined.unrendered

end Orderly

end Ledger

end Foldbook
