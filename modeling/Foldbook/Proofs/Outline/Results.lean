import Foldbook.Proofs.Events
import Foldbook.Proofs.Outline.Run
import Foldbook.Proofs.Outline.Written

/-!
# What a run writes

The run of an outline writes its entries back, and what the services answer
goes into the results between them.

* `Tells` is about an action on recording services: which texts it puts
  into the record, and what it answers behind them.
* `Fold.Grown` is what happens to an open fold: lines are added to those it
  keeps, and texts to its results.  `tells_run` says so of every entry.
* `Fold.Ended` is a fold behind its end line.  `render_eq` and
  `renderNested_eq` are what is written for it then.
* `tells_runOutside`: a document is written as `Written` says, if the texts
  in the record are quiet.
-/

namespace Foldbook

open Text

/-! ## Quiet texts -/

/-- A text of which no line begins like a start line or an end line. -/
def QuietText (s : String) : Prop := ∀ line ∈ splitLines s, Marker.Quiet line

instance (s : String) : Decidable (QuietText s) :=
  inferInstanceAs (Decidable (∀ line ∈ splitLines s, Marker.Quiet line))

namespace QuietText

variable {s t : String}

theorem of_oneLine (hline : OneLine s) (h : Marker.Quiet s) : QuietText s := by
  unfold QuietText
  rw [splitLines_of_oneLine hline]
  exact List.forall_mem_singleton.mpr h

/-- Below a line end any quiet text can follow. -/
theorem below (hs : QuietText s) (ht : QuietText t) : QuietText (s ++ "\n" ++ t) := by
  unfold QuietText
  rw [splitLines_append]
  exact List.forall_mem_append.mpr ⟨hs, ht⟩

theorem close (hs : QuietText s) : QuietText (s ++ "\n") := by
  have hempty := hs.below (t := "") (by decide)
  rwa [String.append_empty] at hempty

theorem closeLine (hs : QuietText s) : QuietText (closeLine s) := by
  unfold Text.closeLine
  split
  · exact hs.close
  · exact hs

/-- Behind a closed text any quiet text can follow. -/
theorem append (hs : QuietText s) (hclosed : endsOpen s = false) (ht : QuietText t) :
    QuietText (s ++ t) := by
  rcases eq_append_newline_of_endsOpen hclosed with rfl | ⟨front, rfl⟩
  · rwa [String.empty_append]
  · refine below (fun line hline => hs line ?_) ht
    have hsplit := splitLines_append front ""
    rw [String.append_empty] at hsplit
    rw [hsplit]
    exact List.mem_append_left _ hline

end QuietText

/-! ## Texts in the record -/

variable {σ : Type} {α β : Type}

/-- Whatever was recorded before, the action records events with certain texts, the last one first,
and answers behind them with `P`. -/
structure Tells (P : List String → α → Prop) (x : StateT (List Event) (StateM σ) α) : Prop where
  run : ∀ events state, ∃ texts,
    Event.texts ((x.run events).run state).1.2 = texts ++ Event.texts events ∧
      P texts ((x.run events).run state).1.1

namespace Tells

theorem pure {P : List String → α → Prop} {a : α} (h : P [] a) :
    Tells P (Pure.pure a : StateT (List Event) (StateM σ) α) :=
  ⟨fun _ _ => ⟨[], rfl, h⟩⟩

theorem mono {P Q : List String → α → Prop} {x : StateT (List Event) (StateM σ) α} (h : Tells P x)
    (hPQ : ∀ texts a, P texts a → Q texts a) : Tells Q x := by
  constructor
  intro events state
  obtain ⟨texts, htexts, hP⟩ := h.run events state
  exact ⟨texts, htexts, hPQ _ _ hP⟩

theorem bind {P : List String → α → Prop} {Q : List String → β → Prop}
    {x : StateT (List Event) (StateM σ) α} {f : α → StateT (List Event) (StateM σ) β}
    (hx : Tells P x) (hf : ∀ texts a, P texts a → Tells (fun more b => Q (more ++ texts) b) (f a)) :
    Tells Q (x >>= f) := by
  constructor
  intro events state
  obtain ⟨texts, htexts, hP⟩ := hx.run events state
  obtain ⟨more, hmore, hQ⟩ := (hf texts _ hP).run ((x.run events).run state).1.2
    ((x.run events).run state).2
  refine ⟨more ++ texts, ?_, hQ⟩
  rw [List.append_assoc, ← htexts, ← hmore]
  rfl

/-- An action that records nothing and whose answer does not matter. -/
theorem note (s : Services (StateM σ)) (entry : LogRecord) :
    Tells (fun texts _ => texts = []) (s.recording.note entry) :=
  ⟨fun _ _ => ⟨[], rfl, rfl⟩⟩

end Tells

/-- The text that an answer gives for the results. -/
def answerText : Except Failure String → String
  | .ok text => text
  | .error e => e.message

/-- The texts that a verdict gives for the results. -/
def verdictTexts : Except Failure String → List String
  | .ok _ => []
  | .error e => [e.message]

section Services

variable (s : Services (StateM σ))

theorem tells_assign (line : String) :
    Tells (fun texts answer => texts = [answerText answer]) (s.recording.assign line) := by
  constructor
  intro events state
  rw [run_recording_assign]
  show ∃ texts, Event.texts (.assigned line ((s.assign line).run state).1 :: events) =
    texts ++ Event.texts events ∧ texts = [answerText ((s.assign line).run state).1]
  cases ((s.assign line).run state).1 with
  | error e => exact ⟨[e.message], rfl, rfl⟩
  | ok text => exact ⟨[text], rfl, rfl⟩

theorem tells_condition (text : String) :
    Tells (fun texts answer => texts = verdictTexts answer) (s.recording.condition text) := by
  constructor
  intro events state
  rw [run_recording_condition]
  show ∃ texts, Event.texts (.decided text ((s.condition text).run state).1 :: events) =
    texts ++ Event.texts events ∧ texts = verdictTexts ((s.condition text).run state).1
  cases ((s.condition text).run state).1 with
  | error e => exact ⟨[e.message], rfl, rfl⟩
  | ok verdict => exact ⟨[], rfl, rfl⟩

end Services

/-! ## Folds that grow -/

namespace Fold

/-- What holds of every open fold. -/
structure Tidy (f : Fold) : Prop where
  unrendered : f.rendered = false
  oneLine_title : OneLine f.title
  closed_echo : endsOpen f.echo = false
  /-- Nothing is sent before the request line. -/
  unsent : f.requestStarted = false → f.sent = false
  /-- Only a response can leave the results in the middle of a line. -/
  closed_output : f.sent = false → endsOpen f.output = false

/-- The fold `g` is `f` with more lines, and with results of these texts. -/
structure Grown (f : Fold) (lines texts : List String) (g : Fold) : Prop where
  tidy : g.Tidy
  startMarker : g.startMarker = f.startMarker
  endMarker : g.endMarker = f.endMarker
  echo : g.echo = f.echo ++ unlines lines
  quiet : (∀ text ∈ texts, QuietText text) → QuietText f.output → QuietText g.output

namespace Grown

variable {f g h : Fold} {lines more texts others : List String}

theorem refl (hf : f.Tidy) : Grown f [] [] f where
  tidy := hf
  startMarker := rfl
  endMarker := rfl
  echo := by rw [unlines_nil, String.append_empty]
  quiet _ hquiet := hquiet

theorem trans (hfg : Grown f lines texts g) (hgh : Grown g more others h) :
    Grown f (lines ++ more) (others ++ texts) h where
  tidy := hgh.tidy
  startMarker := hgh.startMarker.trans hfg.startMarker
  endMarker := hgh.endMarker.trans hfg.endMarker
  echo := by rw [hgh.echo, hfg.echo, unlines_append, String.append_assoc]
  quiet htexts hquiet := by
    obtain ⟨hothers, htexts⟩ := List.forall_mem_append.mp htexts
    exact hgh.quiet hothers (hfg.quiet htexts hquiet)

/-- Whether the fold failed is not written into its lines. -/
theorem fail (hfg : Grown f lines texts g) : Grown f lines texts { g with failed := true } where
  tidy := { hfg.tidy with }
  startMarker := hfg.startMarker
  endMarker := hfg.endMarker
  echo := hfg.echo
  quiet := hfg.quiet

end Grown

/-! ## Own lines -/

variable {f : Fold}

theorem Tidy.keepLine (hf : f.Tidy) (line : String) : Grown f [line] [] (f.keepLine line) where
  tidy := { hf with closed_echo := endsOpen_append_newline _ }
  startMarker := rfl
  endMarker := rfl
  echo := by
    show closeLine f.echo ++ line ++ "\n" = _
    rw [closeLine_of_closed hf.closed_echo]
    simp [String.append_assoc]
  quiet _ hquiet := hquiet

theorem Tidy.reportLine (hf : f.Tidy) (text : String) :
    Grown f [] [text] (f.reportLine text) where
  tidy := { hf with closed_output := fun _ => endsOpen_append_newline _ }
  startMarker := rfl
  endMarker := rfl
  echo := (Grown.refl hf).echo
  quiet htexts hquiet := by
    have htext := htexts text List.mem_cons_self
    exact (hquiet.closeLine.append (endsOpen_closeLine _) htext).close

/-- A line of the request changes nothing that is written back. -/
theorem Tidy.ofSame (hf : f.Tidy) {g : Fold} (hrendered : g.rendered = f.rendered)
    (htitle : g.title = f.title) (hmarker : g.startMarker = f.startMarker)
    (hending : g.endMarker = f.endMarker) (hecho : g.echo = f.echo) (houtput : g.output = f.output)
    (hsent : g.sent = f.sent) (hstarted : g.requestStarted = f.requestStarted) :
    Grown f [] [] g where
  tidy := by
    constructor
    · rw [hrendered, hf.unrendered]
    · rw [htitle]
      exact hf.oneLine_title
    · rw [hecho]
      exact hf.closed_echo
    · rw [hstarted, hsent]
      exact hf.unsent
    · rw [hsent, houtput]
      exact hf.closed_output
  startMarker := hmarker
  endMarker := hending
  echo := by rw [hecho, unlines_nil, String.append_empty]
  quiet _ hquiet := by rwa [houtput]

theorem Tidy.readRequestLine (hf : f.Tidy) (hstarted : f.requestStarted = false) {line : String}
    (hline : OneLine line) : Grown f [] [] (f.readRequestLine line) := by
  unfold Fold.readRequestLine
  split
  · have hreport := hf.reportLine ("Could not parse line: " ++ line)
    have hquiet : QuietText ("Could not parse line: " ++ line) := by
      have hbegins : startsWith ("Could not parse line: " ++ line) "C" = true :=
        startsWith_append "C" ("ould not parse line: " ++ line)
      refine .of_oneLine (OneLine.append (by decide) hline) ⟨?_, ?_⟩
      · exact startsWith_eq_false_of_startsWith hbegins (by decide) (by decide)
      · exact startsWith_eq_false_of_startsWith hbegins (by decide) (by decide)
    exact {
      tidy := { hreport.tidy with unsent := fun h => absurd h (by simp) }
      startMarker := rfl
      endMarker := rfl
      echo := hreport.echo
      quiet := fun _ => hreport.quiet (List.forall_mem_singleton.mpr hquiet) }
  · exact {
      tidy := { hf with
        unsent := fun h => absurd h (by simp)
        closed_output := fun _ => hf.closed_output (hf.unsent hstarted) }
      startMarker := rfl
      endMarker := rfl
      echo := (Grown.refl hf).echo
      quiet := fun _ hquiet => hquiet }

theorem Tidy.readLine (hf : f.Tidy) {line : String} (hline : OneLine line) :
    Grown f [] [] (f.readLine line) := by
  unfold Fold.readLine
  split
  · exact hf.ofSame rfl rfl rfl rfl rfl rfl rfl rfl
  · split
    · rename_i hstarted
      have hstarted : f.requestStarted = false := by simpa using hstarted
      split
      · exact {
          tidy := { hf with closed_output := fun _ => endsOpen_append_newline _ }
          startMarker := rfl
          endMarker := rfl
          echo := (Grown.refl hf).echo
          quiet := fun _ hquiet => hquiet.close }
      · exact hf.readRequestLine hstarted hline
    · split
      · exact hf.ofSame rfl rfl rfl rfl rfl rfl rfl rfl
      · split
        · exact hf.ofSame rfl rfl rfl rfl rfl rfl rfl rfl
        · exact hf.ofSame rfl rfl rfl rfl rfl rfl rfl rfl

section Services

variable (s : Services (StateM σ))

theorem tells_interpret (hf : f.Tidy) {line : String} (hline : OneLine line) :
    Tells (Grown f []) (f.interpret s.recording line) := by
  unfold interpret
  split
  · refine (tells_assign s line).bind fun texts answer htexts => ?_
    subst htexts
    cases answer with
    | ok text => exact .pure (hf.reportLine text)
    | error e => exact .pure (hf.reportLine e.message).fail
  · exact .pure (hf.readLine hline)

theorem tells_takeLine (hf : f.Tidy) {line : String} (hline : OneLine line) :
    Tells (Grown f [line]) (f.takeLine s.recording line) := by
  have hkeep := hf.keepLine line
  unfold takeLine
  dsimp only
  split
  · exact .pure hkeep
  · exact (tells_interpret s hkeep.tidy hline).mono fun texts g hg => by simpa using hkeep.trans hg

/-- The text of a response goes into the results. -/
theorem Tidy.respond (hf : f.Tidy) (hpending : f.pending = true) (text : String) :
    Grown f [] [text] { f with sent := true, output := f.output ++ text } := by
  simp only [pending, Bool.and_eq_true, Bool.not_eq_true'] at hpending
  obtain ⟨⟨hstarted, hsent⟩, -⟩ := hpending
  exact {
    tidy := { hf with
      unsent := fun h => absurd (hstarted.symm.trans h) (by simp)
      closed_output := fun h => absurd h (by simp) }
    startMarker := rfl
    endMarker := rfl
    echo := (Grown.refl hf).echo
    quiet := fun htexts hquiet =>
      hquiet.append (hf.closed_output hsent) (htexts text List.mem_cons_self) }

/-- The text of a failed request goes there too. -/
theorem Tidy.respondFailure (hf : f.Tidy) (hpending : f.pending = true) (e : Failure) :
    Grown f [] [e.message] (({ f with sent := true } : Fold).reportRequestFailure e) := by
  have hrespond := hf.respond hpending e.message
  exact {
    tidy := { hrespond.tidy with closed_output := fun _ => endsOpen_append_newline _ }
    startMarker := rfl
    endMarker := rfl
    echo := hrespond.echo
    quiet := fun htexts hquiet => (hrespond.quiet htexts hquiet).close }

theorem tells_issue (hf : f.Tidy) (hpending : f.pending = true) :
    Tells (Grown f []) (f.issue s.recording) := by
  constructor
  intro events state
  unfold issue
  dsimp only
  rw [StateT.run_bind, run_recording_send, bind_map_left, run_bind_state]
  generalize (s.send { f with sent := true }.request f.debug f.verbose).run state = sent
  obtain ⟨_ | reply, state⟩ := sent
  · exact ⟨_, rfl, hf.respondFailure hpending _⟩
  · dsimp only
    split
    · exact ⟨_, rfl, hf.respond hpending _⟩
    · rw [StateT.run_bind, run_recording_capture, bind_map_left, run_bind_state]
      generalize (s.capture f.captureName reply.value).run state = kept
      obtain ⟨_ | _, state⟩ := kept
      · exact ⟨_, rfl, hf.respondFailure hpending _⟩
      · exact ⟨_, rfl, hf.respond hpending _⟩

theorem tells_issuePending (hf : f.Tidy) : Tells (Grown f []) (f.issuePending s.recording) := by
  unfold issuePending
  split
  · rename_i hpending
    exact tells_issue s hf hpending
  · exact .pure (.refl hf)

end Services

/-! ## Renderings -/

theorem header_eq_line (f : Fold) :
    f.header = f.startMarker ++ Marker.statusEnding f.failed ++ "\n" := by
  unfold header Marker.statusEnding status
  cases f.failed <;> simp [String.append_assoc]

theorem header_eq {heading : Marker.Heading} {g : Fold} (h : g.startMarker = heading.marker) :
    g.header = heading.header g.failed ++ "\n" := by
  rw [header_eq_line, h]
  rfl

theorem append_sectionGap (before : String) : before ++ sectionGap before = closeLine before := by
  unfold sectionGap closeLine
  split
  · rfl
  · rw [String.append_empty]

theorem oneLine_resultLabel (g : Fold) : OneLine g.resultLabel := by
  unfold resultLabel
  split <;> decide

theorem Tidy.quietText_sectionHead {g : Fold} (hg : g.Tidy) :
    QuietText ("### " ++ g.title ++ g.resultLabel) := by
  have hbegins : startsWith ("### " ++ (g.title ++ g.resultLabel)) "### " = true :=
    startsWith_append _ _
  rw [String.append_assoc]
  refine .of_oneLine ?_ ⟨?_, ?_⟩
  · exact OneLine.append (by decide) (hg.oneLine_title.append g.oneLine_resultLabel)
  · exact startsWith_eq_false_of_startsWith hbegins (by decide) (by decide)
  · exact startsWith_eq_false_of_startsWith hbegins (by decide) (by decide)

/-- The line above the results of a fold that is written back. -/
def dividerLine (g : Fold) : String := Marker.divider ++ " " ++ g.title ++ g.resultLabel

theorem isDivider_dividerLine (g : Fold) : Marker.isDivider g.dividerLine = true := by
  rw [dividerLine, String.append_assoc, String.append_assoc]
  exact startsWith_append _ _

theorem oneLine_dividerLine {g : Fold} (htitle : OneLine g.title) : OneLine g.dividerLine :=
  (OneLine.append (by decide) htitle).append g.oneLine_resultLabel

/-- A rendering in the order of its lines. -/
theorem render_eq (hrendered : f.rendered = false) (hecho : endsOpen f.echo = false) :
    f.render.1 =
      f.header ++ f.echo ++ (f.dividerLine ++ "\n" ++ (closeLine f.output ++ f.closingMarker)) := by
  unfold render
  rw [hrendered, closeLine_of_closed hecho]
  simp [dividerLine, String.append_assoc]

theorem renderNested_eq (hrendered : f.rendered = false) (before : String) :
    (f.renderNested before).1 =
      { echo := f.header ++ f.echo ++ (f.closingMarker ++ "\n")
        output := sectionGap before ++ "### " ++ f.title ++ f.resultLabel ++ "\n" ++
          closeLine f.output ++ "###\n" } := by
  unfold renderNested
  rw [hrendered]
  simp [String.append_assoc]

/-! ## Folds that have ended -/

/-- A fold with this heading has ended, with these lines inside and results of these texts. -/
structure Ended (heading : Marker.Heading) (inside : List String) (ending : String)
    (texts : List String) (g : Fold) : Prop where
  tidy : g.Tidy
  startMarker : g.startMarker = heading.marker
  closingMarker : g.closingMarker = ending
  echo : g.echo = unlines inside
  quiet : (∀ text ∈ texts, QuietText text) → QuietText g.output

theorem Ended.mono {heading : Marker.Heading} {inside : List String} {ending : String}
    {texts more : List String} {g : Fold} (h : Ended heading inside ending texts g)
    (hsub : texts ⊆ more) : Ended heading inside ending more g :=
  { h with quiet := fun hall => h.quiet fun text htext => hall text (hsub htext) }

section Ended

variable {heading : Marker.Heading} {inside : List String} {ending : String} {texts : List String}
  {g : Fold}

/-- A fold that has ended gives its lines and its results to the fold around it. -/
theorem Ended.grown_enclose (h : Ended heading inside ending texts g) (hf : f.Tidy) :
    Grown f (heading.header g.failed :: inside ++ [ending]) texts (f.enclose g) := by
  have hpart := renderNested_eq h.tidy.unrendered f.output
  have hecho : (f.enclose g).echo =
      f.echo ++ unlines (heading.header g.failed :: inside ++ [ending]) := by
    unfold enclose
    rw [hpart]
    simp [absorb, header_eq h.startMarker, h.echo, h.closingMarker, unlines_append,
      String.append_assoc]
  have houtput : (f.enclose g).output =
      closeLine f.output ++ ("### " ++ g.title ++ g.resultLabel ++ "\n" ++
        (closeLine g.output ++ "###")) ++ "\n" := by
    unfold enclose
    rw [hpart, ← append_sectionGap f.output]
    simp [absorb, String.append_assoc]
  exact {
    tidy := {
      unrendered := hf.unrendered
      oneLine_title := hf.oneLine_title
      closed_echo := by
        rw [hecho]
        exact endsOpen_append hf.closed_echo (endsOpen_unlines _)
      unsent := hf.unsent
      closed_output := by
        intro _
        rw [houtput]
        exact endsOpen_append_newline _ }
    startMarker := rfl
    endMarker := rfl
    echo := hecho
    quiet := by
      intro htexts hquiet
      rw [houtput]
      have hsection : QuietText ("### " ++ g.title ++ g.resultLabel ++ "\n" ++
          (closeLine g.output ++ "###")) :=
        h.tidy.quietText_sectionHead.below
          ((h.quiet htexts).closeLine.append (endsOpen_closeLine _) (by decide))
      exact (hquiet.closeLine.append (endsOpen_closeLine _) hsection).close }

/-- A fold that has ended outside of folds is added line by line. -/
theorem Ended.addLine_render (h : Ended heading inside ending texts g) (out : String) :
    addLine out g.render.1 = (heading.header g.failed :: inside ++
      g.dividerLine :: closedLines g.output ++ [ending]).foldl addLine out := by
  have hrender : g.render.1 = unlines (heading.header g.failed :: inside ++
      g.dividerLine :: closedLines g.output) ++ ending := by
    rw [render_eq h.tidy.unrendered h.tidy.closed_echo, header_eq h.startMarker, h.echo,
      h.closingMarker, closeLine_eq_unlines g.output]
    simp [unlines_append, String.append_assoc]
  have hheader : heading.header g.failed ≠ "" := by
    unfold Marker.Heading.header Marker.statusEnding
    simp [String.append_eq_empty_iff]
  rw [hrender]
  exact (foldl_addLine_unlines hheader out _ ending).symm

end Ended

end Fold

/-! ## Entries -/

section Services

variable (s : Services (StateM σ))

theorem Marker.Heading.tidy_fold {heading : Marker.Heading} (h : OneLine heading.title)
    (depth : Nat) : (heading.fold depth).Tidy where
  unrendered := rfl
  oneLine_title := by
    show OneLine (if heading.title.isEmpty then "" else heading.title ++ " ")
    split
    · decide
    · exact h.append (by decide)
  closed_echo := rfl
  unsent _ := rfl
  closed_output _ := rfl

/-- A fold with these lines and results, of which nothing was carried out. -/
theorem Fold.Ended.of_lines {heading : Marker.Heading} (htitle : OneLine heading.title)
    {inside : List String} {ending : String} (hend : Marker.isEnd ending = true) (failed : Bool)
    {texts : List String} {results : String} (hclosed : endsOpen results = false)
    (hquiet : (∀ text ∈ texts, QuietText text) → QuietText results) :
    Ended heading inside ending texts { heading.fold 0 with
      echo := unlines inside
      endMarker := ending
      output := results
      failed } where
  tidy := { Marker.Heading.tidy_fold htitle 0 with
    closed_echo := endsOpen_unlines _
    closed_output := fun _ => hclosed }
  startMarker := rfl
  closingMarker := Fold.closingMarker_of_isEnd rfl hend
  echo := rfl
  quiet := hquiet

theorem Marker.Heading.tells_openFold (heading : Marker.Heading) (depth : Nat) :
    Tells (fun texts g => texts = [] ∧ g = heading.fold depth)
      (heading.openFold s.recording depth) := by
  unfold openFold
  exact (Tells.note s _).bind fun texts _ htexts => .pure ⟨htexts, rfl⟩

theorem Fold.tells_conclude {f : Fold} (hf : f.Tidy) (ending : String) :
    Tells (Grown { f with endMarker := ending } []) (f.conclude s.recording ending) := by
  have hnamed : ({ f with endMarker := ending } : Fold).Tidy := { hf with }
  unfold conclude
  refine (tells_issuePending s hnamed).bind fun texts g hg => ?_
  refine (Tells.note s _).bind fun more _ hmore => ?_
  subst hmore
  exact .pure hg

/-- A fold that is opened and ended keeps the lines inside, if these do. -/
theorem Entry.tells_runFold {heading : Marker.Heading} (htitle : OneLine heading.title)
    {entries : List Entry} {ending : String} (hend : Marker.isEnd ending = true) (depth : Nat)
    (hinside : ∀ f : Fold, f.Tidy → Tells (fun texts g => ∃ lines,
      WrittenInside entries lines ∧ Fold.Grown f lines texts g)
        (Entry.runAll s.recording (depth + 1) f entries)) :
    Tells (fun texts g => ∃ lines, WrittenInside entries lines ∧
        Fold.Ended heading lines ending texts g)
      (Entry.runFold s.recording depth heading entries ending) := by
  refine (heading.tells_openFold s depth).bind fun texts f hf => ?_
  obtain ⟨rfl, rfl⟩ := hf
  refine (hinside _ (Marker.Heading.tidy_fold htitle depth)).bind fun texts f hf => ?_
  obtain ⟨lines, hlines, hgrown⟩ := hf
  refine (Fold.tells_conclude s hgrown.tidy ending).mono fun more g hg => ?_
  refine ⟨lines, hlines, ?_⟩
  exact {
    tidy := hg.tidy
    startMarker := hg.startMarker.trans hgrown.startMarker
    closingMarker := Fold.closingMarker_of_isEnd hg.endMarker hend
    echo := by
      rw [hg.echo, unlines_nil, String.append_empty]
      exact hgrown.echo
    quiet := by
      intro htexts
      obtain ⟨hall, -⟩ := List.forall_mem_append.mp htexts
      obtain ⟨hmore, htexts⟩ := List.forall_mem_append.mp hall
      have hempty : QuietText "" := by decide
      exact hg.quiet hmore (hgrown.quiet htexts hempty) }

mutual

/-- An entry inside of a fold is written to the lines of the fold. -/
theorem Entry.tells_run (depth : Nat) {f : Fold} (hf : f.Tidy) : (entry : Entry) → entry.Proper →
    Tells (fun texts g => ∃ lines, WrittenInside [entry] lines ∧ Fold.Grown f lines texts g)
      (entry.run s.recording depth f)
  | .line text, hproper => by
      cases hproper with
      | line htext =>
          unfold Entry.run
          exact (Fold.tells_takeLine s hf htext.oneLine).mono fun texts g hg =>
            ⟨[text], .line text .nil, hg⟩
  | .fold heading entries ending, hproper => by
      obtain ⟨hheading, hinside, hend⟩ := hproper.of_fold
      rw [Entry.run_fold]
      refine (Fold.tells_issuePending s hf).bind fun texts g hg => ?_
      refine (Entry.tells_runFold s hheading.oneLine_title hend depth fun f hf =>
        Entry.tells_runAll (depth + 1) hf entries hinside).bind fun more inner hinner => ?_
      obtain ⟨lines, hlines, hended⟩ := hinner
      have hgrown := hg.trans (hended.grown_enclose hg.tidy)
      exact .pure ⟨_, .fold heading ending inner.failed hlines .nil, hgrown⟩

theorem Entry.tells_runAll (depth : Nat) {f : Fold} (hf : f.Tidy) : (entries : List Entry) →
    (∀ entry ∈ entries, entry.Proper) →
    Tells (fun texts g => ∃ lines, WrittenInside entries lines ∧ Fold.Grown f lines texts g)
      (Entry.runAll s.recording depth f entries)
  | [], _ => by
      unfold Entry.runAll
      exact .pure ⟨[], .nil, .refl hf⟩
  | entry :: entries, hproper => by
      obtain ⟨hentry, hentries⟩ := List.forall_mem_cons.mp hproper
      unfold Entry.runAll
      refine (Entry.tells_run depth hf entry hentry).bind fun texts g hg => ?_
      obtain ⟨lines, hlines, hgrown⟩ := hg
      refine (Entry.tells_runAll depth hgrown.tidy entries hentries).mono fun more h hh => ?_
      obtain ⟨others, hothers, hgrown'⟩ := hh
      exact ⟨lines ++ others, hlines.append hothers, hgrown.trans hgrown'⟩

end

/-- A document is written line by line. -/
theorem Entry.tells_runOutside (out : String) {entries : List Entry}
    (hproper : ∀ entry ∈ entries, entry.ProperOutside) :
    Tells (fun texts written => (∀ text ∈ texts, QuietText text) →
        ∃ lines, Written entries lines ∧ written = lines.foldl addLine out)
      (Entry.runOutside s.recording out entries) := by
  induction entries generalizing out with
  | nil =>
      unfold Entry.runOutside
      exact .pure fun _ => ⟨[], .nil, rfl⟩
  | cons entry entries ih =>
      obtain ⟨hentry, hentries⟩ := List.forall_mem_cons.mp hproper
      cases hentry with
      | line htext =>
          unfold Entry.runOutside
          refine (ih _ hentries).mono fun texts written h htexts => ?_
          obtain ⟨lines, hlines, hwritten⟩ := h htexts
          exact ⟨_, .line _ hlines, hwritten⟩
      | @fold heading inner ending hfold =>
          obtain ⟨hheading, hinside, hend⟩ := hfold.of_fold
          rw [Entry.runOutside_fold]
          refine (Entry.tells_runFold s hheading.oneLine_title hend 0 fun f hf =>
            Entry.tells_runAll s 1 hf inner hinside).bind fun texts g hg => ?_
          obtain ⟨inside, hinside, hended⟩ := hg
          refine (ih _ hentries).mono fun more written h hall => ?_
          obtain ⟨hmore, htexts⟩ := List.forall_mem_append.mp hall
          obtain ⟨lines, hlines, hwritten⟩ := h hmore
          have hresults : ∀ line ∈ closedLines g.output, Marker.Quiet line := fun line hline =>
            hended.quiet htexts line (closedLines_subset _ hline)
          have hlines' : ∀ line ∈ g.dividerLine :: closedLines g.output, OneLine line :=
            List.forall_mem_cons.mpr ⟨Fold.oneLine_dividerLine hended.tidy.oneLine_title,
              fun line hline => oneLine_of_mem_splitLines (closedLines_subset _ hline)⟩
          refine ⟨_, .fold heading ending g.dividerLine g.failed hinside g.isDivider_dividerLine
            hresults hlines' hlines, ?_⟩
          rw [hwritten, hended.addLine_render, ← List.foldl_append]
          simp

end Services

end Foldbook
