import Foldbook.Proofs.Ledger.Run

/-!
# Where results stand

Every line of a document leaves the open folds in order, and what has been added to their results
stays where it is until the end of the run.

* `Standing.Keeps` says that folds only grow, and `Standing.Sound` that all folds are in order and
  that the results of those that have ended stand at the beginning of a line.
* `Standing.Closes.goesOn`, `Standing.Reads.goesOn`: every step does both, and so do all lines
  (`Standing.Passes.goesOn`) and the end of the input (`Standing.Finishes.goesOn`).
* `runLines_orderly` puts this together for every place in a document without loops.
-/

namespace Foldbook

open Text

/-! ## Renderings -/

theorem Text.endsOpen_addLine_empty (out : String) : endsOpen (addLine out "") = false := by
  rw [addLine, String.append_empty]
  split
  · rfl
  · exact endsOpen_append_newline out

namespace Fold

variable {f inner : Fold}

/-- The first divider in the rendering of the fold is the line above its results: only its header
and its lines stand in front. -/
def DividesFirst (f : Fold) : Prop :=
  ∃ source results, splitLines f.render.1 = source ++ f.dividerLine :: results ∧
    unlines source = f.header ++ f.echo ∧ (∀ line ∈ source, Marker.isDivider line = false) ∧
    Marker.isDivider f.dividerLine = true

theorem Lined.dividesFirst (hf : f.Lined) : f.DividesFirst := by
  refine ⟨closedLines (f.header ++ f.echo), _,
    splitLines_render hf.unrendered hf.oneLine_title hf.closed_echo,
    unlines_closedLines (endsOpen_source hf.closed_echo), fun line hline => ?_,
    f.isDivider_dividerLine⟩
  exact forall_mem_splitLines_append (Lined.endsOpen_header f) hf.plain_header hf.plain_echo line
    (closedLines_subset _ hline)

theorem beginsLine_closeLine (s : String) : BeginsLine s (closeLine s) := by
  refine ⟨"", sectionGap s, rfl, ?_⟩
  rw [String.empty_append, append_sectionGap]

/-- The results begin a line of the rendering. -/
theorem Lined.beginsLine_render (hf : f.Lined) : BeginsLine f.output f.render.1 := by
  have habove : endsOpen (f.header ++ f.echo ++ (f.dividerLine ++ "\n")) = false :=
    endsOpen_append (endsOpen_source hf.closed_echo) (endsOpen_append_newline _)
  have hresults := ((beginsLine_closeLine f.output).append f.closingMarker).below habove
  rw [render_eq hf.unrendered hf.closed_echo]
  simpa only [String.append_assoc] using hresults

/-- They begin a line of the section that the fold leaves in the one around it. -/
theorem beginsLine_nested (inner : Fold) : BeginsLine inner.output (Result.nested inner).text := by
  rw [Result.text_nested]
  exact ((beginsLine_closeLine inner.output).below (endsOpen_append_newline _)).append "###\n"

end Fold

/-! ## Ledgers that grow -/

/-- The later ledger is that of the same fold, with more lines and results. -/
structure Ledger.Grows (l later : Ledger) : Prop where
  fold : l.fold.Extends later.fold
  results : l.results <+: later.results

namespace Ledger.Grows

variable {l later last : Ledger} {line : String} {events : List Event}

theorem refl (l : Ledger) : l.Grows l := ⟨.refl _, List.prefix_rfl⟩

theorem trans (h : l.Grows later) (hlast : later.Grows last) : l.Grows last :=
  ⟨h.fold.trans hlast.fold, h.results.trans hlast.results⟩

theorem divided (l : Ledger) : l.Grows l.divided :=
  ⟨{ Fold.Extends.refl l.fold with }, List.prefix_rfl⟩

theorem ended (l : Ledger) (line : String) : l.Grows (l.ended line) :=
  ⟨{ Fold.Extends.refl l.fold with }, List.prefix_rfl⟩

theorem takes (h : l.Takes line events later) : l.Grows later := by
  obtain ⟨reading, -, hfold, hresults⟩ := h
  exact ⟨hfold.extends, hresults ▸ List.prefix_append _ _⟩

theorem sends (h : l.Sends events later) : l.Grows later :=
  ⟨.of_reported h.fold.reported, h.results ▸ List.prefix_append _ _⟩

theorem enclose (l : Ledger) (inner : Fold) : l.Grows (l.enclose inner) :=
  ⟨.enclose _ _, List.prefix_append _ _⟩

/-- What begins a line of the results does so for good. -/
theorem beginsLine (h : l.Grows later) {part : String} (hpart : BeginsLine part l.fold.output) :
    BeginsLine part later.fold.output := by
  obtain ⟨more, hmore⟩ := h.fold.output
  rw [hmore]
  exact hpart.append more

end Ledger.Grows

namespace Standing

variable {b next e : Standing} {out line : String} {l later : Ledger} {lines : List String}
  {outer stack ended : List Ledger} {events : List Event}

/-! ## Folds stay in order -/

/-- What holds between any two lines of a run. -/
structure Sound (b : Standing) : Prop where
  orderly : ∀ l ∈ b.stack, l.Orderly
  orderly_ended : ∀ l ∈ b.ended, l.Orderly
  /-- An open fold will begin a line of the text. -/
  closed_out : b.stack ≠ [] → endsOpen b.out = false

namespace Sound

theorem empty : Sound {} :=
  ⟨fun _ hl => absurd hl List.not_mem_nil, fun _ hl => absurd hl List.not_mem_nil,
    fun hstack => absurd rfl hstack⟩

/-- Something happens to the innermost fold. -/
theorem innermost (h : Sound ⟨out, l :: outer, ended⟩) (hlater : later.Orderly) :
    Sound ⟨out, later :: outer, ended⟩ where
  orderly := List.forall_mem_cons.mpr ⟨hlater, (List.forall_mem_cons.mp h.orderly).2⟩
  orderly_ended := h.orderly_ended
  closed_out _ := h.closed_out (List.cons_ne_nil _ _)

end Sound

theorem Closes.sound (h : b.Closes events e) (hb : b.Sound) : e.Sound := by
  cases h with
  | outermost hsends =>
      have hresult := (hb.orderly _ List.mem_cons_self).sends hsends
      refine ⟨fun _ hl => absurd hl List.not_mem_nil, ?_, fun hstack => absurd rfl hstack⟩
      exact List.forall_mem_append.mpr ⟨hb.orderly_ended, List.forall_mem_singleton.mpr hresult⟩
  | inside hsends =>
      obtain ⟨hinner, haround⟩ := List.forall_mem_cons.mp hb.orderly
      obtain ⟨haround, houter⟩ := List.forall_mem_cons.mp haround
      have hresult := hinner.sends hsends
      refine ⟨List.forall_mem_cons.mpr ⟨haround.enclose hresult, houter⟩, ?_,
        fun _ => hb.closed_out (List.cons_ne_nil _ _)⟩
      exact List.forall_mem_append.mpr ⟨hb.orderly_ended, List.forall_mem_singleton.mpr hresult⟩

/-- Every line keeps the folds in order. -/
theorem Reads.sound (h : Reads line b events e) (hline : OneLine line) (hb : b.Sound) :
    e.Sound := by
  cases h with
  | text => exact ⟨hb.orderly, hb.orderly_ended, fun hstack => absurd rfl hstack⟩
  | opens hstart =>
      refine ⟨List.forall_mem_singleton.mpr (.opened hline hstart 0), hb.orderly_ended,
        fun _ => endsOpen_addLine_empty _⟩
  | nests hstart hsends =>
      obtain ⟨hinner, houter⟩ := List.forall_mem_cons.mp hb.orderly
      refine ⟨List.forall_mem_cons.mpr ⟨.opened hline hstart _, ?_⟩, hb.orderly_ended,
        fun _ => hb.closed_out (List.cons_ne_nil _ _)⟩
      exact List.forall_mem_cons.mpr ⟨hinner.sends hsends, houter⟩
  | divider => exact hb.innermost (hb.orderly _ List.mem_cons_self).divided
  | ends hend hcloses =>
      exact hcloses.sound (hb.innermost ((hb.orderly _ List.mem_cons_self).ended hline hend))
  | stale => exact hb
  | own _ hdivider _ _ htakes =>
      exact hb.innermost ((hb.orderly _ List.mem_cons_self).takes htakes hline hdivider)

/-! ## Results stay in their places -/

/-- The results of a fold begin a line: of the text, or of the results of an open fold. -/
def Places (b : Standing) (l : Ledger) : Prop :=
  BeginsLine l.fold.output b.out ∨ ∃ around ∈ b.stack, BeginsLine l.fold.output around.fold.output

theorem Places.trans (h : b.Places later) (hpart : BeginsLine l.fold.output later.fold.output) :
    b.Places l :=
  h.imp hpart.trans fun ⟨around, haround, hlater⟩ => ⟨around, haround, hpart.trans hlater⟩

/-- The run has gone on: there is more text, the open folds have grown, and the results of those
that have ended have got their places. -/
structure Keeps (b e : Standing) : Prop where
  out : ∃ more, e.out = b.out ++ more
  ended : b.ended ⊆ e.ended
  stack : ∀ l ∈ b.stack, ∃ later, l.Grows later ∧
    (later ∈ e.stack ∨ later ∈ e.ended ∧ e.Places later)
  places : ∀ l ∈ e.ended, l ∈ b.ended ∨ e.Places l

namespace Keeps

theorem refl (b : Standing) : b.Keeps b :=
  ⟨⟨"", String.append_empty.symm⟩, List.Subset.refl _, fun l hl => ⟨l, .refl l, .inl hl⟩,
    fun _ hl => .inl hl⟩

/-- What has got a place keeps one. -/
theorem keepsPlace (h : b.Keeps e) (hplaces : b.Places l) : e.Places l := by
  rcases hplaces with htext | ⟨around, haround, hpart⟩
  · obtain ⟨more, hmore⟩ := h.out
    exact .inl (hmore ▸ htext.append more)
  · -- the fold around has grown, or it has ended and got a place itself
    obtain ⟨later, hgrows, hopen | ⟨-, hplaces⟩⟩ := h.stack around haround
    · exact .inr ⟨later, hopen, hgrows.beginsLine hpart⟩
    · exact hplaces.trans (hgrows.beginsLine hpart)

theorem trans (h : b.Keeps next) (hnext : next.Keeps e) : b.Keeps e := by
  obtain ⟨more, hmore⟩ := h.out
  obtain ⟨rest, hrest⟩ := hnext.out
  refine ⟨⟨more ++ rest, ?_⟩, List.Subset.trans h.ended hnext.ended,
    fun l hl => ?_, fun l hl => ?_⟩
  · rw [hrest, hmore, String.append_assoc]
  · obtain ⟨later, hgrows, hopen | ⟨hended, hplaces⟩⟩ := h.stack l hl
    · obtain ⟨last, hlast, hmem⟩ := hnext.stack later hopen
      exact ⟨last, hgrows.trans hlast, hmem⟩
    · exact ⟨later, hgrows, .inr ⟨hnext.ended hended, hnext.keepsPlace hplaces⟩⟩
  · rcases hnext.places l hl with hended | hplaces
    · exact (h.places l hended).imp_right hnext.keepsPlace
    · exact .inr hplaces

/-- Something happens to the innermost fold. -/
theorem innermost (h : l.Grows later) (hstack : later :: outer ⊆ stack) :
    Keeps ⟨out, l :: outer, ended⟩ ⟨out, stack, ended⟩ where
  out := ⟨"", String.append_empty.symm⟩
  ended := List.Subset.refl _
  stack := by
    obtain ⟨hlater, houter⟩ := List.cons_subset.mp hstack
    refine List.forall_mem_cons.mpr ⟨⟨later, h, .inl hlater⟩, fun other hother => ?_⟩
    exact ⟨other, .refl other, .inl (houter hother)⟩
  places _ hl := .inl hl

/-- The innermost fold ends. -/
theorem ends {text : String} {result : Ledger} (hout : ∃ more, text = out ++ more)
    (h : l.Grows result) (hplaces : Places ⟨text, stack, ended ++ [result]⟩ result)
    (houter : ∀ other ∈ outer, ∃ later ∈ stack, other.Grows later) :
    Keeps ⟨out, l :: outer, ended⟩ ⟨text, stack, ended ++ [result]⟩ where
  out := hout
  ended := List.subset_append_left _ _
  stack := by
    refine List.forall_mem_cons.mpr ⟨⟨result, h, .inr ⟨?_, hplaces⟩⟩, fun other hother => ?_⟩
    · exact List.mem_append_right _ List.mem_cons_self
    · obtain ⟨later, hlater, hgrows⟩ := houter other hother
      exact ⟨later, hgrows, .inl hlater⟩
  places := List.forall_mem_append.mpr
    ⟨fun _ hl => .inl hl, List.forall_mem_singleton.mpr (.inr hplaces)⟩

theorem addLine (out line : String) (stack ended : List Ledger) :
    Keeps ⟨out, [], ended⟩ ⟨addLine out line, stack, ended⟩ where
  out := by
    unfold Text.addLine
    split
    · rename_i hempty
      exact ⟨line, congrArg (· ++ line) (String.isEmpty_iff.mp hempty).symm⟩
    · exact ⟨"\n" ++ line, String.append_assoc⟩
  ended := List.Subset.refl _
  stack _ hl := absurd hl List.not_mem_nil
  places _ hl := .inl hl

end Keeps

/-- A fold that ends gets its place. -/
theorem Closes.keeps (h : b.Closes events e) (hb : b.Sound) : b.Keeps e := by
  cases h with
  | outermost hsends =>
      have hresult := (hb.orderly _ List.mem_cons_self).sends hsends
      have hclosed := hb.closed_out (List.cons_ne_nil _ _)
      refine .ends ⟨_, rfl⟩ (.sends hsends) (.inl ?_) fun _ hl => absurd hl List.not_mem_nil
      exact hresult.lined.beginsLine_render.below hclosed
  | @inside out l result around outer ended events hsends =>
      obtain ⟨hinner, haround⟩ := List.forall_mem_cons.mp hb.orderly
      have hresult := (List.forall_mem_cons.mp haround).1.enclose (hinner.sends hsends)
      refine .ends ⟨"", String.append_empty.symm⟩ (.sends hsends) (.inr ?_) ?_
      · have hnested := hresult.beginsLine (List.mem_append_right _ List.mem_cons_self)
        exact ⟨_, List.mem_cons_self, (Fold.beginsLine_nested result.fold).trans hnested⟩
      · refine List.forall_mem_cons.mpr ⟨⟨_, List.mem_cons_self, .enclose around _⟩, ?_⟩
        exact fun other hother => ⟨other, List.mem_cons_of_mem _ hother, .refl other⟩

theorem Reads.keeps (h : Reads line b events e) (hline : OneLine line) (hb : b.Sound) :
    b.Keeps e := by
  cases h with
  | text => exact .addLine _ _ _ _
  | opens => exact .addLine _ _ _ _
  | nests _ hsends => exact .innermost (.sends hsends) (List.subset_cons_self _ _)
  | divider => exact .innermost (.divided _) (List.Subset.refl _)
  | ends hend hcloses =>
      have hended := hb.innermost ((hb.orderly _ List.mem_cons_self).ended hline hend)
      exact .trans (.innermost (.ended _ line) (List.Subset.refl _)) (hcloses.keeps hended)
  | stale => exact .refl _
  | own _ _ _ _ htakes => exact .innermost (.takes htakes) (List.Subset.refl _)

/-! ## Runs -/

/-- The run has gone on in order. -/
structure GoesOn (b e : Standing) : Prop where
  sound : e.Sound
  keeps : b.Keeps e

theorem GoesOn.trans (h : b.GoesOn next) (hnext : next.GoesOn e) : b.GoesOn e :=
  ⟨hnext.sound, h.keeps.trans hnext.keeps⟩

theorem Closes.goesOn (h : b.Closes events e) (hb : b.Sound) : b.GoesOn e :=
  ⟨h.sound hb, h.keeps hb⟩

theorem Reads.goesOn (h : Reads line b events e) (hline : OneLine line) (hb : b.Sound) :
    b.GoesOn e :=
  ⟨h.sound hline hb, h.keeps hline hb⟩

theorem Passes.goesOn (h : b.Passes lines events e) (hlines : ∀ line ∈ lines, OneLine line)
    (hb : b.Sound) : b.GoesOn e := by
  induction h with
  | nil => exact ⟨hb, .refl _⟩
  | cons hreads _ ih =>
      obtain ⟨hline, hlines⟩ := List.forall_mem_cons.mp hlines
      have hnext := hreads.goesOn hline.trimEnd hb
      exact hnext.trans (ih hlines hnext.sound)

theorem Ends.goesOn (h : b.Ends events e) (hb : b.Sound) : b.GoesOn e := by
  induction h with
  | done => exact ⟨hb, .refl _⟩
  | closes hcloses _ ih =>
      have hnext := hcloses.goesOn hb
      exact hnext.trans (ih hnext.sound)

theorem Finishes.goesOn (h : b.Finishes lines events e) (hlines : ∀ line ∈ lines, OneLine line)
    (hb : b.Sound) : b.GoesOn e := by
  obtain ⟨hpasses, hends⟩ := h
  have hlast := hpasses.goesOn hlines hb
  exact hlast.trans (hends.goesOn hlast.sound)

theorem Ends.stack_eq_nil (h : b.Ends events e) : e.stack = [] := by
  induction h with
  | done => rfl
  | closes _ _ ih => exact ih

theorem Finishes.stack_eq_nil (h : b.Finishes lines events e) : e.stack = [] := by
  obtain ⟨-, hends⟩ := h
  exact hends.stack_eq_nil

end Standing

/-! ## Every place in a document -/

/-- A fold as it was when it was rendered: it was in order, and its results have got into the
text. -/
structure Ledger.LaidIn (l : Ledger) (text : String) : Prop where
  orderly : l.Orderly
  dividesFirst : l.fold.DividesFirst
  beginsLine_output : BeginsLine l.fold.output text
  beginsLine : ∀ result ∈ l.results, BeginsLine result.text text

namespace Standing

variable {b mid e : Standing} {before behind : List String} {events more : List Event}

/-- At the end of a run every fold has its results in the text. -/
theorem Finishes.laidIn (h : mid.Finishes behind more e)
    (hbefore : ({} : Standing).Passes before events mid)
    (hlines : ∀ line ∈ before ++ behind, OneLine line) : ∀ l ∈ e.ended, l.LaidIn e.out := by
  obtain ⟨hfirst, hlast⟩ := List.forall_mem_append.mp hlines
  have hmid := hbefore.goesOn hfirst .empty
  have hrun : ({} : Standing).GoesOn e := hmid.trans (h.goesOn hlast hmid.sound)
  intro l hl
  have horderly : l.Orderly := hrun.sound.orderly_ended l hl
  have houtput : BeginsLine l.fold.output e.out := by
    rcases hrun.keeps.places l hl with hnone | htext | ⟨around, haround, -⟩
    · exact absurd hnone List.not_mem_nil
    · exact htext
    · rw [h.stack_eq_nil] at haround
      exact absurd haround List.not_mem_nil
  exact ⟨horderly, horderly.lined.dividesFirst, houtput,
    fun result hresult => (horderly.beginsLine hresult).trans houtput⟩

/-- A fold that is open somewhere is among those that have ended at the end. -/
theorem Finishes.exists_ended (h : b.Finishes behind more e)
    (hlines : ∀ line ∈ behind, OneLine line) (hb : b.Sound) {l : Ledger} (hl : l ∈ b.stack) :
    ∃ last ∈ e.ended, l.Grows last := by
  obtain ⟨last, hgrows, hopen | ⟨hended, -⟩⟩ := (h.goesOn hlines hb).keeps.stack l hl
  · rw [h.stack_eq_nil] at hopen
    exact absurd hopen List.not_mem_nil
  · exact ⟨last, hended, hgrows⟩

end Standing

/-- At every place in a document without loops, whatever the services answer, the open folds are in
order, and their results end with a line as long as there is no response among them.  When the run
ends, the results of every fold are in the text, each at the beginning of a line. -/
theorem runLines_orderly {m : Type → Type} [Monad m] [LawfulMonad m] (s : Services m)
    {before behind : List String} (hlines : ∀ line ∈ before ++ behind, OneLine line)
    (h : Loopless (before ++ behind)) (plainFirst : Bool) :
    Prod.fst <$> (Document.runLines s.recording (before ++ behind) plainFirst).run [] =
        Document.runLines s (before ++ behind) plainFirst ∧
      Document.runLines s.recording (before ++ behind) plainFirst = (do
        let p ← Item.runAll s.recording {} (Item.ofLines plainFirst before)
        p.runRest s.recording (Item.ofLines plainFirst behind)) ∧
      Asks
        (fun events p => ∃ b : Standing, b.progress = p ∧ ({} : Standing).Passes before events b ∧
          (∀ l ∈ b.stack, l.Orderly ∧
            ((∀ reply, .response reply ∉ l.results) → endsOpen l.fold.output = false)) ∧
          Asks
            (fun more text => ∃ e : Standing, e.out = text ∧ b.Finishes behind more e ∧
              (∀ l ∈ e.ended, l.LaidIn text) ∧
              ∀ l ∈ b.stack, ∃ last ∈ e.ended, l.Grows last)
            (p.runRest s.recording (Item.ofLines plainFirst behind)))
        (Item.runAll s.recording {} (Item.ofLines plainFirst before)) := by
  obtain ⟨hbefore, hbehind⟩ := List.forall_mem_append.mp h
  obtain ⟨hfirst, hlast⟩ := List.forall_mem_append.mp hlines
  rw [Item.ofLines_of_loopless plainFirst hbefore, Item.ofLines_of_loopless plainFirst hbehind]
  refine ⟨map_fst_runLines_recording s _ plainFirst [], ?_, ?_⟩
  · rw [Document.runLines, Document.runItems, Item.ofLines_of_loopless plainFirst h,
      List.map_append, Item.runAll_append, bind_assoc]
    rfl
  · refine (Standing.asks_runAll s {} before).mono fun events p hp => ?_
    obtain ⟨b, rfl, hpasses⟩ := hp
    have hb : b.Sound := (hpasses.goesOn hfirst .empty).sound
    refine ⟨b, rfl, hpasses, fun l hl => ⟨hb.orderly l hl, (hb.orderly l hl).closed_output⟩, ?_⟩
    refine (Standing.asks_runRest s b behind).mono fun more text htext => ?_
    obtain ⟨e, rfl, hfinishes⟩ := htext
    exact ⟨e, rfl, hfinishes, hfinishes.laidIn hpasses hlines,
      fun l hl => hfinishes.exists_ended hlast hb hl⟩

/-- The lines up to a place in two folds.  The outer one has a response without a line end. -/
def enclosingBefore : List String :=
  ["text", "###\x7b a", "@x = 1", "GET http://a", "###\x7b b"]

/-- The lines from there on.  The request of the inner fold fails. -/
def enclosingBehind : List String := ["GET http://b", "###\x7d b", "###\x7d a"]

open Document in
theorem runLines_orderly_enclosing :
    (∀ line ∈ enclosingBefore ++ enclosingBehind, OneLine line) ∧
      Loopless (enclosingBefore ++ enclosingBehind) ∧
      ∃ b e : Standing,
        b.progress = answered (Item.runAll countingServices.recording {}
          (Item.ofLines false enclosingBefore)) 0 ∧
        b.progress.stack.map Fold.output = ["", "@x = 1\nanswer 2\nof two lines"] ∧
        (∀ l ∈ b.stack, l.Orderly) ∧
        e.out = ((runLines countingServices (enclosingBefore ++ enclosingBehind)).run 0).1 ∧
        (∀ l ∈ e.ended, l.LaidIn e.out) ∧ ∀ l ∈ b.stack, ∃ last ∈ e.ended, l.Grows last := by
  have hlines : ∀ line ∈ enclosingBefore ++ enclosingBehind, OneLine line := by decide +kernel
  have hloopless : Loopless (enclosingBefore ++ enclosingBehind) := by decide +kernel
  obtain ⟨-, -, hasks⟩ := runLines_orderly countingServices hlines hloopless false
  obtain ⟨b, hb, -, hopen, hrest⟩ := hasks.run 0
  have houtput : b.progress.stack.map Fold.output =
      ["", "@x = 1\nanswer 2\nof two lines"] := by
    rw [hb]
    decide +kernel
  -- two questions have been asked before
  obtain ⟨e, hout, -, hlaid, hended⟩ := hrest.run 2
  rw [← hout] at hlaid
  refine ⟨hlines, hloopless, b, e, hb, houtput, fun l hl => (hopen l hl).1, ?_, hlaid, hended⟩
  rw [hout]
  decide +kernel

end Foldbook
