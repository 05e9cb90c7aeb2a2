import Foldbook.Proofs.Outline.Results

/-!
# A document and what it was rewritten to

Running a document answers it with the results of the run.  For a document
without loops `observe_rewritten` says that the answer means the same as
the document: from every state it runs to the same text, asks the services
the same questions and leaves the same state.

The answer is written as `Written` says, so its outline is the one of the
document, except that blank lines at the beginning of a document leave
nothing in its text.
-/

namespace Foldbook

open Text

/-! ## Blank lines at the beginning -/

section

variable {m : Type → Type} [Monad m] [LawfulMonad m] (s : Services m)

/-- A blank first line is neither written nor carried out. -/
theorem runLines_blank_cons (lines : List String) :
    Document.runLines s ("" :: lines) = Document.runLines s lines := by
  have hitems : Item.ofLines false ("" :: lines) = .line "" :: Item.ofLines false lines := by
    rw [Item.ofLines]
    rfl
  have hline : Progress.readLine s {} "" = pure {} := rfl
  rw [Document.runLines, Document.runLines, hitems, Document.runItems, Document.runItems,
    Item.runAll, Item.run, hline, pure_bind]

/-- A text that was written line by line is run line by line. -/
theorem runText_foldl_addLine {lines : List String} (h : ∀ line ∈ lines, OneLine line) :
    Document.runText s (lines.foldl addLine "" ++ "\n") = Document.runLines s lines := by
  rw [Document.runText, documentLines_append_newline]
  induction lines with
  | nil => exact runLines_blank_cons s []
  | cons line lines ih =>
      obtain ⟨hline, hlines⟩ := List.forall_mem_cons.mp h
      rw [List.foldl_cons, addLine_empty]
      by_cases hblank : line = ""
      · rw [hblank, ih hlines, runLines_blank_cons]
      · rw [splitLines_foldl_addLine hblank hlines, splitLines_of_oneLine hline,
          List.singleton_append]

end

/-! ## Rewriting -/

/-- No start line has a header that starts a loop. -/
def LooplessHeaders (lines : List String) : Prop :=
  ∀ line ∈ lines, ∀ found ∈ Marker.start? (trimEnd line), ∀ failed,
    Marker.isLoopStart (found.header failed) = false

instance (lines : List String) : Decidable (LooplessHeaders lines) :=
  inferInstanceAs (Decidable (∀ line ∈ lines, ∀ found ∈ Marker.start? (trimEnd line), ∀ failed,
    Marker.isLoopStart (found.header failed) = false))

/-- Lines that were written for the outline of a document run like the document. -/
theorem runLines_written {m : Type → Type} [Monad m] [LawfulMonad m] (s : Services m)
    {source lines : List String} (hloopless : Loopless source) {entries : List Entry}
    (hsource : Rest.ofLines [] (source.map trimEnd) = .outside entries)
    (hwritten : Written entries lines) (hproper : ∀ entry ∈ entries, entry.ProperOutside) :
    Document.runLines s lines = Document.runLines s source := by
  rw [runLines_eq_outline s (hwritten.loopless hproper), runLines_eq_outline s hloopless, hsource,
    Rest.ofLines_written hwritten hproper]

namespace Document

variable {σ : Type} (s : Services (StateM σ))

/-- What a run from a state comes to: its text, what the services were asked and what they
answered, the last event first, and the state behind it. -/
def observe (source : String) (state : σ) : (String × List Event) × σ :=
  ((runText s.recording source).run []).run state

theorem text_observe (source : String) (state : σ) :
    (observe s source state).1.1 = ((runText s source).run state).1 := by
  have hplain := map_fst_runLines_recording s (documentLines source) false []
  exact congrArg (fun x : StateM σ String => (x.run state).1) hplain

/-- What a run writes is run like its document, whatever the services are. -/
theorem runText_rewritten {source : String} {before : σ}
    (hloopless : Loopless (documentLines source))
    (hheaders : LooplessHeaders (documentLines source))
    (hquiet : ∀ text ∈ Event.texts (observe s source before).1.2, QuietText text)
    {m : Type → Type} [Monad m] [LawfulMonad m] (t : Services m) :
    runText t (((runText s source).run before).1 ++ "\n") = runText t source := by
  obtain ⟨entries, hentries⟩ := Rest.exists_outside ((documentLines source).map trimEnd)
  have hrest : (Rest.ofLines [] ((documentLines source).map trimEnd)).Proper := by
    refine Rest.proper_ofLines ?_ ?_ []
    · intro line hline
      obtain ⟨raw, hraw, rfl⟩ := List.mem_map.mp hline
      exact trimmed_trimEnd (oneLine_of_mem_documentLines hraw)
    · intro line hline
      obtain ⟨raw, hraw, rfl⟩ := List.mem_map.mp hline
      exact hheaders raw hraw
  rw [hentries] at hrest
  cases hrest with
  | outside hproper =>
      obtain ⟨texts, htexts, hwritten⟩ :=
        (Entry.tells_runOutside s "" hproper).run [] before
      have hrun : runText s.recording source = Entry.runOutside s.recording "" entries := by
        rw [runText, runLines_eq_outline s.recording hloopless, hentries]
        rfl
      rw [← hrun] at htexts hwritten
      have hall : ∀ text ∈ texts, QuietText text := by
        intro text htext
        refine hquiet text ?_
        rw [observe, htexts]
        exact List.mem_append_left _ htext
      obtain ⟨lines, hlines, htext⟩ := hwritten hall
      have htext : ((runText s source).run before).1 = lines.foldl addLine "" := by
        rw [← text_observe]
        exact htext
      rw [htext, runText_foldl_addLine t (hlines.oneLine hproper), runText,
        runLines_written t hloopless hentries hlines hproper]

/-- A document without loops can be replaced by what a run writes for it: from every state it has
the same text, the same questions to the services in the same order, and the same final state. -/
theorem observe_rewritten {source : String} {before : σ}
    (hloopless : Loopless (documentLines source))
    (hheaders : LooplessHeaders (documentLines source))
    (hquiet : ∀ text ∈ Event.texts (observe s source before).1.2, QuietText text) (after : σ) :
    observe s (((runText s source).run before).1 ++ "\n") after = observe s source after := by
  rw [observe, runText_rewritten s hloopless hheaders hquiet s.recording, observe]

/-- Services over a counter that every question moves on.  One address cannot be reached. -/
def countingServices : Services (StateM Nat) where
  assign line := do
    modify (· + 1)
    pure (.ok line)
  send request _ _ := do
    modify (· + 1)
    if request.url = "http://b" then pure (.error (.transport .portNotNumber))
    else pure (.ok { text := "answer " ++ toString (← get) ++ "\nof two lines", value := .null })
  capture _ _ := do
    modify (· + 1)
    pure (.ok ())
  condition text := pure (.ok text)
  note _ := pure ()
  rounds := 3

/-- A document with a blank line in front, an old status and an old result, a fold inside of
another one, a request that fails, and a fold without an end line. -/
def nestedDocument : String :=
  "\n###\x7b a executed (ERROR)\n@x = 1\n#@name r\nGET a\n" ++
    "###\x7b\nGET http://b\n###\x7d b\n##########\nold"

theorem observe_rewritten_nested :
    Loopless (documentLines nestedDocument) ∧ LooplessHeaders (documentLines nestedDocument) ∧
      (∀ text ∈ Event.texts (observe countingServices nestedDocument 0).1.2, QuietText text) ∧
      observe countingServices
          (((runText countingServices nestedDocument).run 0).1 ++ "\n") 7 =
        observe countingServices nestedDocument 7 := by
  have hloopless : Loopless (documentLines nestedDocument) := by decide +kernel
  have hheaders : LooplessHeaders (documentLines nestedDocument) := by decide +kernel
  have hquiet : ∀ text ∈ Event.texts (observe countingServices nestedDocument 0).1.2,
      QuietText text := by
    decide +kernel
  exact ⟨hloopless, hheaders, hquiet,
    observe_rewritten countingServices hloopless hheaders hquiet 7⟩

end Document

end Foldbook
