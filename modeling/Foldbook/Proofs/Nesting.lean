import Mathlib.Data.List.TakeWhile
import Foldbook.Proofs.Outline.Results
import Foldbook.Proofs.Unrolling.Round

/-!
# Renderings that are taken into a fold

A fold that closes inside of another one gives its lines and its results to
that one.  A loop is rendered as if it stood alone, and `nest` takes the
rendering apart again: at the first divider, and in front of the last line.

* `Fold.nest_render_iff`: this gives what the fold itself would have given,
  exactly if no divider stands above that of the fold and its end line is one
  line.
* `Fold.nest_render`: so it does for every fold whose lines are no dividers.
* `LoopBlock.nest_synthetic_iff`: a loop that has not run its block keeps its
  source in the fold around it, exactly if no line that is kept is a divider.
-/

namespace Foldbook

open Text

/-! ## Taking a rendering apart -/

/-- The lines of any text have a last one. -/
theorem Text.exists_splitLines_eq (s : String) :
    ∃ front last, splitLines s = front ++ [last] ∧ OneLine last := by
  rcases List.eq_nil_or_concat (splitLines s) with hnil | ⟨front, last, hlines⟩
  · exact absurd hnil (by simp [splitLines, pieces_ne_nil])
  · rw [List.concat_eq_append] at hlines
    refine ⟨front, last, hlines, oneLine_of_mem_splitLines (s := s) ?_⟩
    rw [hlines]
    exact List.mem_append_right _ (List.mem_singleton_self last)

section

variable {rendering : String} {source results : List String} {divider ending : String}
  (hlines : splitLines rendering = source ++ divider :: (results ++ [ending]))
  (hdivider : Marker.isDivider divider = true)

include hlines

theorem getLast?_splitLines : (splitLines rendering).getLast?.getD "" = ending := by
  rw [hlines, ← List.cons_append, ← List.append_assoc, List.getLast?_concat, Option.getD_some]

include hdivider

/-- The lines above the first divider are kept. -/
theorem takeWhile_splitLines :
    (splitLines rendering).takeWhile (fun line => !Marker.isDivider line) =
      source.takeWhile fun line => !Marker.isDivider line := by
  rw [hlines, List.takeWhile_append]
  split
  · rename_i hall
    rw [List.takeWhile_cons_of_neg (by simp [hdivider]), List.append_nil,
      (List.takeWhile_prefix _).eq_of_length hall]
  · rfl

theorem echo_nest (before : String) :
    (nest rendering before).echo =
      unlines (source.takeWhile fun line => !Marker.isDivider line) ++ (ending ++ "\n") := by
  have hkept := takeWhile_splitLines hlines hdivider
  unfold nest
  dsimp only
  rw [hkept, getLast?_splitLines hlines]
  split
  · rename_i hnil
    -- not all lines can be kept, because the divider is among them
    have hlength := (List.takeWhile_prefix (l := source) fun line =>
      !Marker.isDivider line).length_le
    have hdrop := List.drop_eq_nil_iff.mp hnil
    rw [hlines, List.length_append, List.length_cons] at hdrop
    omega
  · rw [String.append_assoc]

/-- Without another divider above it, a divider separates lines and results. -/
theorem nest_of_splitLines (hsource : ∀ line ∈ source, Marker.isDivider line = false)
    (before : String) :
    nest rendering before =
      { echo := unlines source ++ ending ++ "\n"
        output := Fold.sectionGap before ++ "###" ++
          String.ofList (divider.toList.drop Marker.divider.length) ++ "\n" ++ unlines results ++
            "###\n" } := by
  have hall : source.takeWhile (fun line => !Marker.isDivider line) = source :=
    List.takeWhile_eq_self_iff.mpr fun line hline => by rw [hsource line hline]; rfl
  have hkept := takeWhile_splitLines hlines hdivider
  unfold nest
  dsimp only
  rw [hkept, hall, getLast?_splitLines hlines, hlines, List.drop_left]
  simp only [List.dropLast_concat]

end

/-! ## Headers -/

namespace Marker

theorem oneLine_statusEnding (failed : Bool) : OneLine (statusEnding failed) := by
  cases failed <;> decide

/-- A header is no divider. -/
theorem isDivider_header {marker : String} (h : startsWith marker start = true) (failed : Bool) :
    isDivider (marker ++ statusEnding failed) = false := by
  have hstart : startsWith (marker ++ statusEnding failed) start = true := by
    rw [startsWith_iff, String.toList_append]
    exact (startsWith_iff.mp h).trans (List.prefix_append _ _)
  exact startsWith_eq_false_of_startsWith hstart (by decide) (by decide)

theorem startsWith_withoutStatus {line : String} (hline : OneLine line) {found : Start}
    (h : start? line = some found) : startsWith (withoutStatus line) start = true := by
  obtain ⟨rest, hrest⟩ := exists_rest_of_start? h
  rw [startsWith_iff, withoutStatus_of_oneLine hline, String.toList_ofList, hrest,
    dropStatus_start_append]
  exact List.prefix_append _ _

/-- A title is one line, even if its start line is none. -/
theorem oneLine_title {line : String} {found : Start} (h : start? line = some found) :
    OneLine found.title := by
  unfold start? at h
  rw [Option.bind_eq_bind, Option.bind_eq_some_iff] at h
  obtain ⟨rest, -, hfound⟩ := h
  dsimp only at hfound
  split at hfound
  · exact absurd hfound (by simp)
  · rename_i hfront
    rw [← Option.some.inj hfound]
    unfold OneLine
    rw [String.toList_ofList]
    simpa using hfront

end Marker

/-! ## Folds -/

namespace Fold

variable {f : Fold}

theorem label_dividerLine (f : Fold) :
    String.ofList (f.dividerLine.toList.drop Marker.divider.length) =
      " " ++ f.title ++ f.resultLabel := by
  have hline : f.dividerLine.toList =
      Marker.divider.toList ++ (" " ++ f.title ++ f.resultLabel).toList := by
    simp [dividerLine]
  rw [hline, ← String.length_toList, List.drop_left, String.ofList_toList]

section

variable (hrendered : f.rendered = false) (htitle : OneLine f.title)
  (hecho : endsOpen f.echo = false)

include hecho

/-- The text of a rendering above its divider. -/
theorem endsOpen_source : endsOpen (f.header ++ f.echo) = false := by
  refine endsOpen_append ?_ hecho
  rw [header_eq_line]
  exact endsOpen_append_newline _

include hrendered htitle

/-- The lines of a rendering: those of the fold, its divider, its results and its end line. -/
theorem splitLines_render :
    splitLines f.render.1 = closedLines (f.header ++ f.echo) ++ f.dividerLine ::
      (closedLines (closeLine f.output) ++ splitLines f.closingMarker) := by
  rw [render_eq hrendered hecho, splitLines_append_of_closed (endsOpen_source hecho),
    splitLines_append, splitLines_of_oneLine (oneLine_dividerLine htitle),
    splitLines_append_of_closed (endsOpen_closeLine _)]
  rfl

/-- A fold that is rendered as if it stood alone is taken into the fold around it as if it closed
there, exactly if its own divider is the first one and its end line is one line. -/
theorem nest_render_iff (before : String) :
    nest f.render.1 before = (f.renderNested before).1 ↔
      (∀ line ∈ closedLines (f.header ++ f.echo), Marker.isDivider line = false) ∧
        OneLine f.closingMarker := by
  have hrender := splitLines_render hrendered htitle hecho
  have hsource := unlines_closedLines (endsOpen_source hecho)
  generalize closedLines (f.header ++ f.echo) = source at hrender hsource
  constructor
  · intro hnest
    obtain ⟨front, last, hclosing, hlast⟩ := exists_splitLines_eq f.closingMarker
    rw [hclosing, ← List.append_assoc] at hrender
    have hsplit : unlines source =
        unlines (source.takeWhile fun line => !Marker.isDivider line) ++
          unlines (source.dropWhile fun line => !Marker.isDivider line) := by
      rw [← unlines_append, List.takeWhile_append_dropWhile]
    have hend := congrArg Nested.echo hnest
    rw [echo_nest hrender f.isDivider_dividerLine, renderNested_eq hrendered, ← hsource] at hend
    dsimp only at hend
    rw [hsplit, String.append_assoc, String.append_right_inj, ← String.append_assoc,
      String.append_left_inj] at hend
    -- what stands behind the first divider would have to be in the last line
    cases hmoved : source.dropWhile fun line => !Marker.isDivider line with
    | nil =>
        rw [hmoved, unlines_nil, String.empty_append] at hend
        refine ⟨fun line hline => ?_, hend ▸ hlast⟩
        simpa using List.dropWhile_eq_nil_iff.mp hmoved line hline
    | cons line more =>
        rw [hmoved, unlines_cons] at hend
        refine absurd ?_ hlast
        rw [hend]
        simp
  · rintro ⟨hnone, hending⟩
    rw [splitLines_of_oneLine hending] at hrender
    rw [nest_of_splitLines hrender f.isDivider_dividerLine hnone, renderNested_eq hrendered,
      hsource, unlines_closedLines (endsOpen_closeLine _), label_dividerLine]
    simp [← String.toList_inj]

end

/-- A fold as it is read from the lines of a document: its markers and its title are one line each,
and the lines that it keeps are whole, and none of them is a divider. -/
structure Lined (f : Fold) : Prop where
  unrendered : f.rendered = false
  oneLine_startMarker : OneLine f.startMarker
  startsWith_startMarker : startsWith f.startMarker Marker.start = true
  oneLine_title : OneLine f.title
  oneLine_endMarker : OneLine f.endMarker
  closed_echo : endsOpen f.echo = false
  plain_echo : ∀ line ∈ splitLines f.echo, Marker.isDivider line = false

/-- Both ways of taking a fold into the one around it agree: rendering it as if it stood alone and
taking the rendering apart, and rendering it in two parts. -/
theorem nest_render (h : f.Lined) (before : String) :
    nest f.render.1 before = (f.renderNested before).1 := by
  refine (nest_render_iff h.unrendered h.oneLine_title h.closed_echo before).mpr ⟨?_, ?_⟩
  · have hheader : OneLine (f.startMarker ++ Marker.statusEnding f.failed) :=
      h.oneLine_startMarker.append (Marker.oneLine_statusEnding _)
    rw [header_eq_line, closedLines_newline_append _ h.closed_echo, splitLines_of_oneLine hheader,
      List.singleton_append]
    refine List.forall_mem_cons.mpr ⟨Marker.isDivider_header h.startsWith_startMarker _, ?_⟩
    exact fun line hline => h.plain_echo line (closedLines_subset _ hline)
  · unfold closingMarker
    split
    · decide
    · exact h.oneLine_endMarker

/-- A failed fold with an end line of its own; its results have a blank line at the end and look as
if there were another divider. -/
def failedFold : Fold where
  startMarker := "###\x7b b"
  title := "b "
  endMarker := "###\x7d end"
  echo := "GET c\n\n"
  output := "########## RESULT\n###\x7d\n\n"
  failed := true

theorem nest_render_failedFold :
    failedFold.Lined ∧ nest failedFold.render.1 "open" = (failedFold.renderNested "open").1 := by
  have hlined : failedFold.Lined :=
    ⟨rfl, by decide, by decide, by decide, by decide, by decide, by decide⟩
  exact ⟨hlined, nest_render hlined "open"⟩

end Fold

/-! ## Loops that have not run their block -/

namespace LoopBlock

variable (block : LoopBlock) (failed : Bool)

/-- The fold that the start line of the block opens. -/
def opened : Fold :=
  match Marker.start? block.first with
  | some start => Fold.ofStart start 0
  | none => Fold.opened none none

/-- The start line of the block with a new status. -/
def header : String := block.opened.startMarker ++ Marker.statusEnding failed

/-- The last line of the block, or the usual end line if the block has no end. -/
def ending : String := block.endLine?.getD Marker.finish

/-- A fold with the lines of the block and with these results. -/
def unrun (results : String) : Fold :=
  { block.opened with
    echo := unlines block.body
    endMarker := block.endLine?.getD ""
    output := results
    failed }

/-- What a loop that did not run its block gives to the fold around it: all lines of its source, and
a section with the results. -/
def keptSource (results before : String) : Nested where
  echo := unlines (block.header failed :: block.body ++ [block.ending])
  output := Fold.sectionGap before ++ "### " ++ block.opened.title ++
    (if failed then "ERROR" else "RESULT") ++ "\n" ++ results ++ "###\n"

/-- No line of the source looks like a divider, and the end line is one line.  A line of a document
has no part but itself. -/
def Separable : Prop :=
  (∀ line ∈ block.header failed :: block.body,
    ∀ part ∈ splitLines line, Marker.isDivider part = false) ∧ OneLine block.ending

variable {block failed}

theorem foldl_keepLine {f : Fold} (hecho : endsOpen f.echo = false) (lines : List String) :
    lines.foldl Fold.keepLine f = { f with echo := f.echo ++ unlines lines } := by
  induction lines generalizing f with
  | nil => rw [List.foldl_nil, unlines_nil, String.append_empty]
  | cons line lines ih =>
      rw [List.foldl_cons, ih (f := f.keepLine line) (endsOpen_append_newline _), Fold.keepLine,
        closeLine_of_closed hecho, unlines_cons]
      simp only [String.append_assoc]

theorem synthetic_eq (results : String) :
    block.synthetic failed results = (block.unrun failed results).render.1 := by
  have hecho : block.opened.echo = "" := by
    unfold opened
    split <;> rfl
  have hlines : block.body.foldl Fold.keepLine block.opened =
      { block.opened with echo := unlines block.body } := by
    rw [foldl_keepLine (by rw [hecho]; rfl), hecho, String.empty_append]
  have hfold : block.synthetic failed results =
      ({ block.body.foldl Fold.keepLine block.opened with
        endMarker := block.endLine?.getD "", output := results, failed } : Fold).render.1 := rfl
  rw [hfold, hlines]
  rfl

theorem rendered_unrun (results : String) : (block.unrun failed results).rendered = false := by
  unfold unrun opened
  dsimp only
  split <;> rfl

theorem oneLine_title_opened (block : LoopBlock) : OneLine block.opened.title := by
  unfold opened
  split
  · rename_i start hstart
    simp only [Fold.ofStart, Fold.opened, Option.getD_some]
    split
    · decide
    · exact (Marker.oneLine_withoutStatus (Marker.oneLine_title hstart)).append (by decide)
  · decide

theorem of_endLine? {line : String} (h : block.endLine? = some line) :
    line ∈ block.rest ∧ Marker.isLoopEnd line = true := by
  unfold endLine? at h
  split at h
  · rename_i last hlast
    split at h
    · rename_i hend
      rw [← Option.some.inj h]
      exact ⟨List.mem_of_getLast? hlast, hend⟩
    · exact absurd h (by simp)
  · exact absurd h (by simp)

theorem closingMarker_unrun (results : String) :
    (block.unrun failed results).closingMarker = block.ending := by
  cases hend : block.endLine? with
  | none =>
      unfold Fold.closingMarker unrun ending
      rw [hend]
      rfl
  | some line =>
      have hmarker : (block.unrun failed results).endMarker = line := by
        unfold unrun
        rw [hend]
        rfl
      have hisEnd : Marker.isEnd line = true := Marker.isEnd_of_isLoopEnd (of_endLine? hend).2
      rw [Fold.closingMarker_of_isEnd hmarker hisEnd, ending, hend]
      rfl

theorem header_unrun (results : String) :
    (block.unrun failed results).header = block.header failed ++ "\n" :=
  Fold.header_eq_line _

theorem renderNested_unrun {results : String} (hresults : endsOpen results = false)
    (before : String) :
    ((block.unrun failed results).renderNested before).1 =
      block.keptSource failed results before := by
  rw [Fold.renderNested_eq (rendered_unrun results), header_unrun, closingMarker_unrun]
  unfold keptSource
  simp only [unlines_append, unlines_cons, unlines_nil, List.cons_append,
    closeLine_of_closed hresults, String.append_assoc, String.append_empty, unrun, Fold.resultLabel]
  rfl

theorem freshLines_subset (depth : Int) (lines : List String) :
    freshLines depth lines ⊆ lines := by
  induction lines generalizing depth with
  | nil => exact List.Subset.refl _
  | cons line more ih =>
      unfold freshLines
      split
      · exact List.cons_subset_cons _ (ih _)
      · split
        · exact List.cons_subset_cons _ (ih _)
        · split
          · exact List.nil_subset _
          · exact List.cons_subset_cons _ (ih _)

theorem body_subset (block : LoopBlock) : block.body ⊆ block.rest := by
  unfold body
  split
  · exact List.Subset.trans (freshLines_subset _ _) (List.dropLast_subset _)
  · exact freshLines_subset _ _

/-- In a block of lines that are one line each, the lines of the body decide. -/
theorem separable_iff (hlines : ∀ line ∈ block.lines, OneLine line)
    (hfirst : Marker.isLoopStart block.first = true) :
    block.Separable failed ↔ ∀ line ∈ block.body, Marker.isDivider line = false := by
  obtain ⟨hline, hrest⟩ := List.forall_mem_cons.mp hlines
  obtain ⟨title, hstart⟩ := Marker.exists_start?_of_isLoopStart hline hfirst
  have hmarker : block.opened.startMarker = Marker.withoutStatus block.first := by
    unfold opened
    rw [hstart]
    rfl
  have hheader : OneLine (block.header failed) := by
    rw [header, hmarker]
    exact (Marker.oneLine_withoutStatus hline).append (Marker.oneLine_statusEnding failed)
  have hplain : Marker.isDivider (block.header failed) = false := by
    rw [header, hmarker]
    exact Marker.isDivider_header (Marker.startsWith_withoutStatus hline hstart) failed
  have hending : OneLine block.ending := by
    unfold ending
    cases hend : block.endLine? with
    | none => decide
    | some line => exact hrest line (of_endLine? hend).1
  have hparts : ∀ line, OneLine line →
      ((∀ part ∈ splitLines line, Marker.isDivider part = false) ↔
        Marker.isDivider line = false) := by
    intro line hline
    rw [splitLines_of_oneLine hline, List.forall_mem_singleton]
  unfold Separable
  rw [List.forall_mem_cons, hparts _ hheader]
  constructor
  · rintro ⟨⟨-, hbody⟩, -⟩ line hline
    exact (hparts line (hrest line (block.body_subset hline))).mp (hbody line hline)
  · intro hbody
    refine ⟨⟨hplain, fun line hline => ?_⟩, hending⟩
    exact (hparts line (hrest line (block.body_subset hline))).mpr (hbody line hline)

/-- A loop that did not run its block keeps its source in the fold around it, exactly if it can be
told there where the source ends. -/
theorem nest_synthetic_iff {results : String} (hresults : endsOpen results = false)
    (before : String) :
    nest (block.synthetic failed results) before = block.keptSource failed results before ↔
      block.Separable failed := by
  have hsource : closedLines ((block.unrun failed results).header ++
        (block.unrun failed results).echo) =
      (block.header failed :: block.body).flatMap splitLines := by
    rw [header_unrun]
    exact closedLines_unlines (block.header failed :: block.body)
  rw [synthetic_eq, ← renderNested_unrun hresults before, Fold.nest_render_iff
    (rendered_unrun results) block.oneLine_title_opened (endsOpen_unlines _),
    closingMarker_unrun]
  refine and_congr_left fun _ => ?_
  rw [hsource]
  simp only [List.mem_flatMap]
  exact ⟨fun h line hline part hpart => h part ⟨line, hline, hpart⟩,
    fun h part ⟨line, hline, hpart⟩ => h line hline part hpart⟩

/-- A loop around a fold with an old result. -/
def nestedOldResult : LoopBlock where
  condition := "c"
  first := "###\x7b while c"
  rest := ["###\x7b", "@x = 1", "########## RESULT", "old", "###\x7d", "###\x7d endwhile"]

/-- A loop with an old result of its own. -/
def ownOldResult : LoopBlock where
  condition := "c"
  first := "###\x7b while c executed (ERROR)"
  rest := ["@x = 1", "########## while c ERROR", "old", "###\x7d endwhile"]

theorem nest_synthetic_oldResults :
    endsOpen "no\n" = false ∧
      nest (nestedOldResult.synthetic true "no\n") "open" ≠
        nestedOldResult.keptSource true "no\n" "open" ∧
      nest (ownOldResult.synthetic true "no\n") "open" =
        ownOldResult.keptSource true "no\n" "open" := by
  have hclosed : endsOpen "no\n" = false := by decide
  refine ⟨hclosed, fun hkept => ?_, ?_⟩
  · have hbody := (separable_iff (by decide) (by decide)).mp
      ((nest_synthetic_iff hclosed "open").mp hkept)
    exact absurd (hbody "########## RESULT" (by decide)) (by decide)
  · exact (nest_synthetic_iff hclosed "open").mpr
      ((separable_iff (by decide) (by decide)).mpr (by decide))

end LoopBlock

end Foldbook
