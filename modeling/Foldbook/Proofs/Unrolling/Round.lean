import Foldbook.Proofs.Text
import Foldbook.Proofs.Unrolling.Heading

/-!
# One round of a loop and one copy of its block

The block of a loop is one fold.  So is a copy of it under another start line,
wherever it stands in a document.

* `matches_block`: both are rendered from the same fold, but for the start line.
* `showsError_render` and `startsWith_render`: the first line of a rendering
  shows whether the fold failed.
-/

namespace Foldbook

open Text

/-! ## Status -/

theorem Marker.exists_start?_of_isLoopStart {line : String} (hline : OneLine line)
    (h : isLoopStart line = true) : ∃ title, start? line = some ⟨line, title⟩ := by
  cases hstart : startsWith line start with
  | false =>
      rw [isLoopStart_eq_false hstart] at h
      exact absurd h Bool.false_ne_true
  | true =>
      obtain ⟨rest, hrest⟩ := startsWith_iff.mp hstart
      exact ⟨_, start?_eq hline hrest.symm⟩

theorem Marker.oneLine_withoutStatus {line : String} (hline : OneLine line) :
    OneLine (withoutStatus line) := by
  obtain ⟨tail, -, hcs⟩ := exists_longestTail line.toList
  rw [withoutStatus_of_oneLine hline]
  unfold OneLine at *
  rw [String.toList_ofList]
  intro hmem
  rw [hcs] at hline
  exact hline (List.mem_append_left _ hmem)

theorem Text.endsWith_iff {s mark : String} :
    endsWith s mark = true ↔ mark.toList <:+ s.toList := by
  rw [← List.reverse_prefix]
  unfold endsWith
  cases h : dropPrefix? mark.toList.reverse s.toList.reverse with
  | none => simpa using dropPrefix?_eq_none_iff.mp h
  | some rest =>
      simp only [Option.isSome_some, true_iff]
      exact ⟨rest, (dropPrefix?_eq_some_iff.mp h).symm⟩

namespace Fold

variable {f : Fold}

/-- The first line of a rendering says how the fold went. -/
theorem exists_render_eq (h : f.rendered = false) :
    ∃ rest, f.render.1 = f.startMarker ++ " executed (" ++ f.status ++ ")" ++ "\n" ++ rest := by
  refine ⟨closeLine f.echo ++ Marker.divider ++ " " ++ f.title ++ f.resultLabel ++ "\n" ++
    (closeLine f.output ++ f.closingMarker), ?_⟩
  rw [render, h]
  simp [header, String.append_assoc]

theorem startsWith_render (h : f.rendered = false) :
    startsWith f.render.1 (f.startMarker ++ " executed (" ++ f.status ++ ")\n") = true := by
  obtain ⟨rest, hrest⟩ := exists_render_eq h
  rw [hrest, show f.startMarker ++ " executed (" ++ f.status ++ ")" ++ "\n" =
    f.startMarker ++ " executed (" ++ f.status ++ ")\n" by simp [String.append_assoc]]
  exact startsWith_append _ rest

/-- The first line of a rendering shows whether the fold failed. -/
theorem showsError_render (h : f.rendered = false) (hmarker : OneLine f.startMarker) :
    showsError f.render.1 = f.failed := by
  obtain ⟨rest, hrest⟩ := exists_render_eq h
  have hline : OneLine (f.startMarker ++ " executed (" ++ f.status ++ ")") := by
    refine ((hmarker.append (by decide)).append ?_).append (by decide)
    unfold status
    split <;> decide
  rw [showsError, hrest, splitLines_append, splitLines_of_oneLine hline, List.singleton_append,
    List.headD_cons, status]
  cases f.failed with
  | true =>
      rw [endsWith_iff]
      exact ⟨(f.startMarker ++ " ").toList, by simp⟩
  | false =>
      rw [Bool.eq_false_iff, Ne, endsWith_iff]
      rintro ⟨front, hfront⟩
      have hlast := congrArg (fun cs => cs.reverse.drop 1 |>.head?) hfront
      simp at hlast

/-- Twins go the same way, and each rendering shows it. -/
theorem Twins.renderings {head head' : Head} {f g : Fold} (h : f.Twins head head' g)
    (hmarker : OneLine head.marker) :
    showsError f.render.1 = f.failed ∧
      startsWith g.render.1
        (head'.marker ++ " executed (" ++ (if f.failed then "ERROR" else "SUCCESS") ++ ")\n") =
          true := by
  obtain ⟨fold, rfl, rfl⟩ := h
  exact ⟨showsError_render (f := fold.headed head) rfl hmarker,
    startsWith_render (f := fold.headed head') rfl⟩

end Fold

/-! ## Blocks -/

/-- What a fold outside of all others has from its start line. -/
def Marker.Start.head (start : Marker.Start) : Fold.Head :=
  ⟨(Fold.ofStart start 0).startMarker, (Fold.ofStart start 0).title⟩

theorem Fold.ofStart_eq_headed (start : Marker.Start) :
    ofStart start 0 = headed start.head { unopened := false } := by
  simp only [headed, Marker.Start.head, ofStart, opened]

section

variable {σ τ : Type} {seen : σ → τ} {s : Services (StateM σ)} (hs : s.LooksAt seen)

include hs

/-- Two start lines outside of all folds. -/
theorem matches_start {line line' : String} {start start' : Marker.Start}
    (hstart : Marker.start? line = some start) (hstart' : Marker.start? line' = some start')
    (out out' : String) :
    Matches seen
      (Besides start.head start'.head
        (Progress.newSegment { out }) (Progress.newSegment { out := out' }) 0)
      (Progress.readLine s.recording { out, stack := [] } line)
      (Progress.readLine s.recording { out := out', stack := [] } line') := by
  unfold Progress.readLine
  rw [hstart, hstart']
  unfold Progress.openFold
  simp only [pure_bind, List.length_nil]
  refine (hs.matches_note _ _).bind fun _ _ _ => ?_
  exact Matches.pure (.outermost ⟨_, Fold.ofStart_eq_headed start, Fold.ofStart_eq_headed start'⟩)

/-- The end line of the outermost folds. -/
theorem Besides.readEnd {head head' : Fold.Head} {out out' : String} {p q : Progress}
    (h : Besides head head' out out' 0 p q) {ending : String} (hending : Marker.isEnd ending = true) :
    Matches seen
      (fun p q => ∃ f g : Fold, f.Twins head head' g ∧
        p = { out := out ++ f.render.1, stack := [] } ∧
        q = { out := out' ++ g.render.1, stack := [] })
      (p.readLine s.recording ending) (q.readLine s.recording ending) := by
  obtain ⟨hnostart, hdivider⟩ := Marker.startsWith_of_isEnd hending
  have hstart : Marker.start? ending = none := Marker.start?_eq_none hnostart
  cases h with
  | outermost htwins =>
      unfold Progress.readLine
      simp only [hstart, Progress.readOwnLine, hdivider, hending, Bool.false_eq_true, if_false,
        if_true]
      unfold Progress.closeFold
      refine ((htwins.setEndMarker ending).issuePending hs).bind fun f g hfg => ?_
      refine (hs.matches_note _ _).bind fun _ _ _ => ?_
      exact Matches.pure ⟨f, g, hfg, rfl, rfl⟩

/-- The same lines between two start lines and an end line. -/
theorem matches_block {line line' : String} {start start' : Marker.Start}
    (hstart : Marker.start? line = some start) (hstart' : Marker.start? line' = some start')
    {inside : List Item} (hinside : Item.closes 0 inside = true) {ending : String}
    (hending : Marker.isEnd ending = true) (out out' : String) :
    Matches seen
      (fun p q => ∃ f g : Fold, f.Twins start.head start'.head g ∧
        p = { out := addLine out f.render.1, stack := [] } ∧
        q = { out := addLine out' g.render.1, stack := [] })
      (Item.runAll s.recording { out, stack := [] } (.line line :: (inside ++ [.line ending])))
      (Item.runAll s.recording { out := out', stack := [] }
        (.line line' :: (inside ++ [.line ending]))) := by
  rw [Item.runAll, Item.runAll, Item.run, Item.run]
  refine (matches_start hs hstart hstart' out out').bind fun p q hpq => ?_
  rw [Item.runAll_append, Item.runAll_append]
  refine (hpq.runAll hs hinside).bind fun p q hpq => ?_
  rw [Item.runAll, Item.runAll, Item.run, Item.run]
  refine (hpq.readEnd hs hending).bind fun p q hpq => ?_
  rw [Item.runAll, Item.runAll]
  exact Matches.pure hpq

end

end Foldbook
