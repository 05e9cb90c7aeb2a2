import Foldbook.Proofs.Events
import Foldbook.Proofs.Position

/-!
# Old results

Between a divider and the end line of its fold stands the result of an
earlier run.  What of it still changes a run?

* `runLines_stale`: lines that open neither a fold nor a loop can be left
  out.
* `not_inert`: if one of the lines opens a fold or a loop, leaving them out
  changes the text of a document.
* `inert_iff` puts both together.
-/

namespace Foldbook

open Text

/-- A fold is open behind the lines, and no loop is. -/
def FoldOpen (plainFirst : Bool) (lines : List String) : Prop :=
  Item.openLoops plainFirst 0 lines = 0 ∧ 0 < Item.openFolds 0 (Item.ofLines plainFirst lines)

instance (plainFirst : Bool) (lines : List String) : Decidable (FoldOpen plainFirst lines) :=
  inferInstanceAs (Decidable (_ ∧ _))

/-- The line opens neither a fold nor a loop. -/
def OpensNothing (line : String) : Prop :=
  Marker.start? (trimEnd line) = none ∧ Marker.isLoopStart (trimEnd line) = false

instance (line : String) : Decidable (OpensNothing line) := inferInstanceAs (Decidable (_ ∧ _))

/-- Left out of the old result of a fold, the lines change nothing: neither the text nor what the
services are asked nor the state behind it. -/
def Inert (stale : List String) : Prop :=
  ∀ (m : Type → Type) [Monad m] [LawfulMonad m] (s : Services m) (plainFirst : Bool)
    (before : List String) (divider : String) (behind : List String),
    FoldOpen plainFirst before → Marker.isDivider (trimEnd divider) = true →
      Document.runLines s (before ++ [divider] ++ stale ++ behind) plainFirst =
        Document.runLines s (before ++ [divider] ++ behind) plainFirst

/-! ## Lines that open nothing -/

section

variable {m : Type → Type} [Monad m] (s : Services m)

/-- A line of an old result is passed over. -/
theorem readLine_stale {out : String} {f : Fold} {outer : List Fold} (hf : f.stale = true)
    {line : String} (hstart : Marker.start? line = none) (hend : Marker.isEnd line = false) :
    Progress.readLine s { out, stack := f :: outer } line = pure { out, stack := f :: outer } := by
  have hsame : { f with stale := true } = f := by rw [← hf]
  unfold Progress.readLine Progress.readOwnLine
  simp only [hstart, hend, hf, hsame, Bool.false_eq_true, if_false, if_true, ite_self]

theorem runAll_stale [LawfulMonad m] {out : String} {f : Fold} {outer : List Fold}
    (hf : f.stale = true) {stale : List String}
    (hend : ∀ line ∈ stale, Marker.isEnd (trimEnd line) = false)
    (hopens : ∀ line ∈ stale, OpensNothing line) :
    Item.runAll s { out, stack := f :: outer } (stale.map fun line => .line (trimEnd line)) =
      pure { out, stack := f :: outer } := by
  induction stale with
  | nil => rw [List.map_nil, Item.runAll]
  | cons line stale ih =>
      obtain ⟨hline, hlines⟩ := List.forall_mem_cons.mp hend
      obtain ⟨⟨hstart, -⟩, hothers⟩ := List.forall_mem_cons.mp hopens
      rw [List.map_cons, Item.runAll, Item.run, readLine_stale s hf hstart hline, pure_bind,
        ih hlines hothers]

end

/-- Lines of an old result that open nothing can be left out. -/
theorem runLines_stale {stale : List String}
    (hend : ∀ line ∈ stale, Marker.isEnd (trimEnd line) = false)
    (hopens : ∀ line ∈ stale, OpensNothing line) : Inert stale := by
  intro m _ _ s plainFirst before divider behind hbefore hdivider
  obtain ⟨hloops, hfolds⟩ := hbefore
  have hplain : Marker.isLoopStart (trimEnd divider) = false :=
    Marker.isLoopStart_of_isDivider hdivider
  have hloopless : Loopless stale := fun line hline => (hopens line hline).2
  have hopen := Item.runAll_yields s (Progress.Opens.empty "") (Item.ofLines plainFirst before)
  generalize hcount : Item.openFolds 0 (Item.ofLines plainFirst before) = count at hfolds hopen
  rw [List.append_assoc, List.append_assoc, List.append_assoc]
  simp only [Document.runLines, Document.runItems]
  rw [Item.ofLines_append _ _ hloops, Item.ofLines_append _ _ hloops, List.singleton_append,
    List.singleton_append, Item.ofLines_plain _ _ hplain, Item.ofLines_plain _ _ hplain,
    Item.ofLines_loopless_append _ hloopless, Item.runAll_append, Item.runAll_append, bind_assoc,
    bind_assoc]
  refine hopen.congr fun p hp => ?_
  obtain ⟨out, _ | ⟨f, outer⟩⟩ := p
  · rw [← hp.length] at hfolds
    exact absurd hfolds (Nat.lt_irrefl 0)
  · have hread : Progress.readLine s { out, stack := f :: outer } (trimEnd divider) =
        pure { out, stack := { f with stale := true } :: outer } := by
      unfold Progress.readLine Progress.readOwnLine
      simp only [Marker.start?_eq_none (Marker.startsWith_of_isDivider hdivider), hdivider, if_true]
    rw [Item.runAll, Item.runAll, Item.run, hread, pure_bind, pure_bind, Item.runAll_append,
      runAll_stale s rfl hend hopens, pure_bind]

/-! ## Lines that open something -/

/-- A loop without an end takes all lines that are left. -/
theorem LoopBlock.cut_endless {lines : List String}
    (h : ∀ line ∈ lines, Marker.isLoopEnd (trimEnd line) = false) (depth : Nat) :
    (cut (depth + 1) lines).2 = [] := by
  induction lines generalizing depth with
  | nil => rfl
  | cons raw more ih =>
      obtain ⟨hraw, hmore⟩ := List.forall_mem_cons.mp h
      unfold cut
      by_cases hstart : Marker.isLoopStart (trimEnd raw) = true
      · simpa [hstart] using ih hmore (depth + 1)
      · simpa [hstart, hraw] using ih hmore depth

/-- One end line and a line of text. -/
def endAndText : List String := ["###\x7d", "text"]

/-- Behind lines without an end line a loop start takes everything. -/
theorem ofLines_loop_endless {line : String} (hloop : Marker.isLoopStart (trimEnd line) = true)
    {stale : List String} (hend : ∀ line ∈ stale, Marker.isEnd (trimEnd line) = false) :
    ∃ block inside, Item.ofLines false (line :: (stale ++ endAndText)) = [.loop block inside] := by
  have hall : ∀ line ∈ stale ++ endAndText, Marker.isLoopEnd (trimEnd line) = false := by
    refine List.forall_mem_append.mpr ⟨fun line hline => ?_, by decide⟩
    exact Marker.isLoopEnd_eq_false (hend line hline)
  rw [Item.ofLines_loop _ hloop, LoopBlock.collect, LoopBlock.cut_endless hall, Item.ofLines]
  exact ⟨_, _, rfl⟩

/-- Lines without an end line leave those folds open that were open before them, and the end line
behind them closes one. -/
theorem le_openFolds_succ {stale : List String}
    (hend : ∀ line ∈ stale, Marker.isEnd (trimEnd line) = false) (count : Nat) :
    count ≤ Item.openFolds count (Item.ofLines false (stale ++ endAndText)) + 1 := by
  induction stale generalizing count with
  | nil =>
      have hitems : Item.ofLines false endAndText = [.line "###\x7d", .line "text"] :=
        Item.ofLines_of_loopless false (by decide)
      rw [List.nil_append, hitems]
      show count ≤ count - 1 + 1
      omega
  | cons line stale ih =>
      obtain ⟨hline, hlines⟩ := List.forall_mem_cons.mp hend
      rw [List.cons_append]
      by_cases hloop : Marker.isLoopStart (trimEnd line) = true
      · obtain ⟨block, inside, hitems⟩ := ofLines_loop_endless hloop hlines
        rw [hitems]
        exact Nat.le_succ count
      · rw [Bool.not_eq_true] at hloop
        rw [Item.ofLines_plain _ _ hloop, Item.openFolds]
        have hmore := ih hlines (Marker.openFolds count (trimEnd line))
        have hgrows : count ≤ Marker.openFolds count (trimEnd line) := by
          unfold Marker.openFolds
          simp only [hline, Bool.false_eq_true, if_false, ite_self]
          split <;> omega
        omega

/-- If one of the lines opens something, that is left open, too. -/
theorem le_openFolds {stale : List String}
    (hend : ∀ line ∈ stale, Marker.isEnd (trimEnd line) = false)
    (hopens : ¬∀ line ∈ stale, OpensNothing line) (count : Nat) :
    count ≤ Item.openFolds count (Item.ofLines false (stale ++ endAndText)) := by
  induction stale generalizing count with
  | nil => exact absurd (fun line hline => absurd hline List.not_mem_nil) hopens
  | cons line stale ih =>
      obtain ⟨hline, hlines⟩ := List.forall_mem_cons.mp hend
      rw [List.cons_append]
      by_cases hloop : Marker.isLoopStart (trimEnd line) = true
      · obtain ⟨block, inside, hitems⟩ := ofLines_loop_endless hloop hlines
        rw [hitems]
        exact Nat.le_refl count
      · rw [Bool.not_eq_true] at hloop
        rw [Item.ofLines_plain _ _ hloop, Item.openFolds]
        cases hstart : Marker.start? (trimEnd line) with
        | some start =>
            have hmore := le_openFolds_succ hlines (count + 1)
            rw [Marker.openFolds, hstart, Option.isSome_some, if_pos rfl]
            omega
        | none =>
            have hothers : ¬∀ line ∈ stale, OpensNothing line := fun hall =>
              hopens (List.forall_mem_cons.mpr ⟨⟨hstart, hloop⟩, hall⟩)
            rw [Marker.openFolds, hstart, hline]
            simpa using ih hlines hothers count

/-- Lines that open something are not inert: behind them the end line does not close the fold
around them. -/
theorem not_inert {stale : List String}
    (hend : ∀ line ∈ stale, Marker.isEnd (trimEnd line) = false)
    (hopens : ¬∀ line ∈ stale, OpensNothing line) : ¬Inert stale := by
  intro hinert
  have hopen : FoldOpen false ["###\x7b"] := by decide +kernel
  have hsame := hinert (StateM Unit) silentServices false ["###\x7b"] Marker.divider endAndText
    hopen (by decide)
  have hwithout : ((Document.runLines silentServices
      (["###\x7b"] ++ [Marker.divider] ++ endAndText)).run ()).1 =
      "###\x7b executed (SUCCESS)\n########## RESULT\n###\x7d\ntext" := by
    decide +kernel
  have hwith : ∃ front, ((Document.runLines silentServices
      (["###\x7b"] ++ [Marker.divider] ++ stale ++ endAndText)).run ()).1 =
        front ++ Marker.finish := by
    refine (Document.runLines_yields silentServices ?_).run ()
    have hopenFolds := le_openFolds hend hopens 1
    have hfirst : Marker.isLoopStart (trimEnd "###\x7b") = false := by decide
    have hdivider : Marker.isLoopStart (trimEnd Marker.divider) = false := by decide
    rw [List.append_assoc, List.append_assoc, List.singleton_append, List.singleton_append,
      Item.ofLines_plain _ _ hfirst, Item.ofLines_plain _ _ hdivider]
    exact hopenFolds
  rw [hsame, hwithout] at hwith
  obtain ⟨front, hfront⟩ := hwith
  have hlast := congrArg (fun s => s.toList.getLast?) hfront
  simp [Marker.finish] at hlast

/-- Lines of an old result that end no fold are inert exactly if each of them opens neither a fold
nor a loop. -/
theorem inert_iff {stale : List String}
    (hend : ∀ line ∈ stale, Marker.isEnd (trimEnd line) = false) :
    Inert stale ↔ ∀ line ∈ stale, OpensNothing line := by
  constructor
  · intro hinert
    refine Decidable.byContradiction fun hopens => ?_
    exact not_inert hend hopens hinert
  · exact runLines_stale hend

/-- A response with a start line in it changes the next run; one without it does not. -/
theorem inert_response :
    ¬Inert ["HTTP/1.1 200 OK", "###\x7b", "GET http://x"] ∧
      Inert ["HTTP/1.1 200 OK", "########## RESULT", "GET http://x"] := by
  have hopens : ¬∀ line ∈ ["HTTP/1.1 200 OK", "###\x7b", "GET http://x"], OpensNothing line := by
    decide
  have hplain : ∀ line ∈ ["HTTP/1.1 200 OK", "########## RESULT", "GET http://x"],
      OpensNothing line := by
    decide
  exact ⟨fun h => hopens ((inert_iff (by decide)).mp h), (inert_iff (by decide)).mpr hplain⟩

end Foldbook
