import Foldbook.Proofs.Events
import Foldbook.Proofs.Outline.Run

/-!
# The end of the input

A document may leave folds open.  At its end they are closed, the innermost
first, as if the usual end line had been read for each.

* `Progress.readLine_finish`: the usual end line does what closing the
  innermost fold does.
* `Item.runAll_ends`: so do as many end lines as there are open folds.
* `Document.runLines_append_ends` says so of a document.
-/

namespace Foldbook

open Text

/-- As many end lines, none of which belongs to a loop. -/
def endLines (count : Nat) : List String := List.replicate count Marker.finish

theorem loopless_endLines (count : Nat) : Loopless (endLines count) := by
  intro line hline
  rw [List.eq_of_mem_replicate hline]
  decide

section

variable {m : Type → Type} [Monad m] [LawfulMonad m] (s : Services m)

/-- A fold without an end line of its own is closed alike by the usual end line and by the end of
the input, whatever is left to do in it. -/
theorem Progress.readLine_finish (out : String) {f : Fold} (hf : f.endMarker = "")
    (outer : List Fold) :
    readLine s { out, stack := f :: outer } Marker.finish =
      closeFold s { out, stack := f :: outer } := by
  have hstart : Marker.start? Marker.finish = none := by decide
  have hdivider : Marker.isDivider Marker.finish = false := by decide
  have hend : Marker.isEnd Marker.finish = true := by decide
  have hread : readLine s { out, stack := f :: outer } Marker.finish =
      closeFold s { out, stack := { f with endMarker := Marker.finish } :: outer } := by
    simp only [readLine, readOwnLine, hstart, hdivider, hend, Bool.false_eq_true, if_false,
      if_true]
  have hclosing : ({ f with endMarker := Marker.finish } : Fold).closingMarker =
      f.closingMarker := by
    rw [Fold.closingMarker_of_isEnd rfl hend, Fold.closingMarker, hf]
    rfl
  rw [hread, closeFold_eq, closeFold_eq, hclosing]
  rfl

/-- As many end lines as there are open folds leave nothing to do at the end of the input. -/
theorem Item.runAll_ends {count : Nat} {p : Progress} (hp : p.Opens count) :
    (runAll s p ((endLines count).map Item.line) >>= fun p => p.finish s) = p.finish s := by
  have hcloses : (runAll s p ((endLines count).map Item.line) >>= fun p => p.finish s) =
      Progress.closeFolds s count p >>= fun p => pure p.out := by
    induction count generalizing p with
    | zero =>
        rw [endLines, List.replicate_zero, List.map_nil, runAll, pure_bind, Progress.finish,
          hp.length]
    | succ count ih =>
        obtain ⟨out, _ | ⟨f, outer⟩⟩ := p
        · exact absurd hp.length (Nat.succ_ne_zero count).symm
        · rw [endLines, List.replicate_succ, List.map_cons, runAll, run,
            Progress.readLine_finish s out (hp.endMarker f List.mem_cons_self),
            Progress.closeFolds, bind_assoc, bind_assoc]
          exact (Progress.closeFold_yields s (hp.pop out)).congr fun p hp => ih hp
  rw [hcloses, Progress.finish, hp.length]

/-- Let every loop of a document be ended.  A run of it leaves as many folds open as its lines say,
and with as many end lines behind it the document does what it does without them. -/
theorem Document.runLines_append_ends {plainFirst : Bool} {lines : List String}
    (hloops : Item.openLoops plainFirst 0 lines = 0) :
    Yields (fun p => p.stack.length = Item.openFolds 0 (Item.ofLines plainFirst lines))
        (Item.runAll s {} (Item.ofLines plainFirst lines)) ∧
      runLines s (lines ++ endLines (Item.openFolds 0 (Item.ofLines plainFirst lines)))
        plainFirst = runLines s lines plainFirst := by
  have hopen := Item.runAll_yields s (Progress.Opens.empty "") (Item.ofLines plainFirst lines)
  generalize Item.openFolds 0 (Item.ofLines plainFirst lines) = count at hopen
  refine ⟨hopen.mono fun p hp => hp.length, ?_⟩
  have hends : ∀ plainFirst, Item.ofLines plainFirst (endLines count) =
      (endLines count).map Item.line := by
    intro plainFirst
    rw [Item.ofLines_of_loopless plainFirst (loopless_endLines count)]
    refine List.map_congr_left fun line hline => ?_
    rw [List.eq_of_mem_replicate hline]
    rfl
  simp only [runLines, runItems]
  rw [Item.ofLines_append plainFirst lines hloops, hends, Item.runAll_append, bind_assoc]
  exact hopen.congr fun p hp => Item.runAll_ends s hp

/-- A fold with a request that is still to be sent and a loop behind it, and inside of it one with
an old result. -/
def openDocument : List String :=
  ["text", "###\x7b a", "GET x", "###\x7b while c", "###\x7d", "###\x7d endwhile", "###\x7b b",
    "@x", "##########", "old"]

theorem runLines_append_ends_two :
    Item.openLoops false 0 openDocument = 0 ∧
      Document.runLines silentServices (openDocument ++ ["###\x7d", "###\x7d"]) =
        Document.runLines silentServices openDocument := by
  have hloops : Item.openLoops false 0 openDocument = 0 := by decide
  have hfolds : Item.openFolds 0 (Item.ofLines false openDocument) = 2 := by decide +kernel
  have hends := (Document.runLines_append_ends silentServices hloops).2
  rw [hfolds] at hends
  exact ⟨hloops, hends⟩

end

end Foldbook
