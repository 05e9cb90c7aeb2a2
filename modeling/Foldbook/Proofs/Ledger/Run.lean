import Foldbook.Proofs.Ledger.Basic

/-!
# A run with its ledgers

A `Standing` is a run between two lines, with the ledgers of its open folds and those of the folds
that have ended.

* `Standing.Reads` says what one line does to it, and `Standing.Closes` how the innermost fold
  ends: its request is sent, and it is rendered.
* `Standing.Passes` is about the lines up to a place in a document, and `Standing.Finishes` about
  those from there on and the end of the input.
* `Standing.asks_runAll`, `Standing.asks_runRest`: a run does nothing else, and the services are
  asked nothing else.
-/

namespace Foldbook

open Text

/-- A run between two lines. -/
structure Standing where
  /-- The text written so far. -/
  out : String := ""
  /-- The open folds, the innermost first. -/
  stack : List Ledger := []
  /-- The folds that have ended, as they were when they were rendered, the first one first. -/
  ended : List Ledger := []

namespace Standing

/-- The run without its ledgers. -/
def progress (b : Standing) : Progress := { out := b.out, stack := b.stack.map Ledger.fold }

/-- The innermost fold ends.  Its request is sent, if it is still to be sent, and it is rendered:
for the text, or for the fold around it. -/
inductive Closes : Standing → List Event → Standing → Prop
  | outermost {out : String} {l result : Ledger} {ended : List Ledger} {events : List Event}
      (hsends : l.Sends events result) :
      Closes ⟨out, [l], ended⟩ events ⟨out ++ result.fold.render.1, [], ended ++ [result]⟩
  | inside {out : String} {l result around : Ledger} {outer ended : List Ledger}
      {events : List Event} (hsends : l.Sends events result) :
      Closes ⟨out, l :: around :: outer, ended⟩ events
        ⟨out, around.enclose result.fold :: outer, ended ++ [result]⟩

/-- A line is read. -/
inductive Reads (line : String) : Standing → List Event → Standing → Prop
  | text {out : String} {ended : List Ledger} (hstart : Marker.start? line = none) :
      Reads line ⟨out, [], ended⟩ [] ⟨addLine out line, [], ended⟩
  | opens {out : String} {ended : List Ledger} {start : Marker.Start}
      (hstart : Marker.start? line = some start) :
      Reads line ⟨out, [], ended⟩ [] ⟨addLine out "", [⟨.ofStart start 0, []⟩], ended⟩
  | nests {out : String} {l around : Ledger} {outer ended : List Ledger} {events : List Event}
      {start : Marker.Start} (hstart : Marker.start? line = some start)
      (hsends : l.Sends events around) :
      Reads line ⟨out, l :: outer, ended⟩ events
        ⟨out, ⟨.ofStart start (outer.length + 1), []⟩ :: around :: outer, ended⟩
  | divider {out : String} {l : Ledger} {outer ended : List Ledger}
      (hstart : Marker.start? line = none) (hdivider : Marker.isDivider line = true) :
      Reads line ⟨out, l :: outer, ended⟩ []
        ⟨out, l.divided :: outer, ended⟩
  | ends {out : String} {l : Ledger} {outer ended : List Ledger} {events : List Event}
      {e : Standing} (hend : Marker.isEnd line = true)
      (hcloses : Closes ⟨out, l.ended line :: outer, ended⟩ events e) :
      Reads line ⟨out, l :: outer, ended⟩ events e
  | stale {out : String} {l : Ledger} {outer ended : List Ledger}
      (hstart : Marker.start? line = none) (hdivider : Marker.isDivider line = false)
      (hend : Marker.isEnd line = false) (hstale : l.fold.stale = true) :
      Reads line ⟨out, l :: outer, ended⟩ [] ⟨out, l :: outer, ended⟩
  | own {out : String} {l taken : Ledger} {outer ended : List Ledger} {events : List Event}
      (hstart : Marker.start? line = none) (hdivider : Marker.isDivider line = false)
      (hend : Marker.isEnd line = false) (hfresh : l.fold.stale = false)
      (htakes : l.Takes line events taken) :
      Reads line ⟨out, l :: outer, ended⟩ events ⟨out, taken :: outer, ended⟩

/-- Lines are read, one after the other. -/
inductive Passes : Standing → List String → List Event → Standing → Prop
  | nil {b : Standing} : Passes b [] [] b
  | cons {b next e : Standing} {line : String} {lines : List String} {events more : List Event}
      (hreads : Reads (trimEnd line) b events next) (hmore : Passes next lines more e) :
      Passes b (line :: lines) (events ++ more) e

/-- The open folds end, the innermost first. -/
inductive Ends : Standing → List Event → Standing → Prop
  | done {out : String} {ended : List Ledger} : Ends ⟨out, [], ended⟩ [] ⟨out, [], ended⟩
  | closes {b next e : Standing} {events more : List Event} (hcloses : Closes b events next)
      (hmore : Ends next more e) : Ends b (events ++ more) e

/-- Lines are read up to the end of the input, where the folds end that are still open. -/
inductive Finishes (b : Standing) (lines : List String) : List Event → Standing → Prop
  | intro {last e : Standing} {events more : List Event} (hpasses : b.Passes lines events last)
      (hends : last.Ends more e) : Finishes b lines (events ++ more) e

end Standing

/-- Runs the items from a place in a document on. -/
def Progress.runRest {m : Type → Type} [Monad m] (s : Services m) (p : Progress)
    (items : List Item) : m String := do
  (← Item.runAll s p items).finish s

/-! ## Every run has ledgers -/

variable {m : Type → Type} [Monad m] [LawfulMonad m] (s : Services m)

namespace Ledger

theorem asks_takeLine (l : Ledger) (line : String) :
    Asks (fun events g => ∃ taken : Ledger, taken.fold = g ∧ l.Takes line events taken)
      (l.fold.takeLine s.recording line) := by
  refine (Fold.asks_takeLine s l.fold line).mono fun events g hg => ?_
  obtain ⟨reading, hevents, htakes⟩ := hg
  exact ⟨⟨g, l.results ++ l.fold.resultsOf line reading⟩, rfl, reading, hevents, htakes, rfl⟩

theorem asks_issuePending (l : Ledger) :
    Asks (fun events g => ∃ sent : Ledger, sent.fold = g ∧ l.Sends events sent)
      (l.fold.issuePending s.recording) := by
  refine (Fold.asks_issuePending s l.fold).mono fun events g hg => ?_
  exact ⟨⟨g, l.results ++ Result.ofRequest events⟩, rfl, hg, rfl⟩

end Ledger

/-- An own line that is not left out is taken by the innermost fold. -/
theorem Progress.readOwnLine_own (p : Progress) (f : Fold) (outer : List Fold) {line : String}
    (hdivider : Marker.isDivider line = false) (hend : Marker.isEnd line = false)
    (hfresh : f.stale = false) :
    p.readOwnLine s f outer line =
      f.takeLine s line >>= fun g => pure { p with stack := g :: outer } := by
  rw [readOwnLine, hdivider, hend, hfresh, if_neg Bool.false_ne_true, if_neg Bool.false_ne_true,
    if_neg Bool.false_ne_true, Fold.takeLine]
  dsimp only
  split
  · rw [pure_bind]
  · rfl

namespace Standing

theorem asks_closeFold (out : String) (l : Ledger) (outer ended : List Ledger) :
    Asks (fun events p => ∃ e : Standing, e.progress = p ∧
        Closes ⟨out, l :: outer, ended⟩ events e)
      (Progress.closeFold s.recording (progress ⟨out, l :: outer, ended⟩)) := by
  show Asks _ (Progress.closeFold s.recording ⟨out, l.fold :: outer.map Ledger.fold⟩)
  unfold Progress.closeFold
  refine (l.asks_issuePending s).bind fun events g hg => ?_
  obtain ⟨result, rfl, hsends⟩ := hg
  refine (Asks.note s _).bind fun later _ hlater => ?_
  subst hlater
  cases outer with
  | nil => exact .pure ⟨_, rfl, by simpa using Closes.outermost hsends⟩
  | cons around outer => exact .pure ⟨_, rfl, by simpa using Closes.inside hsends⟩

/-- A line that does not open a fold, inside of one. -/
theorem asks_readOwnLine (out : String) (l : Ledger) (outer ended : List Ledger) {line : String}
    (hstart : Marker.start? line = none) :
    Asks (fun events p => ∃ e : Standing, e.progress = p ∧
        Reads line ⟨out, l :: outer, ended⟩ events e)
      (Progress.readOwnLine s.recording (progress ⟨out, l :: outer, ended⟩) l.fold
        (outer.map Ledger.fold) line) := by
  cases hdivider : Marker.isDivider line with
  | true =>
      rw [Progress.readOwnLine, if_pos hdivider]
      exact .pure ⟨_, rfl, .divider hstart hdivider⟩
  | false =>
      cases hend : Marker.isEnd line with
      | true =>
          rw [Progress.readOwnLine, hdivider, if_neg Bool.false_ne_true, if_pos hend]
          refine (asks_closeFold s out (l.ended line) outer ended).mono fun events p hp => ?_
          obtain ⟨e, rfl, hcloses⟩ := hp
          exact ⟨e, rfl, .ends hend hcloses⟩
      | false =>
          cases hstale : l.fold.stale with
          | true =>
              rw [Progress.readOwnLine, hdivider, hend, hstale, if_neg Bool.false_ne_true,
                if_neg Bool.false_ne_true, if_pos rfl]
              exact .pure ⟨_, rfl, .stale hstart hdivider hend hstale⟩
          | false =>
              rw [Progress.readOwnLine_own s.recording _ _ _ hdivider hend hstale]
              refine (l.asks_takeLine s line).bind fun events g hg => ?_
              obtain ⟨taken, rfl, htakes⟩ := hg
              refine .pure ⟨⟨out, taken :: outer, ended⟩, rfl, ?_⟩
              rw [List.append_nil]
              exact .own hstart hdivider hend hstale htakes

/-- A line that opens a fold. -/
theorem asks_openFold (b : Standing) {line : String} {start : Marker.Start}
    (hstart : Marker.start? line = some start) :
    Asks (fun events p => ∃ e : Standing, e.progress = p ∧ b.Reads line events e)
      (b.progress.openFold s.recording start) := by
  obtain ⟨out, _ | ⟨l, outer⟩, ended⟩ := b
  · show Asks _ (Progress.openFold s.recording ⟨out, []⟩ start)
    unfold Progress.openFold
    dsimp only
    rw [pure_bind]
    refine (Asks.note s _).bind fun events _ hevents => ?_
    subst hevents
    refine .pure ⟨_, ?_, .opens hstart⟩
    rw [addLine, String.append_empty]
    rfl
  · show Asks _ (Progress.openFold s.recording ⟨out, l.fold :: outer.map Ledger.fold⟩ start)
    unfold Progress.openFold
    dsimp only
    refine (l.asks_issuePending s).bind fun events g hg => ?_
    obtain ⟨around, rfl, hsends⟩ := hg
    rw [pure_bind]
    refine (Asks.note s _).bind fun later _ hlater => ?_
    subst hlater
    refine .pure ⟨⟨out, ⟨.ofStart start (outer.length + 1), []⟩ :: around :: outer, ended⟩, ?_, ?_⟩
    · rw [List.length_cons, List.length_map]
      rfl
    · rw [List.append_nil, List.append_nil]
      exact .nests hstart hsends

theorem asks_readLine (b : Standing) (line : String) :
    Asks (fun events p => ∃ e : Standing, e.progress = p ∧ b.Reads line events e)
      (b.progress.readLine s.recording line) := by
  unfold Progress.readLine
  cases hstart : Marker.start? line with
  | some start => exact asks_openFold s b hstart
  | none =>
      obtain ⟨out, _ | ⟨l, outer⟩, ended⟩ := b
      · exact .pure ⟨_, rfl, .text hstart⟩
      · exact asks_readOwnLine s out l outer ended hstart

/-- The lines up to a place in a document. -/
theorem asks_runAll (b : Standing) (lines : List String) :
    Asks (fun events p => ∃ e : Standing, e.progress = p ∧ b.Passes lines events e)
      (Item.runAll s.recording b.progress (lines.map fun line => .line (trimEnd line))) := by
  induction lines generalizing b with
  | nil =>
      unfold Item.runAll
      exact .pure ⟨b, rfl, .nil⟩
  | cons line lines ih =>
      rw [List.map_cons, Item.runAll, Item.run]
      refine (asks_readLine s b (trimEnd line)).bind fun events p hp => ?_
      obtain ⟨next, rfl, hreads⟩ := hp
      refine (ih next).mono fun more p hp => ?_
      obtain ⟨e, rfl, hpasses⟩ := hp
      exact ⟨e, rfl, .cons hreads hpasses⟩

theorem Closes.length_stack {b e : Standing} {events : List Event} (h : b.Closes events e) :
    e.stack.length + 1 = b.stack.length := by
  cases h <;> rfl

/-- The end of the input. -/
theorem asks_finish (b : Standing) :
    Asks (fun events text => ∃ e : Standing, e.out = text ∧ b.Ends events e)
      (b.progress.finish s.recording) := by
  obtain ⟨count, hcount⟩ : ∃ count, b.stack.length = count := ⟨_, rfl⟩
  have hlength : b.progress.stack.length = count := by
    rw [progress, List.length_map, hcount]
  rw [Progress.finish, hlength]
  -- one fold ends with every step, so the induction is on how many are open
  induction count generalizing b with
  | zero =>
      obtain ⟨out, stack, ended⟩ := b
      obtain rfl : stack = [] := List.length_eq_zero_iff.mp hcount
      rw [Progress.closeFolds, pure_bind]
      exact .pure ⟨_, rfl, .done⟩
  | succ count ih =>
      obtain ⟨out, _ | ⟨l, outer⟩, ended⟩ := b
      · exact absurd hcount (by simp)
      · rw [Progress.closeFolds, bind_assoc]
        refine (asks_closeFold s out l outer ended).bind fun events p hp => ?_
        obtain ⟨next, rfl, hcloses⟩ := hp
        have hnext : next.stack.length = count := by
          have hone := hcloses.length_stack
          omega
        refine (ih next hnext (by rw [progress, List.length_map, hnext])).mono
          fun more text htext => ?_
        obtain ⟨e, rfl, hends⟩ := htext
        exact ⟨e, rfl, .closes hcloses hends⟩

/-- The lines from a place in a document on, and the end of the input. -/
theorem asks_runRest (b : Standing) (lines : List String) :
    Asks (fun events text => ∃ e : Standing, e.out = text ∧ b.Finishes lines events e)
      (b.progress.runRest s.recording (lines.map fun line => .line (trimEnd line))) := by
  unfold Progress.runRest
  refine (asks_runAll s b lines).bind fun events p hp => ?_
  obtain ⟨last, rfl, hpasses⟩ := hp
  refine (asks_finish s last).mono fun more text htext => ?_
  obtain ⟨e, rfl, hends⟩ := htext
  exact ⟨e, rfl, .intro hpasses hends⟩

end Standing

end Foldbook
