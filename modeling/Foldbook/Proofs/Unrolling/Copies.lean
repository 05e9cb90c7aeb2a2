import Foldbook.Proofs.Contents.Evaluation
import Foldbook.Proofs.Order
import Foldbook.Proofs.Unrolling.Round

/-!
# The rounds of a loop and copies of its block

A loop is run beside a list of copies of its block.

* `LoopBlock.WellNested` describes the blocks whose last line closes the fold
  of the first one, and `ofLines_unrolled` gives the items of their copies.
* `Repeats` is what one round and one copy have in common
  (`WellNested.repeats`), and `Copies` what all rounds and all copies have.
  `Over.copies` is the loop that is over, and `Copies.cons` puts a round and a
  copy in front of others.
* `exists_copies`: every loop makes its rounds beside as many copies.  The
  induction is on the rounds that the loop may still make.
-/

namespace Foldbook

open Text

/-! ## Blocks and copies as items -/

namespace Item

theorem openLoops_append (depth : Nat) (lines rest : List String) :
    openLoops false depth (lines ++ rest) = openLoops false (openLoops false depth lines) rest := by
  induction lines generalizing depth with
  | nil => rfl
  | cons raw lines ih =>
      rw [List.cons_append, openLoops, openLoops]
      split
      · exact ih _
      · split
        · exact ih _
        · exact ih _

end Item

namespace LoopBlock

/-- The block so many times, one below the other, as plain folds. -/
def unrolled (b : LoopBlock) (count : Nat) : List String :=
  (List.replicate count ("###\x7b x" :: b.rest)).flatten

/-- The first line of the block starts a loop, the last one ends it, and what stands between them
is properly nested: every loop ends there, and the fold of the first line is still open. -/
structure WellNested (b : LoopBlock) (body : List String) (ending : String) : Prop where
  oneLine : OneLine b.first
  starts : Marker.isLoopStart (trimEnd b.first) = true
  rest : b.rest = body ++ [ending]
  ends : Marker.isLoopEnd (trimEnd ending) = true
  loops : Item.openLoops false 0 body = 0
  folds : Item.closes 0 (Item.ofLines false body) = true

/-- The items of a block under the given start line. -/
def itemsUnder (line : String) (body : List String) (ending : String) : List Item :=
  .line line :: (Item.ofLines false body ++ [.line (trimEnd ending)])

variable {b : LoopBlock} {body : List String} {ending : String}

theorem WellNested.isEnd (h : b.WellNested body ending) : Marker.isEnd (trimEnd ending) = true :=
  Marker.isEnd_of_isLoopEnd h.ends

theorem WellNested.ofLines_rest (h : b.WellNested body ending) :
    Item.ofLines false b.rest = Item.ofLines false body ++ [.line (trimEnd ending)] := by
  have hending := Marker.isLoopStart_of_isEnd h.isEnd
  rw [h.rest, Item.ofLines_append false body h.loops, Item.ofLines_plain _ _ hending, Item.ofLines]

theorem WellNested.ofLines_lines (h : b.WellNested body ending) :
    Item.ofLines true b.lines = itemsUnder (trimEnd b.first) body ending := by
  rw [lines, Item.ofLines_first _ h.starts, h.ofLines_rest]
  rfl

theorem WellNested.ofLines_unrolled (h : b.WellNested body ending) (count : Nat) :
    Item.ofLines false (b.unrolled count) =
      (List.replicate count (itemsUnder "###\x7b x" body ending)).flatten := by
  have hplain : Marker.isLoopStart (trimEnd "###\x7b x") = false := by decide
  have hnoend : Marker.isLoopEnd (trimEnd "###\x7b x") = false := by decide
  have hcopy : Item.openLoops false 0 ("###\x7b x" :: b.rest) = 0 := by
    rw [Item.openLoops, hplain, hnoend, h.rest]
    simp only [Bool.false_eq_true, if_false]
    rw [Item.openLoops_append, h.loops, Item.openLoops, h.ends,
      Marker.isLoopStart_of_isEnd h.isEnd]
    rfl
  induction count with
  | zero =>
      rw [unrolled, List.replicate_zero, List.flatten_nil, Item.ofLines]
      rfl
  | succ count ih =>
      rw [unrolled, List.replicate_succ, List.flatten_cons, ← unrolled,
        Item.ofLines_append false _ hcopy, List.replicate_succ, List.flatten_cons,
        Item.ofLines_plain _ _ hplain, h.ofLines_rest]
      exact congrArg (_ ++ ·) ih

end LoopBlock

/-! ## What an action does, and what one beside it does -/

section

variable {σ τ : Type} {α β : Type} {seen : σ → τ}

theorem Matches.asked {rel : α → β → Prop} {x : StateT (List Event) (StateM σ) α}
    {y : StateT (List Event) (StateM σ) β} (h : Matches seen rel x y) {a b : σ}
    (hseen : seen a = seen b) :
    rel (answered x a) (answered y b) ∧ Foldbook.asked x a = Foldbook.asked y b ∧
      seen (stateBehind x a) = seen (stateBehind y b) := by
  obtain ⟨hanswer, hevents, hbehind⟩ := h [] hseen
  exact ⟨hanswer, congrArg List.reverse hevents, hbehind⟩

end

/-! ## Rounds -/

section

variable {σ α : Type}

@[simp] theorem answered_pure (a : α) (state : σ) :
    answered (pure a : StateT (List Event) (StateM σ) α) state = a := rfl

@[simp] theorem asked_pure (a : α) (state : σ) :
    asked (pure a : StateT (List Event) (StateM σ) α) state = [] := rfl

@[simp] theorem stateBehind_pure (a : α) (state : σ) :
    stateBehind (pure a : StateT (List Event) (StateM σ) α) state = state := rfl

end

/-- The event is the answer for a condition. -/
def Event.decides : Event → Bool
  | .decided _ _ => true
  | .assigned _ _ | .sent _ _ _ _ | .captured _ _ _ => false

section

variable {σ τ : Type} {α : Type} {seen : σ → τ} {s : Services (StateM σ)}

/-- A loop whose rounds are over asks nothing more. -/
structure Over (seen : σ → τ) (x : StateT (List Event) (StateM σ) LoopRun) (a : σ) (rounds : Nat)
    (failed : Bool) : Prop where
  asked : asked x a = []
  behind : seen (stateBehind x a) = seen a
  rounds : (answered x a).rounds = rounds
  failed : (answered x a).failed = failed

theorem LoopBlock.over_finish (hs : s.LooksAt seen) (block : LoopBlock) (r : LoopRun) (a : σ) :
    Over seen (block.finish s.recording r) a r.rounds r.failed where
  asked := rfl
  behind := hs.note _ a
  rounds := by
    change (if r.rounds = 0 then _ else r).rounds = r.rounds
    split <;> rfl
  failed := by
    change (if r.rounds = 0 then _ else r).failed = r.failed
    split <;> rfl

/-- A condition that cannot be filled in. -/
theorem LoopBlock.over_error (hs : s.LooksAt seen) (block : LoopBlock)
    (runBlock : StateT (List Event) (StateM σ) String)
    (again : Option (LoopRun → StateT (List Event) (StateM σ) LoopRun)) (r : LoopRun) (e : Failure)
    (a : σ) : Over seen (block.goOn s.recording runBlock again r (.error e)) a r.rounds true where
  asked := rfl
  behind := hs.note _ a
  rounds := rfl
  failed := rfl

/-- The first line of a copy's rendering. -/
def copyHeader (failed : Bool) : String :=
  "###\x7b x executed (" ++ (if failed then "ERROR" else "SUCCESS") ++ ")\n"

/-- So many runs of the same items, each behind the other. -/
def runCopies (s : Services (StateM σ)) (items : List Item) (count : Nat) (out : String) :
    StateT (List Event) (StateM σ) Progress :=
  Item.runAll s.recording { out, stack := [] } (List.replicate count items).flatten

/-- The rounds of a loop from a state, and copies of its block from a state that looks alike. -/
structure Copies (s : Services (StateM σ)) (seen : σ → τ) (condition : String) (items : List Item)
    (loop : StateT (List Event) (StateM σ) LoopRun) (a : σ) (made : Nat) (b : σ) (out : String)
    (texts : List String) : Prop where
  rounds : (answered loop a).rounds = made + texts.length
  behind : seen (stateBehind loop a) = seen (stateBehind (runCopies s items texts.length out) b)
  questions : (asked loop a).filter (!·.decides) =
    (asked (runCopies s items texts.length out) b).filter (!·.decides)
  verdicts : ∀ i < texts.length,
    ((s.condition condition).run (stateBehind (runCopies s items i out) b)).1 = .ok "true"
  renderings : ∀ i ≤ texts.length, answered (runCopies s items i out) b =
    { out := (texts.take i).foldl addLine out, stack := [] }
  headed : ∀ text ∈ texts, ∃ failed, startsWith text (copyHeader failed) = true
  succeeded : ∀ text ∈ texts.dropLast, startsWith text (copyHeader false) = true

/-- The loop has failed exactly if its last round has, or the condition behind it. -/
def FailedLast (s : Services (StateM σ)) (condition : String) (items : List Item) (failed : Bool)
    (b : σ) (out : String) (texts : List String) : Prop :=
  failed = true ↔
    (∃ text ∈ texts.getLast?, startsWith text (copyHeader true) = true) ∨
      ∃ e, ((s.condition condition).run
        (stateBehind (runCopies s items texts.length out) b)).1 = .error e

/-- What a loop does first: it has its condition filled in. -/
theorem condition_bind (s : Services (StateM σ)) (text : String)
    {f : Except Failure String → StateT (List Event) (StateM σ) α} (hf : ∀ answer, Appends (f answer))
    (a : σ) :
    answered (s.recording.condition text >>= f) a =
        answered (f ((s.condition text).run a).1) ((s.condition text).run a).2 ∧
      asked (s.recording.condition text >>= f) a =
        .decided text ((s.condition text).run a).1 ::
          asked (f ((s.condition text).run a).1) ((s.condition text).run a).2 ∧
      stateBehind (s.recording.condition text >>= f) a =
        stateBehind (f ((s.condition text).run a).1) ((s.condition text).run a).2 := by
  have hs := simulates_appends s
  refine ⟨?_, ?_, ?_⟩
  · rw [answered_bind hf (hs.condition text)]
    rfl
  · rw [asked_bind hf (hs.condition text)]
    rfl
  · rw [stateBehind_bind hf (hs.condition text)]
    rfl

/-- A loop whose rounds are over, and no copies. -/
theorem Over.copies {condition : String} {items : List Item}
    {loop : StateT (List Event) (StateM σ) LoopRun} {a b : σ} {made : Nat} {failed : Bool}
    (h : Over seen loop a made failed) (hseen : seen a = seen b) (out : String) :
    Copies s seen condition items loop a made b out [] where
  rounds := h.rounds
  behind := h.behind.trans hseen
  questions := by
    rw [h.asked]
    rfl
  verdicts i hi := absurd hi (Nat.not_lt_zero i)
  renderings i hi := by
    rw [Nat.le_zero.mp hi]
    rfl
  headed text htext := absurd htext List.not_mem_nil
  succeeded text htext := absurd htext List.not_mem_nil

section

variable {condition : String} {items : List Item} {a b : σ} {made : Nat} {out : String}
  {texts : List String}

/-- Filling in the condition changes nothing that is looked at. -/
theorem Copies.of_condition
    {f : Except Failure String → StateT (List Event) (StateM σ) LoopRun}
    (hf : ∀ answer, Appends (f answer))
    (h : Copies s seen condition items (f ((s.condition condition).run a).1)
      ((s.condition condition).run a).2 made b out texts) :
    Copies s seen condition items (s.recording.condition condition >>= f) a made b out texts := by
  obtain ⟨hanswered, hasked, hbehind⟩ := condition_bind s condition hf a
  refine ⟨hanswered ▸ h.rounds, hbehind ▸ h.behind, ?_, h.verdicts, h.renderings, h.headed,
    h.succeeded⟩
  rw [hasked, ← h.questions]
  rfl

/-- One copy in front of others. -/
theorem runCopies_succ (s : Services (StateM σ)) {text : String}
    (hanswer : answered (Item.runAll s.recording { out, stack := [] } items) b =
      { out := addLine out text, stack := [] }) (count : Nat) :
    answered (runCopies s items (count + 1) out) b =
        answered (runCopies s items count (addLine out text))
          (stateBehind (Item.runAll s.recording { out, stack := [] } items) b) ∧
      asked (runCopies s items (count + 1) out) b =
        asked (Item.runAll s.recording { out, stack := [] } items) b ++
          asked (runCopies s items count (addLine out text))
            (stateBehind (Item.runAll s.recording { out, stack := [] } items) b) ∧
      stateBehind (runCopies s items (count + 1) out) b =
        stateBehind (runCopies s items count (addLine out text))
          (stateBehind (Item.runAll s.recording { out, stack := [] } items) b) := by
  have hs := simulates_appends s
  have hbind : runCopies s items (count + 1) out =
      Item.runAll s.recording { out, stack := [] } items >>= fun p =>
        Item.runAll s.recording p (List.replicate count items).flatten := by
    rw [runCopies, List.replicate_succ, List.flatten_cons, Item.runAll_append]
  have hlater : ∀ p, Appends (Item.runAll s.recording p (List.replicate count items).flatten) :=
    fun p => hs.runAll p _
  rw [hbind, answered_bind hlater (hs.runAll _ items), asked_bind hlater (hs.runAll _ items),
    stateBehind_bind hlater (hs.runAll _ items), hanswer]
  exact ⟨rfl, rfl, rfl⟩

/-- A round with its copy, in front of other rounds and copies. -/
theorem Copies.cons {runBlock : StateT (List Event) (StateM σ) String}
    {next : String → StateT (List Event) (StateM σ) LoopRun} (hblock : Appends runBlock)
    (hnext : ∀ output, Appends (next output)) {text : String}
    (hverdict : ((s.condition condition).run b).1 = .ok "true")
    (hanswer : answered (Item.runAll s.recording { out, stack := [] } items) b =
      { out := addLine out text, stack := [] })
    (hasked : asked runBlock a = asked (Item.runAll s.recording { out, stack := [] } items) b)
    (hrest : Copies s seen condition items (next (answered runBlock a)) (stateBehind runBlock a)
      (made + 1) (stateBehind (Item.runAll s.recording { out, stack := [] } items) b)
      (addLine out text) texts)
    {failed : Bool}
    (hheaded : startsWith text (copyHeader failed) = true)
    (hsucceeded : texts ≠ [] → startsWith text (copyHeader false) = true) :
    Copies s seen condition items (runBlock >>= next) a made b out (text :: texts) where
  rounds := by
    rw [answered_bind hnext hblock, hrest.rounds, List.length_cons]
    omega
  behind := by
    rw [stateBehind_bind hnext hblock, hrest.behind, List.length_cons,
      (runCopies_succ s hanswer _).2.2]
  questions := by
    rw [asked_bind hnext hblock, List.filter_append, hrest.questions, List.length_cons,
      (runCopies_succ s hanswer _).2.1, List.filter_append, hasked]
  verdicts i hi := by
    cases i with
    | zero => exact hverdict
    | succ i =>
        rw [(runCopies_succ s hanswer i).2.2]
        exact hrest.verdicts i (Nat.lt_of_succ_lt_succ hi)
  renderings i hi := by
    cases i with
    | zero => rfl
    | succ i =>
        rw [(runCopies_succ s hanswer i).1, hrest.renderings i (Nat.le_of_succ_le_succ hi)]
        rfl
  headed := List.forall_mem_cons.mpr ⟨⟨failed, hheaded⟩, hrest.headed⟩
  succeeded shown hshown := by
    cases texts with
    | nil => exact absurd hshown List.not_mem_nil
    | cons second texts =>
        rw [List.dropLast_cons_cons, List.mem_cons] at hshown
        rcases hshown with rfl | hshown
        · exact hsucceeded (List.cons_ne_nil _ _)
        · exact hrest.succeeded shown hshown

/-- A copy that succeeded does not matter in front of others. -/
theorem FailedLast.cons {failed : Bool} {text : String}
    (hsucceeded : startsWith text (copyHeader false) = true)
    (hanswer : answered (Item.runAll s.recording { out, stack := [] } items) b =
      { out := addLine out text, stack := [] })
    (h : FailedLast s condition items failed
      (stateBehind (Item.runAll s.recording { out, stack := [] } items) b) (addLine out text) texts) :
    FailedLast s condition items failed b out (text :: texts) := by
  have hnot : startsWith text (copyHeader true) = false :=
    startsWith_eq_false_of_startsWith hsucceeded (by decide) (by decide)
  rw [FailedLast, List.length_cons, (runCopies_succ s hanswer _).2.2]
  rw [FailedLast] at h
  cases texts with
  | nil => simpa [hnot] using h
  | cons second texts =>
      rw [List.getLast?_cons_cons]
      exact h

end

/-! ## Loops -/

namespace LoopBlock

variable {block : LoopBlock} {body : List String} {ending : String}

/-- The start line of a copy. -/
def copyStart : Marker.Start := ⟨"###\x7b x", "x"⟩

theorem marker_copyStart : copyStart.head.marker = "###\x7b x" := by decide +kernel

/-- A round does what the items do outside of all folds, and shows how the copy went. -/
def Repeats (s : Services (StateM σ)) (seen : σ → τ)
    (runBlock : StateT (List Event) (StateM σ) String) (items : List Item) : Prop :=
  ∀ (out : String) {a b : σ}, seen a = seen b →
    ∃ text,
      startsWith text (copyHeader (showsError (answered runBlock a))) = true ∧
      answered (Item.runAll s.recording { out, stack := [] } items) b =
        { out := addLine out text, stack := [] } ∧
      asked runBlock a = asked (Item.runAll s.recording { out, stack := [] } items) b ∧
      seen (stateBehind runBlock a) =
        seen (stateBehind (Item.runAll s.recording { out, stack := [] } items) b)

/-- A round of a loop repeats its block under another start line. -/
theorem WellNested.repeats (h : block.WellNested body ending) (hs : s.LooksAt seen) :
    Repeats s seen (Document.runLines s.recording block.lines true)
      (itemsUnder "###\x7b x" body ending) := by
  intro out a b hseen
  obtain ⟨title, hstart⟩ := Marker.exists_start?_of_isLoopStart h.oneLine.trimEnd h.starts
  have hcopy : Marker.start? "###\x7b x" = some copyStart := by decide
  have hblock : Matches seen _
      (Item.runAll s.recording {} (itemsUnder (trimEnd block.first) body ending))
      (Item.runAll s.recording { out, stack := [] } (itemsUnder "###\x7b x" body ending)) :=
    matches_block hs hstart hcopy h.folds h.isEnd "" out
  obtain ⟨⟨f, g, htwins, hrendered, hcopied⟩, hasked, hbehind⟩ := hblock.asked hseen
  have hsim := simulates_appends s
  have hitems := hsim.runAll {} (itemsUnder (trimEnd block.first) body ending)
  have hrun : Document.runLines s.recording block.lines true =
      Item.runAll s.recording {} (itemsUnder (trimEnd block.first) body ending) >>= fun p =>
        p.finish s.recording := by
    rw [Document.runLines, h.ofLines_lines, Document.runItems]
  have hmarker : OneLine (Marker.Start.head ⟨trimEnd block.first, title⟩).marker :=
    Marker.oneLine_withoutStatus h.oneLine.trimEnd
  rw [hrun, answered_bind hsim.finish hitems, asked_bind hsim.finish hitems,
    stateBehind_bind hsim.finish hitems, hrendered, Progress.finish_outside, answered_pure, asked_pure,
    stateBehind_pure, addLine_empty, List.append_nil]
  obtain ⟨hshows, hstarts⟩ := htwins.renderings hmarker
  rw [marker_copyStart, ← hshows] at hstarts
  exact ⟨g.render.1, hstarts, hcopied, hasked, hbehind⟩

/-- A loop stops at once if its condition is not `true`. -/
theorem over_goOn (block : LoopBlock) (hs : s.LooksAt seen)
    (runBlock : StateT (List Event) (StateM σ) String)
    (again : Option (LoopRun → StateT (List Event) (StateM σ) LoopRun)) {r : LoopRun}
    (hr : r.failed = false) {answer : Except Failure String} (hanswer : answer ≠ .ok "true") (a : σ) :
    ∃ failed, (failed = true ↔ ∃ e, answer = .error e) ∧
      Over seen (block.goOn s.recording runBlock again r answer) a r.rounds failed := by
  cases answer with
  | error e => exact ⟨true, by simp, over_error hs block runBlock again r e a⟩
  | ok verdict =>
      have hne : verdict ≠ "true" := fun heq => hanswer (heq ▸ rfl)
      have hfinish : block.goOn s.recording runBlock again r (.ok verdict) =
          block.finish s.recording r := by
        unfold goOn
        exact if_pos hne
      rw [hfinish]
      exact ⟨r.failed, by simp [hr], over_finish hs block r a⟩

/-- What a loop does behind a round. -/
def endRound {m : Type → Type} [Monad m] (s : Services m) (b : LoopBlock)
    (again : LoopRun → m LoopRun) (r : LoopRun) (output : String) : m LoopRun :=
  let r := { r with output, rounds := r.rounds + 1 }
  if showsError output then b.finish s { r with failed := true } else again r

/-- Where the condition holds, a round is made. -/
theorem goOn_true {m : Type → Type} [Monad m] (s : Services m) (b : LoopBlock) (runBlock : m String)
    (again : LoopRun → m LoopRun) (r : LoopRun) :
    b.goOn s runBlock (some again) r (.ok "true") = runBlock >>= b.endRound s again r := rfl

theorem appends_endRound (s : Services (StateM σ)) (b : LoopBlock)
    {again : LoopRun → StateT (List Event) (StateM σ) LoopRun} (hagain : ∀ r, Appends (again r))
    (r : LoopRun) (output : String) : Appends (b.endRound s.recording again r output) := by
  unfold endRound
  dsimp only
  split
  · exact (simulates_appends s).finishLoop b _
  · exact hagain _

section

variable {runBlock : StateT (List Event) (StateM σ) String} {items : List Item}
  (hs : s.LooksAt seen)
  (hlocal : ∀ state, seen ((s.condition block.condition).run state).2 = seen state)
  (hblock : Appends runBlock) (hrepeats : Repeats s seen runBlock items)

include hs hlocal

/-- A loop that may make no more rounds. -/
theorem copies_zero {r : LoopRun} (hr : r.failed = false) {a b : σ} (hseen : seen a = seen b)
    (out : String) :
    Copies s seen block.condition items (block.run s.recording runBlock 0 r) a r.rounds b out [] := by
  have hover : ∃ failed, Over seen
      (block.goOn s.recording runBlock none r ((s.condition block.condition).run a).1)
      ((s.condition block.condition).run a).2 r.rounds failed := by
    by_cases hok : ((s.condition block.condition).run a).1 = .ok "true"
    · rw [hok]
      exact ⟨_, over_finish hs block { r with failed := true } _⟩
    · obtain ⟨failed, -, hover⟩ := over_goOn block hs runBlock none hr hok
        ((s.condition block.condition).run a).2
      exact ⟨failed, hover⟩
  obtain ⟨failed, hover⟩ := hover
  rw [run_zero]
  exact .of_condition ((simulates_appends s).goOn_none block runBlock runBlock r)
    (hover.copies ((hlocal a).trans hseen) out)

include hblock hrepeats

omit hlocal in
/-- A round that failed is the last one. -/
theorem copies_of_failed {again : LoopRun → StateT (List Event) (StateM σ) LoopRun}
    (hagain : ∀ r, Appends (again r)) (r : LoopRun) {a b : σ} (hseen : seen a = seen b)
    (hverdict : ((s.condition block.condition).run b).1 = .ok "true")
    (hfailed : showsError (answered runBlock a) = true) (out : String) :
    ∃ texts,
      Copies s seen block.condition items (runBlock >>= block.endRound s.recording again r) a
        r.rounds b out texts ∧
      FailedLast s block.condition items
        (answered (runBlock >>= block.endRound s.recording again r) a).failed b out texts := by
  obtain ⟨text, hstarts, hanswer, hasked, hsame⟩ := hrepeats out hseen
  have hnext := appends_endRound s block hagain r
  have hover : Over seen (block.endRound s.recording again r (answered runBlock a))
      (stateBehind runBlock a) (r.rounds + 1) true := by
    unfold endRound
    dsimp only
    rw [if_pos hfailed]
    exact over_finish hs block { r with output := _, rounds := r.rounds + 1, failed := true } _
  refine ⟨[text], .cons hblock hnext hverdict hanswer hasked (hover.copies hsame _) hstarts ?_, ?_⟩
  · exact fun hne => absurd rfl hne
  · rw [answered_bind hnext hblock, hover.failed]
    rw [hfailed] at hstarts
    exact ⟨fun _ => .inl ⟨text, rfl, hstarts⟩, fun _ => rfl⟩

omit hs hlocal in
/-- A round that succeeded is followed by the others. -/
theorem copies_of_succeeded {again : LoopRun → StateT (List Event) (StateM σ) LoopRun}
    (hagain : ∀ r, Appends (again r)) (r : LoopRun) {a b : σ} (hseen : seen a = seen b)
    (hverdict : ((s.condition block.condition).run b).1 = .ok "true")
    (hsucceeded : showsError (answered runBlock a) = false) (out : String) {left : Nat}
    (hlater : ∀ (output out : String) {a b : σ}, seen a = seen b →
      ∃ texts,
        Copies s seen block.condition items (again { r with output, rounds := r.rounds + 1 }) a
          (r.rounds + 1) b out texts ∧
        (texts.length < left → FailedLast s block.condition items
          (answered (again { r with output, rounds := r.rounds + 1 }) a).failed b out texts)) :
    ∃ texts,
      Copies s seen block.condition items (runBlock >>= block.endRound s.recording again r) a
        r.rounds b out texts ∧
      (texts.length < left + 1 → FailedLast s block.condition items
        (answered (runBlock >>= block.endRound s.recording again r) a).failed b out texts) := by
  obtain ⟨text, hstarts, hanswer, hasked, hsame⟩ := hrepeats out hseen
  have hnext := appends_endRound s block hagain r
  have hend : block.endRound s.recording again r (answered runBlock a) =
      again { r with output := answered runBlock a, rounds := r.rounds + 1 } := by
    unfold endRound
    dsimp only
    rw [hsucceeded, if_neg Bool.false_ne_true]
  rw [hsucceeded] at hstarts
  obtain ⟨texts, hcopies, hfailed⟩ := hlater (answered runBlock a) (addLine out text) hsame
  rw [answered_bind hnext hblock, hend]
  refine ⟨text :: texts, .cons hblock hnext hverdict hanswer hasked ?_ hstarts fun _ => hstarts, ?_⟩
  · rw [hend]
    exact hcopies
  · exact fun hlt => (hfailed (Nat.lt_of_succ_lt_succ hlt)).cons hstarts hanswer

omit hlocal in
/-- What a loop does behind its condition. -/
theorem copies_of_answer {again : LoopRun → StateT (List Event) (StateM σ) LoopRun}
    (hagain : ∀ r, Appends (again r)) {r : LoopRun} (hr : r.failed = false) {a b : σ}
    (hseen : seen a = seen b) {answer : Except Failure String}
    (hanswer : ((s.condition block.condition).run b).1 = answer) (out : String) {left : Nat}
    (hlater : ∀ (output out : String) {a b : σ}, seen a = seen b →
      ∃ texts,
        Copies s seen block.condition items (again { r with output, rounds := r.rounds + 1 }) a
          (r.rounds + 1) b out texts ∧
        (texts.length < left → FailedLast s block.condition items
          (answered (again { r with output, rounds := r.rounds + 1 }) a).failed b out texts)) :
    ∃ texts,
      Copies s seen block.condition items
        (block.goOn s.recording runBlock (some again) r answer) a r.rounds b out texts ∧
      (texts.length < left + 1 → FailedLast s block.condition items
        (answered (block.goOn s.recording runBlock (some again) r answer) a).failed b out texts) := by
  by_cases hok : answer = .ok "true"
  · rw [hok] at hanswer
    rw [hok, goOn_true]
    cases hshows : showsError (answered runBlock a) with
    | true =>
        obtain ⟨texts, hcopies, hfailed⟩ :=
          copies_of_failed hs hblock hrepeats hagain r hseen hanswer hshows out
        exact ⟨texts, hcopies, fun _ => hfailed⟩
    | false => exact copies_of_succeeded hblock hrepeats hagain r hseen hanswer hshows out hlater
  · obtain ⟨failed, hfailed, hover⟩ := over_goOn block hs runBlock (some again) hr hok a
    refine ⟨[], hover.copies hseen out, fun _ => ?_⟩
    have hnone : ¬ ∃ text ∈ ([] : List String).getLast?,
        startsWith text (copyHeader true) = true := by simp
    rw [FailedLast, hover.failed, hfailed, ← hanswer]
    exact ⟨.inr, fun h => h.resolve_left hnone⟩

/-- The rounds of a loop are copies of its block. -/
theorem exists_copies (left : Nat) {r : LoopRun} (hr : r.failed = false) {a b : σ}
    (hseen : seen a = seen b) (out : String) :
    ∃ texts,
      Copies s seen block.condition items (block.run s.recording runBlock left r) a r.rounds b out
        texts ∧
      (texts.length < left → FailedLast s block.condition items
        (answered (block.run s.recording runBlock left r) a).failed b out texts) := by
  have hsim := simulates_appends s
  induction left generalizing r a b out with
  | zero =>
      exact ⟨[], copies_zero hs hlocal hr hseen out, fun hlt => absurd hlt (Nat.not_lt_zero _)⟩
  | succ left ih =>
      have hbehind : seen ((s.condition block.condition).run a).2 = seen b :=
        (hlocal a).trans hseen
      have hverdict : ((s.condition block.condition).run b).1 =
          ((s.condition block.condition).run a).1 :=
        ((hs.condition block.condition) hseen).1.symm
      have hagain : ∀ r, Appends (block.run s.recording runBlock left r) := fun r =>
        @Simulates.runLoop _ _ _ _ _ _ _ hsim block _ runBlock hblock left r
      have hf := @Simulates.goOn_some _ _ _ _ _ _ _ hsim block _ runBlock hblock _
        (block.run s.recording runBlock left) hagain r
      obtain ⟨hanswered, -, -⟩ := condition_bind s block.condition hf a
      obtain ⟨texts, hcopies, hfailed⟩ := copies_of_answer hs hblock hrepeats hagain hr hbehind
        hverdict out fun output out _ _ hseen =>
          ih (r := { r with output, rounds := r.rounds + 1 }) hr hseen out
      rw [run_succ, hanswered]
      exact ⟨texts, .of_condition hf hcopies, hfailed⟩

end

end LoopBlock

end

end Foldbook
