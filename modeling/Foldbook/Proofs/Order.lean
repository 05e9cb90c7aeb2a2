import Foldbook.Proofs.Events
import Foldbook.Proofs.Position

/-!
# When the request of an open fold is sent

A fold whose request is still to be sent can open another fold or a loop
inside of it.

* `asked` is what an action asks the services, in order.  What is asked
  does not depend on the record before it, so the questions of two actions
  in a row are those of the one and then those of the other (`asked_bind`).
* `issued_first_iff`: the request is sent before anything else is asked for
  what opens, if that is a fold.  For a loop its condition is filled in
  first, and the request is sent when the whole loop is over.  This is said
  of documents and of the blocks of loops: a loop runs the items of its
  block as a document runs its own (`Item.ofLines_block`).
-/

namespace Foldbook

variable {σ : Type} {α β : Type}

/-! ## What an action asks -/

/-- What the action asks the services in a run from a state, with the answers, in order. -/
def asked (x : StateT (List Event) (StateM σ) α) (state : σ) : List Event :=
  ((x.run []).run state).1.2.reverse

/-- What the action answers in a run from a state. -/
def answered (x : StateT (List Event) (StateM σ) α) (state : σ) : α := ((x.run []).run state).1.1

/-- The state behind a run of the action. -/
def stateBehind (x : StateT (List Event) (StateM σ) α) (state : σ) : σ := ((x.run []).run state).2

/-- The action adds to the record and does not look at it. -/
def Appends (x : StateT (List Event) (StateM σ) α) : Prop :=
  ∀ events state, (x.run events).run state =
    ((answered x state, (asked x state).reverse ++ events), stateBehind x state)

theorem Appends.pure (a : α) : Appends (Pure.pure a : StateT (List Event) (StateM σ) α) :=
  fun _ _ => rfl

section Bind

variable {x : StateT (List Event) (StateM σ) α} {f : α → StateT (List Event) (StateM σ) β}

/-- One action behind another. -/
theorem run_bind_of_appends (hf : ∀ a, Appends (f a)) (hx : Appends x) (events : List Event)
    (state : σ) : ((x >>= f).run events).run state =
      ((answered (f (answered x state)) (stateBehind x state),
        (asked (f (answered x state)) (stateBehind x state)).reverse ++
          ((asked x state).reverse ++ events)),
        stateBehind (f (answered x state)) (stateBehind x state)) := by
  have hstep : ((x >>= f).run events).run state =
      ((f ((x.run events).run state).1.1).run ((x.run events).run state).1.2).run
        ((x.run events).run state).2 := rfl
  rw [hstep, hx events state, hf]

theorem asked_bind (hf : ∀ a, Appends (f a)) (hx : Appends x) (state : σ) :
    asked (x >>= f) state =
      asked x state ++ asked (f (answered x state)) (stateBehind x state) := by
  rw [asked, run_bind_of_appends hf hx]
  simp

theorem answered_bind (hf : ∀ a, Appends (f a)) (hx : Appends x) (state : σ) :
    answered (x >>= f) state = answered (f (answered x state)) (stateBehind x state) := by
  rw [answered, run_bind_of_appends hf hx]

theorem stateBehind_bind (hf : ∀ a, Appends (f a)) (hx : Appends x) (state : σ) :
    stateBehind (x >>= f) state = stateBehind (f (answered x state)) (stateBehind x state) := by
  rw [stateBehind, run_bind_of_appends hf hx]

theorem Appends.bind (hx : Appends x) (hf : ∀ a, Appends (f a)) : Appends (x >>= f) := by
  intro events state
  rw [run_bind_of_appends hf hx, answered_bind hf hx, asked_bind hf hx, stateBehind_bind hf hx,
    List.reverse_append, List.append_assoc]

end Bind

/-- Nothing that the interpreter does looks at the record. -/
theorem simulates_appends (s : Services (StateM σ)) :
    Simulates (fun x _ => Appends x) s.recording s.recording where
  pure a := Appends.pure a
  bind hx hf := Appends.bind hx hf
  assign _ _ _ := rfl
  send _ _ _ _ _ := rfl
  capture _ _ _ _ := rfl
  condition _ _ _ := rfl
  note _ _ _ := rfl
  rounds := rfl

/-! ## Sending a request -/

/-- The events of sending the request of a fold and of keeping the response. -/
inductive Fold.Issued (f : Fold) : List Event → Prop
  | failed (e : Failure) : Issued f [.sent f.request f.debug f.verbose (.error e)]
  | shown (reply : Reply) (hname : f.captureName.isEmpty = true) :
      Issued f [.sent f.request f.debug f.verbose (.ok reply)]
  | kept (reply : Reply) (answer : Except Failure Unit) (hname : f.captureName.isEmpty = false) :
      Issued f [.sent f.request f.debug f.verbose (.ok reply),
        .captured f.captureName reply.value answer]

section

variable (s : Services (StateM σ)) {fold : Fold}

theorem issued_issue (fold : Fold) (state : σ) :
    fold.Issued (asked (fold.issue s.recording) state) := by
  unfold asked Fold.issue
  dsimp only
  rw [StateT.run_bind, run_recording_send, bind_map_left, run_bind_state]
  generalize (s.send { fold with sent := true }.request fold.debug fold.verbose).run state = sent
  obtain ⟨e | reply, state⟩ := sent
  · exact .failed e
  · dsimp only
    by_cases hname : fold.captureName.isEmpty = true
    · rw [if_pos hname]
      exact .shown reply hname
    · rw [if_neg hname, StateT.run_bind, run_recording_capture, bind_map_left, run_bind_state]
      rw [Bool.not_eq_true] at hname
      generalize (s.capture fold.captureName reply.value).run state = kept
      obtain ⟨answer, state⟩ := kept
      cases answer with
      | error e => exact .kept reply (.error e) hname
      | ok done => exact .kept reply (.ok done) hname

variable (hpending : fold.pending = true)

include hpending

theorem asked_issuePending (state : σ) :
    asked (fold.issuePending s.recording) state = asked (fold.issue s.recording) state := by
  unfold Fold.issuePending
  rw [if_pos hpending]

/-- A fold that opens inside of another one has the request of that one sent first. -/
theorem asked_openFold (out : String) (outer : List Fold) (start : Marker.Start) (state : σ) :
    asked (Progress.openFold s.recording { out, stack := fold :: outer } start) state =
      asked (fold.issue s.recording) state := by
  have hs := simulates_appends s
  unfold Progress.openFold
  rw [asked_bind (fun around => (hs.pure _).bind fun p => (hs.note _).bind fun _ => hs.pure _)
    (hs.issuePending fold), asked_issuePending s hpending]
  exact List.append_nil _

/-- A loop that has been run inside of a fold has the request of the fold sent behind it. -/
theorem asked_takeLoop (out : String) (outer : List Fold) (r : LoopRun) (state : σ) :
    asked (Progress.takeLoop s.recording { out, stack := fold :: outer } r) state =
      asked (fold.issue s.recording) state := by
  have hs := simulates_appends s
  unfold Progress.takeLoop
  rw [asked_bind (fun around => hs.pure _) (hs.issuePending fold), asked_issuePending s hpending]
  exact List.append_nil _

end

/-- The first question of a loop is for its condition. -/
theorem asked_runLoop (s : Services (StateM σ)) (block : LoopBlock)
    {runBlock : StateT (List Event) (StateM σ) String} (hblock : Appends runBlock) (left : Nat)
    (r : LoopRun) (state : σ) :
    ∃ verdict rest, asked (block.run s.recording runBlock left r) state =
      .decided block.condition verdict :: rest := by
  have hs := simulates_appends s
  cases left with
  | zero =>
      rw [LoopBlock.run_zero, asked_bind (hs.goOn_none block runBlock runBlock r) (hs.condition _)]
      exact ⟨_, _, rfl⟩
  | succ left =>
      have hagain : ∀ r, Appends (block.run s.recording runBlock left r) := fun r =>
        @Simulates.runLoop _ _ _ _ _ _ _ hs block _ runBlock hblock left r
      have hnext := @Simulates.goOn_some _ _ _ _ _ _ _ hs block _ runBlock hblock _
        (block.run s.recording runBlock left) hagain r
      rw [LoopBlock.run_succ, asked_bind hnext (hs.condition _)]
      exact ⟨_, _, rfl⟩

/-! ## What opens inside of a fold -/

/-- The item opens a fold or a loop. -/
def Item.opens : Item → Bool
  | .line text => (Marker.start? text).isSome
  | .loop _ _ => true

/-- The item is a loop. -/
def Item.isLoop : Item → Bool
  | .line _ => false
  | .loop _ _ => true

/-- The loop of an item, run from its first round. -/
def LoopBlock.runItems {m : Type → Type} [Monad m] (s : Services m) (block : LoopBlock)
    (inside : List Item) : m LoopRun :=
  block.run s (Document.runItems s inside) s.rounds {}

section

variable (s : Services (StateM σ)) {plainFirst : Bool} {lines : List String}
  {before after : List Item} {item : Item}

/-- The questions of a document up to an item, those of the item, and those behind it. -/
theorem asked_runLines (hitems : Item.ofLines plainFirst lines = before ++ item :: after)
    (state : σ) :
    ∃ later, asked (Document.runLines s.recording lines plainFirst) state =
      asked (Item.runAll s.recording {} before) state ++
        (asked (item.run s.recording (answered (Item.runAll s.recording {} before) state))
          (stateBehind (Item.runAll s.recording {} before) state) ++ later) := by
  have hs := simulates_appends s
  have hsplit : Document.runLines s.recording lines plainFirst =
      Item.runAll s.recording {} before >>= fun p => item.run s.recording p >>= fun p =>
        Item.runAll s.recording p after >>= fun p => p.finish s.recording := by
    rw [Document.runLines, hitems, Document.runItems, Item.runAll_append, bind_assoc]
    refine bind_congr fun p => ?_
    rw [Item.runAll, bind_assoc]
  have hlater : ∀ p, Appends (Item.runAll s.recording p after >>= fun p => p.finish s.recording) :=
    fun p => (hs.runAll p after).bind hs.finish
  rw [hsplit, asked_bind (fun p => (hs.runItem p item).bind hlater) (hs.runAll {} before),
    asked_bind hlater (hs.runItem _ item)]
  exact ⟨_, rfl⟩

/-- A start line has the request of the open fold sent before all other questions. -/
theorem asked_run_line {p : Progress} {fold : Fold} {outer : List Fold}
    (hstack : p.stack = fold :: outer) (hpending : fold.pending = true) {text : String}
    (hstart : (Marker.start? text).isSome = true) (state : σ) :
    asked (Item.run s.recording p (.line text)) state = asked (fold.issue s.recording) state := by
  obtain ⟨out, stack⟩ := p
  obtain ⟨start, hsome⟩ := Option.isSome_iff_exists.mp hstart
  dsimp only at hstack
  subst hstack
  unfold Item.run Progress.readLine
  rw [hsome]
  exact asked_openFold s hpending out outer start state

/-- A loop has it sent when the loop is over. -/
theorem asked_run_loop {p : Progress} {fold : Fold} {outer : List Fold}
    (hstack : p.stack = fold :: outer) (hpending : fold.pending = true) (block : LoopBlock)
    (inside : List Item) (state : σ) :
    ∃ behind, asked (Item.run s.recording p (.loop block inside)) state =
      asked (block.runItems s.recording inside) state ++ asked (fold.issue s.recording) behind := by
  have hs := simulates_appends s
  have hblock : Appends (Document.runItems s.recording inside) :=
    (hs.runAll {} inside).bind hs.finish
  have hloop : Appends (block.runItems s.recording inside) :=
    @Simulates.runLoop _ _ _ _ _ _ _ hs block _ (Document.runItems s.recording inside) hblock _ {}
  have hrun : Item.run s.recording p (.loop block inside) =
      block.runItems s.recording inside >>= fun r => p.takeLoop s.recording r := by
    rw [Item.run]
    rfl
  obtain ⟨out, stack⟩ := p
  dsimp only at hstack
  subst hstack
  rw [hrun, asked_bind (fun r => hs.takeLoop _ r) hloop, asked_takeLoop s hpending]
  exact ⟨_, rfl⟩

theorem asked_runItems (block : LoopBlock) (inside : List Item) (state : σ) :
    ∃ verdict rest, asked (block.runItems s.recording inside) state =
      .decided block.condition verdict :: rest := by
  have hs := simulates_appends s
  exact asked_runLoop s block ((hs.runAll {} inside).bind hs.finish) _ {} state

/-- A loop that opens inside of a fold is run as a whole, beginning with its condition, before the
request of the fold is sent. -/
theorem asked_runLines_loop {block : LoopBlock} {inside : List Item}
    (hitems : Item.ofLines plainFirst lines = before ++ .loop block inside :: after) (state : σ)
    {fold : Fold} {outer : List Fold}
    (hstack : (answered (Item.runAll s.recording {} before) state).stack = fold :: outer)
    (hpending : fold.pending = true) :
    ∃ verdict rest issued later,
      asked (block.runItems s.recording inside)
          (stateBehind (Item.runAll s.recording {} before) state) =
        .decided block.condition verdict :: rest ∧
      fold.Issued issued ∧
      asked (Document.runLines s.recording lines plainFirst) state =
        asked (Item.runAll s.recording {} before) state ++
          (.decided block.condition verdict :: rest ++ issued ++ later) := by
  obtain ⟨later, hasked⟩ := asked_runLines s hitems state
  obtain ⟨verdict, rest, hdecided⟩ := asked_runItems s block inside
    (stateBehind (Item.runAll s.recording {} before) state)
  obtain ⟨behind, hitem⟩ := asked_run_loop s hstack hpending block inside
    (stateBehind (Item.runAll s.recording {} before) state)
  refine ⟨verdict, rest, _, later, hdecided, issued_issue s fold behind, ?_⟩
  rw [hasked, hitem, hdecided]

/-- Let a document, or the block of a loop, come to an item that opens something while a fold is
open whose request is still to be sent.  The next questions are those of sending it exactly if the
item is no loop.  A loop is run as a whole first, beginning with its condition. -/
theorem issued_first_iff (hitems : Item.ofLines plainFirst lines = before ++ item :: after)
    (hopens : item.opens = true) (state : σ) {fold : Fold} {outer : List Fold}
    (hstack : (answered (Item.runAll s.recording {} before) state).stack = fold :: outer)
    (hpending : fold.pending = true) :
    ((∃ issued later, fold.Issued issued ∧
        asked (Document.runLines s.recording lines plainFirst) state =
          asked (Item.runAll s.recording {} before) state ++ (issued ++ later)) ↔
      item.isLoop = false) ∧
    ∀ block inside, item = .loop block inside →
      ∃ verdict rest issued later,
        asked (block.runItems s.recording inside)
            (stateBehind (Item.runAll s.recording {} before) state) =
          .decided block.condition verdict :: rest ∧
        fold.Issued issued ∧
        asked (Document.runLines s.recording lines plainFirst) state =
          asked (Item.runAll s.recording {} before) state ++
            (.decided block.condition verdict :: rest ++ issued ++ later) := by
  constructor
  · cases item with
    | line text =>
        obtain ⟨later, hasked⟩ := asked_runLines s hitems state
        rw [asked_run_line s hstack hpending hopens] at hasked
        exact iff_of_true ⟨_, later, issued_issue s fold _, hasked⟩ rfl
    | loop block inside =>
        refine iff_of_false ?_ (by simp [Item.isLoop])
        rintro ⟨issued, others, hissued, hfirst⟩
        obtain ⟨verdict, rest, _, _, -, -, hwhole⟩ :=
          asked_runLines_loop s hitems state hstack hpending
        rw [hfirst, List.append_right_inj] at hwhole
        cases hissued <;> simp at hwhole
  · rintro block inside rfl
    exact asked_runLines_loop s hitems state hstack hpending

/-- A fold with a request and a loop behind it. -/
def loopInFold : List String := ["###\x7b", "GET a", "###\x7b while c", "###\x7d endwhile"]

theorem request_behind_loop :
    ∃ before block inside fold,
      Item.ofLines false loopInFold = before ++ [.loop block inside] ∧
      (answered (Item.runAll silentServices.recording {} before) ()).stack = [fold] ∧
      fold.pending = true ∧
      ¬∃ issued later, fold.Issued issued ∧
        asked (Document.runLines silentServices.recording loopInFold) () =
          asked (Item.runAll silentServices.recording {} before) () ++ (issued ++ later) := by
  have hitems : Item.ofLines false loopInFold = [.line "###\x7b", .line "GET a"] ++
      [.loop ⟨"c", "###\x7b while c", ["###\x7d endwhile"]⟩
        [.line "###\x7b while c", .line "###\x7d endwhile"]] := by
    rw [loopInFold, Item.ofLines_plain _ _ (by decide), Item.ofLines_plain _ _ (by decide),
      Item.ofLines_loop _ (by decide)]
    simp only [show LoopBlock.collect (Text.trimEnd "###\x7b while c") ["###\x7d endwhile"] =
      (⟨"c", "###\x7b while c", ["###\x7d endwhile"]⟩, []) by decide]
    rw [Item.ofLines_plain _ _ (by decide), Item.ofLines]
    rfl
  refine ⟨[.line "###\x7b", .line "GET a"], _, _, _, hitems, rfl, by decide, ?_⟩
  intro hfirst
  exact absurd ((issued_first_iff silentServices hitems rfl () rfl (by decide)).1.mp hfirst)
    (by decide)

end

end Foldbook
