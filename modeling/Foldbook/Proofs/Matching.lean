import Foldbook.Proofs.Events

/-!
# Runs side by side

Two actions on the same services, run from states that agree in what the
services look at.

* `Services.LooksAt`: the answers of the services, and what they make of the
  state, depend on a part of it (`seen`) only, and noting an event leaves that
  part alone.  A log is what the other part is for.
* `Matches`: the actions ask the same questions, their answers are related, and
  the states behind them agree again.  `Matches.pure`, `Matches.bind` and
  `Matches.map` put such facts together.
* `simulates_matches`: whole runs of the same document match.
-/

namespace Foldbook

variable {σ τ : Type} {α β γ δ : Type}

/-- An action answers and leaves behind the same from states that look alike. -/
def LooksAt (seen : σ → τ) (x : StateM σ α) : Prop :=
  ∀ {a b : σ}, seen a = seen b →
    (x.run a).1 = (x.run b).1 ∧ seen (x.run a).2 = seen (x.run b).2

/-- The services look at a part of the state only, and notes are no part of it. -/
structure Services.LooksAt (seen : σ → τ) (s : Services (StateM σ)) : Prop where
  assign : ∀ line, Foldbook.LooksAt seen (s.assign line)
  send : ∀ request debug verbose, Foldbook.LooksAt seen (s.send request debug verbose)
  capture : ∀ name value, Foldbook.LooksAt seen (s.capture name value)
  condition : ∀ text, Foldbook.LooksAt seen (s.condition text)
  note : ∀ record state, seen ((s.note record).run state).2 = seen state

/-- From states that look alike two actions ask the same questions and get the same answers; what
they answer themselves is related, and the states behind them look alike. -/
def Matches (seen : σ → τ) (rel : α → β → Prop) (x : StateT (List Event) (StateM σ) α)
    (y : StateT (List Event) (StateM σ) β) : Prop :=
  ∀ (events : List Event) {a b : σ}, seen a = seen b →
    rel ((x.run events).run a).1.1 ((y.run events).run b).1.1 ∧
    ((x.run events).run a).1.2 = ((y.run events).run b).1.2 ∧
    seen ((x.run events).run a).2 = seen ((y.run events).run b).2

namespace Matches

variable {seen : σ → τ} {x : StateT (List Event) (StateM σ) α} {y : StateT (List Event) (StateM σ) β}

theorem pure {rel : α → β → Prop} {a : α} {b : β} (h : rel a b) :
    Matches seen rel (Pure.pure a) (Pure.pure b) :=
  fun _ _ _ hseen => ⟨h, rfl, hseen⟩

theorem mono {rel rel' : α → β → Prop} (h : Matches seen rel x y)
    (hrel : ∀ a b, rel a b → rel' a b) : Matches seen rel' x y := by
  intro events a b hseen
  obtain ⟨hanswer, hothers⟩ := h events hseen
  exact ⟨hrel _ _ hanswer, hothers⟩

theorem bind {rel : α → β → Prop} {next : γ → δ → Prop}
    {f : α → StateT (List Event) (StateM σ) γ} {g : β → StateT (List Event) (StateM σ) δ}
    (h : Matches seen rel x y) (hnext : ∀ a b, rel a b → Matches seen next (f a) (g b)) :
    Matches seen next (x >>= f) (y >>= g) := by
  intro events a b hseen
  obtain ⟨hanswer, hevents, hbehind⟩ := h events hseen
  have hx : ((x >>= f).run events).run a =
      ((f ((x.run events).run a).1.1).run ((x.run events).run a).1.2).run
        ((x.run events).run a).2 := rfl
  have hy : ((y >>= g).run events).run b =
      ((g ((y.run events).run b).1.1).run ((y.run events).run b).1.2).run
        ((y.run events).run b).2 := rfl
  rw [hx, hy, hevents]
  exact hnext _ _ hanswer _ hbehind

theorem map {rel : α → β → Prop} {rel' : γ → δ → Prop} {f : α → γ} {g : β → δ}
    (h : Matches seen rel x y) (hrel : ∀ a b, rel a b → rel' (f a) (g b)) :
    Matches seen rel' (f <$> x) (g <$> y) := by
  rw [map_eq_pure_bind, map_eq_pure_bind]
  exact h.bind fun a b hab => pure (hrel a b hab)

end Matches

section

variable {seen : σ → τ} {s : Services (StateM σ)}

/-- A question is answered alike, and the record of it is the same. -/
theorem matches_of_looksAt {x : StateM σ α} (hx : LooksAt seen x)
    {y : StateT (List Event) (StateM σ) α} {event : α → Event}
    (hy : ∀ events, y.run events = (fun answer => (answer, event answer :: events)) <$> x) :
    Matches seen Eq y y := by
  intro events a b hseen
  obtain ⟨hanswer, hbehind⟩ := hx hseen
  rw [hy]
  exact ⟨hanswer, congrArg (event · :: events) hanswer, hbehind⟩

/-- Notes of any content match. -/
theorem Services.LooksAt.matches_note (h : s.LooksAt seen) (record record' : LogRecord) :
    Matches seen (fun _ _ => True) (s.recording.note record) (s.recording.note record') := by
  intro events a b hseen
  rw [run_recording_note, run_recording_note]
  exact ⟨trivial, rfl, (h.note record a).trans (hseen.trans (h.note record' b).symm)⟩

/-- Every run of a document matches itself. -/
theorem Services.LooksAt.simulates_matches (h : s.LooksAt seen) :
    Simulates (fun x y => Matches seen Eq x y) s.recording s.recording where
  pure _ := Matches.pure rfl
  bind hxy hfg := hxy.bind fun _ _ hab => hab ▸ hfg _
  assign line := matches_of_looksAt (h.assign line) fun events => run_recording_assign s events line
  send request debug verbose := matches_of_looksAt (h.send request debug verbose) fun events =>
    run_recording_send s events request debug verbose
  capture name value := matches_of_looksAt (h.capture name value) fun events =>
    run_recording_capture s events name value
  condition text := matches_of_looksAt (h.condition text) fun events =>
    run_recording_condition s events text
  note record := (h.matches_note record record).mono fun _ _ _ => rfl
  rounds := rfl

end

end Foldbook
