import Foldbook.Proofs.Order

/-!
# What an action asks and what it answers

`Asks P x` is about an action on recording services: the events that `x`
adds to the record and its answer satisfy `P`, in any monad below.  It goes
through an action step by step like `Yields` does (`Asks.pure`, `Asks.bind`),
with the events of the steps one behind the other.

`Asks.run` reads it off a run in a state monad, and `Asks.yields` forgets
the record.
-/

namespace Foldbook

variable {m : Type → Type} [Monad m] {α β : Type}

/-- Whatever was recorded before, the action adds events to the record, the last one first, that
satisfy `P` together with its answer. -/
structure Asks (P : List Event → α → Prop) (x : StateT (List Event) m α) : Prop where
  run_yields : ∀ before, Yields
    (fun answer => ∃ events, answer.2 = events.reverse ++ before ∧ P events answer.1)
    (x.run before)

namespace Asks

theorem mono {P Q : List Event → α → Prop} {x : StateT (List Event) m α} (h : Asks P x)
    (hPQ : ∀ events a, P events a → Q events a) : Asks Q x := by
  constructor
  intro before
  refine (h.run_yields before).mono fun answer hanswer => ?_
  obtain ⟨events, hrecord, hP⟩ := hanswer
  exact ⟨events, hrecord, hPQ _ _ hP⟩

variable [LawfulMonad m]

theorem pure {P : List Event → α → Prop} {a : α} (h : P [] a) :
    Asks P (Pure.pure a : StateT (List Event) m α) := by
  constructor
  intro before
  rw [StateT.run_pure]
  exact Yields.pure ⟨[], rfl, h⟩

/-- The events of the first action come before those of the second one. -/
theorem bind {P : List Event → α → Prop} {Q : List Event → β → Prop}
    {x : StateT (List Event) m α} {f : α → StateT (List Event) m β} (hx : Asks P x)
    (hf : ∀ events a, P events a → Asks (fun later b => Q (events ++ later) b) (f a)) :
    Asks Q (x >>= f) := by
  constructor
  intro before
  rw [StateT.run_bind]
  refine (hx.run_yields before).bind fun answer hanswer => ?_
  obtain ⟨events, hrecord, hP⟩ := hanswer
  refine ((hf events answer.1 hP).run_yields answer.2).mono fun last hlast => ?_
  obtain ⟨later, hlater, hQ⟩ := hlast
  refine ⟨events ++ later, ?_, hQ⟩
  rw [hlater, hrecord, List.reverse_append, List.append_assoc]

/-- What is asked and answered, without the record. -/
theorem yields {P : List Event → α → Prop} {x : StateT (List Event) m α} (h : Asks P x) :
    Yields (fun a => ∃ events, P events a) (Prod.fst <$> x.run []) :=
  (h.run_yields []).map fun _ ⟨events, _, hP⟩ => ⟨events, hP⟩

variable (s : Services m)

theorem assign (line : String) :
    Asks (fun events answer => events = [.assigned line answer]) (s.recording.assign line) := by
  constructor
  intro before
  rw [run_recording_assign]
  exact (Yields.trivial (s.assign line)).map fun answer _ => ⟨_, rfl, rfl⟩

theorem send (request : Request) (debug verbose : Bool) :
    Asks (fun events answer => events = [.sent request debug verbose answer])
      (s.recording.send request debug verbose) := by
  constructor
  intro before
  rw [run_recording_send]
  exact (Yields.trivial (s.send request debug verbose)).map fun answer _ => ⟨_, rfl, rfl⟩

theorem capture (name : String) (value : Json) :
    Asks (fun events answer => events = [.captured name value answer])
      (s.recording.capture name value) := by
  constructor
  intro before
  rw [run_recording_capture]
  exact (Yields.trivial (s.capture name value)).map fun answer _ => ⟨_, rfl, rfl⟩

theorem note (entry : LogRecord) :
    Asks (fun events _ => events = []) (s.recording.note entry) := by
  constructor
  intro before
  rw [run_recording_note]
  exact (Yields.trivial (s.note entry)).map fun _ _ => ⟨[], rfl, rfl⟩

end Asks

/-- In a state monad every run asks and answers what the action does. -/
theorem Asks.run {σ : Type} {P : List Event → α → Prop} {x : StateT (List Event) (StateM σ) α}
    (h : Asks P x) (state : σ) : P (asked x state) (answered x state) := by
  obtain ⟨events, hrecord, hP⟩ := (h.run_yields []).run state
  rw [asked, hrecord, List.append_nil, List.reverse_reverse]
  exact hP

end Foldbook
