import Foldbook.Proofs.Simulation
import Foldbook.Proofs.Yields

/-!
# The record of a run

`Services.recording` keeps a record of what the services were asked and what
they answered, the last event first.  Keeping it changes nothing else:
`map_fst_runLines_recording` gives the run without the record back.

`Event.texts` lists the texts that the events put into the results of folds.
A reply that could not be kept in its variable is not put there; the failure
stands in its place.
-/

namespace Foldbook

/-- One question to the services, with the answer. -/
inductive Event where
  | assigned (line : String) (answer : Except Failure String)
  | sent (request : Request) (debug verbose : Bool) (answer : Except Failure Reply)
  | captured (name : String) (value : Json) (answer : Except Failure Unit)
  | decided (condition : String) (answer : Except Failure String)

namespace Event

/-- The texts for the results of folds in a record, the last event first. -/
def texts : List Event → List String
  | [] => []
  | .assigned _ (.ok text) :: earlier => text :: texts earlier
  | .assigned _ (.error e) :: earlier => e.message :: texts earlier
  | .captured _ _ (.error e) :: .sent _ _ _ (.ok _) :: earlier => e.message :: texts earlier
  | .captured _ _ _ :: earlier => texts earlier
  | .sent _ _ _ (.ok reply) :: earlier => reply.text :: texts earlier
  | .sent _ _ _ (.error e) :: earlier => e.message :: texts earlier
  | .decided _ (.error e) :: earlier => e.message :: texts earlier
  | .decided _ (.ok _) :: earlier => texts earlier

end Event

variable {m : Type → Type} [Monad m]

/-- Adds an event to the record. -/
def record (event : Event) : StateT (List Event) m Unit :=
  modify (event :: ·)

/-- Services that keep a record of what they are asked and what they answer. -/
def Services.recording (s : Services m) : Services (StateT (List Event) m) where
  assign line := do
    let answer ← s.assign line
    record (.assigned line answer)
    pure answer
  send request debug verbose := do
    let answer ← s.send request debug verbose
    record (.sent request debug verbose answer)
    pure answer
  capture name value := do
    let answer ← s.capture name value
    record (.captured name value answer)
    pure answer
  condition text := do
    let answer ← s.condition text
    record (.decided text answer)
    pure answer
  note entry := s.note entry
  rounds := s.rounds

@[simp] theorem run_record (event : Event) (events : List Event) :
    (record event : StateT (List Event) m Unit).run events = pure ((), event :: events) := rfl

section Run

variable [LawfulMonad m] (s : Services m) (events : List Event)

@[simp] theorem run_recording_assign (line : String) :
    (s.recording.assign line).run events =
      (fun answer => (answer, .assigned line answer :: events)) <$> s.assign line := by
  simp [Services.recording]

@[simp] theorem run_recording_send (request : Request) (debug verbose : Bool) :
    (s.recording.send request debug verbose).run events =
      (fun answer => (answer, .sent request debug verbose answer :: events)) <$>
        s.send request debug verbose := by
  simp [Services.recording]

@[simp] theorem run_recording_capture (name : String) (value : Json) :
    (s.recording.capture name value).run events =
      (fun answer => (answer, .captured name value answer :: events)) <$> s.capture name value := by
  simp [Services.recording]

@[simp] theorem run_recording_condition (text : String) :
    (s.recording.condition text).run events =
      (fun answer => (answer, .decided text answer :: events)) <$> s.condition text := by
  simp [Services.recording]

@[simp] theorem run_recording_note (entry : LogRecord) :
    (s.recording.note entry).run events = (fun answer => (answer, events)) <$> s.note entry := by
  simp [Services.recording]

end Run

theorem run_bind_state {σ α β : Type} (x : StateM σ α) (f : α → StateM σ β) (state : σ) :
    (x >>= f).run state = (f (x.run state).1).run (x.run state).2 := rfl

/-- Without its record, every action does what the plain one does. -/
theorem simulates_recording [LawfulMonad m] (s : Services m) :
    Simulates (fun x y => ∀ events, Prod.fst <$> x.run events = y) s.recording s where
  pure a events := by simp
  bind hxy hfg events := by
    rw [StateT.run_bind, map_bind, ← hxy events, bind_map_left]
    exact bind_congr fun answer => hfg answer.1 answer.2
  assign line events := by simp
  send request debug verbose events := by simp
  capture name value events := by simp
  condition text events := by simp
  note entry events := by simp
  rounds := rfl

/-- Keeping a record changes nothing in the run of a document. -/
theorem map_fst_runLines_recording [LawfulMonad m] (s : Services m) (lines : List String)
    (plainFirst : Bool) (events : List Event) :
    Prod.fst <$> (Document.runLines s.recording lines plainFirst).run events =
      Document.runLines s lines plainFirst :=
  (simulates_recording s).runLines lines plainFirst events

/-- Services that answer everything with nothing and stop every loop. -/
def silentServices : Services (StateM Unit) where
  assign _ := pure (.ok "")
  send _ _ _ := pure (.ok { text := "", value := .null })
  capture _ _ := pure (.ok ())
  condition _ := pure (.ok "false")
  note _ := pure ()
  rounds := 0

end Foldbook
