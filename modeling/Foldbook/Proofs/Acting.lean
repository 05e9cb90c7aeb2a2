import Foldbook.Runner.Basic

/-!
# What an action ends with

`act.Ends r Q` says that the action, done on the runner `r`, ends with an
answer or a stop and leaves a runner, and that `Q` holds of the two.  The
rules below take an action apart, one for each way in which actions are put
together; they are equivalences, so that `simp` can follow an action from its
beginning to its ends.

`perform_bind` and the other equations compute an action whose parts are
known.
-/

namespace Foldbook.Act

variable {α β : Type} {r : Runner}

/-! ## Computing an action -/

section perform

variable (r : Runner)

@[simp] theorem perform_bind (act : Act α) (next : α → Act β) :
    (act >>= next).perform r =
      match act.perform r with
      | (.ok a, r) => (next a).perform r
      | (.error stop, r) => (.error stop, r) := by
  change ExceptT.bindCont next (act.run r).1 (act.run r).2 = _
  rw [perform]
  obtain ⟨result, done⟩ := act.run r
  cases result <;> rfl

@[simp] theorem perform_pure (a : α) : (pure a : Act α).perform r = (.ok a, r) := rfl

@[simp] theorem perform_get : (get : Act Runner).perform r = (.ok r, r) := rfl

@[simp] theorem perform_set (next : Runner) :
    (set next : Act PUnit).perform r = (.ok ⟨⟩, next) := rfl

@[simp] theorem perform_note (record : LogRecord) :
    (note record).perform r = (.ok (), { r with log := r.log.add record }) := rfl

@[simp] theorem perform_ofExcept (answer : Except Failure α) :
    (ofExcept answer).perform r = (answer.mapError .failure, r) := by
  cases answer <;> rfl

end perform

/-! ## Following an action -/

/-- The action, done on the runner, ends with an answer and a runner that satisfy `Q`. -/
def Ends (act : Act α) (r : Runner) (Q : Except Stop α → Runner → Prop) : Prop :=
  Q (act.perform r).1 (act.perform r).2

variable {Q : Except Stop α → Runner → Prop}

theorem Ends.mono {act : Act α} {Q' : Except Stop α → Runner → Prop} (h : act.Ends r Q)
    (hQ : ∀ answer behind, Q answer behind → Q' answer behind) : act.Ends r Q' :=
  hQ _ _ h

@[simp] theorem ends_pure (a : α) : (pure a : Act α).Ends r Q ↔ Q (.ok a) r := Iff.rfl

@[simp] theorem ends_throw (stop : Stop) : (throw stop : Act α).Ends r Q ↔ Q (.error stop) r :=
  Iff.rfl

@[simp] theorem ends_fail (f : Failure) : (fail f : Act α).Ends r Q ↔ Q (.error (.failure f)) r :=
  Iff.rfl

@[simp] theorem ends_ofExcept (answer : Except Failure α) :
    (ofExcept answer).Ends r Q ↔ Q (answer.mapError .failure) r := by
  cases answer <;> rfl

@[simp] theorem ends_get {Q : Except Stop Runner → Runner → Prop} :
    (get : Act Runner).Ends r Q ↔ Q (.ok r) r := Iff.rfl

section

variable {Q : Except Stop PUnit → Runner → Prop}

@[simp] theorem ends_set (next : Runner) : (set next : Act PUnit).Ends r Q ↔ Q (.ok ⟨⟩) next :=
  Iff.rfl

@[simp] theorem ends_modify (change : Runner → Runner) :
    (modify change : Act PUnit).Ends r Q ↔ Q (.ok ⟨⟩) (change r) := Iff.rfl

@[simp] theorem ends_note (record : LogRecord) :
    (note record).Ends r Q ↔ Q (.ok ()) { r with log := r.log.add record } := Iff.rfl

end

@[simp] theorem ends_bind {act : Act α} {next : α → Act β} {Q : Except Stop β → Runner → Prop} :
    (act >>= next).Ends r Q ↔ act.Ends r fun
      | .ok a, behind => (next a).Ends behind Q
      | .error stop, behind => Q (.error stop) behind := by
  rw [Ends, Ends, perform_bind]
  obtain ⟨answer, behind⟩ := act.perform r
  cases answer <;> rfl

/-- An action whose parts are known by what they end with. -/
theorem Ends.bind {act : Act α} {next : α → Act β} {Q : Except Stop β → Runner → Prop}
    {P : Except Stop α → Runner → Prop} (h : act.Ends r P)
    (hnext : ∀ a behind, P (.ok a) behind → (next a).Ends behind Q)
    (hstop : ∀ stop behind, P (.error stop) behind → Q (.error stop) behind) :
    (act >>= next).Ends r Q := by
  rw [ends_bind]
  refine h.mono fun answer behind hP => ?_
  cases answer with
  | ok a => exact hnext a behind hP
  | error stop => exact hstop stop behind hP

@[simp] theorem ends_map {act : Act α} {f : α → β} {Q : Except Stop β → Runner → Prop} :
    (f <$> act).Ends r Q ↔ act.Ends r fun
      | .ok a, behind => Q (.ok (f a)) behind
      | .error stop, behind => Q (.error stop) behind := by
  rw [map_eq_pure_bind, ends_bind]
  rfl

/-- What holds of the runner holds whatever the answer. -/
theorem Ends.behind_map {act : Act α} {P : Runner → Prop} (h : act.Ends r fun _ behind => P behind)
    (f : α → β) : (f <$> act).Ends r fun _ behind => P behind := by
  rw [ends_map]
  refine h.mono fun answer behind hP => ?_
  cases answer <;> exact hP

@[simp] theorem ends_tryCatch {act : Act α} {handler : Stop → Act α} :
    (tryCatch act handler).Ends r Q ↔ act.Ends r fun
      | .ok a, behind => Q (.ok a) behind
      | .error stop, behind => (handler stop).Ends behind Q := by
  have hcatch : (tryCatch act handler).perform r =
      match act.perform r with
      | (.ok a, behind) => (.ok a, behind)
      | (.error stop, behind) => (handler stop).perform behind := by
    change (ExceptT.tryCatch act handler).run.run r = _
    rw [ExceptT.tryCatch, ExceptT.run_mk, StateT.run_bind]
    change (act.perform r >>= _ : Id _) = _
    obtain ⟨answer, behind⟩ := act.perform r
    cases answer <;> rfl
  rw [Ends, Ends, hcatch]
  obtain ⟨answer, behind⟩ := act.perform r
  cases answer <;> rfl

@[simp] theorem ends_attempt {act : Act α} {Q : Except Stop (Except Failure α) → Runner → Prop} :
    (attempt act).Ends r Q ↔ act.Ends r fun
      | .ok a, behind => Q (.ok (.ok a)) behind
      | .error (.failure f), behind => Q (.ok (.error f)) behind
      | .error stop, behind => Q (.error stop) behind := by
  change Q (attempt act r).1 (attempt act r).2 ↔ _
  rw [Ends, attempt, show act r = act.perform r from rfl]
  obtain ⟨answer, behind⟩ := act.perform r
  cases answer with
  | ok a => rfl
  | error stop => cases stop <;> rfl

end Foldbook.Act
