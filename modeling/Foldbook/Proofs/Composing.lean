import Foldbook.Proofs.Acting
import Foldbook.Proofs.Simulation
import Foldbook.Runner.Documents

/-!
# What holds of all that a runner does

What a runner is asked to do is put together from a few actions, of which
three reach outside of it: asking for a variable of the process, running the
client program, and setting a variable of the environment.  A property of
actions that is kept by putting them together (`Act.Composes`) holds of
everything else as soon as it holds of these: of substituting
(`Composes.settle`), assigning (`Composes.define`) and sending
(`Composes.send`), and so of the services of documents
(`Composes.simulates`).
-/

namespace Foldbook.Act

/-- `R fails` is a property of actions that is kept by putting actions together.  An action that may
end with a failure only has `R True`. -/
structure Composes (R : Prop → ∀ {α : Type}, Act α → Prop) : Prop where
  pure : ∀ {fails : Prop} {α : Type} (a : α), R fails (Pure.pure a : Act α)
  get : ∀ {fails : Prop}, R fails (MonadState.get : Act Runner)
  note : ∀ {fails : Prop} (record : LogRecord), R fails (note record)
  fail : ∀ {α : Type} (f : Failure), R True (fail f : Act α)
  mono : ∀ {fails : Prop} {α : Type} {act : Act α}, R False act → R fails act
  bind : ∀ {fails : Prop} {α β : Type} {act : Act α} {next : α → Act β}, R fails act →
    (∀ a, R fails (next a)) → R fails (act >>= next)
  attempt : ∀ {α : Type} {act : Act α}, R True act → R False (attempt act)

namespace Composes

variable {R : Prop → ∀ {α : Type}, Act α → Prop} {fails : Prop} {α β : Type}

theorem ofExcept (h : Composes R) (answer : Except Failure α) : R True (ofExcept answer) := by
  cases answer with
  | ok a => exact h.pure a
  | error f => exact h.fail f

theorem mapM (h : Composes R) {f : α → Act β} (hf : ∀ a, R fails (f a)) (as : List α) :
    R fails (as.mapM f) := by
  induction as with
  | nil => exact h.pure []
  | cons a as ih =>
    rw [List.mapM_cons]
    exact h.bind (hf a) fun b => h.bind ih fun bs => h.pure (b :: bs)

/-! ## Substitution -/

section

variable {resolve : String → Act (Except Failure Json)}

theorem fill (h : Composes R) (hresolve : ∀ selector, R fails (resolve selector))
    (ps : List Template.Part) : R fails (Template.fill resolve ps) := by
  induction ps with
  | nil => exact h.pure _
  | cons part ps ih =>
    cases part with
    | char c =>
      refine h.bind ih fun rest => ?_
      cases rest <;> exact h.pure _
    | span selector =>
      refine h.bind (hresolve _) fun value => ?_
      cases value with
      | error e => exact h.pure _
      | ok value =>
        refine h.bind ih fun rest => ?_
        cases rest <;> exact h.pure _

theorem settleFrom (h : Composes R) (hresolve : ∀ selector, R fails (resolve selector))
    (left passes : Nat) (cs : List Char) :
    R fails (Template.settleFrom resolve passes left cs) := by
  induction left generalizing passes cs with
  | zero =>
    rw [Template.settleFrom.eq_def]
    dsimp only
    split <;> exact h.pure _
  | succ left ih =>
    rw [Template.settleFrom.eq_def]
    dsimp only
    split
    · exact h.pure _
    · refine h.bind (h.fill hresolve _) fun filled => ?_
      cases filled with
      | error e => exact h.pure _
      | ok cs => exact ih _ cs

end

section

variable (hvariable : ∀ selector name, R True (processVariable selector name))

include hvariable

theorem resolve (h : Composes R) (selector : String) : R True (resolve selector) := by
  unfold Act.resolve
  split
  · exact hvariable _ _
  · exact h.bind h.get fun r => h.ofExcept _

theorem settle (h : Composes R) (text : String) : R True (settle text) := by
  have hresolve := fun selector => h.attempt (h.resolve hvariable selector)
  refine h.bind h.get fun r => ?_
  refine h.bind (h.mono (h.settleFrom hresolve _ _ _)) fun settled => ?_
  refine h.bind (h.ofExcept settled) fun settled => ?_
  dsimp only
  split
  · exact h.bind (h.note _) fun _ => h.pure _
  · exact h.pure _

/-! ## Requests -/

theorem requestArguments (h : Composes R) (request : Request) (verbose : Bool) :
    R True (requestArguments request verbose) := by
  refine h.bind ?_ fun request => h.pure _
  refine h.bind (h.settle hvariable _) fun url => ?_
  refine h.bind (h.mapM (fun header => ?_) _) fun headers => ?_
  · exact h.bind (h.settle hvariable header) fun _ => h.pure _
  refine h.bind (h.mapM (h.settle hvariable) _) fun forms => ?_
  cases request.body with
  | none => exact h.pure _
  | some body =>
    exact h.bind (h.bind (h.settle hvariable body) fun _ => h.pure _) fun _ => h.pure _

theorem send (h : Composes R) (hclient : ∀ args, R True (runClient args)) (request : Request)
    (debug verbose : Bool) : R True (send request debug verbose) := by
  refine h.bind (h.requestArguments hvariable request verbose) fun args => ?_
  refine h.bind (h.note _) fun _ => ?_
  split
  · exact h.bind h.get fun r => h.pure _
  · refine h.bind (h.mono (h.attempt (hclient args))) fun answer => ?_
    cases answer with
    | ok told => exact h.pure _
    | error f =>
      refine h.bind ?_ fun _ => h.fail f
      unfold noteTransport
      split
      · exact h.note _
      · exact h.pure _

/-! ## Documents -/

variable (hset : ∀ name value, R True (setVariable name value))

include hset

theorem define (h : Composes R) (line : String) : R True (define line) := by
  unfold Act.define
  split
  · exact h.fail _
  · refine h.bind (h.settle hvariable _) fun text => ?_
    refine h.bind (h.ofExcept _) fun value => ?_
    exact h.bind (hset _ _) fun _ => h.pure _

theorem simulates (h : Composes R) (hclient : ∀ args, R True (runClient args)) (rounds : Nat) :
    Simulates (fun act _ => R False act) (services rounds) (services rounds) where
  pure a := h.pure a
  bind hact hnext := h.bind hact hnext
  assign line := h.attempt (h.define hvariable hset line)
  send request debug verbose := h.attempt (h.send hvariable hclient request debug verbose)
  capture name value := h.attempt (hset name value)
  condition text := h.attempt (h.settle hvariable text)
  note record := h.note record
  rounds := rfl

theorem runLines (h : Composes R) (hclient : ∀ args, R True (runClient args))
    (lines : List String) (plainFirst : Bool) : R False (runLines lines plainFirst) :=
  h.bind h.get fun r => (h.simulates hvariable hset hclient r.rounds).runLines lines plainFirst

end

end Composes

end Foldbook.Act
