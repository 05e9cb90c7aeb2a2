import Foldbook.Document.Services

/-!
# What an action answers

The interpreter runs in any monad, so a fact about the answer of an action
cannot be read off a final state.  `Yields P x` says it in the monad: behind
`x` only answers with `P` matter.  Two continuations that agree on those
answers do the same behind `x` (`Yields.congr`).

`Yields.pure`, `Yields.bind` and `Yields.mono` are how such facts are put
together; in a state monad they are the facts about the answers of all runs
(`Yields.run`, `Yields.of_run`).
-/

namespace Foldbook

section

variable {m : Type → Type} [Monad m] {α β : Type}

/-- Every answer of `x` satisfies `P`: continuations that agree on such answers do the same
behind `x`. -/
structure Yields (P : α → Prop) (x : m α) : Prop where
  congr : ∀ {β : Type} {k k' : α → m β}, (∀ a, P a → k a = k' a) → x >>= k = x >>= k'

theorem Yields.mono {P Q : α → Prop} {x : m α} (h : Yields P x) (hPQ : ∀ a, P a → Q a) :
    Yields Q x := by
  constructor
  intro β k k' hk
  exact h.congr fun a ha => hk a (hPQ a ha)

theorem Yields.trivial (x : m α) : Yields (fun _ => True) x := by
  constructor
  intro β k k' hk
  exact bind_congr fun a => hk a True.intro

variable [LawfulMonad m]

theorem Yields.pure {P : α → Prop} {a : α} (h : P a) : Yields P (Pure.pure a : m α) := by
  constructor
  intro β k k' hk
  rw [pure_bind, pure_bind, hk a h]

theorem Yields.bind {P : α → Prop} {Q : β → Prop} {x : m α} {f : α → m β} (hx : Yields P x)
    (hf : ∀ a, P a → Yields Q (f a)) : Yields Q (x >>= f) := by
  constructor
  intro γ k k' hk
  rw [bind_assoc, bind_assoc]
  exact hx.congr fun a ha => (hf a ha).congr hk

/-- An action without a known answer comes first. -/
theorem Yields.bind_trivial {Q : β → Prop} {x : m α} {f : α → m β} (hf : ∀ a, Yields Q (f a)) :
    Yields Q (x >>= f) :=
  (Yields.trivial x).bind fun a _ => hf a

theorem Yields.map {P : α → Prop} {Q : β → Prop} {x : m α} {f : α → β} (hx : Yields P x)
    (hf : ∀ a, P a → Q (f a)) : Yields Q (f <$> x) := by
  rw [map_eq_pure_bind]
  exact hx.bind fun a ha => Yields.pure (hf a ha)

end

/-- What the answer of every run in a state monad satisfies is what the action yields. -/
theorem Yields.of_run {σ α : Type} {P : α → Prop} {x : StateM σ α}
    (h : ∀ state, P (x.run state).1) : Yields P x := by
  constructor
  intro β k k' hk
  funext state
  exact congrArg (fun y : StateM σ β => y (x.run state).2) (hk _ (h state))

/-- In a state monad the answer of every run satisfies what the action yields. -/
theorem Yields.run {σ α : Type} {P : α → Prop} {x : StateM σ α} (h : Yields P x) (state : σ) :
    P (x.run state).1 := by
  classical
  have hsame : (x >>= fun a => Pure.pure (decide (P a))) = x >>= fun _ => Pure.pure true :=
    h.congr fun a ha => by rw [decide_eq_true ha]
  have hrun : decide (P (x.run state).1) = true :=
    congrArg (fun y : StateM σ Bool => (y.run state).1) hsame
  exact of_decide_eq_true hrun

/-- So does the answer of every run that is not ended early. -/
theorem Yields.run_ok {ε σ α : Type} {P : α → Prop} {x : ExceptT ε (StateM σ) α} (h : Yields P x)
    {state behind : σ} {a : α} (hrun : x.run.run state = (.ok a, behind)) : P a := by
  classical
  have hsame : (x >>= fun a => Pure.pure (decide (P a))) = x >>= fun _ => Pure.pure true :=
    h.congr fun a ha => by rw [decide_eq_true ha]
  have hbehind : ∀ k : α → ExceptT ε (StateM σ) Bool,
      (x >>= k).run.run state = (k a).run.run behind := by
    intro k
    rw [ExceptT.run_bind, StateT.run_bind, hrun]
    rfl
  have hboth := congrArg (fun y : ExceptT ε (StateM σ) Bool => y.run.run state) hsame
  rw [hbehind, hbehind] at hboth
  have hdecide : decide (P a) = true := Except.ok.inj (congrArg Prod.fst hboth)
  exact of_decide_eq_true hdecide

end Foldbook
