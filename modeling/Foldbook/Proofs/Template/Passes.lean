import Foldbook.Proofs.Template.Settling
import Foldbook.Proofs.Yields

/-!
# How many passes a text takes

A span has two opening braces.  If no value brings an opening brace with it, a
pass leaves two of them less for each span that it replaces, whatever it makes
of the braces around it.  So the opening braces of a text bound its passes.

* `yields_fill`, `yields_pass`: what one pass leaves of the opening braces.
* `settleFrom_congr`, `yields_settleFrom`: all passes, by induction on how
  many are allowed.
* `settle_within_openings`: with half as many passes as a text has opening
  braces it settles or a selector fails, and more passes change nothing.

The resolver is any action in any monad, so it may answer the same selector
differently each time.
-/

namespace Foldbook.Template

/-- The number of opening braces. -/
def openings (cs : List Char) : Nat := cs.count '\x7b'

/-- An answer for a selector: a value whose text has no opening brace, or a failure in `E`. -/
def Unbracing (E : Failure → Prop) : Except Failure Json → Prop
  | .ok value => '\x7b' ∉ value.inlineText.toList
  | .error e => E e

/-- The end of a substitution: a text without spans, which took no more passes than the limit, or a
failure in `E`. -/
def SettledWithin (E : Failure → Prop) (limit : Nat) : Except Failure Settled → Prop
  | .ok settled => SpanFree settled.text.toList ∧ settled.passes ≤ limit
  | .error e => E e

/-! ## One pass -/

theorem openings_span {selector : List Char} (h : IsSelector selector) :
    openings (Part.span selector).text = 2 := by
  have hselector : '\x7b' ∉ selector := fun hmem => absurd (h.2 _ hmem) (by decide)
  simp [openings, Part.text, List.count_eq_zero_of_not_mem hselector]

theorem openings_join_cons (part : Part) (ps : List Part) :
    openings (join (part :: ps)) = openings part.text + openings (join ps) := by
  simp [openings, join]

@[simp] theorem selectors_char (c : Char) (ps : List Part) :
    selectors (.char c :: ps) = selectors ps := rfl

@[simp] theorem selectors_span (selector : List Char) (ps : List Part) :
    selectors (.span selector :: ps) = selector :: selectors ps := rfl

/-- Without two opening braces there is no span. -/
theorem spanFree_of_openings_lt {cs : List Char} (h : openings cs < 2) : SpanFree cs := by
  rintro before selector after hselector rfl
  have hspan := openings_span hselector
  simp only [openings, List.count_append] at h hspan
  omega

variable {m : Type → Type} [Monad m] [LawfulMonad m] {E : Failure → Prop}
  {resolve : String → m (Except Failure Json)}

/-- What a pass over the parts leaves: two opening braces less for each span, or a failure of a
selector. -/
def Lowers (E : Failure → Prop) (ps : List Part) : Except Failure (List Char) → Prop
  | .ok cs => openings cs + 2 * (selectors ps).length = openings (join ps)
  | .error e => E e

theorem yields_fill (hresolve : ∀ selector, Yields (Unbracing E) (resolve selector))
    {ps : List Part} (hps : ∀ selector, Part.span selector ∈ ps → IsSelector selector) :
    Yields (Lowers E ps) (fill resolve ps) := by
  induction ps with
  | nil => exact .pure rfl
  | cons part ps ih =>
      have hothers := ih fun selector hmem => hps selector (List.mem_cons_of_mem _ hmem)
      cases part with
      | char c =>
          refine hothers.bind fun answer hanswer => ?_
          cases answer with
          | error e => exact .pure hanswer
          | ok rest =>
              refine .pure ?_
              simp only [Lowers, openings_join_cons, selectors_char] at hanswer ⊢
              simp only [openings, Part.text, List.count_cons, List.count_nil] at hanswer ⊢
              omega
      | span selector =>
          refine (hresolve _).bind fun value hvalue => ?_
          cases value with
          | error e => exact .pure hvalue
          | ok value =>
              refine hothers.bind fun answer hanswer => ?_
              cases answer with
              | error e => exact .pure hanswer
              | ok rest =>
                  refine .pure ?_
                  have hspan := openings_span (hps selector List.mem_cons_self)
                  have hnone : openings value.inlineText.toList = 0 :=
                    List.count_eq_zero_of_not_mem hvalue
                  simp only [Lowers, openings_join_cons, selectors_span, List.length_cons,
                    hspan] at hanswer ⊢
                  simp only [openings, List.count_append] at hanswer hnone ⊢
                  omega

/-- A pass over a text with spans takes at least two opening braces away. -/
theorem yields_pass (hresolve : ∀ selector, Yields (Unbracing E) (resolve selector))
    {cs : List Char} (h : ¬SpanFree cs) :
    Yields (fun
      | .ok ds => openings ds + 2 ≤ openings cs
      | .error e => E e) (fill resolve (parts cs)) := by
  refine (yields_fill hresolve fun _ => isSelector_of_mem_parts).mono fun answer hanswer => ?_
  cases answer with
  | error e => exact hanswer
  | ok ds =>
      have hsome : 0 < (selectors (parts cs)).length := by
        have hnonempty := selectors_isEmpty_eq_false h
        rw [List.length_pos_iff]
        simpa using hnonempty
      simp only [Lowers, join_parts] at hanswer
      dsimp only
      omega

/-! ## All passes -/

section

variable (passes left : Nat) {cs : List Char}

omit [LawfulMonad m] in
theorem settleFrom_stop (h : SpanFree cs) :
    settleFrom resolve passes left cs = pure (.ok ⟨String.ofList cs, passes⟩) :=
  settleFrom_of_not_hasSpan (hasSpan_eq_false_iff.mpr h) passes left

omit [LawfulMonad m] in
theorem settleFrom_pass (h : ¬SpanFree cs) :
    settleFrom resolve passes (left + 1) cs = (do
      match ← fill resolve (parts cs) with
      | .ok ds => settleFrom resolve (passes + 1) left ds
      | .error e => pure (.error e)) := by
  rw [settleFrom.eq_def]
  dsimp only
  rw [selectors_isEmpty_eq_false h]
  rfl

end

theorem yields_stop {cs : List Char} {passes limit : Nat} (h : SpanFree cs)
    (hpasses : passes ≤ limit) (left : Nat) :
    Yields (SettledWithin E limit) (settleFrom resolve passes left cs) := by
  rw [settleFrom_stop _ _ h]
  exact .pure ⟨by rwa [String.toList_ofList], hpasses⟩

section

variable (hresolve : ∀ selector, Yields (Unbracing E) (resolve selector))

include hresolve

/-- Where half as many passes are allowed as there are opening braces, allowing more changes
nothing. -/
theorem settleFrom_congr {cs : List Char} {left more : Nat} (hleft : openings cs / 2 ≤ left)
    (hmore : openings cs / 2 ≤ more) (passes : Nat) :
    settleFrom resolve passes left cs = settleFrom resolve passes more cs := by
  induction left generalizing cs more passes with
  | zero =>
      have hfree : SpanFree cs := spanFree_of_openings_lt (by omega)
      rw [settleFrom_stop _ _ hfree, settleFrom_stop _ _ hfree]
  | succ left ih =>
      by_cases hfree : SpanFree cs
      · rw [settleFrom_stop _ _ hfree, settleFrom_stop _ _ hfree]
      · have htwo : 2 ≤ openings cs :=
          Nat.le_of_not_lt fun hlt => hfree (spanFree_of_openings_lt hlt)
        obtain ⟨more, rfl⟩ : ∃ n, more = n + 1 := ⟨more - 1, by omega⟩
        rw [settleFrom_pass _ _ hfree, settleFrom_pass _ _ hfree]
        refine (yields_pass hresolve hfree).congr fun answer hanswer => ?_
        cases answer with
        | error e => rfl
        | ok ds =>
            dsimp only at hanswer ⊢
            exact ih (by omega) (by omega) (passes + 1)

theorem yields_settleFrom {cs : List Char} {left : Nat} (hleft : openings cs / 2 ≤ left)
    (passes : Nat) : Yields (SettledWithin E (passes + openings cs / 2))
      (settleFrom resolve passes left cs) := by
  induction left generalizing cs passes with
  | zero => exact yields_stop (spanFree_of_openings_lt (by omega)) (Nat.le_add_right _ _) 0
  | succ left ih =>
      by_cases hfree : SpanFree cs
      · exact yields_stop hfree (Nat.le_add_right _ _) (left + 1)
      · rw [settleFrom_pass _ _ hfree]
        refine (yields_pass hresolve hfree).bind fun answer hanswer => ?_
        cases answer with
        | error e => exact .pure hanswer
        | ok ds =>
            dsimp only at hanswer ⊢
            refine (ih (by omega) (passes + 1)).mono fun answer hsettled => ?_
            cases answer with
            | error e => exact hsettled
            | ok settled =>
                obtain ⟨hend, hpasses⟩ := hsettled
                exact ⟨hend, by omega⟩

end

/-- If no value brings an opening brace with it, a text settles in half as many passes as it has
opening braces, or a selector fails before; a greater limit makes no difference. -/
theorem settle_within_openings (hresolve : ∀ selector, Yields (Unbracing E) (resolve selector))
    (text : String) {limit : Nat} (hlimit : openings text.toList / 2 ≤ limit) :
    settle resolve limit text = settle resolve (openings text.toList / 2) text ∧
      Yields (SettledWithin E (openings text.toList / 2)) (settle resolve limit text) := by
  refine ⟨settleFrom_congr hresolve hlimit (Nat.le_refl _) 0, ?_⟩
  have hsettles := yields_settleFrom hresolve hlimit 0
  rwa [Nat.zero_add] at hsettles

/-- Values that change from one selector to the next; one selector has none. -/
def alternating (selector : String) : StateM Bool (Except Failure Json) := fun closing =>
  if selector = "gone" then (.error (.unresolved selector), closing)
  else (.ok (.str (if closing then "\x7d" else "v")), !closing)

/-- A text with nested spans and with opening braces that close nothing. -/
def nestedText : String := "\x7b\x7ba\x7b\x7bb\x7d\x7d\x7d\x7d \x7b\x7b\x7b\x7bc\x7d\x7d"

theorem settle_within_openings_alternating :
    (∀ selector, Yields (Unbracing (· = .unresolved "gone")) (alternating selector)) ∧
      settle alternating unlimited nestedText = settle alternating 4 nestedText ∧
      Yields (SettledWithin (· = .unresolved "gone") 4)
        (settle alternating unlimited nestedText) ∧
      ((settle alternating 4 nestedText).run true).1.toOption =
        some ⟨"\x7d\x7d \x7b\x7bv", 2⟩ := by
  have hresolve (selector : String) :
      Yields (Unbracing (· = .unresolved "gone")) (alternating selector) := by
    refine Yields.of_run fun closing => ?_
    by_cases hgone : selector = "gone"
    · simp [alternating, StateT.run, hgone, Unbracing]
    · cases closing <;> simp [alternating, StateT.run, hgone, Unbracing, Json.inlineText]
  have hopenings : openings nestedText.toList / 2 = 4 := by decide
  have hsettles := settle_within_openings hresolve nestedText
    (show openings nestedText.toList / 2 ≤ unlimited by decide)
  rw [hopenings] at hsettles
  exact ⟨hresolve, hsettles.1, hsettles.2, by decide +kernel⟩

end Foldbook.Template
