import Foldbook.Template.Settle

/-!
# Replacing one span at a time

`Replaces` puts the value of one selector in the place of its span, any span
of the text.  What is put there may have braces of its own, which can make
new spans with the text around it.

* `span_append_eq`: two spans of a text are the same one or stand apart.
* `commutes_replaces`: of two spans of a text each is still there when the
  other one has been replaced, so the order does not matter.
* `Steps.remaining`: where every two steps commute and one way ends, every
  way is part of one that ends there too, in the same number of steps.
-/

namespace Foldbook.Template

/-! ## Steps that commute -/

section Steps

variable {α : Type} {step : α → α → Prop}

/-- The second is reached from the first in exactly so many steps. -/
inductive Steps (step : α → α → Prop) : Nat → α → α → Prop
  | refl (a : α) : Steps step 0 a a
  | head {count : Nat} {a b c : α} (first : step a b) (others : Steps step count b c) :
      Steps step (count + 1) a c

/-- No step goes on from here. -/
def Final (step : α → α → Prop) (a : α) : Prop := ∀ b, ¬step a b

/-- Two steps from one place are the same, or one step more brings each of them to a common
place. -/
def Commutes (step : α → α → Prop) : Prop :=
  ∀ {a b c : α}, step a b → step a c → b = c ∨ ∃ d, step b d ∧ step c d

theorem Steps.trans {first second : Nat} {a b c : α} (hab : Steps step first a b)
    (hbc : Steps step second b c) : Steps step (first + second) a c := by
  induction hab with
  | refl a => rwa [Nat.zero_add]
  | @head count a b' c' hfirst _ ih =>
      rw [Nat.add_right_comm]
      exact .head hfirst (ih hbc)

/-- Every single step is one of those that are needed. -/
theorem Steps.remaining_of_step (hcommutes : Commutes step) {count : Nat} {a b c : α}
    (hac : Steps step count a c) (hc : Final step c) (hab : step a b) :
    ∃ left, count = left + 1 ∧ Steps step left b c := by
  induction hac generalizing b with
  | refl a => exact absurd hab (hc b)
  | @head count a next c hfirst hothers ih =>
      refine ⟨count, rfl, ?_⟩
      rcases hcommutes hab hfirst with rfl | ⟨d, hbd, hnext⟩
      · exact hothers
      · obtain ⟨left, rfl, hdc⟩ := ih hc hnext
        exact .head hbd hdc

/-- So is every number of steps. -/
theorem Steps.remaining (hcommutes : Commutes step) {count made : Nat} {a b c : α}
    (hac : Steps step count a c) (hc : Final step c) (hab : Steps step made a b) :
    ∃ left, count = made + left ∧ Steps step left b c := by
  induction hab generalizing count with
  | refl a => exact ⟨count, (Nat.zero_add count).symm, hac⟩
  | @head made a next b hfirst _ ih =>
      obtain ⟨others, hcount, hnext⟩ := hac.remaining_of_step hcommutes hc hfirst
      obtain ⟨left, hothers, hbc⟩ := ih hnext
      exact ⟨left, by omega, hbc⟩

end Steps

/-! ## Spans in a text -/

/-- What can stand between the braces of a span. -/
def IsSelector (cs : List Char) : Prop := cs ≠ [] ∧ ∀ c ∈ cs, isSelectorChar c = true

/-- The text with its braces around it stands nowhere in the other text. -/
def SpanFree (cs : List Char) : Prop :=
  ∀ before selector after, IsSelector selector →
    cs ≠ before ++ ((Part.span selector).text ++ after)

theorem span_text_append (selector rest : List Char) :
    (Part.span selector).text ++ rest =
      '\x7b' :: '\x7b' :: (selector ++ '\x7d' :: '\x7d' :: rest) := by
  simp [Part.text]

theorem takeWhile_selector {selector : List Char} (h : IsSelector selector) (rest : List Char) :
    (selector ++ '\x7d' :: rest).takeWhile isSelectorChar = selector := by
  rw [List.takeWhile_append_of_pos h.2, List.takeWhile_cons_of_neg (by decide), List.append_nil]

theorem dropWhile_selector {selector : List Char} (h : IsSelector selector) (rest : List Char) :
    (selector ++ '\x7d' :: rest).dropWhile isSelectorChar = '\x7d' :: rest := by
  rw [List.dropWhile_append_of_pos h.2, List.dropWhile_cons_of_neg (by decide)]

/-- A span is found at the head of a text exactly where it stands. -/
theorem spanAt?_eq_some_iff {cs selector rest : List Char} :
    spanAt? cs = some (selector, rest) ↔
      IsSelector selector ∧ cs = (Part.span selector).text ++ rest := by
  constructor
  · intro h
    have hcs := eq_of_spanAt? h
    refine ⟨⟨?_, ?_⟩, by rw [span_text_append, hcs]⟩
    · rintro rfl
      rw [hcs] at h
      simp [spanAt?, isSelectorChar] at h
    · unfold spanAt? at h
      split at h
      · split at h
        · split at h
          · cases h
          · cases h
            intro c hc
            exact List.all_eq_true.mp List.all_takeWhile c hc
        · cases h
      · cases h
  · rintro ⟨hselector, rfl⟩
    have hne : selector.isEmpty = false := by simpa using hselector.1
    rw [span_text_append]
    simp only [spanAt?]
    rw [dropWhile_selector hselector, takeWhile_selector hselector, hne]
    rfl

theorem isSelector_of_mem_parts {cs selector : List Char} (h : Part.span selector ∈ parts cs) :
    IsSelector selector := by
  fun_induction parts cs with
  | case1 cs found rest hfound ih =>
      rcases List.mem_cons.mp h with heq | h
      · cases heq
        exact (spanAt?_eq_some_iff.mp hfound).1
      · exact ih h
  | case2 => exact absurd h List.not_mem_nil
  | case3 c rest hnone ih =>
      rcases List.mem_cons.mp h with heq | h
      · cases heq
      · exact ih h

theorem hasSpan_eq_false_iff_notMem {cs : List Char} :
    hasSpan cs = false ↔ ∀ selector, Part.span selector ∉ parts cs := by
  simp only [hasSpan, selectors, Bool.not_eq_false', List.isEmpty_iff, List.filterMap_eq_nil_iff]
  constructor
  · intro h selector hmem
    exact absurd (h _ hmem) (by simp)
  · intro h part hmem
    cases part with
    | char c => rfl
    | span selector => exact absurd hmem (h selector)

/-- A span that stands somewhere in a text is met when the text is cut into parts. -/
theorem exists_span_mem_parts {selector : List Char} (h : IsSelector selector)
    (before after : List Char) :
    ∃ found, Part.span found ∈ parts (before ++ ((Part.span selector).text ++ after)) := by
  generalize hcs : before ++ ((Part.span selector).text ++ after) = cs
  fun_induction parts cs generalizing before with
  | case1 cs found rest hfound ih => exact ⟨found, List.mem_cons_self⟩
  | case2 => simp [Part.text] at hcs
  | case3 c rest hnone ih =>
      cases before with
      | nil =>
          have hsome := spanAt?_eq_some_iff.mpr ⟨h, hcs.symm⟩
          rw [hnone] at hsome
          cases hsome
      | cons d before =>
          rw [List.cons_append, List.cons.injEq] at hcs
          obtain ⟨found, hfound⟩ := ih before hcs.2
          exact ⟨found, List.mem_cons_of_mem _ hfound⟩

/-- The parts of a text show whether it holds a span. -/
theorem hasSpan_eq_false_iff {cs : List Char} : hasSpan cs = false ↔ SpanFree cs := by
  rw [hasSpan_eq_false_iff_notMem]
  constructor
  · rintro h before selector after hselector rfl
    obtain ⟨found, hfound⟩ := exists_span_mem_parts hselector before after
    exact h found hfound
  · intro h selector hmem
    obtain ⟨front, back, hsplit⟩ := List.append_of_mem hmem
    refine h (join front) selector (join back) (isSelector_of_mem_parts hmem) ?_
    rw [← join_parts cs, hsplit]
    simp [join]

/-! ## Two spans of one text -/

/-- A text between the braces of a span does not reach into another span. -/
theorem eq_append_of_selector_append {selector rest front behind : List Char}
    (h : IsSelector selector)
    (heq : selector ++ '\x7d' :: '\x7d' :: rest = front ++ '\x7b' :: '\x7b' :: behind) :
    ∃ gap, front = selector ++ '\x7d' :: '\x7d' :: gap ∧
      rest = gap ++ '\x7b' :: '\x7b' :: behind := by
  rcases List.append_eq_append_iff.mp heq with ⟨more, hfront, hmore⟩ | ⟨more, hselector, hmore⟩
  · match more, hmore with
    | [], hmore => simp at hmore
    | [c], hmore => simp at hmore
    | c :: d :: gap, hmore =>
        simp only [List.cons_append, List.cons.injEq] at hmore
        obtain ⟨rfl, rfl, hrest⟩ := hmore
        exact ⟨gap, hfront, hrest⟩
  · cases more with
    | nil => simp at hmore
    | cons c more =>
        simp only [List.cons_append, List.cons.injEq] at hmore
        have hbrace := h.2 c (by simp [hselector])
        rw [← hmore.1] at hbrace
        exact absurd hbrace (by decide)

/-- A span that does not begin where another one does begins behind it. -/
theorem eq_append_of_span_append {selector rest front behind : List Char}
    (h : IsSelector selector) (hfront : front ≠ [])
    (heq : (Part.span selector).text ++ rest = front ++ '\x7b' :: '\x7b' :: behind) :
    ∃ gap, front = (Part.span selector).text ++ gap ∧ rest = gap ++ '\x7b' :: '\x7b' :: behind := by
  rw [span_text_append] at heq
  match front, hfront, heq with
  | [c], _, heq =>
      obtain ⟨d, selector, rfl⟩ := List.exists_cons_of_ne_nil h.1
      simp only [List.cons_append, List.nil_append, List.cons.injEq] at heq
      have hbrace := h.2 d List.mem_cons_self
      rw [heq.2.2.1] at hbrace
      exact absurd hbrace (by decide)
  | c :: d :: front, _, heq =>
      simp only [List.cons_append, List.cons.injEq] at heq
      obtain ⟨rfl, rfl, heq⟩ := heq
      obtain ⟨gap, hgap, hrest⟩ := eq_append_of_selector_append h heq
      refine ⟨gap, ?_, hrest⟩
      rw [span_text_append, hgap]

/-- What stands in front of the second of two spans, seen from the beginning of the first one. -/
theorem span_append_eq_append {after front right x y : List Char} (hx : IsSelector x)
    (hy : IsSelector y)
    (heq : (Part.span x).text ++ after = front ++ ((Part.span y).text ++ right)) :
    (front = [] ∧ x = y ∧ after = right) ∨
      ∃ gap, front = (Part.span x).text ++ gap ∧ after = gap ++ ((Part.span y).text ++ right) := by
  by_cases hfront : front = []
  · left
    subst hfront
    have hfirst : spanAt? ((Part.span x).text ++ after) = some (x, after) :=
      spanAt?_eq_some_iff.mpr ⟨hx, rfl⟩
    have hsecond : spanAt? ((Part.span x).text ++ after) = some (y, right) :=
      spanAt?_eq_some_iff.mpr ⟨hy, heq⟩
    rw [hfirst] at hsecond
    cases hsecond
    exact ⟨rfl, rfl, rfl⟩
  · right
    rw [span_text_append y] at heq ⊢
    exact eq_append_of_span_append hx hfront heq

/-- Two spans of a text are the same one, or one of them stands behind the other. -/
theorem span_append_eq {before after left right x y : List Char} (hx : IsSelector x)
    (hy : IsSelector y)
    (heq : before ++ ((Part.span x).text ++ after) = left ++ ((Part.span y).text ++ right)) :
    (before = left ∧ x = y ∧ after = right) ∨
      (∃ gap, left = before ++ ((Part.span x).text ++ gap) ∧
        after = gap ++ ((Part.span y).text ++ right)) ∨
      ∃ gap, before = left ++ ((Part.span y).text ++ gap) ∧
        right = gap ++ ((Part.span x).text ++ after) := by
  rcases List.append_eq_append_iff.mp heq with ⟨front, hleft, hfront⟩ | ⟨front, hbefore, hfront⟩
  · rcases span_append_eq_append hx hy hfront with ⟨rfl, rfl, hafter⟩ | ⟨gap, rfl, hafter⟩
    · exact .inl ⟨by rw [hleft, List.append_nil], rfl, hafter⟩
    · exact .inr (.inl ⟨gap, hleft, hafter⟩)
  · rcases span_append_eq_append hy hx hfront with ⟨rfl, rfl, hright⟩ | ⟨gap, rfl, hright⟩
    · exact .inl ⟨by rw [hbefore, List.append_nil], rfl, hright.symm⟩
    · exact .inr (.inr ⟨gap, hbefore, hright⟩)

/-! ## Replacing a span -/

/-- One span of a text is replaced by the value of its selector. -/
def Replaces (resolve : String → Except Failure Json) (cs ds : List Char) : Prop :=
  ∃ before selector after value, IsSelector selector ∧
    resolve (String.ofList selector) = .ok value ∧
    cs = before ++ ((Part.span selector).text ++ after) ∧
    ds = before ++ (value.inlineText.toList ++ after)

variable {resolve : String → Except Failure Json}

/-- Of two spans each is still there when the other one has been replaced. -/
theorem commutes_replaces : Commutes (Replaces resolve) := by
  rintro cs ds es ⟨before, x, after, v, hx, hv, rfl, rfl⟩ ⟨left, y, right, w, hy, hw, heq, rfl⟩
  rcases span_append_eq hx hy heq with ⟨rfl, rfl, rfl⟩ | ⟨gap, rfl, rfl⟩ | ⟨gap, rfl, rfl⟩
  · left
    rw [hv, Except.ok.injEq] at hw
    rw [hw]
  · right
    refine ⟨before ++ (v.inlineText.toList ++ (gap ++ (w.inlineText.toList ++ right))), ?_, ?_⟩
    · exact ⟨before ++ (v.inlineText.toList ++ gap), y, right, w, hy, hw, by simp, by simp⟩
    · exact ⟨before, x, gap ++ (w.inlineText.toList ++ right), v, hx, hv, by simp, by simp⟩
  · right
    refine ⟨left ++ (w.inlineText.toList ++ (gap ++ (v.inlineText.toList ++ after))), ?_, ?_⟩
    · exact ⟨left, y, gap ++ (v.inlineText.toList ++ after), w, hy, hw, by simp, by simp⟩
    · exact ⟨left ++ (w.inlineText.toList ++ gap), x, after, v, hx, hv, by simp, by simp⟩

/-- A text without spans is final. -/
theorem SpanFree.final {cs : List Char} (h : SpanFree cs) : Final (Replaces resolve) cs := by
  rintro ds ⟨before, selector, after, value, hselector, -, rfl, -⟩
  exact h before selector after hselector rfl

/-- A span whose selector has no value stays whatever is replaced. -/
theorem not_spanFree_of_unresolved {count : Nat} {cs ds : List Char}
    (hsteps : Steps (Replaces resolve) count cs ds) {selector : List Char}
    (hselector : IsSelector selector) {e : Failure}
    (he : resolve (String.ofList selector) = .error e) (before after : List Char)
    (hcs : cs = before ++ ((Part.span selector).text ++ after)) : ¬SpanFree ds := by
  induction hsteps generalizing before after with
  | refl cs => exact fun h => h before selector after hselector hcs
  | @head count cs next ds hfirst _ ih =>
      obtain ⟨left, x, right, value, hx, hvalue, hleft, rfl⟩ := hfirst
      rw [hcs] at hleft
      rcases span_append_eq hselector hx hleft with
        ⟨-, rfl, -⟩ | ⟨gap, rfl, rfl⟩ | ⟨gap, rfl, rfl⟩
      · rw [he] at hvalue
        cases hvalue
      · exact ih before (gap ++ (value.inlineText.toList ++ right)) (by simp)
      · exact ih (left ++ (value.inlineText.toList ++ gap)) after (by simp)

end Foldbook.Template
