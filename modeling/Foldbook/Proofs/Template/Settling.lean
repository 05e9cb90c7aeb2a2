import Foldbook.Proofs.Template.Replacement

/-!
# Passes against single replacements

A pass replaces all spans of a text at once, from left to right.  For
selectors that have the same value whenever they are resolved, that is
replacing the spans one at a time, in any order.

* `steps_of_fill` and `exists_unresolved_of_fill`: a pass makes one
  replacement for each span, or meets a span without a value.
* `steps_of_settleFrom` and `settleFrom_of_steps`: passes come to an end
  where single replacements do.
* `settles_iff_replaced`: a text settles to where replacing spans one at a
  time ends, and every way to go on with single replacements ends there.
-/

namespace Foldbook.Template

variable {resolve : String → Except Failure Json}

/-! ## One pass -/

theorem fill_char (c : Char) (ps : List Part) :
    fill (m := Id) resolve (.char c :: ps) =
      match fill (m := Id) resolve ps with
      | .ok rest => .ok (c :: rest)
      | .error e => .error e := by
  rw [fill]
  rfl

theorem fill_span (selector : List Char) (ps : List Part) :
    fill (m := Id) resolve (.span selector :: ps) =
      match resolve (String.ofList selector) with
      | .error e => .error e
      | .ok value =>
        match fill (m := Id) resolve ps with
        | .ok rest => .ok (value.inlineText.toList ++ rest)
        | .error e => .error e := by
  rw [fill]
  rfl

/-- A pass that succeeds makes one replacement for each span. -/
theorem steps_of_fill {ps : List Part} {cs : List Char}
    (hps : ∀ selector, Part.span selector ∈ ps → IsSelector selector)
    (h : fill (m := Id) resolve ps = .ok cs) (before : List Char) :
    Steps (Replaces resolve) (selectors ps).length (before ++ join ps) (before ++ cs) := by
  -- what has been filled in already stands in front of the parts that are left
  induction ps generalizing cs before with
  | nil =>
      cases h
      exact .refl _
  | cons part ps ih =>
      have hothers : ∀ selector, Part.span selector ∈ ps → IsSelector selector :=
        fun selector hmem => hps selector (List.mem_cons_of_mem _ hmem)
      cases part with
      | char c =>
          rw [fill_char] at h
          split at h
          · rename_i rest hrest
            cases h
            have hlater := ih hothers hrest (before ++ [c])
            simpa [join, selectors, Part.text] using hlater
          · cases h
      | span selector =>
          rw [fill_span] at h
          split at h
          · cases h
          · rename_i value hvalue
            split at h
            · rename_i rest hrest
              cases h
              have hfirst : Replaces resolve (before ++ join (.span selector :: ps))
                  (before ++ value.inlineText.toList ++ join ps) :=
                ⟨before, selector, join ps, value, hps selector List.mem_cons_self, hvalue,
                  by simp [join], by simp⟩
              have hlater := ih hothers hrest (before ++ value.inlineText.toList)
              rw [← List.append_assoc]
              exact .head hfirst hlater
            · cases h

/-- A pass that fails meets a span whose selector has no value. -/
theorem exists_unresolved_of_fill {ps : List Part} {e : Failure}
    (h : fill (m := Id) resolve ps = .error e) :
    ∃ selector, Part.span selector ∈ ps ∧ resolve (String.ofList selector) = .error e := by
  induction ps with
  | nil => cases h
  | cons part ps ih =>
      have hlater : fill (m := Id) resolve ps = .error e → ∃ selector,
          Part.span selector ∈ part :: ps ∧ resolve (String.ofList selector) = .error e := by
        intro hps
        obtain ⟨selector, hmem, hvalue⟩ := ih hps
        exact ⟨selector, List.mem_cons_of_mem _ hmem, hvalue⟩
      cases part with
      | char c =>
          rw [fill_char] at h
          split at h
          · cases h
          · rename_i failure hps
            cases h
            exact hlater hps
      | span selector =>
          rw [fill_span] at h
          split at h
          · rename_i failure hvalue
            cases h
            exact ⟨selector, List.mem_cons_self, hvalue⟩
          · split at h
            · cases h
            · rename_i failure hps
              cases h
              exact hlater hps

/-! ## All passes -/

theorem settleFrom_of_not_hasSpan {m : Type → Type} [Monad m]
    {resolve : String → m (Except Failure Json)} {cs : List Char} (h : hasSpan cs = false)
    (passes left : Nat) :
    settleFrom resolve passes left cs = pure (.ok ⟨String.ofList cs, passes⟩) := by
  have hnone : (selectors (parts cs)).isEmpty = true := by simpa [hasSpan] using h
  rw [settleFrom.eq_def]
  dsimp only
  rw [if_pos hnone]

theorem settleFrom_of_spanFree {cs : List Char} (h : SpanFree cs) (passes left : Nat) :
    settleFrom (m := Id) resolve passes left cs = .ok ⟨String.ofList cs, passes⟩ :=
  settleFrom_of_not_hasSpan (hasSpan_eq_false_iff.mpr h) passes left

theorem selectors_isEmpty_eq_false {cs : List Char} (h : ¬SpanFree cs) :
    (selectors (parts cs)).isEmpty = false := by
  rw [← hasSpan_eq_false_iff] at h
  simpa [hasSpan] using h

theorem settleFrom_zero {cs : List Char} (h : ¬SpanFree cs) (passes : Nat) :
    settleFrom (m := Id) resolve passes 0 cs = .error (.unsettled passes (String.ofList cs)) := by
  rw [settleFrom.eq_def]
  dsimp only
  rw [selectors_isEmpty_eq_false h]
  rfl

theorem settleFrom_succ {cs : List Char} (h : ¬SpanFree cs) (passes left : Nat) :
    settleFrom (m := Id) resolve passes (left + 1) cs =
      match fill (m := Id) resolve (parts cs) with
      | .ok ds => settleFrom (m := Id) resolve (passes + 1) left ds
      | .error e => .error e := by
  rw [settleFrom.eq_def]
  dsimp only
  rw [selectors_isEmpty_eq_false h]
  rfl

theorem steps_of_fill_parts {cs ds : List Char} (h : fill (m := Id) resolve (parts cs) = .ok ds) :
    Steps (Replaces resolve) (selectors (parts cs)).length cs ds := by
  have hsteps := steps_of_fill (fun _ => isSelector_of_mem_parts) h []
  rwa [join_parts] at hsteps

/-- Where passes end, replacing one span at a time ends too. -/
theorem steps_of_settleFrom {passes left : Nat} {cs : List Char} {settled : Settled}
    (h : settleFrom (m := Id) resolve passes left cs = .ok settled) :
    SpanFree settled.text.toList ∧
      ∃ count, Steps (Replaces resolve) count cs settled.text.toList := by
  induction left generalizing passes cs with
  | zero =>
      by_cases hfree : SpanFree cs
      · rw [settleFrom_of_spanFree hfree] at h
        cases h
        rw [String.toList_ofList]
        exact ⟨hfree, 0, .refl cs⟩
      · rw [settleFrom_zero hfree] at h
        cases h
  | succ left ih =>
      by_cases hfree : SpanFree cs
      · rw [settleFrom_of_spanFree hfree] at h
        cases h
        rw [String.toList_ofList]
        exact ⟨hfree, 0, .refl cs⟩
      · rw [settleFrom_succ hfree] at h
        split at h
        · rename_i ds hds
          obtain ⟨hsettled, count, hlater⟩ := ih h
          exact ⟨hsettled, _, (steps_of_fill_parts hds).trans hlater⟩
        · cases h

/-- Where replacing one span at a time ends, as many passes are enough. -/
theorem settleFrom_of_steps {count left : Nat} {cs ds : List Char}
    (hsteps : Steps (Replaces resolve) count cs ds) (hds : SpanFree ds) (hleft : count ≤ left)
    (passes : Nat) :
    ∃ made, settleFrom (m := Id) resolve passes left cs = .ok ⟨String.ofList ds, made⟩ := by
  induction left generalizing count cs passes with
  | zero =>
      obtain rfl : count = 0 := by omega
      cases hsteps
      exact ⟨passes, settleFrom_of_spanFree hds passes 0⟩
  | succ left ih =>
      by_cases hfree : SpanFree cs
      · cases hsteps with
        | refl => exact ⟨passes, settleFrom_of_spanFree hfree passes _⟩
        | head hfirst => exact absurd hfirst (hfree.final _)
      · rw [settleFrom_succ hfree]
        cases hfill : fill (m := Id) resolve (parts cs) with
        | error e =>
            obtain ⟨selector, hmem, hvalue⟩ := exists_unresolved_of_fill hfill
            obtain ⟨front, back, hsplit⟩ := List.append_of_mem hmem
            have hcs : cs = join front ++ ((Part.span selector).text ++ join back) := by
              rw [← join_parts cs, hsplit]
              simp [join]
            have hstuck := not_spanFree_of_unresolved hsteps (isSelector_of_mem_parts hmem) hvalue
              _ _ hcs
            exact absurd hds hstuck
        | ok next =>
            have hpass := steps_of_fill_parts hfill
            have hsome : 0 < (selectors (parts cs)).length := by
              have hnonempty := selectors_isEmpty_eq_false hfree
              rw [List.length_pos_iff]
              simpa using hnonempty
            obtain ⟨rest, hcount, hlater⟩ := hsteps.remaining commutes_replaces hds.final hpass
            exact ih hlater (by omega) (passes + 1)

/-- With as many passes as it takes, the text becomes the other one, which holds no span. -/
def Settles (resolve : String → Except Failure Json) (text settled : String) : Prop :=
  ∃ limit passes, settle (m := Id) resolve limit text = .ok ⟨settled, passes⟩

/-- Replacing all spans of a text at once, pass by pass, ends in a text exactly if replacing one
span at a time, in some order, ends there.  In that case every order ends there, after the same
number of replacements, and as many passes are enough. -/
theorem settles_iff_replaced (resolve : String → Except Failure Json) (text settled : String) :
    (Settles resolve text settled ↔
      SpanFree settled.toList ∧
        ∃ count, Steps (Replaces resolve) count text.toList settled.toList) ∧
    (Settles resolve text settled → ∃ count,
      Steps (Replaces resolve) count text.toList settled.toList ∧
      (∀ made cs, Steps (Replaces resolve) made text.toList cs → made ≤ count ∧
        (Final (Replaces resolve) cs → made = count ∧ cs = settled.toList)) ∧
      ∀ limit, count ≤ limit → ∃ passes,
        settle (m := Id) resolve limit text = .ok ⟨settled, passes⟩) := by
  have hforth : Settles resolve text settled → SpanFree settled.toList ∧
      ∃ count, Steps (Replaces resolve) count text.toList settled.toList := by
    rintro ⟨limit, passes, h⟩
    exact steps_of_settleFrom h
  have hback : ∀ {count limit}, SpanFree settled.toList →
      Steps (Replaces resolve) count text.toList settled.toList → count ≤ limit →
      ∃ passes, settle (m := Id) resolve limit text = .ok ⟨settled, passes⟩ := by
    intro count limit hfree hsteps hlimit
    have hsettle := settleFrom_of_steps hsteps hfree hlimit 0
    rwa [String.ofList_toList] at hsettle
  refine ⟨⟨hforth, ?_⟩, ?_⟩
  · rintro ⟨hfree, count, hsteps⟩
    exact ⟨count, hback hfree hsteps (Nat.le_refl count)⟩
  · intro h
    obtain ⟨hfree, count, hsteps⟩ := hforth h
    refine ⟨count, hsteps, ?_, fun limit hlimit => hback hfree hsteps hlimit⟩
    intro made cs hmade
    obtain ⟨left, rfl, hleft⟩ := hsteps.remaining commutes_replaces hfree.final hmade
    refine ⟨Nat.le_add_right made left, fun hfinal => ?_⟩
    cases hleft with
    | refl => exact ⟨rfl, rfl⟩
    | head hfirst => exact absurd hfirst (hfinal _)

/-- Values of which two that stand side by side make a span of their own. -/
def joiningValues : String → Except Failure Json
  | ".l" => .ok (.str "\x7b\x7b.k")
  | ".r" => .ok (.str "\x7d\x7d")
  | ".k" => .ok (.str "v")
  | selector => .error (.unresolved selector)

/-- A text with two spans that become a third one. -/
def joiningText : String := "\x7b\x7b.l\x7d\x7d\x7b\x7b.r\x7d\x7d"

theorem settles_iff_replaced_joined :
    Settles joiningValues joiningText "v" ∧ SpanFree "v".toList ∧ ∃ count,
      Steps (Replaces joiningValues) count joiningText.toList "v".toList ∧
      ∀ made cs, Steps (Replaces joiningValues) made joiningText.toList cs →
        Final (Replaces joiningValues) cs → made = count ∧ cs = "v".toList := by
  have hsettles : Settles joiningValues joiningText "v" := ⟨2, 2, by cbv⟩
  obtain ⟨hreplaced, hevery⟩ := settles_iff_replaced joiningValues joiningText "v"
  obtain ⟨count, hsteps, hmade, -⟩ := hevery hsettles
  refine ⟨hsettles, (hreplaced.mp hsettles).1, count, hsteps, ?_⟩
  intro made cs hcs hfinal
  exact (hmade made cs hcs).2 hfinal

end Foldbook.Template
