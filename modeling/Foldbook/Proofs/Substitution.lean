import Foldbook.Proofs.Acting
import Foldbook.Proofs.Passing
import Foldbook.Proofs.Keeping
import Foldbook.Proofs.Selection
import Foldbook.Proofs.Template.Settling
import Foldbook.Runner.Documents

/-!
# What is assigned and what is substituted

A value goes from the text of an assignment line into the environment, and
from there through a query into other texts.

* `Template.Assignable` describes the texts that an assignment line takes over
  as they are.
* `Act.perform_define`, `Act.of_perform_setVariable` and
  `Act.perform_settle_variable` say what the two ends do on a runner.
* `Act.settle_defined_iff`: what is substituted is the text of the value that
  was assigned, exactly if all whole numbers in it are doubles.
-/

namespace Foldbook

/-! ## Assignment lines -/

namespace Template

open Text

theorem splitName?_append {name value behind : List Char} (hne : name ≠ [])
    (hname : ' ' ∉ name) (hvalue : valueBehind? (' ' :: behind) = some value) (taken : List Char) :
    splitName? taken (name ++ ' ' :: behind) = some (taken.reverse ++ name, value) := by
  induction name generalizing taken with
  | nil => exact absurd rfl hne
  | cons c name ih =>
      rw [List.mem_cons, not_or] at hname
      rw [List.cons_append, splitName?, if_neg (Ne.symm hname.1)]
      cases name with
      | nil => simp [splitName?, hvalue]
      | cons d name =>
          rw [ih (List.cons_ne_nil _ _) hname.2]
          simp

/-- A value that is a line and does not begin with a blank stands behind the equals sign. -/
theorem valueBehind?_tight {cs : List Char} (hbegins : ∃ c ∈ cs.head?, isBlank c = false)
    (hline : '\n' ∉ cs) : valueBehind? ('=' :: cs) = some cs := by
  obtain ⟨c, hc, hblank⟩ := hbegins
  obtain ⟨rest, rfl⟩ : ∃ rest, cs = c :: rest := List.head?_eq_some_iff.mp hc
  have htake : (c :: rest).takeWhile (fun d => decide (d ≠ '\n')) = c :: rest := by
    rw [← List.append_nil (c :: rest), List.takeWhile_append_of_pos, List.takeWhile_nil]
    rintro d hd
    exact decide_eq_true fun heq => hline (heq ▸ hd)
  have hequals : isBlank '=' = false := by decide
  simp only [valueBehind?, afterBlanks, hequals, hblank, htake, if_false, Bool.false_eq_true,
    List.isEmpty_cons]

/-- So it does with a space on either side of the sign. -/
theorem valueBehind?_equals {cs : List Char} (hbegins : ∃ c ∈ cs.head?, isBlank c = false)
    (hline : '\n' ∉ cs) : valueBehind? (' ' :: '=' :: ' ' :: cs) = some cs := by
  have htight := valueBehind?_tight hbegins hline
  have hspace : isBlank ' ' = true := by decide
  have hequals : isBlank '=' = false := by decide
  simp only [valueBehind?, afterBlanks, hspace, hequals, if_true, if_false,
    Bool.false_eq_true] at htight ⊢
  rw [htight, Option.some_or, Option.some_or]

/-- With a space on either side of the equals sign the name is what stands in front, and the value
is what stands behind. -/
theorem assignment?_spaced {name value : String} (hne : name ≠ "") (hname : ' ' ∉ name.toList)
    (hbegins : ∃ c ∈ value.toList.head?, isBlank c = false) (hline : '\n' ∉ value.toList) :
    assignment? ("@" ++ name ++ " = " ++ value) = some { name, value } := by
  have hcs : ("@" ++ name ++ " = " ++ value).toList =
      '@' :: (name.toList ++ ' ' :: '=' :: ' ' :: value.toList) := by simp
  have hnonempty : name.toList ≠ [] := by simpa using hne
  rw [assignment?, hcs, findAssignment?, if_pos rfl,
    splitName?_append hnonempty hname (valueBehind?_equals hbegins hline)]
  simp

/-- A text that an assignment line takes over as it is. -/
structure Assignable (text : String) : Prop where
  begins : ∃ c ∈ text.toList.head?, isBlank c = false
  oneLine : '\n' ∉ text.toList
  spanFree : hasSpan text.toList = false

/-! ## Spans -/

/-- A text without adjacent opening braces has no spans. -/
theorem hasSpan_eq_false_of_unpaired {cs : List Char} (h : Json.Unpaired cs) :
    hasSpan cs = false := by
  rw [hasSpan_eq_false_iff]
  intro before selector after _
  rw [span_text_append]
  exact h.ne_append before _

section

variable {m : Type → Type} [Monad m] {resolve : String → m (Except Failure Json)}

theorem settle_of_not_hasSpan {text : String} (h : hasSpan text.toList = false) (limit : Nat) :
    settle resolve limit text = pure (.ok ⟨text, 0⟩) := by
  rw [settle, settleFrom_of_not_hasSpan h, String.ofList_toList]

theorem parts_span {selector : List Char} (h : IsSelector selector) :
    parts (Part.span selector).text = [.span selector] := by
  have hspan : spanAt? (Part.span selector).text = some (selector, []) :=
    spanAt?_eq_some_iff.mpr ⟨h, by simp⟩
  rw [parts.eq_def]
  split
  · rename_i found rest heq
    cases hspan.symm.trans heq
    rw [parts.eq_def]
    rfl
  · rename_i heq
    cases hspan.symm.trans heq

/-- A text that is a span settles to the value of its selector, and to what the value's own spans
stand for. -/
theorem settle_span [LawfulMonad m] {selector : List Char} (h : IsSelector selector) (limit : Nat) :
    settle resolve (limit + 1) (String.ofList (Part.span selector).text) = (do
      match ← resolve (String.ofList selector) with
      | .ok value => settleFrom resolve 1 limit value.inlineText.toList
      | .error e => pure (.error e)) := by
  rw [settle, String.toList_ofList, settleFrom.eq_def]
  simp only [parts_span h, selectors, List.filterMap_cons, List.filterMap_nil, List.isEmpty_cons,
    Bool.false_eq_true, if_false, fill, pure_bind, bind_assoc]
  congr 1
  funext answer
  cases answer with
  | error e => simp
  | ok value => simp

end

end Template

/-! ## On a runner -/

namespace Act

open Template (Assignable)

theorem perform_settle_of_not_hasSpan {text : String} (h : Template.hasSpan text.toList = false)
    (r : Runner) : (settle text).perform r = (.ok text, r) := by
  simp [settle, Template.settle_of_not_hasSpan h, Except.mapError]

/-- A variable that is set is a member of the document; only the store, the disk and the log
change. -/
theorem of_perform_setVariable {name : String} {value : Json} {r r' : Runner}
    (h : (setVariable name value).perform r = (.ok (), r')) :
    r'.passes = r.passes ∧ r'.environ = r.environ ∧
      ∃ members, r'.store.document = .obj (Json.insert name value members) := by
  have hends := setVariable_sets name value r
  rw [Ends, h] at hends
  obtain ⟨outcome, store, disk, log, houtcome, hbehind, hsets⟩ := hends
  simp only at hbehind
  subst hbehind
  cases hsets with
  | saved members => exact ⟨rfl, rfl, members, rfl⟩
  | unsaved => cases houtcome
  | rootless => cases houtcome

/-- An assignment of a text without selectors sets the variable. -/
theorem perform_define {name text : String} {value : Json} (hne : name ≠ "")
    (hname : ' ' ∉ name.toList) (hassignable : Assignable text) (htext : Json.read text = .ok value)
    (r : Runner) :
    (define ("@" ++ name ++ " = " ++ text)).perform r =
      (do
        setVariable name value
        return "@" ++ name ++ " = " ++ text : Act String).perform r := by
  simp only [define,
    Template.assignment?_spaced hne hname hassignable.begins hassignable.oneLine, perform_bind,
    perform_settle_of_not_hasSpan hassignable.spanFree, perform_ofExcept, htext, Except.mapError,
    perform_pure]

/-- A selector that names no variable of the process is a query, which leaves the runner as it
is. -/
theorem perform_attempt_resolve {selector : String} (h : variableName? selector = none)
    (r : Runner) : (attempt (resolve selector)).perform r =
      (.ok (queryDocument r.environ selector r.store.document), r) := by
  have hresolve : (resolve selector).perform r =
      ((queryDocument r.environ selector r.store.document).mapError .failure, r) := by
    simp only [resolve, h, perform_bind, perform_get, perform_ofExcept]
  unfold perform ExceptT.run at hresolve ⊢
  rw [attempt, hresolve]
  cases queryDocument r.environ selector r.store.document <;> rfl

/-- A query is replaced by its value. -/
theorem perform_settle_span {selector : List Char} (h : Template.IsSelector selector)
    (hquery : variableName? (String.ofList selector) = none) {r : Runner} (hpasses : 0 < r.passes)
    (hvalue : ∀ value,
      queryDocument r.environ (String.ofList selector) r.store.document = .ok value →
        Template.hasSpan value.inlineText.toList = false) :
    ((settle (String.ofList (Template.Part.span selector).text)).perform r).1 =
      ((queryDocument r.environ (String.ofList selector) r.store.document).map
        Json.inlineText).mapError .failure := by
  obtain ⟨limit, hlimit⟩ : ∃ n, r.passes = n + 1 := ⟨r.passes - 1, by omega⟩
  cases hanswer : queryDocument r.environ (String.ofList selector) r.store.document with
  | error failure =>
      simp [settle, hlimit, Template.settle_span h, perform_attempt_resolve hquery, hanswer,
        Except.mapError, Except.map]
  | ok value =>
      simp only [settle, hlimit, Template.settle_span h, perform_bind, perform_get,
        perform_attempt_resolve hquery, hanswer,
        Template.settleFrom_of_not_hasSpan (hvalue value hanswer), perform_pure, perform_ofExcept,
        Except.mapError, Except.map]
      simp [-bind_pure_comp]

/-! ## Variables -/

/-- The text of a variable is that of its value behind a query, if the value is not null there. -/
theorem perform_settle_variable {name : String} (hname : Query.IsName name) {r : Runner}
    (hpasses : 0 < r.passes) {members : List (String × Json)}
    (hdocument : r.store.document = .obj members) {v : Json} (hfind : Json.find? name members = some v)
    (hv : v.Every Json.Unbraced) :
    ((settle ("\x7b\x7b." ++ name ++ "\x7d\x7d")).perform r).1 =
      if v.passed = .null then .error (.failure (.unresolved ("." ++ name)))
      else .ok v.passed.inlineText := by
  have hselector : Template.IsSelector ('.' :: name.toList) := by
    refine ⟨List.cons_ne_nil _ _, List.forall_mem_cons.mpr ⟨by decide, fun c hc => ?_⟩⟩
    have hchar := Query.Lexeme.forall_isNameChar hname c hc
    simp only [Template.isSelectorChar, Bool.and_eq_true, bne_iff_ne]
    constructor <;> rintro rfl <;> exact absurd hchar (by decide)
  have htext : "\x7b\x7b." ++ name ++ "\x7d\x7d" =
      String.ofList (Template.Part.span ('.' :: name.toList)).text := by
    rw [← String.toList_inj]
    simp [Template.Part.text]
  have hofList : String.ofList ('.' :: name.toList) = "." ++ name := by
    rw [← String.toList_inj]
    simp
  have hquery : queryDocument r.environ (String.ofList ('.' :: name.toList)) r.store.document =
      if v.passed = .null then .error (.unresolved ("." ++ name)) else .ok v.passed := by
    rw [hofList, queryDocument, hdocument, Query.select_field hname, hfind]
    change singleValue ("." ++ name) [v.passed] = _
    unfold singleValue
    split <;> simp_all
  have hnone : variableName? (String.ofList ('.' :: name.toList)) = none := by
    rw [variableName?, String.toList_ofList]
    rfl
  rw [htext, perform_settle_span hselector hnone hpasses, hquery]
  · split <;> rfl
  · intro value hvalue
    rw [hquery] at hvalue
    split at hvalue
    · cases hvalue
    · cases hvalue
      exact Template.hasSpan_eq_false_of_unpaired
        (Json.unpaired_inlineText (Json.unbraced_passed hv))

/-- What is assigned is what is substituted, exactly if all whole numbers in it are doubles. -/
theorem settle_defined_iff {name text echo : String} {v : Json} {r r' : Runner}
    (hname : Query.IsName name) (htext : Json.read text = .ok v)
    (hassignable : Assignable text) (hnull : v ≠ .null)
    (hparts : v.Every fun p => p.NotFloat ∧ p.Unbraced) (hpasses : 0 < r.passes)
    (hdefine : (define ("@" ++ name ++ " = " ++ text)).perform r = (.ok echo, r')) :
    ((settle ("\x7b\x7b." ++ name ++ "\x7d\x7d")).perform r').1 = .ok v.inlineText ↔
      v.Every Json.Exact := by
  have hspace : ' ' ∉ name.toList := fun hmem =>
    absurd (Query.Lexeme.forall_isNameChar hname _ hmem) (by decide)
  have hne : name ≠ "" := by
    rintro rfl
    obtain ⟨c, cs, hcs, -⟩ := hname
    cases hcs
  have hfloat : v.Every Json.NotFloat := hparts.mono fun _ hp => hp.1
  have hset : (setVariable name v).perform r = (.ok (), r') := by
    rw [perform_define hne hspace hassignable htext, perform_bind] at hdefine
    split at hdefine
    · rename_i next hset
      cases hdefine
      exact hset
    · cases hdefine
  obtain ⟨hpasses', -, members, hdocument⟩ := of_perform_setVariable hset
  rw [perform_settle_variable hname (hpasses' ▸ hpasses) hdocument (Json.find?_insert_self _ _ _)
    (hparts.mono fun _ hp => hp.2), ← Json.passed_eq_self_iff hfloat]
  split
  · rename_i hpassed
    constructor
    · intro h
      cases h
    · intro hself
      exact absurd (hself.symm.trans hpassed) hnull
  · rw [Except.ok.injEq, Json.inlineText_passed_iff (Json.wellRead_of_read htext) hfloat]

/-- The first whole number that is no double does not come back. -/
theorem settle_defined_rounded :
    ∃ echo r', (define ("@" ++ "n" ++ " = " ++ "[9007199254740993]")).perform {} = (.ok echo, r') ∧
      ((settle ("\x7b\x7b." ++ "n" ++ "\x7d\x7d")).perform r').1 ≠ .ok "[9007199254740993]" := by
  have hread : Json.read "[9007199254740993]" = .ok (.arr [.int 9007199254740993]) := by
    decide +kernel
  have hassignable : Assignable "[9007199254740993]" :=
    ⟨⟨'[', rfl, by decide⟩, by decide,
      Template.hasSpan_eq_false_of_unpaired (Json.unpaired_of_notMem (by decide))⟩
  have hname : Query.IsName "n" := ⟨'n', [], rfl, by decide, by simp⟩
  have hparts : (Json.arr [.int 9007199254740993]).Every fun p => p.NotFloat ∧ p.Unbraced := by
    decide
  have hset : ∃ r', (setVariable "n" (.arr [.int 9007199254740993])).perform {} = (.ok (), r') := by
    simp [setVariable, Store.set, Store.save, Except.mapError]
  obtain ⟨r', hset⟩ := hset
  have hdefine : (define ("@" ++ "n" ++ " = " ++ "[9007199254740993]")).perform {} =
      (.ok ("@" ++ "n" ++ " = " ++ "[9007199254740993]"), r') := by
    rw [perform_define (show "n" ≠ "" by decide) (by decide) hassignable hread, perform_bind, hset]
    rfl
  refine ⟨_, r', hdefine, fun h => ?_⟩
  have hexact := (settle_defined_iff hname hread hassignable (by simp) hparts (by decide)
    hdefine).mp h
  exact Double.not_exact_of_odd (by decide) (by decide)
    (hexact (.int 9007199254740993) (by decide))

end Act
end Foldbook
