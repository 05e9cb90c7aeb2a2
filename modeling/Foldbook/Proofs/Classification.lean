import Foldbook.Http.Classification
import Foldbook.Proofs.Json.Reading
import Foldbook.Proofs.Json.Rereading
import Foldbook.Proofs.Text

/-!
# What becomes of a response

A response is cut at its first blank line, and its body is shown again if it
is JSON.

* `Classified` lists the replies that a response can have, one constructor
  for each kind of body.
* `classify_divided` computes the reply of a response that is cut in two;
  `Divides.replace`: what is shown for the body leaves the cut where it was.
* `classify_stable` puts both together: a reply is one of these, and if its
  value has no floating-point numbers, its text has the same reply.
-/

namespace Foldbook.Http

open Text

/-- The first blank line of the text ends the headers and begins the body. -/
structure Divides (output headers body : String) : Prop where
  eq : output = headers ++ "\n\n" ++ body
  first : ∀ front behind, output = front ++ "\n\n" ++ behind → headers.length ≤ front.length

/-- What a response is shown as, and its value. -/
inductive Classified (output : String) : Reply → Prop
  /-- Without a blank line everything is shown, and there is no value. -/
  | undivided (h : ∀ headers body, output ≠ headers ++ "\n\n" ++ body) :
      Classified output { text := output, value := .str "" }
  /-- A body that is not JSON is the value as it stands. -/
  | plain {headers body : String} (h : Divides output headers body)
      (hbody : Json.read? body = none) :
      Classified output { text := output, value := .str body }
  /-- A body that is JSON is shown indented behind the same headers. -/
  | json {headers body : String} {v : Json} (h : Divides output headers body)
      (hbody : Json.read? body = some v) :
      Classified output
        { text := headers ++ "\n\n" ++ Json.render Json.pretty v, value := v }

/-! ## The cut -/

theorem divides_iff {output headers body : String} :
    Divides output headers body ↔
      FirstCut ['\n', '\n'] headers.toList body.toList output.toList := by
  have heq (front behind : String) : output = front ++ "\n\n" ++ behind ↔
      output.toList = front.toList ++ ['\n', '\n'] ++ behind.toList := by
    rw [← String.toList_inj]
    simp
  constructor
  · intro h
    refine ⟨(heq headers body).mp h.eq, fun front behind hcs => ?_⟩
    have hfirst := h.first (String.ofList front) (String.ofList behind)
      ((heq _ _).mpr (by simpa using hcs))
    rwa [String.length_ofList, ← String.length_toList] at hfirst
  · intro h
    refine ⟨(heq headers body).mpr h.eq, fun front behind hcs => ?_⟩
    have hfirst := h.first front.toList behind.toList ((heq front behind).mp hcs)
    rwa [String.length_toList, String.length_toList] at hfirst

theorem cutAt?_eq_some_iff_divides {output headers body : String} :
    cutAt? ['\n', '\n'] output.toList = some (headers.toList, body.toList) ↔
      Divides output headers body :=
  cutAt?_eq_some_iff.trans divides_iff.symm

/-- Other text behind the headers leaves the cut where it was. -/
theorem Divides.replace {output headers body : String} (h : Divides output headers body)
    (other : String) : Divides (headers ++ "\n\n" ++ other) headers other := by
  have hcut := (divides_iff.mp h).replace other.toList
  rw [divides_iff]
  simpa using hcut

/-! ## Replies -/

theorem classify_undivided {output : String}
    (h : ∀ headers body, output ≠ headers ++ "\n\n" ++ body) (diagnostics : String) :
    classify output diagnostics false = { text := output, value := .str "" } := by
  have hcut : cutAt? ['\n', '\n'] output.toList = none := by
    rw [cutAt?_eq_none_iff]
    intro front behind hcs
    refine h (String.ofList front) (String.ofList behind) ?_
    rw [← String.toList_inj, hcs]
    simp
  rw [classify, if_neg Bool.false_ne_true, hcut]

theorem classify_divided {output headers body : String} (h : Divides output headers body)
    (diagnostics : String) : classify output diagnostics false = replyOf headers body := by
  rw [classify, if_neg Bool.false_ne_true, cutAt?_eq_some_iff_divides.mpr h]
  simp only [String.ofList_toList]

/-- A response has a blank line that is its first one, or it has none. -/
theorem exists_divides (output : String) :
    (∃ headers body, Divides output headers body) ∨
      ∀ headers body, output ≠ headers ++ "\n\n" ++ body := by
  cases hcut : cutAt? ['\n', '\n'] output.toList with
  | some cut =>
      obtain ⟨headers, body⟩ := cut
      refine .inl ⟨String.ofList headers, String.ofList body, ?_⟩
      rw [← cutAt?_eq_some_iff_divides, hcut, String.toList_ofList, String.toList_ofList]
  | none =>
      refine .inr fun headers body heq => cutAt?_eq_none_iff.mp hcut headers.toList body.toList ?_
      rw [heq]
      simp

theorem classified (output diagnostics : String) :
    Classified output (classify output diagnostics false) := by
  rcases exists_divides output with ⟨headers, body, h⟩ | h
  · rw [classify_divided h, replyOf]
    cases hbody : Json.read? body with
    | none =>
        dsimp only
        rw [← h.eq]
        exact .plain h hbody
    | some v => exact .json h hbody
  · rw [classify_undivided h]
    exact .undivided h

/-- A value without floating-point numbers that was read is read again from what is shown. -/
theorem read?_pretty {body : String} {v : Json} (h : Json.read? body = some v)
    (hv : v.Every Json.NotFloat) : Json.read? (Json.render Json.pretty v) = some v := by
  have hread : Json.read body = .ok v := by
    unfold Json.read? at h
    cases hread : Json.read body with
    | error fault =>
        rw [hread] at h
        exact nomatch h
    | ok w =>
        rw [hread] at h
        exact congrArg Except.ok (Option.some.inj h)
  have hwell := Json.wellRead_of_read hread
  rw [Json.read?_render Json.legible_pretty]
  exact Json.reread_eq_self fun p hp => ⟨(hwell p hp).1, (hwell p hp).2, hv p hp⟩

/-- Nothing of a response is lost, and the text that is shown for it is a response with the same
reply, unless its value has floating-point numbers. -/
theorem classify_stable (output diagnostics : String) :
    Classified output (classify output diagnostics false) ∧
      ((classify output diagnostics false).value.Every Json.NotFloat →
        ∀ others, classify (classify output diagnostics false).text others false =
          classify output diagnostics false) := by
  refine ⟨classified output diagnostics, ?_⟩
  have hclassified := classified output diagnostics
  generalize classify output diagnostics false = reply at hclassified ⊢
  intro hvalue others
  cases hclassified with
  | undivided h => exact classify_undivided h others
  | @plain headers body h hbody =>
      rw [classify_divided h, replyOf, hbody]
      dsimp only
      rw [← h.eq]
  | @json headers body v h hbody =>
      rw [classify_divided (h.replace _), replyOf, read?_pretty hbody hvalue]

theorem classify_stable_escapes :
    classify "A: b\n\n\n\x7b\"k\": [-0,\"\\u0022\"]\x7d" "" false =
        { text := "A: b\n\n\x7b\n  \"k\": [\n    0,\n    \"\\\"\"\n  ]\n\x7d"
          value := .obj [("k", .arr [.int 0, .str "\""])] } ∧
      classify "A: b\n\n\x7b\n  \"k\": [\n    0,\n    \"\\\"\"\n  ]\n\x7d" "" false =
        { text := "A: b\n\n\x7b\n  \"k\": [\n    0,\n    \"\\\"\"\n  ]\n\x7d"
          value := .obj [("k", .arr [.int 0, .str "\""])] } := by
  have hfirst : classify "A: b\n\n\n\x7b\"k\": [-0,\"\\u0022\"]\x7d" "" false =
      { text := "A: b\n\n\x7b\n  \"k\": [\n    0,\n    \"\\\"\"\n  ]\n\x7d"
        value := .obj [("k", .arr [.int 0, .str "\""])] } := by
    decide +kernel
  have hstable := (classify_stable "A: b\n\n\n\x7b\"k\": [-0,\"\\u0022\"]\x7d" "").2
  rw [hfirst] at hstable
  exact ⟨hfirst, hstable (by decide) ""⟩

end Foldbook.Http
