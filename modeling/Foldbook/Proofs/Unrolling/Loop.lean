import Foldbook.Proofs.Unrolling.Copies

/-!
# A loop and its unrolling

A loop that makes a number of rounds does what a document does in which its
block stands as many times, under a start line that is plain.

* `LoopBlock.Unrolls` says in which respects: the state, the questions about
  anything but conditions, the verdicts in front of the rounds, and the
  statuses of the copies.
* `LoopBlock.unrolls`: every properly nested block does, from every state from
  which the loop ends by itself.
-/

namespace Foldbook

open Text

variable {σ τ : Type} {seen : σ → τ} {s : Services (StateM σ)}

/-- The loop does from a state what as many copies of its block do as it makes rounds; `texts` are
the renderings of the copies. -/
structure LoopBlock.Unrolls (s : Services (StateM σ)) (seen : σ → τ) (block : LoopBlock) (state : σ)
    (texts : List String) : Prop where
  rounds : (answered (block.runAlone s.recording {}) state).rounds = texts.length
  /-- The state behind the loop is that behind the copies. -/
  behind : seen (stateBehind (block.runAlone s.recording {}) state) =
    seen (stateBehind (Document.runLines s.recording (block.unrolled texts.length)) state)
  /-- The same assignments are made, the same requests are sent and the same responses are kept. -/
  questions : (asked (block.runAlone s.recording {}) state).filter (!·.decides) =
    (asked (Document.runLines s.recording (block.unrolled texts.length)) state).filter (!·.decides)
  /-- In front of each copy the condition comes out as `true`. -/
  verdicts : ∀ i < texts.length, ((s.condition block.condition).run
    (stateBehind (Document.runLines s.recording (block.unrolled i)) state)).1 = .ok "true"
  renderings : ∀ i ≤ texts.length,
    answered (Document.runLines s.recording (block.unrolled i)) state =
      "\n".intercalate (texts.take i)
  /-- All copies but the last one succeed. -/
  succeeded : ∀ text ∈ texts.dropLast, startsWith text (copyHeader false) = true
  /-- The loop fails exactly if the last copy does, or the condition behind it. -/
  failed : (answered (block.runAlone s.recording {}) state).failed = true ↔
    (∃ text ∈ texts.getLast?, startsWith text (copyHeader true) = true) ∨
      ∃ e, ((s.condition block.condition).run (stateBehind
        (Document.runLines s.recording (block.unrolled texts.length)) state)).1 = .error e

/-- Texts that are not empty are added below each other. -/
theorem foldl_addLine_of_headed {texts : List String}
    (h : ∀ text ∈ texts, ∃ failed, startsWith text (copyHeader failed) = true) :
    texts.foldl addLine "" = "\n".intercalate texts := by
  rw [foldl_addLine_eq_joinSegments]
  cases texts with
  | nil => rfl
  | cons text texts =>
      obtain ⟨failed, hheader⟩ := h text List.mem_cons_self
      refine joinSegments_cons_of_ne_empty ?_ texts
      rintro rfl
      cases failed <;> exact absurd hheader (by decide)

namespace LoopBlock

variable {block : LoopBlock} {body : List String} {ending : String}

/-- The copies of a block as a document. -/
theorem WellNested.runLines_unrolled (h : block.WellNested body ending) (count : Nat)
    {state : σ} {out : String}
    (hanswer : answered (runCopies s (itemsUnder "###\x7b x" body ending) count "") state =
      { out, stack := [] }) :
    answered (Document.runLines s.recording (block.unrolled count)) state = out ∧
      asked (Document.runLines s.recording (block.unrolled count)) state =
        asked (runCopies s (itemsUnder "###\x7b x" body ending) count "") state ∧
      stateBehind (Document.runLines s.recording (block.unrolled count)) state =
        stateBehind (runCopies s (itemsUnder "###\x7b x" body ending) count "") state := by
  have hsim := simulates_appends s
  have hrun : Document.runLines s.recording (block.unrolled count) =
      runCopies s (itemsUnder "###\x7b x" body ending) count "" >>= fun p =>
        p.finish s.recording := by
    rw [Document.runLines, h.ofLines_unrolled]
    rfl
  have hcopies : Appends (runCopies s (itemsUnder "###\x7b x" body ending) count "") :=
    hsim.runAll _ _
  rw [hrun, answered_bind hsim.finish hcopies, asked_bind hsim.finish hcopies,
    stateBehind_bind hsim.finish hcopies, hanswer, Progress.finish_outside, answered_pure, asked_pure,
    stateBehind_pure, List.append_nil]
  exact ⟨rfl, rfl, rfl⟩

/-- A loop equals its unrolling.  Its block is properly nested, the services look at a part of the
state only, which filling in the loop's own condition does not change, and the loop is not ended by
the limit of rounds.  The conditions of loops inside of the block may change what is looked at. -/
theorem unrolls (hs : s.LooksAt seen)
    (hlocal : ∀ state, seen ((s.condition block.condition).run state).2 = seen state)
    (h : block.WellNested body ending) (state : σ)
    (hrounds : (answered (block.runAlone s.recording {}) state).rounds < s.rounds) :
    ∃ texts, block.Unrolls s seen state texts := by
  obtain ⟨texts, hcopies, hfailed⟩ := exists_copies hs hlocal
    ((simulates_appends s).runLines block.lines true) (h.repeats hs) s.rounds (r := {}) rfl
    (rfl : seen state = seen state) ""
  have hlength : (answered (block.runAlone s.recording {}) state).rounds = texts.length :=
    hcopies.rounds.trans (Nat.zero_add _)
  have hlast := hfailed (hlength ▸ hrounds)
  have hunrolled (i : Nat) (hi : i ≤ texts.length) := h.runLines_unrolled i (hcopies.renderings i hi)
  obtain ⟨-, hasked, hbehind⟩ := hunrolled texts.length (Nat.le_refl _)
  refine ⟨texts, hlength, ?_, ?_, ?_, ?_, hcopies.succeeded, ?_⟩
  · rw [hbehind]
    exact hcopies.behind
  · rw [hasked]
    exact hcopies.questions
  · intro i hi
    rw [(hunrolled i (Nat.le_of_lt hi)).2.2]
    exact hcopies.verdicts i hi
  · intro i hi
    rw [(hunrolled i hi).1]
    exact foldl_addLine_of_headed fun text htext => hcopies.headed text (List.mem_of_mem_take htext)
  · rw [hbehind]
    exact hlast

end LoopBlock

/-! ## A loop that counts -/

/-- Services that count the assignments and answer conditions with `true` up to the second one. -/
def countingServices : Services (StateM Nat) where
  assign _ := modifyGet fun count => (.ok "", count + 1)
  send _ _ _ := pure (.ok { text := "", value := .null })
  capture _ _ := pure (.ok ())
  condition _ := do return .ok (if (← get) < 2 then "true" else "false")
  note _ := pure ()
  rounds := 5

/-- A loop around a fold with a request and around an assignment. -/
def countingLoop : LoopBlock where
  condition := "c"
  first := "###\x7b while c"
  rest := ["###\x7b y", "GET a", "###\x7d", "@i = 1", "###\x7d endwhile"]

theorem unrolls_countingLoop :
    ∃ texts, texts.length = 2 ∧ countingLoop.Unrolls countingServices id 0 texts := by
  have hlooks : countingServices.LooksAt id :=
    { assign := fun _ _ _ hab => ⟨rfl, congrArg (· + 1) hab⟩
      send := fun _ _ _ _ _ hab => ⟨rfl, hab⟩
      capture := fun _ _ _ _ hab => ⟨rfl, hab⟩
      condition := fun text _ _ hab =>
        ⟨congrArg (fun count => ((countingServices.condition text).run count).1) hab, hab⟩
      note := fun _ _ => rfl }
  have hbody : Item.ofLines false ["###\x7b y", "GET a", "###\x7d", "@i = 1"] =
      [.line "###\x7b y", .line "GET a", .line "###\x7d", .line "@i = 1"] := by
    have htrim : ["###\x7b y", "GET a", "###\x7d", "@i = 1"].map trimEnd =
        ["###\x7b y", "GET a", "###\x7d", "@i = 1"] := by decide
    rw [Item.ofLines_of_loopless false (by decide), ← Function.comp_def, ← List.map_map, htrim]
    rfl
  have hnested : countingLoop.WellNested ["###\x7b y", "GET a", "###\x7d", "@i = 1"]
      "###\x7d endwhile" := by
    refine ⟨by decide, by decide, rfl, by decide, by decide, ?_⟩
    rw [hbody]
    decide
  have hrounds : (answered (countingLoop.runAlone countingServices.recording {}) 0).rounds = 2 := by
    rw [LoopBlock.runAlone, Document.runLines, hnested.ofLines_lines, LoopBlock.itemsUnder, hbody]
    decide +kernel
  obtain ⟨texts, htexts⟩ := LoopBlock.unrolls hlooks (fun _ => rfl) hnested 0
    (by rw [hrounds]; decide)
  exact ⟨texts, htexts.rounds.symm.trans hrounds, htexts⟩

end Foldbook
