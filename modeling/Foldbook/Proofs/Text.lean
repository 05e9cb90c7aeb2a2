import Foldbook.Text.Blank
import Foldbook.Text.Lines

/-!
# Lines, marks and blanks

Facts about the text functions that every later module reads documents with.

* Marks.  `dropPrefix?` finds a mark exactly when the text is the mark and
  the rest, and `startsWith` is the same fact as a test.  `cutAt?` cuts at
  the first place where a mark stands (`FirstCut`).
* Blanks in front.  `afterBlanks` skips as many of them as it can
  (`isSome_afterBlanks_iff`, `of_afterBlanks`).
* Lines.  `splitLines` and `unlines` undo each other, and `documentLines`
  drops one final line feed.
* Closed texts end with a line.  `closedLines` are the lines of such a text,
  and those of any other text can follow them.
* Text that grows by lines.  `addLine` is how a document grows outside of
  folds.  `splitLines_foldl_addLine` reads the lines back.
* Trimming keeps the beginning of a line.
-/

namespace Foldbook.Text

/-! ## Marks -/

theorem dropPrefix?_eq_some_iff {mark cs rest : List Char} :
    dropPrefix? mark cs = some rest ↔ cs = mark ++ rest := by
  induction mark generalizing cs with
  | nil => simp [dropPrefix?]
  | cons c mark ih =>
      cases cs with
      | nil => simp [dropPrefix?]
      | cons d cs =>
          rw [dropPrefix?]
          split
          · rename_i heq
            rw [ih, List.cons_append, List.cons.injEq]
            exact ⟨fun h => ⟨heq.symm, h⟩, fun h => h.2⟩
          · rename_i hne
            simp only [reduceCtorEq, List.cons_append, List.cons.injEq, false_iff]
            intro h
            exact hne h.1.symm

@[simp] theorem dropPrefix?_append (mark rest : List Char) :
    dropPrefix? mark (mark ++ rest) = some rest :=
  dropPrefix?_eq_some_iff.mpr rfl

theorem dropPrefix?_eq_none_iff {mark cs : List Char} :
    dropPrefix? mark cs = none ↔ ¬mark <+: cs := by
  constructor
  · rintro h ⟨rest, hcs⟩
    rw [dropPrefix?_eq_some_iff.mpr hcs.symm] at h
    exact absurd h (by simp)
  · intro h
    cases hrest : dropPrefix? mark cs with
    | none => rfl
    | some rest => exact absurd ⟨rest, (dropPrefix?_eq_some_iff.mp hrest).symm⟩ h

theorem startsWith_iff {s mark : String} :
    startsWith s mark = true ↔ mark.toList <+: s.toList := by
  unfold startsWith
  cases h : dropPrefix? mark.toList s.toList with
  | none => simpa using dropPrefix?_eq_none_iff.mp h
  | some rest =>
      simp only [Option.isSome_some, true_iff]
      exact ⟨rest, (dropPrefix?_eq_some_iff.mp h).symm⟩

theorem startsWith_append (mark rest : String) : startsWith (mark ++ rest) mark = true := by
  rw [startsWith_iff, String.toList_append]
  exact List.prefix_append _ _

/-- A text cannot begin with two marks of which neither begins the other. -/
theorem startsWith_eq_false_of_startsWith {s mark other : String}
    (h : startsWith s mark = true) (hmark : ¬mark.toList <+: other.toList)
    (hother : ¬other.toList <+: mark.toList) : startsWith s other = false := by
  rw [Bool.eq_false_iff]
  intro hs
  rcases List.prefix_or_prefix_of_prefix (startsWith_iff.mp h) (startsWith_iff.mp hs) with hp | hp
  · exact hmark hp
  · exact hother hp

/-! ## Where a mark stands first -/

/-- `mark` stands in a text behind `before` and in front of `rest`, and nowhere earlier. -/
structure FirstCut (mark before rest cs : List Char) : Prop where
  eq : cs = before ++ mark ++ rest
  first : ∀ front behind, cs = front ++ mark ++ behind → before.length ≤ front.length

theorem FirstCut.cons {mark before rest cs : List Char} (h : FirstCut mark before rest cs) {c : Char}
    (hmark : ¬mark <+: c :: cs) : FirstCut mark (c :: before) rest (c :: cs) where
  eq := by rw [h.eq, List.cons_append, List.cons_append]
  first front behind hcs := by
    rcases front with _ | ⟨d, front⟩
    · exact absurd ⟨behind, hcs.symm⟩ hmark
    · rw [List.cons_append, List.cons_append, List.cons.injEq] at hcs
      exact Nat.succ_le_succ (h.first front behind hcs.2)

theorem FirstCut.tail {mark before rest cs : List Char} {c : Char}
    (h : FirstCut mark (c :: before) rest (c :: cs)) : FirstCut mark before rest cs where
  eq := by simpa using h.eq
  first front behind hcs := by
    have hlater := h.first (c :: front) behind (by rw [hcs, List.cons_append, List.cons_append])
    exact Nat.le_of_succ_le_succ hlater

/-- The first occurrence of a mark is found, and what is found is the first one. -/
theorem cutAt?_eq_some_iff {mark before rest cs : List Char} :
    cutAt? mark cs = some (before, rest) ↔ FirstCut mark before rest cs := by
  induction cs generalizing before with
  | nil =>
      cases mark with
      | nil =>
          simp only [cutAt?, List.isEmpty_nil, if_true, Option.some.injEq, Prod.mk.injEq]
          constructor
          · rintro ⟨rfl, rfl⟩
            exact ⟨rfl, fun _ _ _ => Nat.zero_le _⟩
          · intro h
            simpa using h.eq
      | cons c mark =>
          have hnone : cutAt? (c :: mark) [] = none := rfl
          simp only [hnone, reduceCtorEq, false_iff]
          intro h
          simpa using h.eq
  | cons c cs ih =>
      rw [cutAt?]
      cases hdrop : dropPrefix? mark (c :: cs) with
      | some behind =>
          have hcs := dropPrefix?_eq_some_iff.mp hdrop
          simp only [Option.some.injEq, Prod.mk.injEq]
          constructor
          · rintro ⟨rfl, rfl⟩
            exact ⟨hcs, fun _ _ _ => Nat.zero_le _⟩
          · intro h
            obtain rfl : before = [] :=
              List.length_eq_zero_iff.mp (Nat.le_zero.mp (h.first [] behind hcs))
            exact ⟨rfl, List.append_cancel_left (hcs.symm.trans h.eq)⟩
      | none =>
          have hmark := dropPrefix?_eq_none_iff.mp hdrop
          simp only [Option.map_eq_some_iff, Prod.mk.injEq, Prod.exists]
          constructor
          · rintro ⟨front, behind, hcut, rfl, rfl⟩
            exact (ih.mp hcut).cons hmark
          · intro h
            rcases before with _ | ⟨d, before⟩
            · exact absurd ⟨rest, h.eq.symm⟩ hmark
            · obtain rfl : c = d := by simpa using congrArg List.head? h.eq
              exact ⟨before, rest, ih.mpr h.tail, rfl, rfl⟩

theorem isSome_cutAt?_append (mark front behind : List Char) :
    (cutAt? mark (front ++ mark ++ behind)).isSome = true := by
  induction front with
  | nil =>
      rw [List.nil_append]
      cases hcs : mark ++ behind with
      | nil =>
          obtain rfl : mark = [] := (List.append_eq_nil_iff.mp hcs).1
          rfl
      | cons c cs => rw [cutAt?, ← hcs, dropPrefix?_append, Option.isSome_some]
  | cons c front ih =>
      rw [List.cons_append, List.cons_append, cutAt?]
      split
      · rfl
      · rw [Option.isSome_map, ih]

theorem cutAt?_eq_none_iff {mark cs : List Char} :
    cutAt? mark cs = none ↔ ∀ front behind, cs ≠ front ++ mark ++ behind := by
  constructor
  · rintro h front behind rfl
    have hsome := isSome_cutAt?_append mark front behind
    rw [h] at hsome
    exact absurd hsome (by simp)
  · intro h
    cases hcut : cutAt? mark cs with
    | none => rfl
    | some cut => exact absurd (cutAt?_eq_some_iff.mp hcut).eq (h _ _)

/-- The text in front of a mark goes on to be in front of it whatever stands behind. -/
theorem FirstCut.replace {mark before rest cs : List Char} (h : FirstCut mark before rest cs)
    (other : List Char) : FirstCut mark before other (before ++ mark ++ other) where
  eq := rfl
  first front behind hcs := by
    -- an earlier mark would lie in what both texts begin with
    refine Nat.le_of_not_lt fun hlt => ?_
    have hprefix : front ++ mark <+: before ++ mark := by
      refine List.prefix_of_prefix_length_le ⟨behind, hcs.symm⟩ (List.prefix_append _ other) ?_
      simp only [List.length_append]
      omega
    obtain ⟨more, hmore⟩ := hprefix
    refine Nat.not_le_of_lt hlt (h.first front (more ++ rest) ?_)
    rw [h.eq, ← hmore, List.append_assoc]

/-- A single character is first where it has not stood before. -/
theorem firstCut_singleton_iff {c : Char} {before rest cs : List Char} :
    FirstCut [c] before rest cs ↔ cs = before ++ c :: rest ∧ c ∉ before := by
  constructor
  · intro h
    have hcs : cs = before ++ c :: rest := by simpa using h.eq
    refine ⟨hcs, fun hmem => ?_⟩
    obtain ⟨front, behind, rfl⟩ := List.append_of_mem hmem
    have hlength := h.first front (behind ++ c :: rest) (by simp [hcs])
    simp only [List.length_append, List.length_cons] at hlength
    omega
  · rintro ⟨rfl, hnotMem⟩
    refine ⟨by simp, fun front behind hcs => Nat.le_of_not_lt fun hlt => hnotMem ?_⟩
    -- an earlier one would be among the characters in front
    have hprefix : front ++ [c] <+: before := by
      refine List.prefix_of_prefix_length_le ⟨behind, hcs.symm⟩ (List.prefix_append _ _) ?_
      simp only [List.length_append, List.length_singleton]
      omega
    exact hprefix.subset (List.mem_append_right _ List.mem_cons_self)

/-! ## Blanks in front -/

/-- Blanks are dropped up to the first other character. -/
theorem dropWhile_blanks_append {blanks : List Char} (h : ∀ b ∈ blanks, isBlank b = true) {c : Char}
    (hc : isBlank c = false) (rest : List Char) :
    (blanks ++ c :: rest).dropWhile isBlank = c :: rest := by
  rw [List.dropWhile_append_of_pos h, List.dropWhile_cons_of_neg (by simp [hc])]

/-- Behind blanks a reader succeeds if it does behind some of them. -/
theorem isSome_afterBlanks_iff {α : Type} {next : List Char → Option α} {cs : List Char} :
    (afterBlanks next cs).isSome = true ↔ ∃ blanks rest, cs = blanks ++ rest ∧
      (∀ c ∈ blanks, isBlank c = true) ∧ (next rest).isSome = true := by
  induction cs with
  | nil =>
      rw [afterBlanks]
      constructor
      · intro h
        exact ⟨[], [], rfl, List.forall_mem_nil _, h⟩
      · rintro ⟨blanks, rest, hnil, -, hnext⟩
        rwa [(List.append_eq_nil_iff.mp hnil.symm).2] at hnext
  | cons c cs ih =>
      rw [afterBlanks]
      constructor
      · intro h
        split at h
        · rename_i hc
          rw [Option.isSome_or, Bool.or_eq_true, ih] at h
          rcases h with ⟨blanks, rest, rfl, hblanks, hnext⟩ | hnext
          · exact ⟨c :: blanks, rest, rfl, List.forall_mem_cons.mpr ⟨hc, hblanks⟩, hnext⟩
          · exact ⟨[], c :: cs, rfl, List.forall_mem_nil _, hnext⟩
        · exact ⟨[], c :: cs, rfl, List.forall_mem_nil _, h⟩
      · rintro ⟨blanks, rest, hcs, hblanks, hnext⟩
        cases blanks with
        | nil =>
            obtain rfl : c :: cs = rest := hcs
            split
            · rw [Option.isSome_or, hnext, Bool.or_true]
            · exact hnext
        | cons b blanks =>
            obtain ⟨rfl, rfl⟩ := List.cons.inj hcs
            obtain ⟨hb, hblanks⟩ := List.forall_mem_cons.mp hblanks
            rw [if_pos hb, Option.isSome_or, ih.mpr ⟨blanks, rest, rfl, hblanks, hnext⟩,
              Bool.true_or]

/-- A reader behind blanks reads behind as many of them as it can. -/
theorem of_afterBlanks {α : Type} {next : List Char → Option α} {cs : List Char} {a : α}
    (h : afterBlanks next cs = some a) :
    ∃ blanks rest, cs = blanks ++ rest ∧ (∀ c ∈ blanks, isBlank c = true) ∧ next rest = some a ∧
      ∀ more behind, rest = more ++ behind → (∀ c ∈ more, isBlank c = true) → more ≠ [] →
        next behind = none := by
  induction cs with
  | nil =>
      refine ⟨[], [], rfl, List.forall_mem_nil _, h, fun more behind hnil _ hne => ?_⟩
      exact absurd (List.append_eq_nil_iff.mp hnil.symm).1 hne
  | cons c cs ih =>
      rw [afterBlanks] at h
      split at h
      · rename_i hc
        rw [Option.or_eq_some_iff] at h
        rcases h with h | ⟨hnone, h⟩
        · obtain ⟨blanks, rest, rfl, hblanks, hnext, hlongest⟩ := ih h
          exact ⟨c :: blanks, rest, rfl, List.forall_mem_cons.mpr ⟨hc, hblanks⟩, hnext, hlongest⟩
        · refine ⟨[], c :: cs, rfl, List.forall_mem_nil _, h, fun more behind hcs hmore hne => ?_⟩
          obtain ⟨d, more, rfl⟩ := List.exists_cons_of_ne_nil hne
          obtain ⟨rfl, rfl⟩ := List.cons.inj hcs
          rw [← Option.not_isSome_iff_eq_none] at hnone ⊢
          intro hbehind
          exact hnone (isSome_afterBlanks_iff.mpr
            ⟨more, behind, rfl, (List.forall_mem_cons.mp hmore).2, hbehind⟩)
      · rename_i hc
        refine ⟨[], c :: cs, rfl, List.forall_mem_nil _, h, fun more behind hcs hmore hne => ?_⟩
        obtain ⟨d, more, rfl⟩ := List.exists_cons_of_ne_nil hne
        obtain ⟨rfl, -⟩ := List.cons.inj hcs
        exact absurd (hmore c List.mem_cons_self) hc

/-- Behind at least one blank a reader succeeds if it does behind some run of blanks. -/
theorem isSome_afterSomeBlanks_iff {α : Type} {next : List Char → Option α} {cs : List Char} :
    (afterSomeBlanks next cs).isSome = true ↔ ∃ blanks rest, cs = blanks ++ rest ∧
      blanks ≠ [] ∧ (∀ c ∈ blanks, isBlank c = true) ∧ (next rest).isSome = true := by
  cases cs with
  | nil =>
      simp only [afterSomeBlanks, Option.isSome_none, Bool.false_eq_true, false_iff]
      rintro ⟨blanks, rest, hnil, hne, -⟩
      exact hne (List.append_eq_nil_iff.mp hnil.symm).1
  | cons c cs =>
      rw [afterSomeBlanks]
      constructor
      · intro h
        split at h
        · rename_i hc
          obtain ⟨blanks, rest, rfl, hblanks, hnext⟩ := isSome_afterBlanks_iff.mp h
          exact ⟨c :: blanks, rest, rfl, List.cons_ne_nil _ _,
            List.forall_mem_cons.mpr ⟨hc, hblanks⟩, hnext⟩
        · cases h
      · rintro ⟨blanks, rest, hcs, hne, hblanks, hnext⟩
        obtain ⟨b, blanks, rfl⟩ := List.exists_cons_of_ne_nil hne
        obtain ⟨rfl, rfl⟩ := List.cons.inj hcs
        obtain ⟨hc, hblanks⟩ := List.forall_mem_cons.mp hblanks
        rw [if_pos hc]
        exact isSome_afterBlanks_iff.mpr ⟨blanks, rest, rfl, hblanks, hnext⟩

theorem of_afterSomeBlanks {α : Type} {next : List Char → Option α} {cs : List Char} {a : α}
    (h : afterSomeBlanks next cs = some a) :
    ∃ blanks rest, cs = blanks ++ rest ∧ blanks ≠ [] ∧ (∀ c ∈ blanks, isBlank c = true) ∧
      next rest = some a ∧
      ∀ more behind, rest = more ++ behind → (∀ c ∈ more, isBlank c = true) → more ≠ [] →
        next behind = none := by
  cases cs with
  | nil => cases h
  | cons c cs =>
      rw [afterSomeBlanks] at h
      split at h
      · rename_i hc
        obtain ⟨blanks, rest, rfl, hblanks, hread⟩ := of_afterBlanks h
        exact ⟨c :: blanks, rest, rfl, List.cons_ne_nil _ _,
          List.forall_mem_cons.mpr ⟨hc, hblanks⟩, hread⟩
      · cases h

/-! ## Lines -/

theorem pieces_of_notMem {sep : Char} {cs : List Char} (h : sep ∉ cs) : pieces sep cs = [cs] := by
  induction cs with
  | nil => rfl
  | cons c cs ih =>
      simp only [List.mem_cons, not_or] at h
      rw [pieces, if_neg (Ne.symm h.1), ih h.2]

/-- The separator ends the last piece before it and begins a new one. -/
theorem pieces_append (sep : Char) (cs rest : List Char) :
    pieces sep (cs ++ sep :: rest) = pieces sep cs ++ pieces sep rest := by
  induction cs with
  | nil => simp [pieces]
  | cons c cs ih =>
      rw [List.cons_append, pieces, pieces, ih]
      split
      · rfl
      · cases hp : pieces sep cs with
        | nil => exact absurd hp (pieces_ne_nil sep cs)
        | cons p ps => rfl

theorem notMem_of_mem_pieces {sep : Char} {cs piece : List Char} (h : piece ∈ pieces sep cs) :
    sep ∉ piece := by
  induction cs generalizing piece with
  | nil =>
      simp only [pieces, List.mem_singleton] at h
      simp [h]
  | cons c cs ih =>
      unfold pieces at h
      split at h
      · rcases List.mem_cons.mp h with rfl | h
        · simp
        · exact ih h
      · rename_i hc
        cases hp : pieces sep cs with
        | nil => exact absurd hp (pieces_ne_nil sep cs)
        | cons p ps =>
            simp only [hp] at h ih
            rcases List.mem_cons.mp h with rfl | h
            · have hsep := ih List.mem_cons_self
              simp only [List.mem_cons, not_or]
              exact ⟨Ne.symm hc, hsep⟩
            · exact ih (List.mem_cons_of_mem _ h)

/-- The text holds no line feed. -/
def OneLine (s : String) : Prop := '\n' ∉ s.toList

instance (s : String) : Decidable (OneLine s) := inferInstanceAs (Decidable ('\n' ∉ s.toList))

theorem OneLine.append {s t : String} (hs : OneLine s) (ht : OneLine t) : OneLine (s ++ t) := by
  unfold OneLine at *
  simp [hs, ht]

theorem oneLine_of_mem_splitLines {s line : String} (h : line ∈ splitLines s) : OneLine line := by
  unfold splitLines at h
  obtain ⟨piece, hpiece, rfl⟩ := List.mem_map.mp h
  unfold OneLine
  rw [String.toList_ofList]
  exact notMem_of_mem_pieces hpiece

theorem oneLine_of_mem_documentLines {s line : String} (h : line ∈ documentLines s) :
    OneLine line := by
  unfold documentLines at h
  simp only at h
  split at h
  · obtain ⟨piece, hpiece, rfl⟩ := List.mem_map.mp h
    unfold OneLine
    rw [String.toList_ofList]
    exact notMem_of_mem_pieces hpiece
  · exact oneLine_of_mem_splitLines h

theorem splitLines_of_oneLine {s : String} (h : OneLine s) : splitLines s = [s] := by
  rw [splitLines, pieces_of_notMem h, List.map_singleton, String.ofList_toList]

theorem splitLines_append (s rest : String) :
    splitLines (s ++ "\n" ++ rest) = splitLines s ++ splitLines rest := by
  have hchars : (s ++ "\n" ++ rest).toList = s.toList ++ '\n' :: rest.toList := by simp
  rw [splitLines, hchars, pieces_append, List.map_append]
  rfl

theorem documentLines_append_newline (s : String) : documentLines (s ++ "\n") = splitLines s := by
  simp [documentLines, splitLines]

@[simp] theorem unlines_nil : unlines [] = "" := rfl

@[simp] theorem unlines_cons (line : String) (lines : List String) :
    unlines (line :: lines) = line ++ "\n" ++ unlines lines := rfl

theorem unlines_append (xs ys : List String) : unlines (xs ++ ys) = unlines xs ++ unlines ys := by
  induction xs with
  | nil => simp
  | cons x xs ih => simp only [List.cons_append, unlines_cons, ih, String.append_assoc]

/-- Without carriage returns the line ends are what they are. -/
theorem unifyNewlines_of_notMem {cs : List Char} (h : '\r' ∉ cs) : unifyNewlines cs = cs := by
  induction cs with
  | nil => rfl
  | cons c cs ih =>
      simp only [List.mem_cons, not_or] at h
      obtain ⟨hc, hcs⟩ := h
      rw [unifyNewlines, ih hcs]
      · rintro rest rfl _
        exact hc rfl
      · rintro rfl
        exact hc rfl

/-! ## Closed texts -/

/-- The lines of a text of which a final line feed ends the last one. -/
def closedLines (s : String) : List String :=
  if endsOpen s then splitLines s else (splitLines s).dropLast

theorem closedLines_subset (s : String) : closedLines s ⊆ splitLines s := by
  unfold closedLines
  split
  · exact List.Subset.refl _
  · exact List.dropLast_subset _

theorem unlines_splitLines (s : String) : unlines (splitLines s) = s ++ "\n" := by
  have hchars : ∀ cs, unlines ((pieces '\n' cs).map String.ofList) = String.ofList cs ++ "\n" := by
    intro cs
    induction cs with
    | nil => rfl
    | cons c cs ih =>
        rw [pieces]
        split
        · rename_i hc
          subst hc
          rw [List.map_cons, unlines_cons, ih, ← String.toList_inj]
          simp
        · cases hp : pieces '\n' cs with
          | nil => exact absurd hp (pieces_ne_nil _ cs)
          | cons p ps =>
              rw [hp, List.map_cons, unlines_cons] at ih
              rw [List.map_cons, unlines_cons, ← String.toList_inj]
              rw [← String.toList_inj] at ih
              simpa using ih
  rw [splitLines, hchars, String.ofList_toList]

theorem eq_append_newline_of_endsOpen {s : String} (h : endsOpen s = false) :
    s = "" ∨ ∃ front, s = front ++ "\n" := by
  rcases List.eq_nil_or_concat s.toList with hnil | ⟨front, c, hs⟩
  · exact Or.inl (String.toList_eq_nil_iff.mp hnil)
  · refine Or.inr ⟨String.ofList front, ?_⟩
    have hc : c = '\n' := by simpa [endsOpen, hs] using h
    rw [← String.toList_inj, hs, hc]
    simp

theorem closedLines_append_newline (s : String) : closedLines (s ++ "\n") = splitLines s := by
  have hsplit : splitLines (s ++ "\n") = splitLines s ++ [""] := by
    simpa [splitLines, pieces] using splitLines_append s ""
  rw [closedLines, endsOpen_append_newline, if_neg Bool.false_ne_true, hsplit,
    List.dropLast_concat]

theorem closeLine_eq_unlines (s : String) : closeLine s = unlines (closedLines s) := by
  unfold closeLine
  split
  · rename_i hopen
    rw [closedLines, if_pos hopen, unlines_splitLines]
  · rename_i hopen
    rcases eq_append_newline_of_endsOpen (by simpa using hopen) with rfl | ⟨front, rfl⟩
    · rfl
    · rw [closedLines_append_newline, unlines_splitLines]

theorem closeLine_of_closed {s : String} (h : endsOpen s = false) : closeLine s = s := by
  rw [closeLine, h]
  rfl

theorem unlines_closedLines {s : String} (h : endsOpen s = false) :
    unlines (closedLines s) = s := by
  rw [← closeLine_eq_unlines, closeLine_of_closed h]

theorem endsOpen_append {s t : String} (hs : endsOpen s = false) (ht : endsOpen t = false) :
    endsOpen (s ++ t) = false := by
  rcases eq_append_newline_of_endsOpen ht with rfl | ⟨front, rfl⟩
  · rwa [String.append_empty]
  · rw [← String.append_assoc, endsOpen_append_newline]

/-- Behind a closed text the lines of any text can follow. -/
theorem splitLines_append_of_closed {s : String} (h : endsOpen s = false) (rest : String) :
    splitLines (s ++ rest) = closedLines s ++ splitLines rest := by
  rcases eq_append_newline_of_endsOpen h with rfl | ⟨front, rfl⟩
  · rw [String.empty_append]
    rfl
  · rw [splitLines_append, closedLines_append_newline]

theorem closedLines_newline_append (line : String) {rest : String} (h : endsOpen rest = false) :
    closedLines (line ++ "\n" ++ rest) = splitLines line ++ closedLines rest := by
  rcases eq_append_newline_of_endsOpen h with rfl | ⟨front, rfl⟩
  · rw [String.append_empty, closedLines_append_newline]
    exact (List.append_nil _).symm
  · rw [← String.append_assoc, closedLines_append_newline, closedLines_append_newline,
      splitLines_append]

theorem endsOpen_unlines (lines : List String) : endsOpen (unlines lines) = false := by
  induction lines with
  | nil => rfl
  | cons line lines ih => exact endsOpen_append (endsOpen_append_newline line) ih

theorem closedLines_unlines (lines : List String) :
    closedLines (unlines lines) = lines.flatMap splitLines := by
  induction lines with
  | nil => rfl
  | cons line lines ih =>
      rw [unlines_cons, closedLines_newline_append line (endsOpen_unlines lines), ih,
        List.flatMap_cons]

theorem closedLines_unlines_of_oneLine {lines : List String} (h : ∀ line ∈ lines, OneLine line) :
    closedLines (unlines lines) = lines := by
  rw [closedLines_unlines]
  induction lines with
  | nil => rfl
  | cons line lines ih =>
      obtain ⟨hline, hlines⟩ := List.forall_mem_cons.mp h
      rw [List.flatMap_cons, splitLines_of_oneLine hline, ih hlines, List.singleton_append]

/-! ## Text that grows by lines -/

/-- Adds a line below the text, or begins it. -/
def addLine (out line : String) : String := (if out.isEmpty then "" else out ++ "\n") ++ line

@[simp] theorem addLine_empty (line : String) : addLine "" line = line := by
  simp [addLine]

theorem addLine_of_ne_empty {out : String} (h : out ≠ "") (line : String) :
    addLine out line = out ++ "\n" ++ line := by
  rw [addLine, if_neg (by simpa using h)]

theorem addLine_ne_empty {line : String} (h : line ≠ "") (out : String) :
    addLine out line ≠ "" := by
  unfold addLine
  intro hempty
  exact h (String.append_eq_empty_iff.mp hempty).2

/-- Several lines added to a text that has begun. -/
theorem foldl_addLine_of_ne_empty {out : String} (h : out ≠ "") (lines : List String)
    (last : String) :
    (lines ++ [last]).foldl addLine out = out ++ "\n" ++ unlines lines ++ last := by
  induction lines generalizing out with
  | nil => simp [addLine_of_ne_empty h]
  | cons line lines ih =>
      have hne : out ++ "\n" ++ line ≠ "" := by simp [String.append_eq_empty_iff, h]
      rw [List.cons_append, List.foldl_cons, addLine_of_ne_empty h, ih hne, unlines_cons]
      simp only [String.append_assoc]

/-- A block of lines is added at once or line by line. -/
theorem foldl_addLine_unlines {first : String} (h : first ≠ "") (out : String)
    (lines : List String) (last : String) :
    (first :: lines ++ [last]).foldl addLine out =
      addLine out (unlines (first :: lines) ++ last) := by
  rw [List.cons_append, List.foldl_cons, foldl_addLine_of_ne_empty (addLine_ne_empty h out)]
  simp only [addLine, unlines_cons, String.append_assoc]

theorem splitLines_foldl_addLine {out : String} (h : out ≠ "") {lines : List String}
    (hlines : ∀ line ∈ lines, OneLine line) :
    splitLines (lines.foldl addLine out) = splitLines out ++ lines := by
  induction lines generalizing out with
  | nil => simp
  | cons line lines ih =>
      have hline : OneLine line := hlines line List.mem_cons_self
      have hne : out ++ "\n" ++ line ≠ "" := by simp [String.append_eq_empty_iff, h]
      rw [List.foldl_cons, addLine_of_ne_empty h,
        ih hne fun l hl => hlines l (List.mem_cons_of_mem _ hl), splitLines_append,
        splitLines_of_oneLine hline, List.append_assoc, List.singleton_append]

/-! ## Trimming -/

/-- Trimming takes nothing but blanks, and only off the end. -/
theorem exists_dropBlanksEnd_append (cs : List Char) :
    ∃ blanks, (∀ c ∈ blanks, isBlank c = true) ∧ cs = dropBlanksEnd cs ++ blanks := by
  induction cs with
  | nil => exact ⟨[], by simp, rfl⟩
  | cons c cs ih =>
      obtain ⟨blanks, hblanks, hcs⟩ := ih
      rw [dropBlanksEnd_cons]
      split
      · rename_i hnil
        rw [hnil, List.nil_append] at hcs
        split
        · rename_i hc
          refine ⟨c :: cs, ?_, rfl⟩
          rw [hcs]
          simpa [hc] using hblanks
        · exact ⟨cs, hcs ▸ hblanks, rfl⟩
      · exact ⟨blanks, hblanks, by rw [List.cons_append, ← hcs]⟩

theorem OneLine.trimEnd {s : String} (h : OneLine s) : OneLine (trimEnd s) := by
  obtain ⟨blanks, -, hs⟩ := exists_dropBlanksEnd_append s.toList
  unfold OneLine at *
  rw [Text.trimEnd, String.toList_ofList]
  rw [hs] at h
  exact fun hmem => h (List.mem_append_left _ hmem)

/-- A mark without blanks is not touched by trimming. -/
theorem startsWith_trimEnd {mark : String} (hmark : mark.toList.any isBlank = false)
    (s : String) : startsWith (trimEnd s) mark = startsWith s mark := by
  obtain ⟨blanks, hblanks, hs⟩ := exists_dropBlanksEnd_append s.toList
  rw [Bool.eq_iff_iff, startsWith_iff, startsWith_iff, trimEnd, String.toList_ofList]
  constructor
  · intro h
    rw [hs]
    exact h.trans (List.prefix_append _ _)
  · intro h
    rw [hs] at h
    rcases List.prefix_or_prefix_of_prefix h (List.prefix_append _ _) with hp | ⟨rest, hrest⟩
    · exact hp
    · rw [← hrest, List.prefix_append_right_inj] at h
      cases rest with
      | nil =>
          rw [List.append_nil] at hrest
          exact hrest ▸ List.prefix_refl _
      | cons c rest =>
          have hblank : isBlank c = true := hblanks c (h.subset List.mem_cons_self)
          have hmem : c ∈ mark.toList := by
            rw [← hrest]
            simp
          rw [List.any_eq_false] at hmark
          exact absurd hblank (hmark c hmem)

theorem dropBlanksEnd_concat (c : Char) (cs : List Char) :
    dropBlanksEnd (cs ++ [c]) = if isBlank c then dropBlanksEnd cs else cs ++ [c] := by
  induction cs with
  | nil => simp [dropBlanksEnd_cons]
  | cons d cs ih =>
      rw [List.cons_append, dropBlanksEnd_cons, ih, dropBlanksEnd_cons]
      by_cases hc : isBlank c = true
      · simp [hc]
      · simp [hc]

/-- A text is trimmed when it ends in anything but a blank. -/
theorem trimEnd_eq_self_iff {front : List Char} {c : Char} {s : String}
    (hs : s.toList = front ++ [c]) : trimEnd s = s ↔ isBlank c = false := by
  rw [← String.toList_inj, trimEnd, String.toList_ofList, hs, dropBlanksEnd_concat]
  split
  · rename_i hc
    obtain ⟨blanks, -, hfront⟩ := exists_dropBlanksEnd_append front
    have hlength := congrArg List.length hfront
    rw [List.length_append] at hlength
    simp only [hc, Bool.true_eq_false, iff_false]
    intro h
    have hkept := congrArg List.length h
    rw [List.length_append, List.length_singleton] at hkept
    omega
  · rename_i hc
    simpa using hc

end Foldbook.Text
