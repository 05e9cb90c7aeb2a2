import Foldbook.Proofs.Position

/-!
# Which lines a loop takes

A loop takes the lines up to the end line that is its own, and leaves the
others.

* `Closes depth lines` compares the loop ends and the loop starts of some
  lines.  `exists_closes`: where the ends get ahead, they do so one by one.
* `Consumes` says that lines are cut in two behind the shortest front that
  closes.  `exists_consumes` says it of `cut`, by one step for each line
  (`Consumes.cons`).
* `Consumes.nested`: a loop that starts inside of another one ends in front
  of its end line.
* `flatMap_lines_ofLines`: the items of a document have each of its lines
  once.
* `collected_collect` puts this together for a loop block.
-/

namespace Foldbook

open Text

namespace LoopBlock

/-! ## Starts and ends -/

/-- How many of the lines start a loop. -/
def starts (lines : List String) : Nat :=
  lines.countP fun line => Marker.isLoopStart (trimEnd line)

/-- How many of the lines end a loop. -/
def ends (lines : List String) : Nat :=
  lines.countP fun line => Marker.isLoopEnd (trimEnd line)

/-- The lines have so many more loop ends than loop starts. -/
def Closes (depth : Nat) (lines : List String) : Prop := ends lines = starts lines + depth

instance (depth : Nat) (lines : List String) : Decidable (Closes depth lines) :=
  inferInstanceAs (Decidable (ends lines = starts lines + depth))

/-- How many loops are open behind a line. -/
def depthBehind (depth : Nat) (raw : String) : Nat :=
  if Marker.isLoopStart (trimEnd raw) then depth + 1
  else if Marker.isLoopEnd (trimEnd raw) then depth - 1
  else depth

theorem isLoopEnd_of_isLoopStart {line : String} (h : Marker.isLoopStart line = true) :
    Marker.isLoopEnd line = false := by
  rw [Bool.eq_false_iff]
  intro hend
  rw [Marker.isLoopStart_of_isEnd (Marker.isEnd_of_isLoopEnd hend)] at h
  exact absurd h Bool.false_ne_true

/-- A line changes the counts and the depth alike. -/
theorem balance_cons {depth : Nat} (hdepth : 0 < depth) (raw : String) (lines : List String) :
    ends (raw :: lines) + starts lines + depthBehind depth raw =
      ends lines + starts (raw :: lines) + depth := by
  unfold starts ends depthBehind
  simp only [List.countP_cons]
  by_cases hstart : Marker.isLoopStart (trimEnd raw) = true
  · simp only [hstart, isLoopEnd_of_isLoopStart hstart, if_true, Bool.false_eq_true, if_false]
    omega
  · by_cases hend : Marker.isLoopEnd (trimEnd raw) = true
    · simp only [hstart, hend, if_true, Bool.false_eq_true, if_false]
      omega
    · simp only [hstart, hend, Bool.false_eq_true, if_false]
      omega

theorem closes_cons {depth : Nat} (hdepth : 0 < depth) (raw : String) (lines : List String) :
    Closes depth (raw :: lines) ↔ Closes (depthBehind depth raw) lines := by
  have hbalance := balance_cons hdepth raw lines
  unfold Closes
  omega

theorem not_closes_nil {depth : Nat} (hdepth : 0 < depth) : ¬Closes depth [] := by
  unfold Closes starts ends
  simp only [List.countP_nil]
  omega

theorem starts_append (lines more : List String) :
    starts (lines ++ more) = starts lines + starts more := List.countP_append

theorem ends_append (lines more : List String) :
    ends (lines ++ more) = ends lines + ends more := List.countP_append

theorem starts_map_trimEnd (lines : List String) : starts (lines.map trimEnd) = starts lines := by
  simp [starts, List.countP_map, Function.comp_def]

theorem ends_map_trimEnd (lines : List String) : ends (lines.map trimEnd) = ends lines := by
  simp [ends, List.countP_map, Function.comp_def]

/-- Where the ends have got ahead by some number, they were ahead by just that number before. -/
theorem exists_closes {depth : Nat} {lines : List String} (h : starts lines + depth ≤ ends lines) :
    ∃ front, front <+: lines ∧ Closes depth front := by
  induction lines generalizing depth with
  | nil =>
      refine ⟨[], List.prefix_refl _, ?_⟩
      unfold Closes starts ends at *
      simp only [List.countP_nil] at h ⊢
      omega
  | cons raw lines ih =>
      rcases Nat.eq_zero_or_pos depth with rfl | hdepth
      · exact ⟨[], List.nil_prefix, rfl⟩
      · have hlater : starts lines + depthBehind depth raw ≤ ends lines := by
          have hbalance := balance_cons hdepth raw lines
          omega
        obtain ⟨front, hfront, hcloses⟩ := ih hlater
        exact ⟨raw :: front, List.cons_prefix_cons.mpr ⟨rfl, hfront⟩,
          (closes_cons hdepth raw front).mpr hcloses⟩

/-! ## Where lines are cut -/

/-- Lines are cut behind the shortest front that closes so many loops, or behind the last line if no
front does. -/
structure Consumes (depth : Nat) (lines consumed behind : List String) : Prop where
  split : consumed ++ behind = lines
  shortest : ∀ front, front <+: consumed → Closes depth front → front = consumed
  closes : Closes depth consumed ∨
    behind = [] ∧ ∀ front, front <+: lines → ¬Closes depth front

theorem Consumes.zero (lines : List String) : Consumes 0 lines [] lines where
  split := rfl
  shortest _ hfront _ := List.prefix_nil.mp hfront
  closes := .inl rfl

/-- One line more in front. -/
theorem Consumes.cons {depth : Nat} (hdepth : 0 < depth) {raw : String}
    {lines consumed behind : List String}
    (h : Consumes (depthBehind depth raw) lines consumed behind) :
    Consumes depth (raw :: lines) (raw :: consumed) behind where
  split := by rw [List.cons_append, h.split]
  shortest front hfront hcloses := by
    rcases List.prefix_cons_iff.mp hfront with rfl | ⟨front, rfl, hlater⟩
    · exact absurd hcloses (not_closes_nil hdepth)
    · rw [h.shortest front hlater ((closes_cons hdepth raw front).mp hcloses)]
  closes := by
    rcases h.closes with hcloses | ⟨hbehind, hnone⟩
    · exact .inl ((closes_cons hdepth raw consumed).mpr hcloses)
    · refine .inr ⟨hbehind, fun front hfront hcloses => ?_⟩
      rcases List.prefix_cons_iff.mp hfront with rfl | ⟨front, rfl, hlater⟩
      · exact not_closes_nil hdepth hcloses
      · exact hnone front hlater ((closes_cons hdepth raw front).mp hcloses)

theorem exists_consumes {depth : Nat} (hdepth : 0 < depth) (lines : List String) :
    ∃ consumed behind, Consumes depth lines consumed behind ∧
      cut depth lines = (consumed.map trimEnd, behind) := by
  induction lines generalizing depth with
  | nil =>
      refine ⟨[], [], ⟨rfl, fun front hfront _ => List.prefix_nil.mp hfront, .inr ⟨rfl, ?_⟩⟩, rfl⟩
      intro front hfront
      rw [List.prefix_nil.mp hfront]
      exact not_closes_nil hdepth
  | cons raw lines ih =>
      have hcut : cut depth (raw :: lines) =
          if depthBehind depth raw = 0 then ([trimEnd raw], lines)
          else (trimEnd raw :: (cut (depthBehind depth raw) lines).1,
            (cut (depthBehind depth raw) lines).2) := rfl
      rcases Nat.eq_zero_or_pos (depthBehind depth raw) with hzero | hpos
      · refine ⟨[raw], lines, .cons hdepth ?_, by rw [hcut, if_pos hzero, List.map_singleton]⟩
        rw [hzero]
        exact .zero lines
      · obtain ⟨consumed, behind, hconsumes, hlater⟩ := ih hpos
        refine ⟨raw :: consumed, behind, hconsumes.cons hdepth, ?_⟩
        rw [hcut, if_neg (Nat.ne_of_gt hpos), hlater, List.map_cons]

/-- A loop that starts among lines which close one loop ends in front of the last of them. -/
theorem Consumes.nested {lines consumed behind before after inside left : List String} {raw : String}
    (h : Consumes 1 lines consumed behind) (hcloses : Closes 1 consumed)
    (hconsumed : consumed = before ++ raw :: after)
    (hstart : Marker.isLoopStart (trimEnd raw) = true) (hinside : Consumes 1 after inside left) :
    Closes 1 inside ∧ left ≠ [] := by
  have hbefore : ends before ≤ starts before := by
    refine Nat.le_of_not_lt fun hahead => ?_
    have hcounts : starts before + 1 ≤ ends before := hahead
    obtain ⟨front, hfront, hfrontCloses⟩ := exists_closes hcounts
    have hall := h.shortest front (hconsumed ▸ hfront.trans (List.prefix_append _ _)) hfrontCloses
    have hlength := hfront.length_le
    rw [hall, hconsumed, List.length_append, List.length_cons] at hlength
    omega
  have hafter : starts after + 1 < ends after := by
    rw [hconsumed, Closes, starts_append, ends_append] at hcloses
    unfold starts ends at hcloses hbefore ⊢
    simp only [List.countP_cons, hstart, isLoopEnd_of_isLoopStart hstart, if_true,
      Bool.false_eq_true, if_false] at hcloses
    omega
  obtain ⟨front, hfront, hfrontCloses⟩ := exists_closes (Nat.le_of_lt hafter)
  rcases hinside.closes with hinsideCloses | ⟨-, hnone⟩
  · refine ⟨hinsideCloses, ?_⟩
    rintro rfl
    have hsame : inside = after := by simpa using hinside.split
    rw [hsame, Closes] at hinsideCloses
    omega
  · exact absurd hfrontCloses (hnone front hfront)

theorem closes_map_trimEnd {depth : Nat} {lines : List String} :
    Closes depth (lines.map trimEnd) ↔ Closes depth lines := by
  rw [Closes, Closes, starts_map_trimEnd, ends_map_trimEnd]

/-- Trimmed lines are cut at the same place. -/
theorem Consumes.map_trimEnd {depth : Nat} {lines consumed behind : List String}
    (h : Consumes depth lines consumed behind) :
    Consumes depth (lines.map trimEnd) (consumed.map trimEnd) (behind.map trimEnd) where
  split := by rw [← List.map_append, h.split]
  shortest front hfront hcloses := by
    obtain ⟨front, hshorter, rfl⟩ := List.prefix_map_iff.mp hfront
    rw [h.shortest front hshorter (closes_map_trimEnd.mp hcloses)]
  closes := by
    rcases h.closes with hcloses | ⟨rfl, hnone⟩
    · exact .inl (closes_map_trimEnd.mpr hcloses)
    · refine .inr ⟨rfl, fun front hfront hcloses => ?_⟩
      obtain ⟨front, hshorter, rfl⟩ := List.prefix_map_iff.mp hfront
      exact hnone front hshorter (closes_map_trimEnd.mp hcloses)

/-! ## The lines of a loop block -/

/-- The block of a loop, cut out of the lines behind its start line, and what is left of them. -/
structure Collected (first : String) (lines : List String) (block : LoopBlock)
    (behind : List String) : Prop where
  /-- The block is its start line and the lines that were consumed, trimmed on the right. -/
  consumed : ∃ consumed, Consumes 1 lines consumed behind ∧
    block.lines = first :: consumed.map trimEnd
  /-- A loop that starts inside is one piece of the block, and ends in front of the end line of the
  block if that has one. -/
  nested : ∀ before line after, block.rest = before ++ line :: after →
    Marker.isLoopStart line = true →
      block.rest = before ++ (collect line after).1.lines ++ (collect line after).2 ∧
        (Closes 1 block.rest → Closes 1 (collect line after).1.rest ∧ (collect line after).2 ≠ [])

theorem exists_collect_eq (first : String) (lines : List String) :
    ∃ consumed behind, Consumes 1 lines consumed behind ∧
      (collect first lines).1.rest = consumed.map trimEnd ∧ (collect first lines).2 = behind := by
  obtain ⟨consumed, behind, hconsumes, hcut⟩ := exists_consumes Nat.one_pos lines
  refine ⟨consumed, behind, hconsumes, ?_, ?_⟩ <;> rw [collect, hcut]

theorem collected_collect (first : String) (lines : List String) :
    Collected first lines (collect first lines).1 (collect first lines).2 := by
  obtain ⟨consumed, behind, hconsumes, hrest, rfl⟩ := exists_collect_eq first lines
  refine ⟨⟨consumed, hconsumes, ?_⟩, ?_⟩
  · rw [← hrest]
    rfl
  · intro before line after hsplit hstart
    obtain ⟨inside, left, hinside, hinsideRest, rfl⟩ := exists_collect_eq line after
    have htrimmed : ∀ text ∈ (collect first lines).1.rest, trimEnd text = text := by
      rw [hrest]
      simp
    rw [hsplit, List.forall_mem_append, List.forall_mem_cons, ← hinside.split,
      List.forall_mem_append] at htrimmed
    obtain ⟨-, hline, hinsideTrimmed, -⟩ := htrimmed
    rw [List.map_congr_left hinsideTrimmed, List.map_id'] at hinsideRest
    refine ⟨?_, fun hcloses => ?_⟩
    · rw [hsplit, LoopBlock.lines, hinsideRest, List.append_assoc, List.cons_append, hinside.split]
      rfl
    · have hlineStart : Marker.isLoopStart (trimEnd line) = true := by rwa [hline]
      have houter := hconsumes.map_trimEnd
      rw [← hrest] at houter
      rw [hinsideRest]
      exact houter.nested hcloses hsplit hlineStart hinside

end LoopBlock

namespace Item

/-! ## The lines of items -/

/-- The lines that an item takes. -/
def lines : Item → List String
  | .line text => [text]
  | .loop block _ => block.lines

/-- A loop has the lines of its block in its items, once and in order, and so have the loops among
them; its block was cut out of the lines behind its start line. -/
inductive Whole : Item → Prop
  | line (text : String) : Whole (.line text)
  | loop {block : LoopBlock} {items : List Item}
      (hblock : ∃ more behind, LoopBlock.Collected block.first more block behind)
      (hlines : items.flatMap lines = block.lines) (hitems : ∀ item ∈ items, Whole item) :
      Whole (.loop block items)

theorem flatMap_lines_ofLines (plainFirst : Bool) (document : List String) :
    (ofLines plainFirst document).flatMap lines = document.map trimEnd := by
  fun_induction ofLines plainFirst document with
  | case1 => rfl
  | case2 plainFirst raw more hstart collected _ ihbehind =>
      obtain ⟨consumed, behind, hconsumes, hrest, rfl⟩ :=
        LoopBlock.exists_collect_eq (trimEnd raw) more
      have hblock : collected.1.lines = trimEnd raw :: consumed.map trimEnd :=
        congrArg (List.cons _) hrest
      rw [List.flatMap_cons, lines, ihbehind, hblock, List.cons_append, ← List.map_append,
        hconsumes.split, List.map_cons]
  | case3 plainFirst raw more _ ih =>
      rw [List.flatMap_cons, lines, ih, List.map_cons, List.singleton_append]

theorem whole_of_mem_ofLines (plainFirst : Bool) (document : List String) :
    ∀ item ∈ ofLines plainFirst document, item.Whole := by
  fun_induction ofLines plainFirst document with
  | case1 => exact List.forall_mem_nil _
  | case2 plainFirst raw more hstart collected ihinside ihbehind =>
      obtain ⟨consumed, behind, -, hrest, -⟩ := LoopBlock.exists_collect_eq (trimEnd raw) more
      have hlines : (line (trimEnd raw) :: ofLines false collected.1.rest).flatMap lines =
          collected.1.lines := by
        rw [List.flatMap_cons, flatMap_lines_ofLines, lines, List.singleton_append]
        refine congrArg (List.cons _) ?_
        rw [hrest]
        simp
      refine List.forall_mem_cons.mpr ⟨.loop ?_ hlines ?_, ihbehind⟩
      · exact ⟨more, collected.2, LoopBlock.collected_collect (trimEnd raw) more⟩
      · exact List.forall_mem_cons.mpr ⟨.line _, ihinside⟩
  | case3 plainFirst raw more _ ih => exact List.forall_mem_cons.mpr ⟨.line _, ih⟩

end Item

/-- A loop takes the shortest balanced block and leaves the other lines as they are; the loops inside
of it do the same with its lines.  So the items of a document have every line of it once. -/
theorem LoopBlock.collect_balanced (first : String) (more : List String) :
    Collected first more (collect first more).1 (collect first more).2 ∧
      ∀ plainFirst document,
        (Item.ofLines plainFirst document).flatMap Item.lines = document.map trimEnd ∧
          ∀ item ∈ Item.ofLines plainFirst document, item.Whole :=
  ⟨collected_collect first more, fun plainFirst document =>
    ⟨Item.flatMap_lines_ofLines plainFirst document,
      Item.whole_of_mem_ofLines plainFirst document⟩⟩

/-- A loop in a loop, with a line behind both. -/
def loopInLoop : List String :=
  ["###\x7b while b ", "x", "###\x7d endwhile", "###\x7d endwhile now", "y "]

theorem collect_balanced_loopInLoop :
    (LoopBlock.collect "###\x7b while a" loopInLoop).2 = ["y "] ∧
      LoopBlock.Closes 1 (LoopBlock.collect "###\x7b while a" loopInLoop).1.rest ∧
      LoopBlock.Closes 1 (LoopBlock.collect "###\x7b while b"
        ["x", "###\x7d endwhile", "###\x7d endwhile now"]).1.rest ∧
      (LoopBlock.collect "###\x7b while b"
        ["x", "###\x7d endwhile", "###\x7d endwhile now"]).2 ≠ [] ∧
      (Item.loop (LoopBlock.collect "###\x7b while a" loopInLoop).1
        (Item.ofLines true (LoopBlock.collect "###\x7b while a" loopInLoop).1.lines)).Whole := by
  obtain ⟨hcollected, hitems⟩ := LoopBlock.collect_balanced "###\x7b while a" loopInLoop
  have hcloses : LoopBlock.Closes 1 (LoopBlock.collect "###\x7b while a" loopInLoop).1.rest := by
    decide +kernel
  obtain ⟨hinside, hleft⟩ := (hcollected.nested [] "###\x7b while b"
    ["x", "###\x7d endwhile", "###\x7d endwhile now"] (by decide +kernel) (by decide)).2 hcloses
  have hstart : Marker.isLoopStart (trimEnd "###\x7b while a") = true := by decide +kernel
  have htrim : trimEnd "###\x7b while a" = "###\x7b while a" := by decide +kernel
  refine ⟨by decide +kernel, hcloses, hinside, hleft,
    (hitems false ("###\x7b while a" :: loopInLoop)).2 _ ?_⟩
  have hblock := Item.ofLines_block loopInLoop hstart
  rw [htrim] at hblock
  rw [Item.ofLines_loop _ hstart, htrim, hblock]
  exact List.mem_cons_self

end Foldbook
